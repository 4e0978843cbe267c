import Lantunnel.Core.Protocol

/-!
# Sealed Relay records (tp-client/src/relay_crypto.rs)

The control payloads that travel sealed, the authenticated data that binds a record to
its tunnel, PeerLink session, ordered pair of peers, flow and kind, and the in-place
sealing and opening of one record.
-/

namespace Lantunnel.Client
open Lib.FieldCodec Lib.RustStd Core
open List hiding Vector

/-! ### Constants and errors (relay_crypto.rs:15-33, 325-339) -/

def CONTROL_DOMAIN_V2 : Bytes := asBytes "lantunnel.relay.control.v2"
def FRAMED_DOMAIN_V2 : Bytes := asBytes "lantunnel.relay.framed.v2"
def TCP_OPEN_DOMAIN_V2 : Bytes := asBytes "lantunnel.relay.tcp-open.v2"
def TCP_OPEN_RESPONSE_DOMAIN_V2 : Bytes := asBytes "lantunnel.relay.tcp-open-response.v2"
def TCP_DATA_DOMAIN_V2 : Bytes := asBytes "lantunnel.relay.tcp-data.v2"

def NONCE_SIZE : ℕ := 24
def TAG_SIZE : ℕ := 16
def MAX_RELAY_PLAINTEXT_V2 : ℕ := 64*1024
def RELAY_SEALED_OVERHEAD_V2 : ℕ := NONCE_SIZE+TAG_SIZE
def MAX_RELAY_CONTROL_STRING_V2 : ℕ := 4*1024

def CONTROL_OPEN_TAG_V2 : UInt8 := 0x01
def CONTROL_OPEN_RESPONSE_TAG_V2 : UInt8 := 0x02
def CONTROL_RUNTIME_RECORD_TAG_V2 : UInt8 := 0x03
def CONTROL_DIGEST_TAG_V2 : UInt8 := 0x04
def CONTROL_NEED_TAG_V2 : UInt8 := 0x05

inductive RelayCryptoErrorV2
  | invalidContext
  | plaintextTooLarge
  | invalidSealedLength
  | authenticationFailed
  | canonicalFieldTooLarge
  | invalidControlPayload

def RelayCryptoErrorV2.text : RelayCryptoErrorV2 → String
  | invalidContext => "invalid Relay record context"
  | plaintextTooLarge => "Relay plaintext exceeds 65536 bytes"
  | invalidSealedLength => "invalid Relay sealed blob length"
  | authenticationFailed => "Relay record authentication failed"
  | canonicalFieldTooLarge => "Relay canonical field exceeds u32 length"
  | invalidControlPayload => "invalid encrypted Relay control payload"

def appendLp (output value : Bytes) : Except RelayCryptoErrorV2 Bytes :=
  pushField .canonicalFieldTooLarge 4 output value

/-! ### Control payloads (relay_crypto.rs:40-137, 341-372) -/

inductive RelayControlPayloadV2
  | openFlow (network address : String)
  | openResponse (success : Bool) (error : String)
  | runtimeRecord (record : Bytes)
  | digest (hash : Vector UInt8 32)
  | need
  deriving DecidableEq

def RelayControlPayloadV2.body : RelayControlPayloadV2 → Except RelayCryptoErrorV2 Bytes
  | openFlow network address =>
    if ¬ (network = "tcp" ∨ network = "udp") ∨ address = ""
        ∨ (asBytes network).length>MAX_RELAY_CONTROL_STRING_V2
        ∨ (asBytes address).length>MAX_RELAY_CONTROL_STRING_V2 then
      .error .invalidControlPayload
    else do
      let encoded ← appendLp [CONTROL_OPEN_TAG_V2] (asBytes network)
      appendLp encoded (asBytes address)
  | openResponse success error =>
    if (asBytes error).length>MAX_RELAY_CONTROL_STRING_V2 then
      .error .invalidControlPayload
    else
      appendLp [CONTROL_OPEN_RESPONSE_TAG_V2,u8OfBool success] (asBytes error)
  | runtimeRecord record =>
    if record=[] ∨ record.length>MAX_RELAY_PLAINTEXT_V2-5 then
      .error .invalidControlPayload
    else
      appendLp [CONTROL_RUNTIME_RECORD_TAG_V2] record
  | digest hash => .ok (CONTROL_DIGEST_TAG_V2::hash.toList)
  | need => .ok [CONTROL_NEED_TAG_V2]

def RelayControlPayloadV2.encode (payload : RelayControlPayloadV2) :
    Except RelayCryptoErrorV2 Bytes := do
  let encoded ← payload.body
  if encoded.length>MAX_RELAY_PLAINTEXT_V2 then .error .plaintextTooLarge else .ok encoded

-- the cursor is passed on with the value read
def readControlField (encoded : Bytes) (cursor : ℕ) : Except RelayCryptoErrorV2 (Bytes × ℕ) := do
  let lenBytes ← okOr .invalidControlPayload (getRange encoded cursor (cursor+4))
  let len:=beNat lenBytes
  if len>MAX_RELAY_PLAINTEXT_V2 then
    .error .invalidControlPayload
  else
    let value ← okOr .invalidControlPayload (getRange encoded (cursor+4) (cursor+4+len))
    .ok (value,cursor+4+len)

def readControlString (encoded : Bytes) (cursor : ℕ) : Except RelayCryptoErrorV2 (String × ℕ) := do
  let (value,cursor) ← readControlField encoded cursor
  if value.length>MAX_RELAY_CONTROL_STRING_V2 then
    .error .invalidControlPayload
  else
    let text ← okOr .invalidControlPayload (fromUtf8 value)
    .ok (text,cursor)

def RelayControlPayloadV2.decodeTagged (encoded : Bytes) (tag : UInt8) :
    Except RelayCryptoErrorV2 (RelayControlPayloadV2 × ℕ) :=
  if tag=CONTROL_OPEN_TAG_V2 then do
    let (network,cursor) ← readControlString encoded 1
    let (address,cursor) ← readControlString encoded cursor
    if ¬ (network = "tcp" ∨ network = "udp") ∨ address = "" then
      .error .invalidControlPayload
    else
      .ok (.openFlow network address,cursor)
  else if tag=CONTROL_OPEN_RESPONSE_TAG_V2 then do
    let success ← okOr .invalidControlPayload
      (match (encoded[1]? : Option UInt8) with
        | some 0 => some false
        | some 1 => some true
        | _ => none)
    let (error,cursor) ← readControlString encoded 2
    .ok (.openResponse success error,cursor)
  else if tag=CONTROL_RUNTIME_RECORD_TAG_V2 then do
    let (record,cursor) ← readControlField encoded 1
    if record=[] then .error .invalidControlPayload else .ok (.runtimeRecord record,cursor)
  else if tag=CONTROL_DIGEST_TAG_V2 then
    if h : (encoded.drop 1).length≥32 then
      .ok (.digest ⟨((encoded.drop 1).take 32).toArray,by simpa using h⟩,33)
    else
      .error .invalidControlPayload
  else if tag=CONTROL_NEED_TAG_V2 then
    .ok (.need,1)
  else
    .error .invalidControlPayload

def RelayControlPayloadV2.decode (encoded : Bytes) :
    Except RelayCryptoErrorV2 RelayControlPayloadV2 :=
  match encoded with
  | [] => .error .invalidControlPayload
  | tag::_ =>
    if encoded.length>MAX_RELAY_PLAINTEXT_V2 then
      .error .invalidControlPayload
    else do
      let (payload,cursor) ← decodeTagged encoded tag
      if cursor ≠ encoded.length then .error .invalidControlPayload else .ok payload

/-! ### Authenticated data (relay_crypto.rs:139-204, 374-422) -/

/-- The routing values bound to a record, in the record's wire direction. -/
structure RelayRecordContextV2 where
  tunnelId : String
  peerlinkSessionId : SessionId
  sourcePeerId : String
  targetPeerId : String
  connId : WireConnId
  deriving DecidableEq

inductive RelayFramedKindV2
  | data
  | udpData
  deriving DecidableEq

def RelayFramedKindV2.asU8 : RelayFramedKindV2 → UInt8
  | data => 0x10
  | udpData => 0x11

inductive RelayFlowKindV2
  | openFlow
  | openResponse
  | data
  deriving DecidableEq

def RelayFlowKindV2.domain : RelayFlowKindV2 → Bytes
  | openFlow => TCP_OPEN_DOMAIN_V2
  | openResponse => TCP_OPEN_RESPONSE_DOMAIN_V2
  | data => TCP_DATA_DOMAIN_V2

def canonicalAadPrefix (domain : Bytes) (context : RelayRecordContextV2) :
    Except RelayCryptoErrorV2 Bytes :=
  if context.tunnelId = "" ∨ context.sourcePeerId = "" ∨ context.targetPeerId = ""
      ∨ context.sourcePeerId=context.targetPeerId then
    .error .invalidContext
  else
    pushFields .canonicalFieldTooLarge 4 [] [domain,asBytes context.tunnelId,
      context.peerlinkSessionId.toList,asBytes context.sourcePeerId,asBytes context.targetPeerId]

def controlAad (context : RelayRecordContextV2) (routeAbort : Bool) :
    Except RelayCryptoErrorV2 Bytes := do
  let aad ← canonicalAadPrefix CONTROL_DOMAIN_V2 context
  let aad ← appendLp aad context.connId.toList
  appendLp aad [u8OfBool routeAbort]

def framedAad (context : RelayRecordContextV2) (kind : RelayFramedKindV2) :
    Except RelayCryptoErrorV2 Bytes := do
  let aad ← canonicalAadPrefix FRAMED_DOMAIN_V2 context
  let aad ← appendLp aad [kind.asU8]
  appendLp aad context.connId.toList

def flowAad (context : RelayRecordContextV2) (kind : RelayFlowKindV2) :
    Except RelayCryptoErrorV2 Bytes := do
  let aad ← canonicalAadPrefix kind.domain context
  appendLp aad context.connId.toList

/-- The contexts every AAD exists for, in either direction. -/
structure RelayRecordContextV2.Valid (context : RelayRecordContextV2) : Prop where
  tunnel : context.tunnelId ≠ ""
  source : context.sourcePeerId ≠ ""
  target : context.targetPeerId ≠ ""
  distinct : context.sourcePeerId ≠ context.targetPeerId
  tunnelFits : Fits 4 (asBytes context.tunnelId)
  sourceFits : Fits 4 (asBytes context.sourcePeerId)
  targetFits : Fits 4 (asBytes context.targetPeerId)

def RelayRecordContextV2.mirror (context : RelayRecordContextV2) : RelayRecordContextV2 :=
  { context with sourcePeerId := context.targetPeerId, targetPeerId := context.sourcePeerId }

namespace RelayRecordContextV2.Valid
variable {context : RelayRecordContextV2}

theorem mirror (h : context.Valid) : context.mirror.Valid :=
  ⟨h.tunnel,h.target,h.source,h.distinct.symm,h.tunnelFits,h.targetFits,h.sourceFits⟩

theorem of_canonicalAadPrefix {domain b : Bytes} (h : canonicalAadPrefix domain context = .ok b) :
    context.Valid := by
  obtain ⟨hne,hpush⟩:=ite_error_eq_ok.mp h
  obtain ⟨hfits,-⟩:=pushFields_eq_ok.mp hpush
  simp only [not_or] at hne
  simp only [forall_mem_cons] at hfits
  exact ⟨hne.1,hne.2.1,hne.2.2.1,hne.2.2.2,hfits.2.1,hfits.2.2.2.1,hfits.2.2.2.2.1⟩

theorem of_framedAad {kind : RelayFramedKindV2} {b : Bytes} (h : framedAad context kind = .ok b) :
    context.Valid := by
  obtain ⟨_,haad,-⟩:=bind_eq_ok.mp h
  exact of_canonicalAadPrefix haad

theorem of_controlAad {routeAbort : Bool} {b : Bytes} (h : controlAad context routeAbort = .ok b) :
    context.Valid := by
  obtain ⟨_,haad,-⟩:=bind_eq_ok.mp h
  exact of_canonicalAadPrefix haad

theorem canonicalAadPrefix (h : context.Valid) {domain : Bytes} (hdom : Fits 4 domain) :
    ∃ b, Client.canonicalAadPrefix domain context = .ok b := by
  refine ⟨_,ite_error_eq_ok.mpr ⟨?_,pushFields_eq_ok.mpr ⟨?_,rfl⟩⟩⟩
  · simp only [not_or]
    exact ⟨h.tunnel,h.source,h.target,h.distinct⟩
  have hsess : Fits 4 context.peerlinkSessionId.toList := by simp [Fits]
  simp only [forall_mem_cons]
  exact ⟨hdom,h.tunnelFits,hsess,h.sourceFits,h.targetFits,by simp⟩

theorem appendLp_wire (aad : Bytes) (wire : WireConnId) : ∃ b, appendLp aad wire.toList = .ok b :=
  ⟨_,pushField_eq_ok.mpr ⟨by simp [Fits],rfl⟩⟩

theorem appendLp_byte (aad : Bytes) (byte : UInt8) : ∃ b, appendLp aad [byte] = .ok b :=
  ⟨_,pushField_eq_ok.mpr ⟨by simp [Fits],rfl⟩⟩

theorem controlAad (h : context.Valid) (routeAbort : Bool) :
    ∃ b, Client.controlAad context routeAbort = .ok b := by
  obtain ⟨pre,hpre⟩:=h.canonicalAadPrefix (show Fits 4 CONTROL_DOMAIN_V2 by decide)
  obtain ⟨mid,hmid⟩:=appendLp_wire pre context.connId
  obtain ⟨b,hb⟩:=appendLp_byte mid (u8OfBool routeAbort)
  exact ⟨b,bind_eq_ok.mpr ⟨pre,hpre,bind_eq_ok.mpr ⟨mid,hmid,hb⟩⟩⟩

theorem framedAad (h : context.Valid) (kind : RelayFramedKindV2) :
    ∃ b, Client.framedAad context kind = .ok b := by
  obtain ⟨pre,hpre⟩:=h.canonicalAadPrefix (show Fits 4 FRAMED_DOMAIN_V2 by decide)
  obtain ⟨mid,hmid⟩:=appendLp_byte pre kind.asU8
  obtain ⟨b,hb⟩:=appendLp_wire mid context.connId
  exact ⟨b,bind_eq_ok.mpr ⟨pre,hpre,bind_eq_ok.mpr ⟨mid,hmid,hb⟩⟩⟩

end RelayRecordContextV2.Valid

/-! ### One record (relay_crypto.rs:431-562)

The AEAD calls overwrite the buffer they are given, so they keep its length. -/

abbrev AeadKey := Vector UInt8 32
abbrev Nonce := Vector UInt8 NONCE_SIZE
abbrev Tag := Vector UInt8 TAG_SIZE

structure Aead where
  encryptInPlaceDetached : AeadKey → Nonce → Bytes → Bytes → Option (Bytes × Tag)
  decryptInPlaceDetached : AeadKey → Nonce → Bytes → Bytes → Tag → Option Bytes
  encrypt_length : ∀ {key nonce aad plaintext ciphertext tag},
    encryptInPlaceDetached key nonce aad plaintext=some (ciphertext,tag) →
      ciphertext.length=plaintext.length
  decrypt_length : ∀ {key nonce aad ciphertext tag plaintext},
    decryptInPlaceDetached key nonce aad ciphertext tag=some plaintext →
      plaintext.length=ciphertext.length

/-- One encryption: its inputs, the ciphertext and the tag. -/
structure AeadRecord where
  key : AeadKey
  nonce : Nonce
  aad : Bytes
  plaintext : Bytes
  ciphertext : Bytes
  tag : Tag
  length_eq : ciphertext.length=plaintext.length

/-- An AEAD on the given records only; it fails on every other input. -/
def Aead.ofRecords (records : List AeadRecord) : Aead where
  encryptInPlaceDetached key nonce aad plaintext :=
    (records.find? fun r =>
      r.key=key ∧ r.nonce=nonce ∧ r.aad=aad ∧ r.plaintext=plaintext).map
      fun r => (r.ciphertext,r.tag)
  decryptInPlaceDetached key nonce aad ciphertext tag :=
    (records.find? fun r =>
      r.key=key ∧ r.nonce=nonce ∧ r.aad=aad ∧ r.ciphertext=ciphertext ∧ r.tag=tag).map
      fun r => r.plaintext
  encrypt_length := by
    intro key nonce aad plaintext ciphertext tag h
    obtain ⟨r,hr,hout⟩ := Option.map_eq_some_iff.mp h
    have hin:=find?_some hr
    simp only [decide_eq_true_eq] at hin
    obtain ⟨rfl,-⟩ := Prod.mk.inj hout
    rw [← hin.2.2.2]
    exact r.length_eq
  decrypt_length := by
    intro key nonce aad ciphertext tag plaintext h
    obtain ⟨r,hr,rfl⟩ := Option.map_eq_some_iff.mp h
    have hin:=find?_some hr
    simp only [decide_eq_true_eq] at hin
    rw [← hin.2.2.2.1]
    exact r.length_eq.symm

/-- Locally oriented: records are sealed under `send` and opened under `receive`. -/
structure RelayCipherV2 where
  send : AeadKey
  receive : AeadKey
  deriving DecidableEq

section Record
variable (aead : Aead)

/-- `seal_with_nonce`: the plaintext is shifted up behind the nonce, then
encrypted where it stands. -/
def sealWithNonce (key : AeadKey) (aad buffer : Bytes) (nonce : Nonce) :
    Except RelayCryptoErrorV2 Bytes :=
  let plaintextLen:=buffer.length
  let resized:=buffer++replicate RELAY_SEALED_OVERHEAD_V2 0
  let shifted:=copyFromSlice resized NONCE_SIZE (resized.take plaintextLen)
  let plaintext:=(shifted.drop NONCE_SIZE).take plaintextLen
  match aead.encryptInPlaceDetached key nonce aad plaintext with
  | none => .error .authenticationFailed
  | some (ciphertext,tag) =>
    let encrypted:=copyFromSlice shifted NONCE_SIZE ciphertext
    let withNonce:=copyFromSlice encrypted 0 nonce.toList
    .ok (copyFromSlice withNonce (NONCE_SIZE+plaintextLen) tag.toList)

def sealVec (key : AeadKey) (aad buffer : Bytes) (nonce : Nonce) :
    Except RelayCryptoErrorV2 Bytes :=
  if buffer.length>MAX_RELAY_PLAINTEXT_V2 then
    .error .plaintextTooLarge
  else
    sealWithNonce aead key aad buffer nonce

def sealPreparedWithNonce (key : AeadKey) (aad buffer : Bytes) (nonce : Nonce) :
    Except RelayCryptoErrorV2 Bytes :=
  if buffer.length<NONCE_SIZE then
    .error .invalidSealedLength
  else
    let plaintextLen:=buffer.length-NONCE_SIZE
    if plaintextLen>MAX_RELAY_PLAINTEXT_V2 then
      .error .plaintextTooLarge
    else
      let tagStart:=NONCE_SIZE+plaintextLen
      let resized:=buffer++replicate TAG_SIZE 0
      let plaintext:=(resized.drop NONCE_SIZE).take plaintextLen
      match aead.encryptInPlaceDetached key nonce aad plaintext with
      | none => .error .authenticationFailed
      | some (ciphertext,tag) =>
        let encrypted:=copyFromSlice resized NONCE_SIZE ciphertext
        let withNonce:=copyFromSlice encrypted 0 nonce.toList
        .ok (copyFromSlice withNonce tagStart tag.toList)

def splitRecord (buffer : Bytes) : Option (Nonce × Bytes × Tag) :=
  if h : RELAY_SEALED_OVERHEAD_V2≤buffer.length ∧
      buffer.length≤MAX_RELAY_PLAINTEXT_V2+RELAY_SEALED_OVERHEAD_V2 then
    let tagStart:=buffer.length-TAG_SIZE
    some (⟨(buffer.take NONCE_SIZE).toArray,by
        simp only [RELAY_SEALED_OVERHEAD_V2] at h
        simp only [size_toArray,length_take]
        omega⟩,
      (buffer.take tagStart).drop NONCE_SIZE,
      ⟨(buffer.drop tagStart).toArray,by
        simp only [RELAY_SEALED_OVERHEAD_V2] at h
        simp only [size_toArray,length_drop]
        omega⟩)
  else
    none

def openVec (key : AeadKey) (aad buffer : Bytes) : Except RelayCryptoErrorV2 Bytes :=
  match splitRecord buffer with
  | none => .error .invalidSealedLength
  | some (nonce,ciphertext,tag) =>
    match aead.decryptInPlaceDetached key nonce aad ciphertext tag with
    | none => .error .authenticationFailed
    | some plaintext =>
      let opened:=copyFromSlice buffer NONCE_SIZE plaintext
      let moved:=copyFromSlice opened 0 ((opened.drop NONCE_SIZE).take ciphertext.length)
      .ok (moved.take ciphertext.length)

def openInPlace (key : AeadKey) (aad buffer : Bytes) : Except RelayCryptoErrorV2 Bytes :=
  match splitRecord buffer with
  | none => .error .invalidSealedLength
  | some (nonce,ciphertext,tag) =>
    match aead.decryptInPlaceDetached key nonce aad ciphertext tag with
    | none => .error .authenticationFailed
    | some plaintext =>
      let opened:=copyFromSlice buffer NONCE_SIZE plaintext
      .ok ((opened.take (NONCE_SIZE+ciphertext.length)).drop NONCE_SIZE)

/-- `record` is `plaintext` sealed under `key` with `aad` authenticated beside it. -/
def SealedRecord (key : AeadKey) (aad plaintext record : Bytes) : Prop :=
  plaintext.length≤MAX_RELAY_PLAINTEXT_V2 ∧
    ∃ (nonce : Nonce) (ciphertext : Bytes) (tag : Tag),
      aead.encryptInPlaceDetached key nonce aad plaintext=some (ciphertext,tag) ∧
      record=nonce.toList++ciphertext++tag.toList

def sealedBytes (key : AeadKey) (aad plaintext : Bytes) (nonce : Nonce) :
    Except RelayCryptoErrorV2 Bytes :=
  if plaintext.length>MAX_RELAY_PLAINTEXT_V2 then .error .plaintextTooLarge
  else
    match aead.encryptInPlaceDetached key nonce aad plaintext with
    | none => .error .authenticationFailed
    | some (ciphertext,tag) => .ok (nonce.toList++ciphertext++tag.toList)

variable {aead} {reserved plaintext aad record : Bytes} {nonce : Nonce} {key : AeadKey}

theorem copyFromSlice_record {post ciphertext : Bytes} (nonce : Nonce) (tag : Tag)
    (hres : reserved.length=NONCE_SIZE) (hct : ciphertext.length=plaintext.length)
    (hpost : post.length=TAG_SIZE) :
    copyFromSlice (copyFromSlice (copyFromSlice (reserved++plaintext++post) NONCE_SIZE ciphertext)
      0 nonce.toList) (NONCE_SIZE+plaintext.length) tag.toList =
        nonce.toList++ciphertext++tag.toList := by
  have hcopy : copyFromSlice (reserved++plaintext++post) NONCE_SIZE ciphertext =
      reserved++ciphertext++post := by
    rw [← hres]
    exact copyFromSlice_append hct
  have hnonce : copyFromSlice (reserved++ciphertext++post) 0 nonce.toList =
      nonce.toList++ciphertext++post := by
    have hpre:=copyFromSlice_append (a := []) (b := ciphertext++post)
      (show nonce.toList.length=reserved.length by simp [hres])
    simpa using hpre
  have htag : copyFromSlice (nonce.toList++ciphertext++post) (NONCE_SIZE+plaintext.length)
      tag.toList=nonce.toList++ciphertext++tag.toList := by
    have hlast:=copyFromSlice_append (a := nonce.toList++ciphertext) (b := [])
      (show tag.toList.length=post.length by simp [hpost])
    simpa [hct] using hlast
  rw [hcopy,hnonce,htag]

theorem sealedBytes_eq_ok (h : sealedBytes aead key aad plaintext nonce = .ok record) :
    plaintext.length≤MAX_RELAY_PLAINTEXT_V2 ∧ ∃ ciphertext tag,
      aead.encryptInPlaceDetached key nonce aad plaintext=some (ciphertext,tag) ∧
      record=nonce.toList++ciphertext++tag.toList := by
  obtain ⟨hle,h⟩:=ite_error_eq_ok.mp h
  split at h
  · cases h
  next ciphertext tag henc => exact ⟨not_lt.mp hle,ciphertext,tag,henc,(Except.ok.inj h).symm⟩

theorem sealedBytes_sealed (h : sealedBytes aead key aad plaintext nonce = .ok record) :
    SealedRecord aead key aad plaintext record := by
  obtain ⟨hle,ciphertext,tag,henc,hrec⟩:=sealedBytes_eq_ok h
  exact ⟨hle,nonce,ciphertext,tag,henc,hrec⟩

theorem sealPreparedWithNonce_eq (hres : reserved.length=NONCE_SIZE) :
    sealPreparedWithNonce aead key aad (reserved++plaintext) nonce =
      sealedBytes aead key aad plaintext nonce := by
  have hlen : (reserved++plaintext).length=NONCE_SIZE+plaintext.length := by
    rw [length_append,hres]
  have hmid:=take_drop_append plaintext (replicate TAG_SIZE 0) hres
  simp only [sealPreparedWithNonce,hlen,Nat.add_sub_cancel_left,hmid,if_neg (Nat.not_lt.mpr
    (Nat.le_add_right ..)),sealedBytes]
  split
  · rfl
  split
  · rfl
  next ciphertext tag henc =>
  rw [copyFromSlice_record nonce tag hres (aead.encrypt_length henc) (by simp)]

theorem sealPreparedWithNonce_sealed (hres : reserved.length=NONCE_SIZE)
    (h : sealPreparedWithNonce aead key aad (reserved++plaintext) nonce = .ok record) :
    SealedRecord aead key aad plaintext record :=
  sealedBytes_sealed (sealPreparedWithNonce_eq hres ▸ h)

theorem sealVec_eq :
    sealVec aead key aad plaintext nonce=sealedBytes aead key aad plaintext nonce := by
  refine ite_congr rfl (fun _ => rfl) fun _ => ?_
  generalize hresd : plaintext++replicate RELAY_SEALED_OVERHEAD_V2 (0 : UInt8)=resized
  have hlen : resized.length=plaintext.length+RELAY_SEALED_OVERHEAD_V2 := by
    rw [← hresd,length_append,length_replicate]
  have htake : resized.take plaintext.length=plaintext := by rw [← hresd,take_left]
  have hreserve : (resized.take NONCE_SIZE).length=NONCE_SIZE := by
    rw [length_take,hlen,RELAY_SEALED_OVERHEAD_V2]
    omega
  have hpost : (resized.drop (NONCE_SIZE+plaintext.length)).length=TAG_SIZE := by
    rw [length_drop,hlen,RELAY_SEALED_OVERHEAD_V2]
    omega
  have hmid:=take_drop_append plaintext (resized.drop (NONCE_SIZE+plaintext.length)) hreserve
  simp only [sealWithNonce,hresd,htake,copyFromSlice.eq_def resized,hmid]
  split
  · rfl
  next ciphertext tag henc =>
  rw [copyFromSlice_record nonce tag hreserve (aead.encrypt_length henc) hpost]

theorem sealVec_sealed (h : sealVec aead key aad plaintext nonce = .ok record) :
    SealedRecord aead key aad plaintext record :=
  sealedBytes_sealed (sealVec_eq ▸ h)

theorem splitRecord_append {ciphertext : Bytes} {tag : Tag}
    (h : ciphertext.length≤MAX_RELAY_PLAINTEXT_V2) :
    splitRecord (nonce.toList++ciphertext++tag.toList)=some (nonce,ciphertext,tag) := by
  have hlen : (nonce.toList++ciphertext++tag.toList).length
      = NONCE_SIZE+ciphertext.length+TAG_SIZE := by
    simp only [length_append,Vector.length_toList]
  have hbd : RELAY_SEALED_OVERHEAD_V2≤(nonce.toList++ciphertext++tag.toList).length ∧
      (nonce.toList++ciphertext++tag.toList).length
        ≤ MAX_RELAY_PLAINTEXT_V2+RELAY_SEALED_OVERHEAD_V2 := by
    rw [hlen,RELAY_SEALED_OVERHEAD_V2]
    omega
  have hsta : (nonce.toList++ciphertext++tag.toList).length-TAG_SIZE
      = (nonce.toList++ciphertext).length := by
    rw [hlen]
    simp
  have hnonce : (nonce.toList++ciphertext++tag.toList).take NONCE_SIZE=nonce.toList := by
    rw [append_assoc]
    exact take_left' (by simp)
  have hmid : ((nonce.toList++ciphertext++tag.toList).take
      (nonce.toList++ciphertext).length).drop NONCE_SIZE=ciphertext := by
    rw [take_left]
    exact drop_left' (by simp)
  rw [splitRecord,dif_pos hbd]
  simp only [hsta,hnonce,hmid,drop_left]
  rfl

end Record

/-! ### The cipher of one PeerLink (relay_crypto.rs:206-322) -/

namespace RelayCipherV2
variable (aead : Aead) (cipher : RelayCipherV2)

def sealControl (context : RelayRecordContextV2) (routeAbort : Bool) (buffer : Bytes)
    (nonce : Nonce) : Except RelayCryptoErrorV2 Bytes := do
  let aad ← controlAad context routeAbort
  sealVec aead cipher.send aad buffer nonce

def openControl (context : RelayRecordContextV2) (routeAbort : Bool) (buffer : Bytes) :
    Except RelayCryptoErrorV2 Bytes := do
  let aad ← controlAad context routeAbort
  openVec aead cipher.receive aad buffer

def sealFramed (context : RelayRecordContextV2) (kind : RelayFramedKindV2) (buffer : Bytes)
    (nonce : Nonce) : Except RelayCryptoErrorV2 Bytes := do
  let aad ← framedAad context kind
  sealVec aead cipher.send aad buffer nonce

def openFramed (context : RelayRecordContextV2) (kind : RelayFramedKindV2) (buffer : Bytes) :
    Except RelayCryptoErrorV2 Bytes := do
  let aad ← framedAad context kind
  openVec aead cipher.receive aad buffer

def sealFlow (context : RelayRecordContextV2) (kind : RelayFlowKindV2) (buffer : Bytes)
    (nonce : Nonce) : Except RelayCryptoErrorV2 Bytes := do
  let aad ← flowAad context kind
  sealVec aead cipher.send aad buffer nonce

def openFlow (context : RelayRecordContextV2) (kind : RelayFlowKindV2) (buffer : Bytes) :
    Except RelayCryptoErrorV2 Bytes := do
  let aad ← flowAad context kind
  openVec aead cipher.receive aad buffer

def sealPrecomputed (aad buffer : Bytes) (nonce : Nonce) : Except RelayCryptoErrorV2 Bytes :=
  sealPreparedWithNonce aead cipher.send aad buffer nonce

def openPrecomputed (aad buffer : Bytes) : Except RelayCryptoErrorV2 Bytes :=
  openInPlace aead cipher.receive aad buffer

/-- The buffer is opened where it is, or in a copy when it is shared. -/
def openBytesPrecomputed (aad buffer : Bytes) : Except RelayCryptoErrorV2 Bytes :=
  cipher.openPrecomputed aead aad buffer

end RelayCipherV2

end Lantunnel.Client
