import Lantunnel.Client.RelayCrypto

/-!
# A sealed record belongs to one context (tp-client/src/relay_crypto.rs:139-204, 374-429)

`control_aad`, `framed_aad` and `flow_aad` each write a list of length-prefixed fields
that starts with a domain of its own.
-/

namespace Lantunnel.Client
open Lib.FieldCodec Lib.RustStd Core
open List hiding Vector

inductive RelayRecordKindV2
  | control (routeAbort : Bool)
  | framed (kind : RelayFramedKindV2)
  | flow (kind : RelayFlowKindV2)

namespace RelayRecordKindV2

def aad (context : RelayRecordContextV2) : RelayRecordKindV2 → Except RelayCryptoErrorV2 Bytes
  | control routeAbort => controlAad context routeAbort
  | framed kind => framedAad context kind
  | flow kind => flowAad context kind

def sealRecord (aead : Aead) (cipher : RelayCipherV2) (context : RelayRecordContextV2)
    (buffer : Bytes) (nonce : Nonce) : RelayRecordKindV2 → Except RelayCryptoErrorV2 Bytes
  | control routeAbort => cipher.sealControl aead context routeAbort buffer nonce
  | framed kind => cipher.sealFramed aead context kind buffer nonce
  | flow kind => cipher.sealFlow aead context kind buffer nonce

def openRecord (aead : Aead) (cipher : RelayCipherV2) (context : RelayRecordContextV2)
    (buffer : Bytes) : RelayRecordKindV2 → Except RelayCryptoErrorV2 Bytes
  | control routeAbort => cipher.openControl aead context routeAbort buffer
  | framed kind => cipher.openFramed aead context kind buffer
  | flow kind => cipher.openFlow aead context kind buffer

section
variable (aead : Aead) (cipher : RelayCipherV2) (context : RelayRecordContextV2) (buffer : Bytes)

theorem sealRecord_eq (nonce : Nonce) (kind : RelayRecordKindV2) :
    kind.sealRecord aead cipher context buffer nonce =
      (kind.aad context >>= fun aad => sealVec aead cipher.send aad buffer nonce) := by
  cases kind <;> rfl

theorem openRecord_eq (kind : RelayRecordKindV2) : kind.openRecord aead cipher context buffer =
      (kind.aad context >>= fun aad => openVec aead cipher.receive aad buffer) := by
  cases kind <;> rfl

end

def domain : RelayRecordKindV2 → Bytes
  | control _ => CONTROL_DOMAIN_V2
  | framed _ => FRAMED_DOMAIN_V2
  | flow kind => kind.domain

def tail (connId : WireConnId) : RelayRecordKindV2 → List Bytes
  | control routeAbort => [connId.toList,[u8OfBool routeAbort]]
  | framed kind => [[kind.asU8],connId.toList]
  | flow _ => [connId.toList]

def values (context : RelayRecordContextV2) (kind : RelayRecordKindV2) : List Bytes :=
  [kind.domain,asBytes context.tunnelId,context.peerlinkSessionId.toList,
    asBytes context.sourcePeerId,asBytes context.targetPeerId]++kind.tail context.connId

theorem canonicalAadPrefix_eq_ok {context : RelayRecordContextV2} {dom b : Bytes}
    (h : canonicalAadPrefix dom context = .ok b) :
    pushFields RelayCryptoErrorV2.canonicalFieldTooLarge 4 [] [dom,asBytes context.tunnelId,
      context.peerlinkSessionId.toList,asBytes context.sourcePeerId,
      asBytes context.targetPeerId] = .ok b := (ite_error_eq_ok.mp h).2

variable {kind kind' : RelayRecordKindV2}

theorem aad_eq_ok {context : RelayRecordContextV2} {b : Bytes} (h : kind.aad context = .ok b) :
    (∀ v∈kind.values context, Fits 4 v) ∧ b=fields 4 (kind.values context) := by
  have hpush : pushFields RelayCryptoErrorV2.canonicalFieldTooLarge 4 [] (kind.values context)
      = .ok b := by
    cases kind with
    | control =>
      obtain ⟨_,hpre,h⟩:=bind_eq_ok.mp h
      obtain ⟨_,hconn,habort⟩:=bind_eq_ok.mp h
      exact pushFields_concat (pushFields_concat (canonicalAadPrefix_eq_ok hpre) hconn) habort
    | framed =>
      obtain ⟨_,hpre,h⟩:=bind_eq_ok.mp h
      obtain ⟨_,hkind,hconn⟩:=bind_eq_ok.mp h
      exact pushFields_concat (pushFields_concat (canonicalAadPrefix_eq_ok hpre) hkind) hconn
    | flow =>
      obtain ⟨_,hpre,hconn⟩:=bind_eq_ok.mp h
      exact pushFields_concat (canonicalAadPrefix_eq_ok hpre) hconn
  obtain ⟨hfits,hb⟩:=pushFields_eq_ok.mp hpush
  exact ⟨hfits,hb⟩

theorem asU8_framed_inj {kind kind' : RelayFramedKindV2} (h : kind.asU8=kind'.asU8) :
    kind=kind' := by
  revert h
  cases kind <;> cases kind' <;> decide

theorem eq_of_domain_tail {connId connId' : WireConnId}
    (hdom : kind.domain=kind'.domain) (htail : kind.tail connId=kind'.tail connId') :
    kind=kind' ∧ connId=connId' := by
  have hdist : ∀ flow : RelayFlowKindV2, flow.domain≠CONTROL_DOMAIN_V2 ∧
      flow.domain≠FRAMED_DOMAIN_V2 := by
    intro flow
    cases flow <;> decide
  have hctl : CONTROL_DOMAIN_V2≠FRAMED_DOMAIN_V2 := by decide
  have hflow : ∀ flow flow' : RelayFlowKindV2, flow.domain=flow'.domain → flow=flow' := by
    intro flow flow'
    cases flow <;> cases flow' <;> decide
  cases kind with
  | control =>
    cases kind' with
    | control =>
      simp only [tail,cons.injEq,and_true] at htail
      exact ⟨congrArg control (u8OfBool_inj htail.2),Vector.toList_inj.mp htail.1⟩
    | framed => exact absurd hdom hctl
    | flow kind' => exact absurd hdom.symm (hdist kind').1
  | framed =>
    cases kind' with
    | control => exact absurd hdom.symm hctl
    | framed =>
      simp only [tail,cons.injEq,and_true] at htail
      exact ⟨congrArg framed (asU8_framed_inj htail.1),Vector.toList_inj.mp htail.2⟩
    | flow kind' => exact absurd hdom.symm (hdist kind').2
  | flow kind =>
    cases kind' with
    | control => exact absurd hdom (hdist kind).1
    | framed => exact absurd hdom (hdist kind).2
    | flow kind' =>
      simp only [tail,cons.injEq,and_true] at htail
      exact ⟨congrArg flow (hflow kind kind' hdom),Vector.toList_inj.mp htail⟩

theorem aad_inj {context context' : RelayRecordContextV2} {b : Bytes}
    (h : kind.aad context = .ok b) (h' : kind'.aad context' = .ok b) :
    kind=kind' ∧ context=context' := by
  obtain ⟨hfits,hb⟩:=aad_eq_ok h
  obtain ⟨hfits',hb'⟩:=aad_eq_ok h'
  have hvals:=fields_inj (by decide) hfits hfits' (hb.symm.trans hb')
  simp only [values,cons_append,nil_append,cons.injEq] at hvals
  obtain ⟨hdom,htun,hsess,hsrc,htgt,htail⟩:=hvals
  obtain ⟨hkind,hconn⟩:=eq_of_domain_tail hdom htail
  refine ⟨hkind,?_⟩
  cases context
  cases context'
  simp only [RelayRecordContextV2.mk.injEq]
  exact ⟨asBytes_inj htun,Vector.toList_inj.mp hsess,asBytes_inj hsrc,
    asBytes_inj htgt,hconn⟩

end RelayRecordKindV2

/-- One call that seals a record: in a buffer of its own, or behind the bytes
reserved for the nonce. -/
structure Sealing where
  cipher : RelayCipherV2
  kind : RelayRecordKindV2
  context : RelayRecordContextV2
  plaintext : Bytes
  nonce : Nonce
  reserved : Option (Vector UInt8 NONCE_SIZE)

def Sealing.record (aead : Aead) (s : Sealing) : Except RelayCryptoErrorV2 Bytes :=
  match s.reserved with
  | none => s.kind.sealRecord aead s.cipher s.context s.plaintext s.nonce
  | some reserved => do
    let aad ← s.kind.aad s.context
    s.cipher.sealPrecomputed aead aad (reserved.toList++s.plaintext) s.nonce

/-- A record opens in a context, through the call for its kind or with the
authenticated data prepared before. -/
def Opens (aead : Aead) (cipher : RelayCipherV2) (kind : RelayRecordKindV2)
    (context : RelayRecordContextV2) (record : Bytes) : Prop :=
  (∃ plaintext, kind.openRecord aead cipher context record = .ok plaintext) ∨
    ∃ aad plaintext, kind.aad context = .ok aad ∧
      cipher.openPrecomputed aead aad record = .ok plaintext

/-- The ideal AEAD on a record: whatever key and data decrypt it, it was encrypted by one
of the sealing calls made so far, and no nonce was drawn twice. -/
structure Aead.Ideal (aead : Aead) (sealings : List Sealing) (record : Bytes) : Prop where
  authentic : ∀ {key nonce aad ciphertext tag plaintext},
    splitRecord record=some (nonce,ciphertext,tag) →
      aead.decryptInPlaceDetached key nonce aad ciphertext tag=some plaintext →
      ∃ s ∈ sealings, s.cipher.send=key ∧ s.nonce=nonce ∧ s.kind.aad s.context = .ok aad ∧
        s.plaintext=plaintext
  nonces : ∀ s ∈ sealings, ∀ s' ∈ sealings, s.nonce=s'.nonce → s=s'

section Binding
variable {aead : Aead}

theorem Sealing.record_eq_ok {s : Sealing} {record : Bytes} (h : s.record aead = .ok record) :
    ∃ ciphertext tag, splitRecord record=some (s.nonce,ciphertext,tag) := by
  have hsealed : ∃ aad, s.plaintext.length≤MAX_RELAY_PLAINTEXT_V2 ∧ ∃ ciphertext tag,
      aead.encryptInPlaceDetached s.cipher.send s.nonce aad s.plaintext=some (ciphertext,tag) ∧
      record=s.nonce.toList++ciphertext++tag.toList := by
    unfold Sealing.record at h
    cases hreserve : s.reserved with
    | none =>
      rw [hreserve] at h
      rw [RelayRecordKindV2.sealRecord_eq] at h
      obtain ⟨aad,-,h⟩:=bind_eq_ok.mp h
      exact ⟨aad,sealedBytes_eq_ok (sealVec_eq ▸ h)⟩
    | some reserved =>
      rw [hreserve] at h
      obtain ⟨aad,-,h⟩:=bind_eq_ok.mp h
      exact ⟨aad,sealedBytes_eq_ok ((sealPreparedWithNonce_eq reserved.length_toList).symm.trans h)⟩
  obtain ⟨_,hle,ciphertext,tag,henc,rfl⟩:=hsealed
  rw [← aead.encrypt_length henc] at hle
  exact ⟨ciphertext,tag,splitRecord_append hle⟩

theorem Opens.decrypts {cipher : RelayCipherV2} {kind : RelayRecordKindV2}
    {context : RelayRecordContextV2} {record ciphertext : Bytes} {nonce : Nonce} {tag : Tag}
    (h : Opens aead cipher kind context record)
    (hspl : splitRecord record=some (nonce,ciphertext,tag)) :
    ∃ aad plaintext, kind.aad context = .ok aad ∧
      aead.decryptInPlaceDetached cipher.receive nonce aad ciphertext tag=some plaintext := by
  rcases h with ⟨_,h⟩ | ⟨aad,_,haad,h⟩
  · rw [RelayRecordKindV2.openRecord_eq] at h
    obtain ⟨aad,haad,h⟩:=bind_eq_ok.mp h
    refine ⟨aad,?_⟩
    cases hdecrypt : aead.decryptInPlaceDetached cipher.receive nonce aad ciphertext tag with
    | none => simp [openVec,hspl,hdecrypt] at h
    | some plaintext => exact ⟨plaintext,haad,rfl⟩
  · refine ⟨aad,?_⟩
    cases hdecrypt : aead.decryptInPlaceDetached cipher.receive nonce aad ciphertext tag with
    | none => simp [RelayCipherV2.openPrecomputed,openInPlace,hspl,hdecrypt] at h
    | some plaintext => exact ⟨plaintext,haad,rfl⟩

/-- The authenticated data names the kind and the context of a record, so a
sealed record opens in the context it was sealed for and in no other. -/
theorem relayRecord_bound_to_context (aead : Aead) :
    (∀ kind kind' context context' aad, RelayRecordKindV2.aad context kind = .ok aad →
      RelayRecordKindV2.aad context' kind' = .ok aad → kind = kind' ∧ context = context') ∧
    ∀ sealings, ∀ s ∈ sealings, ∀ record, s.record aead = .ok record → aead.Ideal sealings record →
      ∀ receiver kind context, Opens aead receiver kind context record →
        kind = s.kind ∧ context = s.context ∧ receiver.receive = s.cipher.send := by
  refine ⟨fun _ _ _ _ _ h h' => RelayRecordKindV2.aad_inj h h',?_⟩
  intro sealings s hs record hrec hid receiver kind context hopens
  obtain ⟨_,_,hspl⟩:=Sealing.record_eq_ok hrec
  obtain ⟨_,_,haad,hdecrypt⟩:=hopens.decrypts hspl
  obtain ⟨s',hs',hkey,hnonce,haad',-⟩:=hid.authentic hspl hdecrypt
  obtain rfl := hid.nonces s' hs' s hs hnonce
  obtain ⟨hkind,hctx⟩:=RelayRecordKindV2.aad_inj haad haad'
  exact ⟨hkind,hctx,hkey.symm⟩

end Binding

/-! ### A route abort is no other control record

The record of the fixture in relay_crypto.rs:574-605. -/

def abortContext : RelayRecordContextV2 where
  tunnelId := "tunnel-golden"
  peerlinkSessionId := Vector.replicate 16 0x22
  sourcePeerId := "peer-source"
  targetPeerId := "peer-target"
  connId := ⟨(asBytes "golden-flow1").toArray,by decide⟩

def abortSealing : Sealing where
  cipher := ⟨Vector.replicate 32 0x11,Vector.replicate 32 0x12⟩
  kind := .control true
  context := abortContext
  plaintext := 1::asBytes "tcp" ++ 0::asBytes "example.internal:27015"
  nonce := Vector.replicate 24 0x33
  reserved := none

def abortAad : Bytes := fields 4 ((RelayRecordKindV2.control true).values abortContext)

def abortRecord : AeadRecord where
  key := Vector.replicate 32 0x11
  nonce := Vector.replicate 24 0x33
  aad := abortAad
  plaintext := abortSealing.plaintext
  ciphertext := beBytes 27 0xbbd014f9780e7b56efe444c1e08490a2ee35129f208946bbdb55a3
  tag := ⟨(beBytes 16 0x4cf353cd772569a75efd54c541ca1283).toArray,by simp; rfl⟩
  length_eq := by decide

def abortAead : Aead := .ofRecords [abortRecord]

theorem abortSealing_aad : (RelayRecordKindV2.control true).aad abortContext = .ok abortAad :=
  toOption_eq_some.mp (by decide)

theorem abortAead_ideal (record : Bytes) : abortAead.Ideal [abortSealing] record where
  authentic := by
    intro key nonce aad ciphertext tag plaintext _ h
    obtain ⟨r,hr,rfl⟩:=Option.map_eq_some_iff.mp h
    have hin:=find?_some hr
    simp only [decide_eq_true_eq] at hin
    obtain rfl := mem_singleton.mp (mem_of_find?_eq_some hr)
    obtain ⟨rfl,rfl,rfl,-⟩:=hin
    exact ⟨abortSealing,mem_singleton.mpr rfl,rfl,rfl,abortSealing_aad,rfl⟩
  nonces := by
    simp

theorem relayRecord_bound_to_context_abort :
    ∃ record, abortSealing.record abortAead = .ok record ∧
      Opens abortAead ⟨Vector.replicate 32 0x12, Vector.replicate 32 0x11⟩ (.control true)
        abortContext record ∧
      ¬ Opens abortAead ⟨Vector.replicate 32 0x12, Vector.replicate 32 0x11⟩ (.control false)
        abortContext record := by
  have hrec : (abortSealing.record abortAead).toOption=some
      (replicate 24 0x33++abortRecord.ciphertext++abortRecord.tag.toList) := by
    decide
  have hopens : (RelayRecordKindV2.openRecord abortAead
      ⟨Vector.replicate 32 0x12,Vector.replicate 32 0x11⟩ abortContext
      (replicate 24 0x33++abortRecord.ciphertext++abortRecord.tag.toList)
      (.control true)).toOption=some abortSealing.plaintext := by
    decide
  refine ⟨_,toOption_eq_some.mp hrec,.inl ⟨_,toOption_eq_some.mp hopens⟩,?_⟩
  intro hmoved
  have hbd:=(relayRecord_bound_to_context abortAead).2 _ abortSealing (mem_singleton.mpr rfl) _
    (toOption_eq_some.mp hrec) (abortAead_ideal _) _ _ _ hmoved
  cases hbd.1

end Lantunnel.Client
