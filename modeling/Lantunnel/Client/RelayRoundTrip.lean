import Lantunnel.Client.RelaySealing

/-!
# What is sealed and encoded comes back (tp-client/src/relay_crypto.rs)

The codec of control payloads (46-137, 341-372), and the two sealers and three openers of
a record (290-322, 431-562).
-/

namespace Lantunnel.Client
open Lib.FieldCodec Lib.RustStd Core
open List hiding Vector

theorem readControlField_eq_ok {b value : Bytes} {cursor next : ℕ} :
    readControlField b cursor = .ok (value,next) ↔ value.length≤MAX_RELAY_PLAINTEXT_V2 ∧
      next=cursor+(field 4 value).length ∧ field 4 value <+: b.drop cursor := by
  simp only [readControlField,bind_eq_ok,okOr_eq_ok,getRange,ite_error_eq_ok,
    Option.ite_none_right_eq_some,Option.some.injEq,Except.ok.injEq,Prod.mk.injEq,
    Nat.add_sub_cancel_left,not_lt,← drop_drop]
  constructor
  · rintro ⟨_,⟨⟨-,hlen⟩,rfl⟩,hmax,_,⟨⟨-,hstop⟩,rfl⟩,rfl,rfl⟩
    generalize hs : b.drop cursor=s at hmax hstop ⊢
    have hrest : s.length=b.length-cursor := by simp [← hs]
    have hcount : ((s.drop 4).take (beNat (s.take 4))).length=beNat (s.take 4) := by
      simp only [length_take,length_drop]
      omega
    refine ⟨hcount.symm ▸ hmax,by rw [field_length,hcount,Nat.add_assoc],?_⟩
    rw [field,hcount,beBytes_beNat (by simp; omega),← take_add]
    exact take_prefix ..
  · rintro ⟨hmax,rfl,_,hrest⟩
    have hlen:=congrArg length hrest
    simp only [length_append,field_length,length_drop] at hlen
    have hfits : beNat (beBytes 4 value.length)=value.length := by
      rw [beNat_beBytes,Nat.mod_eq_of_lt]
      exact hmax.trans_lt (by decide)
    refine ⟨beBytes 4 value.length,⟨by omega,?_⟩,hfits.symm ▸ hmax,value,⟨by omega,?_⟩,rfl,?_⟩
    · simp [← hrest,field]
    · simp [← hrest,hfits,field]
    · rw [hfits,field_length,Nat.add_assoc]

theorem readControlString_eq_ok {b : Bytes} {text : String} {cursor next : ℕ} :
    readControlString b cursor = .ok (text,next) ↔
      (asBytes text).length≤MAX_RELAY_CONTROL_STRING_V2 ∧
        next=cursor+(field 4 (asBytes text)).length ∧ field 4 (asBytes text) <+: b.drop cursor := by
  simp only [readControlString,bind_eq_ok,Prod.exists,readControlField_eq_ok,ite_error_eq_ok,
    okOr_eq_ok,fromUtf8_eq_some,Except.ok.injEq,Prod.mk.injEq,not_lt]
  constructor
  · simp_all
  · rintro ⟨hle,rfl,hrest⟩
    exact ⟨_,_,⟨hle.trans (by decide),rfl,hrest⟩,hle,text,rfl,rfl,rfl⟩

namespace RelayControlPayloadV2
variable {payload : RelayControlPayloadV2} {b : Bytes}

theorem encode_eq_ok : payload.encode = .ok b ↔
    payload.body = .ok b ∧ b.length≤MAX_RELAY_PLAINTEXT_V2 := by
  simp only [encode,bind_eq_ok,ite_error_eq_ok,Except.ok.injEq,not_lt]
  grind

theorem decode_eq_ok : decode b = .ok payload ↔ b.length≤MAX_RELAY_PLAINTEXT_V2 ∧
    ∃ tag s, b=tag::s ∧ decodeTagged b tag = .ok (payload,b.length) := by
  cases b with
  | nil => simp [decode]
  | cons =>
    simp only [decode,ite_error_eq_ok,bind_eq_ok,Prod.exists]
    grind

theorem decodeTagged_body (h : payload.body = .ok b) :
    ∃ tag s, b=tag::s ∧ decodeTagged b tag = .ok (payload,b.length) := by
  cases payload with
  | openFlow network address =>
    obtain ⟨hok,h⟩:=ite_error_eq_ok.mp h
    simp only [bind_eq_ok,appendLp,pushField_eq_ok] at h
    obtain ⟨_,⟨-,rfl⟩,-,rfl⟩:=h
    simp only [not_or,not_lt] at hok
    refine ⟨_,_,rfl,bind_eq_ok.mpr ⟨(network,_),readControlString_eq_ok.mpr ⟨hok.2.2.1,rfl,?_⟩,
      bind_eq_ok.mpr ⟨(address,_),readControlString_eq_ok.mpr ⟨hok.2.2.2,rfl,?_⟩,
        ite_error_eq_ok.mpr ⟨by tauto,?_⟩⟩⟩⟩
    · simp
    · simp [← drop_drop]
    · simp [Nat.add_comm,Nat.add_assoc]
  | openResponse success error =>
    obtain ⟨hok,h⟩:=ite_error_eq_ok.mp h
    obtain ⟨-,rfl⟩:=pushField_eq_ok.mp h
    refine ⟨_,_,rfl,bind_eq_ok.mpr ⟨success,by cases success <;> rfl,
      bind_eq_ok.mpr ⟨(error,_),readControlString_eq_ok.mpr ⟨not_lt.mp hok,rfl,?_⟩,?_⟩⟩⟩
    · simp
    · simp
      omega
  | runtimeRecord record =>
    obtain ⟨hok,h⟩:=ite_error_eq_ok.mp h
    obtain ⟨-,rfl⟩:=pushField_eq_ok.mp h
    simp only [not_or,not_lt] at hok
    refine ⟨_,_,rfl,bind_eq_ok.mpr ⟨(record,_),readControlField_eq_ok.mpr
      ⟨hok.2.trans (by decide),rfl,?_⟩,ite_error_eq_ok.mpr ⟨hok.1,?_⟩⟩⟩
    · simp
    · simp [Nat.add_comm]
  | digest =>
    cases h
    simp [decodeTagged,CONTROL_DIGEST_TAG_V2,CONTROL_OPEN_TAG_V2,CONTROL_OPEN_RESPONSE_TAG_V2,
      CONTROL_RUNTIME_RECORD_TAG_V2,take_of_length_le,Vector.toList]
  | need =>
    cases h
    exact ⟨_,_,rfl,rfl⟩

theorem body_decodeTagged {tag : UInt8} {s : Bytes} (hmax : (tag::s).length≤MAX_RELAY_PLAINTEXT_V2)
    (h : decodeTagged (tag::s) tag = .ok (payload,(tag::s).length)) :
    payload.body = .ok (tag::s) := by
  unfold decodeTagged at h
  split_ifs at h with htag htag htag htag hlen htag
  · simp only [bind_eq_ok,Prod.exists,readControlString_eq_ok,ite_error_eq_ok] at h
    obtain ⟨_,_,⟨hnet,rfl,r,rfl⟩,address,_,⟨haddr,rfl,r',hr⟩,hok,h⟩:=h
    obtain ⟨rfl,hend⟩:=Prod.mk.inj (Except.ok.inj h)
    obtain rfl : field 4 (asBytes address)++r'=r := by simpa [← drop_drop] using hr
    obtain rfl : r'=[] := length_eq_zero_iff.mp (by simp at hend; omega)
    refine ite_error_eq_ok.mpr ⟨by grind,bind_eq_ok.mpr ⟨_,pushField_eq_ok.mpr
      ⟨hnet.trans_lt (by decide),rfl⟩,pushField_eq_ok.mpr ⟨haddr.trans_lt (by decide),?_⟩⟩⟩
    simp [htag]
  · simp only [bind_eq_ok,Prod.exists,readControlString_eq_ok,okOr_eq_ok] at h
    obtain ⟨success,hs,error,_,⟨herr,rfl,r,hr⟩,h⟩:=h
    obtain ⟨rfl,hend⟩:=Prod.mk.inj (Except.ok.inj h)
    cases s with
    | nil => cases hs
    | cons flag s =>
      obtain rfl : field 4 (asBytes error)++r=s := hr
      obtain rfl : r=[] := length_eq_zero_iff.mp (by simp at hend; omega)
      have hflag : flag=u8OfBool success := by
        split at hs
        · cases hs; exact Option.some.inj ‹_›
        · cases hs; exact Option.some.inj ‹_›
        · cases hs
      refine ite_error_eq_ok.mpr ⟨not_lt.mpr herr,pushField_eq_ok.mpr
        ⟨herr.trans_lt (by decide),?_⟩⟩
      simp [htag,hflag]
  · simp only [bind_eq_ok,Prod.exists,readControlField_eq_ok,ite_error_eq_ok] at h
    obtain ⟨_,_,⟨hrec,rfl,r,rfl⟩,hok,h⟩:=h
    obtain ⟨rfl,hend⟩:=Prod.mk.inj (Except.ok.inj h)
    obtain rfl : r=[] := length_eq_zero_iff.mp (by simp at hend; omega)
    refine ite_error_eq_ok.mpr ⟨?_,pushField_eq_ok.mpr ⟨hrec.trans_lt (by decide),by simp [htag]⟩⟩
    simp only [append_nil,length_cons,field_length] at hmax
    rw [not_or,not_lt]
    exact ⟨hok,by omega⟩
  · obtain ⟨rfl,hend⟩:=Prod.mk.inj (Except.ok.inj h)
    simp at hend
    simp [body,htag,hend]
  · obtain ⟨rfl,hend⟩:=Prod.mk.inj (Except.ok.inj h)
    obtain rfl : s=[] := by simpa using hend
    rw [htag,body]

end RelayControlPayloadV2

/-- Encoder and decoder accept the same values, each in one encoding. -/
theorem control_payload_codec (payload : RelayControlPayloadV2) (b : Bytes) :
    payload.encode = .ok b ↔ RelayControlPayloadV2.decode b = .ok payload := by
  rw [RelayControlPayloadV2.encode_eq_ok,RelayControlPayloadV2.decode_eq_ok]
  constructor
  · rintro ⟨hbody,hmax⟩
    exact ⟨hmax,RelayControlPayloadV2.decodeTagged_body hbody⟩
  · rintro ⟨hmax,_,_,rfl,h⟩
    exact ⟨RelayControlPayloadV2.body_decodeTagged hmax h,hmax⟩

/-- Every plaintext that a record may have is encrypted, and decrypted again. -/
structure Aead.Correct (aead : Aead) : Prop where
  encrypts : ∀ key nonce aad plaintext, plaintext.length≤MAX_RELAY_PLAINTEXT_V2 →
    ∃ ciphertext tag, aead.encryptInPlaceDetached key nonce aad plaintext=some (ciphertext,tag)
  decrypts : ∀ {key nonce aad plaintext ciphertext tag},
    aead.encryptInPlaceDetached key nonce aad plaintext=some (ciphertext,tag) →
      aead.decryptInPlaceDetached key nonce aad ciphertext tag=some plaintext

section Open
variable {aead : Aead} {key : AeadKey} {nonce : Nonce} {tag : Tag}
  {aad plaintext ciphertext : Bytes} (hle : plaintext.length ≤ MAX_RELAY_PLAINTEXT_V2)
  (hdec : aead.decryptInPlaceDetached key nonce aad ciphertext tag = some plaintext)
include hle hdec

theorem openInPlace_append :
    openInPlace aead key aad (nonce.toList++ciphertext++tag.toList) = .ok plaintext := by
  have hlen:=aead.decrypt_length hdec
  rw [openInPlace,splitRecord_append (hlen ▸ hle)]
  simp [hdec,← hlen,copyFromSlice,take_append]

theorem openVec_append :
    openVec aead key aad (nonce.toList++ciphertext++tag.toList) = .ok plaintext := by
  have hlen:=aead.decrypt_length hdec
  rw [openVec,splitRecord_append (hlen ▸ hle)]
  simp [hdec,← hlen,copyFromSlice]

end Open

/-- Either sealer gives the same record, which every opener opens; no sealer takes a
plaintext that is too long, no opener a record of impossible length. -/
theorem sealing_paths_interchangeable {aead : Aead} (hcorrect : aead.Correct)
    {sealer opener : RelayCipherV2} (hkeys : opener.receive = sealer.send) (aad plaintext : Bytes)
    (nonce : Nonce) {reserved : Bytes} (hres : reserved.length = NONCE_SIZE) :
    sealer.sealPrecomputed aead aad (reserved ++ plaintext) nonce =
      sealVec aead sealer.send aad plaintext nonce ∧
    (plaintext.length ≤ MAX_RELAY_PLAINTEXT_V2 → ∃ record,
      sealVec aead sealer.send aad plaintext nonce = .ok record ∧
      openVec aead opener.receive aad record = .ok plaintext ∧
      opener.openPrecomputed aead aad record = .ok plaintext ∧
      opener.openBytesPrecomputed aead aad record = .ok plaintext) ∧
    (MAX_RELAY_PLAINTEXT_V2 < plaintext.length →
      sealVec aead sealer.send aad plaintext nonce = .error .plaintextTooLarge) ∧
    ∀ record : Bytes, record.length < RELAY_SEALED_OVERHEAD_V2 ∨
        MAX_RELAY_PLAINTEXT_V2 + RELAY_SEALED_OVERHEAD_V2 < record.length →
      openVec aead opener.receive aad record = .error .invalidSealedLength ∧
      opener.openPrecomputed aead aad record = .error .invalidSealedLength ∧
      opener.openBytesPrecomputed aead aad record = .error .invalidSealedLength := by
  refine ⟨(sealPreparedWithNonce_eq hres).trans sealVec_eq.symm,?_,?_,?_⟩
  · intro hle
    obtain ⟨ciphertext,tag,henc⟩:=hcorrect.encrypts sealer.send nonce aad plaintext hle
    have hdec:=hcorrect.decrypts henc
    refine ⟨nonce.toList++ciphertext++tag.toList,?_,?_⟩
    · rw [sealVec_eq,sealedBytes,if_neg (not_lt.mpr hle),henc]
    · rw [hkeys]
      have hopen:=openInPlace_append hle hdec
      rw [← hkeys] at hopen
      exact ⟨openVec_append hle hdec,hopen,hopen⟩
  · intro hlt
    exact if_pos hlt
  · intro record hlen
    have hsplit : splitRecord record=none := dif_neg (by omega)
    simp [RelayCipherV2.openBytesPrecomputed,RelayCipherV2.openPrecomputed,openVec,openInPlace,
      hsplit]

/-- The bytes of a record on its inputs; on all others the plaintext, with a zero tag. -/
def Aead.around (r : AeadRecord) : Aead where
  encryptInPlaceDetached key nonce aad plaintext :=
    if r.key=key ∧ r.nonce=nonce ∧ r.aad=aad ∧ r.plaintext=plaintext then some (r.ciphertext,r.tag)
    else some (plaintext,.replicate TAG_SIZE 0)
  decryptInPlaceDetached key nonce aad ciphertext tag :=
    if r.key=key ∧ r.nonce=nonce ∧ r.aad=aad ∧ r.ciphertext=ciphertext ∧ r.tag=tag then
      some r.plaintext
    else some ciphertext
  encrypt_length h := by
    split_ifs at h with hin <;> cases h
    · rw [← hin.2.2.2,r.length_eq]
    · rfl
  decrypt_length h := by
    split_ifs at h with hin <;> cases h
    · rw [← hin.2.2.2.1,r.length_eq]
    · rfl

theorem Aead.around_correct {r : AeadRecord} (htag : r.tag ≠ .replicate TAG_SIZE 0) :
    (Aead.around r).Correct where
  encrypts key nonce aad plaintext _ := by
    simp only [around]
    split_ifs <;> exact ⟨_,_,rfl⟩
  decrypts henc := by
    simp only [around] at henc ⊢
    split_ifs at henc with hin
    · simp_all
    · cases henc
      rw [if_neg fun h => htag h.2.2.2.2]

theorem sealing_paths_interchangeable_ping : ∃ record,
    sealVec (.around goldenPing) (.replicate 32 0x11) goldenContext.dataAad (asBytes "ping")
      (.replicate 24 0x33) = .ok record ∧
    record = replicate 24 0x33 ++ [202, 205, 25, 238] ++
      [25, 20, 142, 75, 75, 131, 38, 179, 170, 236, 210, 67, 119, 127, 216, 189] ∧
    openVec (.around goldenPing) (.replicate 32 0x11) goldenContext.dataAad record =
      .ok (asBytes "ping") := by
  have hpaths:=@sealing_paths_interchangeable _ (Aead.around_correct (r := goldenPing) (by decide))
    ⟨.replicate 32 0x11,.replicate 32 0x44⟩ ⟨.replicate 32 0x44,.replicate 32 0x11⟩ rfl
    goldenContext.dataAad (asBytes "ping") (.replicate 24 0x33) (replicate 24 0) (by simp [NONCE_SIZE])
  obtain ⟨record,hsealed,hopened,-⟩:=hpaths.2.1 (by decide)
  exact ⟨record,hsealed,(Except.ok.inj hsealed).symm,hopened⟩

end Lantunnel.Client
