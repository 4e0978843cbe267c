import Lantunnel.Lib.ByteReader
import Lantunnel.Core.PeerLinkCrypto

/-!
# PeerLink wire encoding (tp-core/src/peer_link_crypto.rs:119-158, 261-308, 429-550)

The bytes an Offer or an Answer travels as. `OnWire` says what they are; the
encoder and the decoder are each exactly this relation (`toWireBytes_eq_ok`,
`fromWireBytes_eq_ok`), so a value comes back from its own bytes.
-/

namespace Lantunnel.Core
open Lib.FieldCodec Lib.RustStd Lib.RustNet Lib.ByteReader P2pAnswerV2
open List hiding Vector

/-! ### Encoder (peer_link_crypto.rs:119-136, 261-279, 429-473) -/

def OFFER_WIRE_TAG_V2 : UInt8 := 1
def ANSWER_WIRE_TAG_V2 : UInt8 := 2
def MAX_WIRE_STRING_SIZE_V2 : ℕ := 4096
def MAX_PEER_LINK_WIRE_SIZE_V2 : ℕ := 64*1024

def validateWireSize (encoded : Bytes) : Except PeerLinkCryptoErrorV2 Unit :=
  if encoded=[] ∨ encoded.length>MAX_PEER_LINK_WIRE_SIZE_V2 then .error .invalidWireEncoding
  else .ok ()

def appendWireString (encoded : Bytes) (value : String) : Except PeerLinkCryptoErrorV2 Bytes :=
  if (asBytes value).length>MAX_WIRE_STRING_SIZE_V2 then .error .invalidWireEncoding
  else liftProvisioning (appendField encoded (asBytes value))

def appendWireCandidate (encoded : Bytes) (candidate : Candidate) :
    Except PeerLinkCryptoErrorV2 Bytes := do
  let encoded ← appendWireString encoded candidate.ip
  .ok (encoded++beBytes 2 candidate.port.toNat++[candidate.kind.asU8])

def appendWireCandidates (encoded : Bytes) (candidates : List Candidate) :
    Except PeerLinkCryptoErrorV2 Bytes := do
  validateCandidates candidates
  if candidates.length≥256 then .error .invalidCandidate
  else candidates.foldlM appendWireCandidate (encoded++[UInt8.ofNat candidates.length])

def appendWireMembership (encoded : Bytes) (membership : PublicPeerMembershipV2) :
    Except PeerLinkCryptoErrorV2 Bytes := do
  let encoded ← appendWireString encoded membership.tunnelId
  let encoded ← appendWireString encoded membership.peerId
  let encoded ← appendWireString (encoded++octets membership.overlayIp) membership.peerPublicKey
  appendWireString encoded membership.membershipSignature

def P2pOfferV2.toWireBytes (offer : P2pOfferV2) : Except PeerLinkCryptoErrorV2 Bytes := do
  validateCandidates offer.candidates
  let encoded ← appendWireString [OFFER_WIRE_TAG_V2] offer.tunnelId
  let encoded ← appendWireString (encoded++offer.sessionId.toList) offer.sourcePeerId
  let encoded ← appendWireString encoded offer.targetPeerId
  let encoded ← appendWireCandidates encoded offer.candidates
  let encoded ← appendWireMembership (encoded++offer.directCertificateFingerprint.toList)
    offer.publicPeerMembership
  let encoded:=encoded++offer.ephemeralX25519PublicKey.toList++offer.peerSignature.toList
  validateWireSize encoded
  .ok encoded

def P2pAnswerV2.toWireBytes (answer : P2pAnswerV2) : Except PeerLinkCryptoErrorV2 Bytes := do
  validateAnswerResult answer.accepted answer.reasonCode
  validateCandidates answer.candidates
  let encoded ← appendWireString ([ANSWER_WIRE_TAG_V2]++answer.offerHash.toList)
    answer.acceptedPeerId
  let encoded ← appendWireCandidates (encoded++[u8OfBool answer.accepted]++[answer.reasonCode])
    answer.candidates
  let encoded ← appendWireMembership (encoded++answer.directCertificateFingerprint.toList)
    answer.publicPeerMembership
  let encoded:=encoded++answer.ephemeralX25519PublicKey.toList++answer.peerSignature.toList
  validateWireSize encoded
  .ok encoded

/-! ### Decoder (peer_link_crypto.rs:138-158, 281-308, 475-550) -/

abbrev WireReaderV2 (α : Type) := Reader PeerLinkCryptoErrorV2 α

namespace WireReaderV2

def readBytes (n : ℕ) : WireReaderV2 (Vector UInt8 n) := readArray .invalidWireEncoding n

def orMalformed {α : Type} (value : Option α) : WireReaderV2 α :=
  liftM (okOr PeerLinkCryptoErrorV2.invalidWireEncoding value)

def readU8 : WireReaderV2 UInt8 := do
  let bytes ← readBytes 1
  pure bytes[0]

def readU16 : WireReaderV2 UInt16 := do
  let bytes ← readBytes 2
  pure (UInt16.ofNat (beNat bytes.toList))

def readString : WireReaderV2 String := do
  let sizeBytes ← readBytes 4
  let size:=beNat sizeBytes.toList
  if size>MAX_WIRE_STRING_SIZE_V2 then throw .invalidWireEncoding
  else
    let bytes ← readExact .invalidWireEncoding size
    orMalformed (fromUtf8 bytes)

def readCandidate : WireReaderV2 Candidate := do
  let ip ← readString
  let port ← readU16
  let kind ← readU8
  let kind ← orMalformed (CandidateKind.fromU8 kind)
  pure ⟨ip,port,kind⟩

def readCandidates : WireReaderV2 (List Candidate) := do
  let count ← readU8
  let candidates ← times readCandidate count.toNat
  let _ ← liftM (validateCandidates candidates)
  pure candidates

def readMembership : WireReaderV2 PublicPeerMembershipV2 := do
  let tunnelId ← readString
  let peerId ← readString
  let overlayIp ← readBytes 4
  let peerPublicKey ← readString
  let membershipSignature ← readString
  pure ⟨tunnelId,peerId,ofOctets overlayIp,peerPublicKey,membershipSignature⟩

def readOffer : WireReaderV2 P2pOfferV2 := do
  let tag ← readU8
  if tag ≠ OFFER_WIRE_TAG_V2 then throw .invalidWireEncoding
  else
    let tunnelId ← readString
    let sessionId ← readBytes 16
    let sourcePeerId ← readString
    let targetPeerId ← readString
    let candidates ← readCandidates
    let directCertificateFingerprint ← readBytes 32
    let publicPeerMembership ← readMembership
    let ephemeralX25519PublicKey ← readBytes 32
    let peerSignature ← readBytes 64
    pure ⟨tunnelId,sessionId,sourcePeerId,targetPeerId,candidates,
      directCertificateFingerprint,publicPeerMembership,ephemeralX25519PublicKey,peerSignature⟩

def readBool : WireReaderV2 Bool := do
  match ← readU8 with
  | 0 => pure false
  | 1 => pure true
  | _ => throw .invalidWireEncoding

def readAnswer : WireReaderV2 P2pAnswerV2 := do
  let tag ← readU8
  if tag ≠ ANSWER_WIRE_TAG_V2 then throw .invalidWireEncoding
  else
    let offerHash ← readBytes 32
    let acceptedPeerId ← readString
    let accepted ← readBool
    let reasonCode ← readU8
    let candidates ← readCandidates
    let directCertificateFingerprint ← readBytes 32
    let publicPeerMembership ← readMembership
    let ephemeralX25519PublicKey ← readBytes 32
    let peerSignature ← readBytes 64
    pure ⟨offerHash,acceptedPeerId,accepted,reasonCode,candidates,
      directCertificateFingerprint,publicPeerMembership,ephemeralX25519PublicKey,peerSignature⟩

end WireReaderV2

def P2pOfferV2.fromWireBytes (encoded : Bytes) : Except PeerLinkCryptoErrorV2 P2pOfferV2 := do
  validateWireSize encoded
  let offer ← readAll .invalidWireEncoding WireReaderV2.readOffer encoded
  validateCandidates offer.candidates
  .ok offer

def P2pAnswerV2.fromWireBytes (encoded : Bytes) : Except PeerLinkCryptoErrorV2 P2pAnswerV2 := do
  validateWireSize encoded
  let answer ← readAll .invalidWireEncoding WireReaderV2.readAnswer encoded
  validateAnswerResult answer.accepted answer.reasonCode
  validateCandidates answer.candidates
  .ok answer

def WireString (value : String) : Prop := (asBytes value).length≤MAX_WIRE_STRING_SIZE_V2

def wireString (value : String) : Bytes := field 4 (asBytes value)

def wireCandidate (candidate : Candidate) : Bytes :=
  wireString candidate.ip++beBytes 2 candidate.port.toNat++[candidate.kind.asU8]

def WireCandidates (candidates : List Candidate) : Prop :=
  validateCandidates candidates = .ok () ∧ ∀ candidate ∈ candidates, WireString candidate.ip

def wireCandidates (candidates : List Candidate) : Bytes :=
  UInt8.ofNat candidates.length::candidates.flatMap wireCandidate

structure WireMembership (membership : PublicPeerMembershipV2) : Prop where
  tunnelId : WireString membership.tunnelId
  peerId : WireString membership.peerId
  peerPublicKey : WireString membership.peerPublicKey
  membershipSignature : WireString membership.membershipSignature

def wireMembership (membership : PublicPeerMembershipV2) : Bytes :=
  wireString membership.tunnelId++wireString membership.peerId++octets membership.overlayIp
    ++ wireString membership.peerPublicKey++wireString membership.membershipSignature

structure P2pOfferV2.OnWire (offer : P2pOfferV2) (wire : Bytes) : Prop where
  tunnelId : WireString offer.tunnelId
  sourcePeerId : WireString offer.sourcePeerId
  targetPeerId : WireString offer.targetPeerId
  candidates : WireCandidates offer.candidates
  membership : WireMembership offer.publicPeerMembership
  bytes : wire=[OFFER_WIRE_TAG_V2]++wireString offer.tunnelId++offer.sessionId.toList
    ++ wireString offer.sourcePeerId++wireString offer.targetPeerId
    ++ wireCandidates offer.candidates++offer.directCertificateFingerprint.toList
    ++ wireMembership offer.publicPeerMembership++offer.ephemeralX25519PublicKey.toList
    ++ offer.peerSignature.toList
  size : wire.length≤MAX_PEER_LINK_WIRE_SIZE_V2

structure P2pAnswerV2.OnWire (answer : P2pAnswerV2) (wire : Bytes) : Prop where
  result : validateAnswerResult answer.accepted answer.reasonCode = .ok ()
  acceptedPeerId : WireString answer.acceptedPeerId
  candidates : WireCandidates answer.candidates
  membership : WireMembership answer.publicPeerMembership
  bytes : wire=[ANSWER_WIRE_TAG_V2]++answer.offerHash.toList
    ++ wireString answer.acceptedPeerId++[u8OfBool answer.accepted]++[answer.reasonCode]
    ++ wireCandidates answer.candidates++answer.directCertificateFingerprint.toList
    ++ wireMembership answer.publicPeerMembership++answer.ephemeralX25519PublicKey.toList
    ++ answer.peerSignature.toList
  size : wire.length≤MAX_PEER_LINK_WIRE_SIZE_V2

theorem WireString.fits {value : String} (h : WireString value) : Fits 4 (asBytes value) :=
  Nat.lt_of_le_of_lt h (by decide)

variable {candidates : List Candidate} {encoded bytes : Bytes}

theorem WireCandidates.length_lt (h : WireCandidates candidates) : candidates.length<256 := by
  obtain ⟨_,-⟩:=not_or.mp (ite_error_eq_ok.mp h.1).1
  have hmax : MAX_P2P_CANDIDATES_V2=255 := rfl
  omega

theorem validateWireSize_eq_ok {u : Unit} : validateWireSize encoded = .ok u ↔
      encoded≠[] ∧ encoded.length≤MAX_PEER_LINK_WIRE_SIZE_V2 := by
  rw [validateWireSize,ite_error_eq_ok,not_or,Nat.not_lt]
  simp

theorem appendWireString_eq_ok {value : String} : appendWireString encoded value = .ok bytes ↔
      WireString value ∧ bytes=encoded++wireString value := by
  rw [appendWireString,ite_error_eq_ok,liftProvisioning_eq_ok,appendField,pushField_eq_ok,
    Nat.not_lt]
  constructor
  · intro h
    obtain ⟨hlen,-,rfl⟩:=h
    exact ⟨hlen,rfl⟩
  intro h
  obtain ⟨hlen,rfl⟩:=h
  exact ⟨hlen,hlen.fits,rfl⟩

theorem foldlM_appendWireCandidate_eq_ok :
    candidates.foldlM appendWireCandidate encoded = .ok bytes ↔
      (∀ candidate∈candidates, WireString candidate.ip)
        ∧ bytes=encoded++candidates.flatMap wireCandidate := by
  induction candidates generalizing encoded with
  | nil => simp [pure,Except.pure,eq_comm]
  | cons candidate candidates ih =>
    simp only [foldlM_cons,appendWireCandidate,bind_assoc,bind_eq_ok,appendWireString_eq_ok,ih,
      forall_mem_cons,flatMap_cons,wireCandidate]
    constructor
    · simp_all
    · simp_all

theorem appendWireCandidates_eq_ok : appendWireCandidates encoded candidates = .ok bytes ↔
      WireCandidates candidates ∧ bytes=encoded++wireCandidates candidates := by
  simp only [appendWireCandidates,bind_eq_ok,ite_error_eq_ok,foldlM_appendWireCandidate_eq_ok]
  constructor
  · intro h
    obtain ⟨⟨⟩,hval,-,hips,rfl⟩:=h
    exact ⟨⟨hval,hips⟩,by simp [wireCandidates]⟩
  intro h
  obtain ⟨hcand,rfl⟩:=h
  exact ⟨(),hcand.1,Nat.not_le.mpr hcand.length_lt,hcand.2,
    by simp [wireCandidates]⟩

theorem appendWireMembership_eq_ok {membership : PublicPeerMembershipV2} :
    appendWireMembership encoded membership = .ok bytes ↔
      WireMembership membership ∧ bytes=encoded++wireMembership membership := by
  simp only [appendWireMembership,bind_eq_ok,appendWireString_eq_ok]
  constructor
  · intro h
    obtain ⟨_,⟨htun,rfl⟩,_,⟨hpeer,rfl⟩,_,⟨hkey,rfl⟩,hsig,rfl⟩:=h
    exact ⟨⟨htun,hpeer,hkey,hsig⟩,by simp [wireMembership]⟩
  intro h
  obtain ⟨h,rfl⟩:=h
  exact ⟨_,⟨h.tunnelId,rfl⟩,_,⟨h.peerId,rfl⟩,_,⟨h.peerPublicKey,rfl⟩,
    h.membershipSignature,by simp [wireMembership]⟩

theorem P2pOfferV2.toWireBytes_eq_ok {offer : P2pOfferV2} :
    offer.toWireBytes = .ok bytes ↔ offer.OnWire bytes := by
  simp only [P2pOfferV2.toWireBytes,bind_eq_ok,appendWireString_eq_ok,appendWireCandidates_eq_ok,
    appendWireMembership_eq_ok,validateWireSize_eq_ok,
    Except.ok.injEq]
  constructor
  · intro h
    obtain ⟨_,-,_,⟨htun,rfl⟩,_,⟨hsrc,rfl⟩,_,⟨htgt,rfl⟩,_,⟨hcand,rfl⟩,_,
      ⟨hmember,rfl⟩,_,⟨-,hsize⟩,rfl⟩ := h
    exact ⟨htun,hsrc,htgt,hcand,hmember,by simp,hsize⟩
  · intro h
    obtain ⟨htun,hsrc,htgt,hcand,hmember,rfl,hsize⟩:=h
    refine ⟨(),hcand.1,_,⟨htun,rfl⟩,_,⟨hsrc,rfl⟩,_,⟨htgt,rfl⟩,_,
      ⟨hcand,rfl⟩,_,⟨hmember,rfl⟩,(),⟨by simp,?_⟩,by simp⟩
    simpa [Nat.add_assoc] using hsize

theorem P2pAnswerV2.toWireBytes_eq_ok {answer : P2pAnswerV2} :
    answer.toWireBytes = .ok bytes ↔ answer.OnWire bytes := by
  simp only [toWireBytes,bind_eq_ok,appendWireString_eq_ok,appendWireCandidates_eq_ok,
    appendWireMembership_eq_ok,validateWireSize_eq_ok,
    Except.ok.injEq]
  constructor
  · intro h
    obtain ⟨_,hres,_,-,_,⟨hpeer,rfl⟩,_,⟨hcand,rfl⟩,_,⟨hmember,rfl⟩,_,
      ⟨-,hsize⟩,rfl⟩ := h
    exact ⟨hres,hpeer,hcand,hmember,by simp,hsize⟩
  · intro h
    obtain ⟨hres,hpeer,hcand,hmember,rfl,hsize⟩:=h
    refine ⟨(),hres,(),hcand.1,_,⟨hpeer,rfl⟩,_,⟨hcand,rfl⟩,_,
      ⟨hmember,rfl⟩,(),⟨by simp,?_⟩,by simp⟩
    simpa [Nat.add_assoc] using hsize

namespace WireReaderV2

theorem throw_reads {α : Type} {e : PeerLinkCryptoErrorV2} {input rest : Bytes} {a : α} :
    ¬ (throw e : WireReaderV2 α) input = .ok (a,rest) := nofun

theorem orMalformed_reads {α : Type} {value : Option α} {input rest : Bytes} {a : α} :
    orMalformed value input = .ok (a,rest) ↔ value=some a ∧ input=rest := by
  rw [orMalformed,lift_reads,okOr_eq_ok]

theorem readBytes_reads (n : ℕ) : Reads (readBytes n) (fun _ => True) Vector.toList :=
  readArray_reads _ n

theorem readU8_reads : Reads readU8 (fun _ => True) (fun v => [v]) := by
  intro input v rest
  simp only [readU8,bind_reads,pure_reads,readBytes_reads 1 _ _ _,true_and]
  constructor
  · intro h
    obtain ⟨bytes,_,rfl,rfl,rfl⟩:=h
    have hlist : bytes.toList=[bytes[0]] := by
      refine ext_getElem (by simp) ?_
      intro i hi hi'
      obtain rfl : i=0 := by simpa using hi'
      simp
    rw [hlist]
  · intro h
    subst h
    exact ⟨#v[v],rest,rfl,rfl,rfl⟩

theorem readU16_reads : Reads readU16 (fun _ => True) (fun v => beBytes 2 v.toNat) := by
  intro input v rest
  simp only [readU16,bind_reads,pure_reads,readBytes_reads 2 _ _ _,true_and]
  constructor
  · intro h
    obtain ⟨bytes,_,rfl,rfl,rfl⟩:=h
    have hlen : bytes.toList.length=2 := by simp
    have hlt : beNat bytes.toList<2^16 := by simpa using beNat_lt bytes.toList
    rw [UInt16.toNat_ofNat_of_lt' hlt,beBytes_beNat hlen]
  · intro h
    subst h
    refine ⟨⟨(beBytes 2 v.toNat).toArray,by simp⟩,rest,rfl,?_,rfl⟩
    have hval : beNat (beBytes 2 v.toNat)=v.toNat := by
      rw [beNat_beBytes]
      exact Nat.mod_eq_of_lt v.toNat_lt
    simp [hval]

theorem readString_reads : Reads readString WireString wireString := by
  intro input value rest
  simp only [readString,bind_reads,readBytes_reads 4 _ _ _,true_and]
  constructor
  · intro h
    obtain ⟨sizeBytes,_,rfl,h⟩:=h
    split at h
    · exact absurd h throw_reads
    rename_i hsize
    simp only [bind_reads,readExact_reads _ _ _ _ _,orMalformed_reads,fromUtf8_eq_some] at h
    obtain ⟨_,_,⟨hlen,rfl⟩,rfl,rfl⟩:=h
    have hfour : sizeBytes.toList.length=4 := by simp
    refine ⟨?_,?_⟩
    · rw [WireString,hlen]
      exact Nat.not_lt.mp hsize
    rw [wireString,field,hlen,beBytes_beNat hfour,append_assoc]
    rfl
  · intro h
    obtain ⟨hvalue,rfl⟩:=h
    have hval : beNat (beBytes 4 (asBytes value).length)=(asBytes value).length := by
      rw [beNat_beBytes,Nat.mod_eq_of_lt hvalue.fits]
    refine ⟨⟨(beBytes 4 (asBytes value).length).toArray,by simp⟩,asBytes value++rest,?_,?_⟩
    · simp [wireString,field]
    have hsize : ¬ (asBytes value).length>MAX_WIRE_STRING_SIZE_V2 := Nat.not_lt.mpr hvalue
    simp only [Vector.toList_mk,hval,hsize,if_false,bind_reads,readExact_reads _ _ _ _ _,
      orMalformed_reads,fromUtf8_eq_some]
    exact ⟨_,rest,⟨rfl,rfl⟩,rfl,rfl⟩

theorem readCandidate_reads :
    Reads readCandidate (fun candidate => WireString candidate.ip) wireCandidate := by
  intro input candidate rest
  simp only [readCandidate,bind_reads,pure_reads,readString_reads _ _ _,readU16_reads _ _ _,
    readU8_reads _ _ _,orMalformed_reads,CandidateKind.fromU8_eq_some,true_and]
  constructor
  · intro h
    obtain ⟨_,_,⟨hip,rfl⟩,_,_,rfl,_,_,rfl,_,_,⟨rfl,rfl⟩,rfl,rfl⟩:=h
    exact ⟨hip,by simp [wireCandidate]⟩
  intro h
  obtain ⟨hip,rfl⟩:=h
  exact ⟨_,_,⟨hip,by simp [wireCandidate]⟩,_,_,rfl,_,_,rfl,_,_,⟨rfl,rfl⟩,rfl,rfl⟩

theorem readCandidates_reads : Reads readCandidates WireCandidates wireCandidates := by
  intro input candidates rest
  simp only [readCandidates,bind_reads,pure_reads,lift_reads,readU8_reads _ _ _,true_and,
    times_reads readCandidate_reads _ _ _ _]
  constructor
  · intro h
    obtain ⟨_,_,rfl,_,_,⟨⟨hlen,hips⟩,rfl⟩,⟨⟩,_,⟨hval,rfl⟩,rfl,rfl⟩:=h
    exact ⟨⟨hval,hips⟩,by simp [wireCandidates,hlen]⟩
  intro h
  obtain ⟨hcand,rfl⟩:=h
  have hcnt : (UInt8.ofNat candidates.length).toNat=candidates.length := by
    rw [UInt8.toNat_ofNat',Nat.mod_eq_of_lt hcand.length_lt]
  exact ⟨_,_,rfl,_,_,⟨⟨hcnt.symm,hcand.2⟩,rfl⟩,(),_,⟨hcand.1,rfl⟩,rfl,rfl⟩

theorem readMembership_reads : Reads readMembership WireMembership wireMembership := by
  intro input membership rest
  simp only [readMembership,bind_reads,pure_reads,readString_reads _ _ _,readBytes_reads 4 _ _ _,
    true_and]
  constructor
  · intro h
    obtain ⟨_,_,⟨htun,rfl⟩,_,_,⟨hpeer,rfl⟩,_,_,rfl,_,_,
      ⟨hkey,rfl⟩,_,_,⟨hsig,rfl⟩,rfl,rfl⟩ := h
    exact ⟨⟨htun,hpeer,hkey,hsig⟩,by simp [wireMembership,octets_ofOctets]⟩
  · intro h
    obtain ⟨h,rfl⟩:=h
    have hfour : (octets membership.overlayIp).toArray.size=4 := by simp [octets]
    have hip : ofOctets ⟨(octets membership.overlayIp).toArray,hfour⟩=membership.overlayIp := by
      apply octets_inj
      rw [octets_ofOctets]
      rfl
    refine ⟨_,_,⟨h.tunnelId,?_⟩,_,_,⟨h.peerId,rfl⟩,
      ⟨(octets membership.overlayIp).toArray,hfour⟩,_,rfl,_,_,⟨h.peerPublicKey,rfl⟩,_,_,
      ⟨h.membershipSignature,rfl⟩,by rw [hip],rfl⟩
    simp [wireMembership]

theorem readBool_reads : Reads readBool (fun _ => True) (fun b => [u8OfBool b]) := by
  intro input b rest
  simp only [readBool,bind_reads,readU8_reads _ _ _,true_and]
  constructor
  · intro h
    obtain ⟨_,_,rfl,h⟩:=h
    split at h
    · obtain ⟨rfl,rfl⟩:=pure_reads.mp h
      rfl
    · obtain ⟨rfl,rfl⟩:=pure_reads.mp h
      rfl
    · exact absurd h throw_reads
  · intro h
    subst h
    cases b with
    | false => exact ⟨0,rest,rfl,rfl⟩
    | true => exact ⟨1,rest,rfl,rfl⟩

end WireReaderV2

open WireReaderV2

theorem P2pOfferV2.fromWireBytes_eq_ok {offer : P2pOfferV2} {wire : Bytes} :
    P2pOfferV2.fromWireBytes wire = .ok offer ↔ offer.OnWire wire := by
  simp only [P2pOfferV2.fromWireBytes,bind_eq_ok,validateWireSize_eq_ok,readAll_eq_ok,
    Except.ok.injEq,readOffer,bind_reads,readU8_reads _ _ _,true_and]
  constructor
  · intro h
    obtain ⟨⟨⟩,⟨-,hsize⟩,_,⟨_,_,rfl,h⟩,⟨⟩,-,rfl⟩:=h
    split at h
    · exact absurd h throw_reads
    rename_i htag
    simp only [bind_reads,pure_reads,readString_reads _ _ _,readBytes_reads _ _ _ _,
      readCandidates_reads _ _ _,readMembership_reads _ _ _,true_and] at h
    obtain ⟨_,_,⟨htun,rfl⟩,_,_,rfl,_,_,⟨hsrc,rfl⟩,_,_,⟨htgt,rfl⟩,_,_,
      ⟨hcand,rfl⟩,_,_,rfl,_,_,⟨hmember,rfl⟩,_,_,rfl,_,_,rfl,rfl,rfl⟩ := h
    exact ⟨htun,hsrc,htgt,hcand,hmember,by simp [not_not.mp htag],hsize⟩
  · intro h
    obtain ⟨htun,hsrc,htgt,hcand,hmember,rfl,hsize⟩:=h
    refine ⟨(),⟨by simp,hsize⟩,offer,⟨OFFER_WIRE_TAG_V2,_,by simp; rfl,?_⟩,(),
      hcand.1,rfl⟩
    simp only [ne_eq,not_true_eq_false,if_false,bind_reads,pure_reads,readString_reads _ _ _,
      readBytes_reads _ _ _ _,readCandidates_reads _ _ _,readMembership_reads _ _ _,true_and]
    exact ⟨_,_,⟨htun,rfl⟩,_,_,rfl,_,_,⟨hsrc,rfl⟩,_,_,⟨htgt,rfl⟩,_,_,
      ⟨hcand,rfl⟩,_,_,rfl,_,_,⟨hmember,rfl⟩,_,_,rfl,_,_,
      (append_nil _).symm,rfl,rfl⟩

theorem P2pAnswerV2.fromWireBytes_eq_ok {answer : P2pAnswerV2} {wire : Bytes} :
    fromWireBytes wire = .ok answer ↔ answer.OnWire wire := by
  simp only [fromWireBytes,bind_eq_ok,validateWireSize_eq_ok,readAll_eq_ok,Except.ok.injEq,
    readAnswer,bind_reads,readU8_reads _ _ _,true_and]
  constructor
  · intro h
    obtain ⟨⟨⟩,⟨-,hsize⟩,_,⟨_,_,rfl,h⟩,⟨⟩,hres,⟨⟩,-,rfl⟩:=h
    split at h
    · exact absurd h throw_reads
    rename_i htag
    simp only [bind_reads,pure_reads,readString_reads _ _ _,readBytes_reads _ _ _ _,
      readBool_reads _ _ _,readU8_reads _ _ _,readCandidates_reads _ _ _,
      readMembership_reads _ _ _,true_and] at h
    obtain ⟨_,_,rfl,_,_,⟨hpeer,rfl⟩,_,_,rfl,_,_,rfl,_,_,⟨hcand,rfl⟩,_,_,
      rfl,_,_,⟨hmember,rfl⟩,_,_,rfl,_,_,rfl,rfl,rfl⟩ := h
    exact ⟨hres,hpeer,hcand,hmember,by simp [not_not.mp htag],hsize⟩
  · intro h
    obtain ⟨hres,hpeer,hcand,hmember,rfl,hsize⟩:=h
    refine ⟨(),⟨by simp,hsize⟩,answer,⟨ANSWER_WIRE_TAG_V2,_,by simp; rfl,?_⟩,(),hres,
      (),hcand.1,rfl⟩
    simp only [ne_eq,not_true_eq_false,if_false,bind_reads,pure_reads,readString_reads _ _ _,
      readBytes_reads _ _ _ _,readBool_reads _ _ _,readU8_reads _ _ _,
      readCandidates_reads _ _ _,readMembership_reads _ _ _,true_and]
    exact ⟨_,_,rfl,_,_,⟨hpeer,rfl⟩,_,_,rfl,_,_,rfl,_,_,⟨hcand,rfl⟩,_,_,rfl,
      _,_,⟨hmember,rfl⟩,_,_,rfl,_,_,(append_nil _).symm,rfl,rfl⟩

/-- One spelling for each Offer and each Answer, and none for both. -/
theorem peer_link_wire_bijective :
    (∀ (offer : P2pOfferV2) wire,
      offer.toWireBytes = .ok wire ↔ P2pOfferV2.fromWireBytes wire = .ok offer) ∧
    (∀ (answer : P2pAnswerV2) wire,
      answer.toWireBytes = .ok wire ↔ P2pAnswerV2.fromWireBytes wire = .ok answer) ∧
    ∀ wire offer answer, ¬ (P2pOfferV2.fromWireBytes wire = .ok offer ∧
      P2pAnswerV2.fromWireBytes wire = .ok answer) := by
  refine ⟨?_,?_,?_⟩
  · intro offer wire
    rw [P2pOfferV2.toWireBytes_eq_ok,P2pOfferV2.fromWireBytes_eq_ok]
  · intro answer wire
    rw [toWireBytes_eq_ok,fromWireBytes_eq_ok]
  · rintro wire offer answer ⟨hoff,hans⟩
    have hfst:=(P2pOfferV2.fromWireBytes_eq_ok.mp hoff).bytes
    have hsnd:=(fromWireBytes_eq_ok.mp hans).bytes
    -- the first byte tells them apart
    have hhead:=congrArg head? (hfst.symm.trans hsnd)
    have htags : OFFER_WIRE_TAG_V2≠ANSWER_WIRE_TAG_V2 := by decide
    simp only [cons_append,append_assoc,head?_cons,Option.some.injEq] at hhead
    exact htags hhead

end Lantunnel.Core
