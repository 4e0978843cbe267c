import Lantunnel.Core.PeerLinkAgreement
import Lantunnel.Core.PeerLinkWire

/-!
# Offers and Answers of honest Peers go through (tp-core/src/peer_link_crypto.rs)

A Peer whose profile verifies signs Offers that verify, and answers an Offer that
verifies with an Answer that fits the wire, verifies for it, and lets both ends derive
their keys.
-/

namespace Lantunnel.Core
open P2pAnswerV2
open List hiding Vector
open Lib.FieldCodec Lib.RustStd Lib.RustNet PublicPeerMembershipV2 PeerProfileV2 P2pOfferV2

/-- The documented behaviour of the external primitives. -/
structure Primitives.Ideal (p : Primitives) : Prop where
  -- Ed25519: a key pair signs every message, and its public half accepts the signature
  signs : ∀ key publicKey message, p.ed25519Public key=some publicKey →
    ∃ signature, p.ed25519Sign key message=some signature ∧
      p.ed25519Verify publicKey message signature.toList=true
  signatureLength : ∀ publicKey message signature,
    p.ed25519Verify publicKey message signature=true → signature.length=64
  -- base64 with padding: four characters for every three bytes begun
  base64Length : ∀ text bytes, p.base64Decode text=some bytes →
    (asBytes text).length=4*((bytes.length+2)/3)
  dhCommutes : p.DhCommutes
  -- X25519 keeps to the prime-order subgroup: no honest exchange gives zero
  dhContributes : ∀ a b, p.x25519 a (p.x25519Public b) ≠ Vector.replicate 32 0

theorem appendFields_short {values : List Bytes} (h : ∀ v∈values, v.length≤65536) :
    appendFields [] values = .ok (fields 4 values) := by
  refine pushFields_eq_ok.mpr ⟨?_,rfl⟩
  intro v hv
  have hlen:=h v hv
  have hpow : 256^4=4294967296 := by norm_num
  rw [Fits,hpow]
  omega

theorem canonicalContext_short {domain : Bytes} {values : List Bytes}
    (h : ∀ v∈domain::values, v.length≤65536) :
    canonicalContext domain values = .ok (fields 4 (domain::values)) :=
  liftProvisioning_eq_ok.mpr (appendFields_short h)

theorem WireString.length_le {value : String} (h : WireString value) :
    (asBytes value).length≤4096 := h

section Profile
variable {p : Primitives} {profile : PeerProfileV2} {membership : PublicPeerMembershipV2}

theorem decodePublicKey_length {encoded : String} {key : Bytes}
    (h : decodePublicKey p encoded = .ok key) : key.length=32 := by
  obtain ⟨_,-,h⟩:=bind_eq_ok.mp h
  obtain ⟨hlen,h⟩:=ite_error_eq_ok.mp h
  obtain rfl := Except.ok.inj h
  exact not_not.mp hlen

theorem PublicPeerMembershipV2.verify_eq_ok {tunnelKey : String}
    (h : membership.verify p tunnelKey = .ok ()) :
    trim membership.tunnelId ≠ "" ∧ trim membership.peerId ≠ "" ∧
      ∃ key publicKey message signature, decodePublicKey p membership.peerPublicKey = .ok key ∧
        p.base64Decode membership.membershipSignature=some signature ∧
        p.ed25519Verify publicKey message signature=true := by
  obtain ⟨hblk,h⟩:=ite_error_eq_ok.mp h
  obtain ⟨tunnelPublicKey,-,h⟩:=bind_eq_ok.mp h
  obtain ⟨key,hkey,h⟩:=bind_eq_ok.mp h
  obtain ⟨encoded,-,h⟩:=bind_eq_ok.mp h
  obtain ⟨signature,hsig,h⟩:=bind_eq_ok.mp h
  simp only [not_or] at hblk
  refine ⟨hblk.1,hblk.2.1,key,tunnelPublicKey,encoded,signature,hkey,
    okOr_eq_ok.mp hsig,?_⟩
  by_contra hfalse
  rw [if_neg hfalse] at h
  cases h

theorem PeerProfileV2.verify_eq_ok (h : profile.verify p = .ok ()) :
    profile.publicMembership.verify p profile.tunnelSigningPublicKey = .ok () ∧
      ∃ pkcs8 key, decodeKeyPair p profile.peer.peerPrivateKey = .ok (pkcs8,key) ∧
        decodePublicKey p profile.peer.peerPublicKey = .ok key := by
  obtain ⟨⟨⟩,-,h⟩:=bind_eq_ok.mp h
  obtain ⟨-,h⟩:=ite_error_eq_ok.mp h
  obtain ⟨⟨⟩,-,h⟩:=bind_eq_ok.mp h
  obtain ⟨_,hkey,h⟩:=bind_eq_ok.mp h
  obtain ⟨⟨pkcs8,publicKey⟩,hpair,h⟩:=bind_eq_ok.mp h
  obtain ⟨hsame,hmember⟩:=ite_error_eq_ok.mp h
  rw [← not_not.mp hsame] at hkey
  exact ⟨hmember,pkcs8,publicKey,hpair,hkey⟩

theorem PeerProfileV2.signPeerMessageV2_verifies (hid : p.Ideal) (h : profile.verify p = .ok ())
    (message : Bytes) : ∃ signature, profile.signPeerMessageV2 p message = .ok signature ∧
      profile.publicMembership.verifyPeerMessageV2 p message signature = .ok () := by
  obtain ⟨-,pkcs8,key,hpair,hkey⟩:=verify_eq_ok h
  have hpub : p.ed25519Public pkcs8=some key := by
    obtain ⟨_,-,hpair⟩:=bind_eq_ok.mp hpair
    obtain ⟨_,hpub,hpair⟩:=bind_eq_ok.mp hpair
    obtain ⟨rfl,rfl⟩:=Prod.mk.inj (Except.ok.inj hpair)
    exact okOr_eq_ok.mp hpub
  obtain ⟨signature,hsign,hver⟩:=hid.signs pkcs8 key message hpub
  refine ⟨signature,?_,?_⟩
  · exact bind_eq_ok.mpr ⟨(),h,bind_eq_ok.mpr ⟨_,hpair,okOr_eq_ok.mpr hsign⟩⟩
  refine bind_eq_ok.mpr ⟨key,hkey,?_⟩
  rw [if_pos hver]

theorem PublicPeerMembershipV2.wire_of_verify (hid : p.Ideal) {tunnelKey : String}
    (h : membership.verify p tunnelKey = .ok ()) (htun : WireString membership.tunnelId)
    (hpeer : WireString membership.peerId) : WireMembership membership := by
  obtain ⟨-,-,_,_,_,_,hkey,hsig,hver⟩ :=
    verify_eq_ok h
  have hkeyText:=hid.base64Length _ _ (decodePublicKey_ok hkey)
  have hsign:=hid.base64Length _ _ hsig
  rw [decodePublicKey_length hkey] at hkeyText
  rw [hid.signatureLength _ _ _ hver] at hsign
  refine ⟨htun,hpeer,?_,?_⟩
  · rw [WireString,hkeyText]
    decide
  rw [WireString,hsign]
  decide

theorem encodePublicMembershipV2_of_verify (hid : p.Ideal) {tunnelKey : String}
    (h : membership.verify p tunnelKey = .ok ()) (htun : WireString membership.tunnelId)
    (hpeer : WireString membership.peerId) :
    ∃ encoded, encodePublicMembershipV2 p membership = .ok encoded ∧ encoded.length≤65536 := by
  obtain ⟨-,-,key,_,_,signature,hkey,hsig,hver⟩ :=
    verify_eq_ok h
  have hkeyLen:=decodePublicKey_length hkey
  have hsign:=hid.signatureLength _ _ _ hver
  have htun:=htun.length_le
  have hpeer:=hpeer.length_le
  have hdom : PUBLIC_MEMBERSHIP_DOMAIN_V2.length=30 := by decide
  have hshort : ∀ v∈[PUBLIC_MEMBERSHIP_DOMAIN_V2,asBytes membership.tunnelId,
      asBytes membership.peerId,octets membership.overlayIp,key,signature],
      v.length≤65536 := by
    simp only [forall_mem_cons,not_mem_nil,false_implies,implies_true,and_true,octets,
      beBytes_length]
    omega
  refine ⟨_,bind_eq_ok.mpr ⟨key,hkey,bind_eq_ok.mpr ⟨signature,okOr_eq_ok.mpr hsig,
    appendFields_short hshort⟩⟩,?_⟩
  simp only [fields_cons,fields_nil,length_append,field_length,length_nil,octets,
    beBytes_length]
  omega

end Profile

section Offer
variable {p : Primitives} {profile : PeerProfileV2} {sessionId : SessionId} {targetPeerId : String}
  {candidates : List Candidate} {fingerprint : CertFingerprint} {secret : PeerLinkEphemeralSecretV2}
  {offer : P2pOfferV2}

theorem P2pOfferV2.sign_eq_ok
    (h : sign p profile sessionId targetPeerId candidates fingerprint secret = .ok offer) :
    profile.verify p = .ok () ∧ trim targetPeerId ≠ "" ∧ targetPeerId≠profile.peer.peerId ∧
      validateCandidates candidates = .ok () ∧ (∃ message, offer.canonicalUnsigned p = .ok message ∧
        profile.signPeerMessageV2 p message = .ok offer.peerSignature) ∧
      offer=⟨profile.tunnelId,sessionId,profile.peer.peerId,targetPeerId,candidates,
        fingerprint,profile.publicMembership,p.x25519Public secret,offer.peerSignature⟩ := by
  obtain ⟨⟨⟩,hver,h⟩:=bind_eq_ok.mp h
  obtain ⟨hpeer,h⟩:=ite_error_eq_ok.mp h
  obtain ⟨⟨⟩,hcand,h⟩:=bind_eq_ok.mp h
  obtain ⟨message,hmsg,h⟩:=bind_eq_ok.mp h
  obtain ⟨_,hsig,h⟩:=bind_eq_ok.mp h
  obtain rfl := Except.ok.inj h
  obtain ⟨hblk,hself⟩:=not_or.mp hpeer
  exact ⟨liftProvisioning_eq_ok.mp hver,hblk,hself,hcand,
    ⟨message,hmsg,liftProvisioning_eq_ok.mp hsig⟩,rfl⟩

theorem P2pOfferV2.sign_verifies (hid : p.Ideal)
    (h : sign p profile sessionId targetPeerId candidates fingerprint secret = .ok offer) :
    offer.verify p profile.tunnelSigningPublicKey = .ok () := by
  obtain ⟨hprofile,hblk,hself,hcand,⟨message,hmsg,hsig⟩,hoff⟩ :=
    sign_eq_ok h
  obtain ⟨hmember,-⟩:=verify_eq_ok hprofile
  obtain ⟨htun,hpeer,-⟩:=verify_eq_ok hmember
  obtain ⟨signature,hsign,hver⟩ :=
    signPeerMessageV2_verifies hid hprofile message
  obtain rfl := Except.ok.inj (hsign.symm.trans hsig)
  generalize offer.peerSignature=signature at hoff hver
  subst hoff
  refine ite_error_eq_ok.mpr ⟨?_,?_⟩
  · simp only [not_or,ne_eq,not_not]
    exact ⟨htun,hpeer,hblk,hself.symm,rfl,rfl⟩
  refine bind_eq_ok.mpr ⟨(),hcand,bind_eq_ok.mpr ⟨(),
    liftProvisioning_eq_ok.mpr hmember,bind_eq_ok.mpr ⟨message,hmsg,?_⟩⟩⟩
  rw [hver]
  rfl

theorem appendField_signature (message : Bytes) (signature : Vector UInt8 64) :
    liftProvisioning (appendField message signature.toList)
      = .ok (message++field 4 signature.toList) :=
  liftProvisioning_eq_ok.mpr (pushField_eq_ok.mpr ⟨by simp [Fits],rfl⟩)

theorem P2pOfferV2.canonicalSigned_of_verify {tunnelKey : String}
    (h : offer.verify p tunnelKey = .ok ()) : ∃ signed, offer.canonicalSigned p = .ok signed := by
  obtain ⟨-,h⟩:=ite_error_eq_ok.mp h
  obtain ⟨⟨⟩,-,h⟩:=bind_eq_ok.mp h
  obtain ⟨⟨⟩,-,h⟩:=bind_eq_ok.mp h
  obtain ⟨message,hmsg,-⟩:=bind_eq_ok.mp h
  exact ⟨_,bind_eq_ok.mpr ⟨message,hmsg,appendField_signature message _⟩⟩

end Offer

section Answer
variable {p : Primitives} {profile : PeerProfileV2} {offer : P2pOfferV2} {accepted : Bool}
  {reasonCode : UInt8} {fingerprint : CertFingerprint} {secret : PeerLinkEphemeralSecretV2}

theorem canonicalCandidates_nil : ∃ b, canonicalCandidates [] = .ok b ∧ b.length=8 :=
  ⟨_,rfl,rfl⟩

/-- An Answer without candidates made for an Offer. -/
structure P2pAnswerV2.MadeFor (p : Primitives) (profile : PeerProfileV2) (offer : P2pOfferV2)
    (accepted : Bool) (secret : PeerLinkEphemeralSecretV2) (answer : P2pAnswerV2) : Prop where
  verifies : answer.verifyForOffer p offer profile.tunnelSigningPublicKey = .ok ()
  accepted : answer.accepted=accepted
  candidates : answer.candidates=[]
  acceptedPeerId : answer.acceptedPeerId=profile.peer.peerId
  key : answer.ephemeralX25519PublicKey=p.x25519Public secret

/-- An Offer for this Peer, of its Tunnel, that arrived on the wire. -/
structure P2pOfferV2.For (p : Primitives) (profile : PeerProfileV2) (offer : P2pOfferV2) : Prop where
  verifies : offer.verify p profile.tunnelSigningPublicKey = .ok ()
  tunnelId : profile.tunnelId=offer.tunnelId
  targetPeerId : profile.peer.peerId=offer.targetPeerId
  wireTunnelId : WireString offer.tunnelId
  wireTargetPeerId : WireString offer.targetPeerId

theorem P2pAnswerV2.canonicalUnsigned_short (hid : p.Ideal) {answer : P2pAnswerV2}
    {tunnelKey : String} (hcand : answer.candidates=[])
    (hmember : answer.publicPeerMembership.verify p tunnelKey = .ok ())
    (hpeer : WireString answer.acceptedPeerId) (hwire : WireString answer.publicPeerMembership.tunnelId)
    (hwirePeer : WireString answer.publicPeerMembership.peerId) :
    ∃ message, answer.canonicalUnsigned p = .ok message := by
  obtain ⟨candidates,hnil,_⟩:=canonicalCandidates_nil
  obtain ⟨membership,henc,_⟩ :=
    encodePublicMembershipV2_of_verify hid hmember hwire hwirePeer
  have hpeer:=hpeer.length_le
  have hdom : ANSWER_DOMAIN_V2.length=19 := by decide
  have hshort : ∀ v∈[ANSWER_DOMAIN_V2,answer.offerHash.toList,asBytes answer.acceptedPeerId,
      [u8OfBool answer.accepted],[answer.reasonCode],candidates,
      answer.directCertificateFingerprint.toList,membership,
      answer.ephemeralX25519PublicKey.toList], v.length≤65536 := by
    simp only [forall_mem_cons,not_mem_nil,false_implies,implies_true,and_true,
      Vector.length_toList,length_cons,length_nil]
    omega
  exact ⟨_,bind_eq_ok.mpr ⟨candidates,by rw [hcand,hnil],bind_eq_ok.mpr ⟨membership,
    liftProvisioning_eq_ok.mpr henc,canonicalContext_short hshort⟩⟩⟩

theorem P2pAnswerV2.sign_ok (hid : p.Ideal) (hprofile : profile.verify p = .ok ())
    (hoff : offer.For p profile) (hres : validateAnswerResult accepted reasonCode = .ok ())
    (fingerprint : CertFingerprint) (secret : PeerLinkEphemeralSecretV2) :
    ∃ answer, sign p profile offer accepted reasonCode [] fingerprint secret = .ok answer ∧
      answer.publicPeerMembership=profile.publicMembership ∧ answer.reasonCode=reasonCode ∧
      answer.MadeFor p profile offer accepted secret := by
  obtain ⟨hmember,-⟩:=verify_eq_ok hprofile
  obtain ⟨signed,hsgn⟩:=canonicalSigned_of_verify hoff.verifies
  let hash := p.sha256 signed
  have hhash : offer.signedHash p = .ok hash := bind_eq_ok.mpr ⟨signed,hsgn,rfl⟩
  have hpeer : WireString profile.peer.peerId := hoff.targetPeerId ▸ hoff.wireTargetPeerId
  have htun : WireString profile.tunnelId := hoff.tunnelId ▸ hoff.wireTunnelId
  let unsigned (signature : Vector UInt8 64) : P2pAnswerV2 :=
    ⟨hash,profile.peer.peerId,accepted,reasonCode,[],fingerprint,profile.publicMembership,
      p.x25519Public secret,signature⟩
  have hunsigned : ∃ message, (unsigned (Vector.replicate 64 0)).canonicalUnsigned p = .ok message :=
    canonicalUnsigned_short hid rfl hmember hpeer htun hpeer
  obtain ⟨message,hmsg⟩:=hunsigned
  obtain ⟨signature,hsign,hver⟩ :=
    signPeerMessageV2_verifies hid hprofile message
  refine ⟨unsigned signature,?_,rfl,rfl,⟨?_,rfl,rfl,rfl,rfl⟩⟩
  · refine bind_eq_ok.mpr ⟨(),liftProvisioning_eq_ok.mpr hprofile,
      bind_eq_ok.mpr ⟨(),hoff.verifies,ite_error_eq_ok.mpr ⟨?_,?_⟩⟩⟩
    · simp [hoff.tunnelId,hoff.targetPeerId]
    exact bind_eq_ok.mpr ⟨(),hres,bind_eq_ok.mpr ⟨(),rfl,bind_eq_ok.mpr ⟨hash,hhash,
      bind_eq_ok.mpr ⟨message,hmsg,bind_eq_ok.mpr ⟨signature,
        liftProvisioning_eq_ok.mpr hsign,rfl⟩⟩⟩⟩⟩
  · refine bind_eq_ok.mpr ⟨(),hoff.verifies,bind_eq_ok.mpr ⟨hash,hhash,
      ite_error_eq_ok.mpr ⟨not_not.mpr rfl,bind_eq_ok.mpr ⟨(),hres,bind_eq_ok.mpr ⟨(),rfl,
        ite_error_eq_ok.mpr ⟨?_,bind_eq_ok.mpr ⟨(),liftProvisioning_eq_ok.mpr hmember,
          bind_eq_ok.mpr ⟨message,hmsg,?_⟩⟩⟩⟩⟩⟩⟩⟩
    · simp only [not_or,not_not,ne_eq]
      exact ⟨hoff.targetPeerId,hoff.tunnelId,rfl⟩
    have hok : profile.publicMembership.verifyPeerMessageV2 p message signature = .ok () := hver
    exact okOr_eq_ok.mpr (toOption_eq_some.mpr hok)

theorem P2pAnswerV2.MadeFor.wire (hid : p.Ideal) (hprofile : profile.verify p = .ok ())
    (hoff : offer.For p profile) {answer : P2pAnswerV2}
    (hmade : answer.MadeFor p profile offer accepted secret)
    (hmember : answer.publicPeerMembership=profile.publicMembership)
    (hres : validateAnswerResult answer.accepted answer.reasonCode = .ok ()) :
    ∃ wire, answer.toWireBytes = .ok wire := by
  obtain ⟨hmembership,-⟩:=verify_eq_ok hprofile
  have hpeer : WireString profile.peer.peerId := hoff.targetPeerId ▸ hoff.wireTargetPeerId
  have htun : WireString profile.tunnelId := hoff.tunnelId ▸ hoff.wireTunnelId
  have hwire:=wire_of_verify hid hmembership htun hpeer
  rw [← hmember] at hwire
  have hacc : WireString answer.acceptedPeerId := hmade.acceptedPeerId ▸ hpeer
  refine ⟨_,toWireBytes_eq_ok.mpr
    ⟨hres,hacc,⟨by rw [hmade.candidates]; rfl,by simp [hmade.candidates]⟩,hwire,rfl,?_⟩⟩
  have hacc:=hacc.length_le
  have h1:=hwire.tunnelId.length_le
  have h2:=hwire.peerId.length_le
  have h3:=hwire.peerPublicKey.length_le
  have h4:=hwire.membershipSignature.length_le
  simp only [length_append,length_cons,length_nil,Vector.length_toList,wireString,
    field_length,hmade.candidates,wireCandidates,flatMap_nil,wireMembership,octets,
    beBytes_length,MAX_PEER_LINK_WIRE_SIZE_V2]
  omega

theorem P2pAnswerV2.canonicalSigned_of_verify {answer : P2pAnswerV2} {tunnelKey : String}
    (h : answer.verifyForOffer p offer tunnelKey = .ok ()) :
    ∃ signed, answer.canonicalSigned p = .ok signed := by
  obtain ⟨⟨⟩,-,h⟩:=bind_eq_ok.mp h
  obtain ⟨_,-,h⟩:=bind_eq_ok.mp h
  obtain ⟨-,h⟩:=ite_error_eq_ok.mp h
  obtain ⟨⟨⟩,-,h⟩:=bind_eq_ok.mp h
  obtain ⟨⟨⟩,-,h⟩:=bind_eq_ok.mp h
  obtain ⟨-,h⟩:=ite_error_eq_ok.mp h
  obtain ⟨⟨⟩,-,h⟩:=bind_eq_ok.mp h
  obtain ⟨message,hmsg,-⟩:=bind_eq_ok.mp h
  exact ⟨_,bind_eq_ok.mpr ⟨message,hmsg,appendField_signature message _⟩⟩

end Answer

theorem relayKeyInfo_short {tunnelId fromPeerId toPeerId : String} (sessionId : SessionId)
    (htun : WireString tunnelId) (hfrom : WireString fromPeerId) (hto : WireString toPeerId) :
    ∃ info, relayKeyInfo tunnelId sessionId fromPeerId toPeerId = .ok info := by
  have htun:=htun.length_le
  have hfrom:=hfrom.length_le
  have hto:=hto.length_le
  have hdom : RELAY_KEY_DOMAIN_V2.length=22 := by decide
  refine ⟨_,canonicalContext_short ?_⟩
  simp only [forall_mem_cons,not_mem_nil,false_implies,implies_true,and_true,
    Vector.length_toList]
  omega

theorem deriveSessionKeys_ok {p : Primitives} (hid : p.Ideal) {profile : PeerProfileV2}
    {offer : P2pOfferV2} {answer : P2pAnswerV2} {answerSecret offerSecret secret :
      PeerLinkEphemeralSecretV2} (hoff : offer.For p profile)
    (hsrc : WireString offer.sourcePeerId)
    (hmade : answer.MadeFor p profile offer true answerSecret)
    (hoffer : offer.ephemeralX25519PublicKey=p.x25519Public offerSecret)
    (hloc : secret=offerSecret ∨ secret=answerSecret) :
    ∃ keys, deriveSessionKeys p secret offer answer profile.tunnelSigningPublicKey = .ok keys := by
  have hrmt : ∃ other source, remotePublicKey (p.x25519Public secret) offer answer
      = .ok (p.x25519Public other,source) := by
    unfold remotePublicKey
    rw [hoffer,hmade.key]
    rcases hloc with rfl | rfl
    · exact ⟨answerSecret,true,if_pos rfl⟩
    by_cases hsame : p.x25519Public secret=p.x25519Public offerSecret
    · exact ⟨secret,true,if_pos hsame⟩
    · exact ⟨offerSecret,false,by rw [if_neg hsame,if_pos rfl]⟩
  obtain ⟨other,_,hrmt⟩:=hrmt
  obtain ⟨signedOffer,hsignedOffer⟩:=canonicalSigned_of_verify hoff.verifies
  obtain ⟨signedAnswer,hsign⟩:=canonicalSigned_of_verify hmade.verifies
  obtain ⟨there,hthere⟩:=relayKeyInfo_short offer.sessionId hoff.wireTunnelId hsrc
    hoff.wireTargetPeerId
  obtain ⟨back,hback⟩:=relayKeyInfo_short offer.sessionId hoff.wireTunnelId
    hoff.wireTargetPeerId hsrc
  exact ⟨_,bind_eq_ok.mpr ⟨(),hmade.verifies,ite_error_eq_ok.mpr ⟨not_not.mpr hmade.accepted,
    bind_eq_ok.mpr ⟨_,hrmt,ite_error_eq_ok.mpr ⟨hid.dhContributes secret other,
      bind_eq_ok.mpr ⟨signedOffer,hsignedOffer,bind_eq_ok.mpr ⟨signedAnswer,hsign,
        bind_eq_ok.mpr ⟨there,hthere,bind_eq_ok.mpr ⟨back,hback,rfl⟩⟩⟩⟩⟩⟩⟩⟩⟩

end Lantunnel.Core
