import Lantunnel.Core.PeerLinkCrypto

/-!
# The signed encodings are unambiguous

Everything the program signs, hashes or derives a key from is one of ten kinds of byte
string (`CanonicalItem`), each a length-prefixed list of fields that starts with the
domain string of its kind.
-/

namespace Lantunnel.Core
open Lib.FieldCodec Lib.RustStd Lib.RustNet
open List hiding Vector

inductive Kind
  | peerMembership
  | publicMembership
  | attachmentProof
  | managedResolveProof
  | platformHeartbeatProof
  | unsignedOffer
  | signedOffer
  | unsignedAnswer
  | signedAnswer
  | relayKeyInfo
  deriving DecidableEq

inductive CanonicalItem
  | peerMembership (tunnelId peerId : String) (overlayIp : Ipv4Addr) (peerPublicKey : Bytes)
  | publicMembership (membership : PublicPeerMembershipV2)
  | attachmentProof (membership : PublicPeerMembershipV2) (challenge : Vector UInt8 32)
      (replicaId : String)
  | managedResolveProof (membership : PublicPeerMembershipV2) (timestamp : UInt64)
      (requestId : String)
  | platformHeartbeatProof (input : PlatformHeartbeatProofV2)
  | unsignedOffer (offer : P2pOfferV2)
  | signedOffer (offer : P2pOfferV2)
  | unsignedAnswer (answer : P2pAnswerV2)
  | signedAnswer (answer : P2pAnswerV2)
  | relayKeyInfo (tunnelId : String) (sessionId : SessionId) (fromPeerId toPeerId : String)

namespace CanonicalItem

def kind : CanonicalItem → Kind
  | peerMembership .. => .peerMembership
  | publicMembership .. => .publicMembership
  | attachmentProof .. => .attachmentProof
  | managedResolveProof .. => .managedResolveProof
  | platformHeartbeatProof .. => .platformHeartbeatProof
  | unsignedOffer .. => .unsignedOffer
  | signedOffer .. => .signedOffer
  | unsignedAnswer .. => .unsignedAnswer
  | signedAnswer .. => .signedAnswer
  | relayKeyInfo .. => .relayKeyInfo

def encode (p : Primitives) : CanonicalItem → Except PeerLinkCryptoErrorV2 Bytes
  | peerMembership tunnelId peerId overlayIp peerPublicKey =>
    liftProvisioning (encodePeerMembershipV2 tunnelId peerId overlayIp peerPublicKey)
  | publicMembership membership => liftProvisioning (encodePublicMembershipV2 p membership)
  | attachmentProof membership challenge replicaId =>
    liftProvisioning (encodeAttachmentProofV2 p membership challenge replicaId)
  | managedResolveProof membership timestamp requestId =>
    liftProvisioning (encodeManagedResolveProofV2 p membership timestamp requestId)
  | platformHeartbeatProof input => liftProvisioning (encodePlatformHeartbeatProofV2 p input)
  | unsignedOffer offer => offer.canonicalUnsigned p
  | signedOffer offer => offer.canonicalSigned p
  | unsignedAnswer answer => answer.canonicalUnsigned p
  | signedAnswer answer => answer.canonicalSigned p
  | relayKeyInfo tunnelId sessionId fromPeerId toPeerId =>
    Core.relayKeyInfo tunnelId sessionId fromPeerId toPeerId

/-- The fields an encoder covers: all of them, except that the unsigned forms
leave the signature out. It is cleared as `sign` clears it before signing. -/
def covered : CanonicalItem → CanonicalItem
  | unsignedOffer offer => unsignedOffer { offer with peerSignature := Vector.replicate 64 0 }
  | unsignedAnswer answer => unsignedAnswer { answer with peerSignature := Vector.replicate 64 0 }
  | item => item

/-- What an encoder hashes: the encoding of the public membership. -/
def hashed (p : Primitives) : CanonicalItem → Option Bytes
  | attachmentProof membership _ _ | managedResolveProof membership _ _ =>
    (encodePublicMembershipV2 p membership).toOption
  | _ => none

end CanonicalItem

def Kind.domain : Kind → Bytes
  | peerMembership => MEMBERSHIP_DOMAIN_V2
  | publicMembership => PUBLIC_MEMBERSHIP_DOMAIN_V2
  | attachmentProof => ATTACHMENT_PROOF_DOMAIN_V2
  | managedResolveProof => MANAGED_RESOLVE_PROOF_DOMAIN_V2
  | platformHeartbeatProof => PLATFORM_HEARTBEAT_PROOF_DOMAIN_V2
  | unsignedOffer | signedOffer => OFFER_DOMAIN_V2
  | unsignedAnswer | signedAnswer => ANSWER_DOMAIN_V2
  | relayKeyInfo => RELAY_KEY_DOMAIN_V2

def Kind.arity : Kind → ℕ
  | peerMembership => 5
  | publicMembership | attachmentProof => 6
  | managedResolveProof => 4
  | platformHeartbeatProof => 9
  | unsignedOffer | unsignedAnswer => 9
  | signedOffer | signedAnswer => 10
  | relayKeyInfo => 5

-- a signed form differs from its unsigned form by the number of fields only
theorem Kind.ext_of_domain_arity {k k' : Kind} (hd : k.domain=k'.domain)
    (ha : k.arity=k'.arity) : k=k' := by
  revert hd ha
  cases k <;> cases k' <;> decide

namespace CanonicalItem

/-- The fields of an item's encoding, where its parts are defined. -/
inductive FieldList (p : Primitives) : CanonicalItem → List Bytes → Prop
  | peerMembership (tunnelId peerId : String) (overlayIp : Ipv4Addr) (peerPublicKey : Bytes) :
    FieldList p (.peerMembership tunnelId peerId overlayIp peerPublicKey)
      [MEMBERSHIP_DOMAIN_V2,asBytes tunnelId,asBytes peerId,octets overlayIp,peerPublicKey]
  | publicMembership (membership : PublicPeerMembershipV2) (key signature : Bytes)
      (hkey : p.base64Decode membership.peerPublicKey=some key)
      (hsig : p.base64Decode membership.membershipSignature=some signature) :
    FieldList p (.publicMembership membership)
      [PUBLIC_MEMBERSHIP_DOMAIN_V2,asBytes membership.tunnelId,asBytes membership.peerId,
        octets membership.overlayIp,key,signature]
  | attachmentProof (membership : PublicPeerMembershipV2) (challenge : Vector UInt8 32)
      (replicaId : String) (encoded : Bytes)
      (hm : encodePublicMembershipV2 p membership = .ok encoded) :
    FieldList p (.attachmentProof membership challenge replicaId)
      [ATTACHMENT_PROOF_DOMAIN_V2,challenge.toList,asBytes membership.tunnelId,
        asBytes membership.peerId,asBytes replicaId,(p.sha256 encoded).toList]
  | managedResolveProof (membership : PublicPeerMembershipV2) (timestamp : UInt64)
      (requestId : String) (encoded : Bytes)
      (hm : encodePublicMembershipV2 p membership = .ok encoded) :
    FieldList p (.managedResolveProof membership timestamp requestId)
      [MANAGED_RESOLVE_PROOF_DOMAIN_V2,(p.sha256 encoded).toList,beBytes 8 timestamp.toNat,
        asBytes requestId]
  | platformHeartbeatProof (input : PlatformHeartbeatProofV2) :
    FieldList p (.platformHeartbeatProof input)
      [PLATFORM_HEARTBEAT_PROOF_DOMAIN_V2,asBytes input.tunnelId,asBytes input.peerId,
        asBytes input.requestId,beBytes 8 input.timestampMs.toNat,asBytes input.clientVersion,
        [u8OfBool input.finalHeartbeat],[u8OfBool input.transportActive],
        asBytes input.pathMode.asStr]
  | unsignedOffer (offer : P2pOfferV2) (candidates membership : Bytes)
      (hc : canonicalCandidates offer.candidates = .ok candidates)
      (hm : encodePublicMembershipV2 p offer.publicPeerMembership = .ok membership) :
    FieldList p (.unsignedOffer offer)
      [OFFER_DOMAIN_V2,asBytes offer.tunnelId,offer.sessionId.toList,
        asBytes offer.sourcePeerId,asBytes offer.targetPeerId,candidates,
        offer.directCertificateFingerprint.toList,membership,
        offer.ephemeralX25519PublicKey.toList]
  | signedOffer (offer : P2pOfferV2) (values : List Bytes)
      (hu : FieldList p (.unsignedOffer offer) values) :
    FieldList p (.signedOffer offer) (values++[offer.peerSignature.toList])
  | unsignedAnswer (answer : P2pAnswerV2) (candidates membership : Bytes)
      (hc : canonicalCandidates answer.candidates = .ok candidates)
      (hm : encodePublicMembershipV2 p answer.publicPeerMembership = .ok membership) :
    FieldList p (.unsignedAnswer answer)
      [ANSWER_DOMAIN_V2,answer.offerHash.toList,asBytes answer.acceptedPeerId,
        [u8OfBool answer.accepted],[answer.reasonCode],candidates,
        answer.directCertificateFingerprint.toList,membership,
        answer.ephemeralX25519PublicKey.toList]
  | signedAnswer (answer : P2pAnswerV2) (values : List Bytes)
      (hu : FieldList p (.unsignedAnswer answer) values) :
    FieldList p (.signedAnswer answer) (values++[answer.peerSignature.toList])
  | relayKeyInfo (tunnelId : String) (sessionId : SessionId) (fromPeerId toPeerId : String) :
    FieldList p (.relayKeyInfo tunnelId sessionId fromPeerId toPeerId)
      [RELAY_KEY_DOMAIN_V2,asBytes tunnelId,sessionId.toList,asBytes fromPeerId,
        asBytes toPeerId]

variable {p : Primitives} {item item' : CanonicalItem} {vs vs' : List Bytes}

theorem FieldList.head_domain (h : FieldList p item vs) : vs.head?=some item.kind.domain := by
  induction h with
  | signedOffer offer values hu ih | signedAnswer answer values hu ih =>
    rw [head?_append,ih]
    rfl
  | _ => rfl

theorem FieldList.length_arity (h : FieldList p item vs) : vs.length=item.kind.arity := by
  induction h with
  | signedOffer offer values hu ih | signedAnswer answer values hu ih =>
    rw [length_append,ih]
    rfl
  | _ => rfl

theorem FieldList.kind_eq (h : FieldList p item vs) (h' : FieldList p item' vs) :
    item.kind=item'.kind := by
  apply Kind.ext_of_domain_arity
  · exact Option.some.inj (h.head_domain.symm.trans h'.head_domain)
  · exact h.length_arity.symm.trans h'.length_arity

end CanonicalItem

section Spec
variable {p : Primitives} {b : Bytes}

theorem decodePublicKey_ok {encoded : String} (h : decodePublicKey p encoded = .ok b) :
    p.base64Decode encoded=some b := by
  obtain ⟨_,hbs,h⟩:=bind_eq_ok.mp h
  obtain ⟨-,hb⟩:=ite_error_eq_ok.mp h
  rw [okOr_eq_ok.mp hbs,Except.ok.inj hb]

variable {membership : PublicPeerMembershipV2}

theorem encodePublicMembershipV2_ok (h : encodePublicMembershipV2 p membership = .ok b) :
    ∃ vs, CanonicalItem.FieldList p (.publicMembership membership) vs ∧
      appendFields [] vs = .ok b := by
  obtain ⟨_,hkey,h⟩:=bind_eq_ok.mp h
  obtain ⟨_,hsig,h⟩:=bind_eq_ok.mp h
  exact ⟨_,.publicMembership _ _ _ (decodePublicKey_ok hkey) (okOr_eq_ok.mp hsig),h⟩

theorem encodeAttachmentProofV2_ok {challenge : Vector UInt8 32} {replicaId : String}
    (h : encodeAttachmentProofV2 p membership challenge replicaId = .ok b) :
    ∃ vs, CanonicalItem.FieldList p (.attachmentProof membership challenge replicaId) vs ∧
      appendFields [] vs = .ok b := by
  obtain ⟨-,h⟩:=ite_error_eq_ok.mp h
  obtain ⟨_,hm,h⟩:=bind_eq_ok.mp h
  exact ⟨_,.attachmentProof _ _ _ _ hm,h⟩

theorem encodeManagedResolveProofV2_ok {timestamp : UInt64} {requestId : String}
    (h : encodeManagedResolveProofV2 p membership timestamp requestId = .ok b) :
    ∃ vs, CanonicalItem.FieldList p (.managedResolveProof membership timestamp requestId) vs ∧
      appendFields [] vs = .ok b := by
  obtain ⟨-,h⟩:=ite_error_eq_ok.mp h
  obtain ⟨_,hm,h⟩:=bind_eq_ok.mp h
  exact ⟨_,.managedResolveProof _ _ _ _ hm,h⟩

theorem encodePlatformHeartbeatProofV2_ok {input : PlatformHeartbeatProofV2}
    (h : encodePlatformHeartbeatProofV2 p input = .ok b) :
    ∃ vs, CanonicalItem.FieldList p (.platformHeartbeatProof input) vs ∧
      appendFields [] vs = .ok b := by
  obtain ⟨-,h⟩:=ite_error_eq_ok.mp h
  exact ⟨_,.platformHeartbeatProof input,h⟩

theorem canonicalContext_ok {domain : Bytes} {values : List Bytes}
    (h : canonicalContext domain values = .ok b) : appendFields [] (domain::values) = .ok b :=
  liftProvisioning_eq_ok.mp h

theorem P2pOfferV2.canonicalUnsigned_ok {offer : P2pOfferV2}
    (h : offer.canonicalUnsigned p = .ok b) :
    ∃ vs, CanonicalItem.FieldList p (.unsignedOffer offer) vs ∧ appendFields [] vs = .ok b := by
  obtain ⟨_,hc,h⟩:=bind_eq_ok.mp h
  obtain ⟨_,hm,h⟩:=bind_eq_ok.mp h
  exact ⟨_,.unsignedOffer _ _ _ hc (liftProvisioning_eq_ok.mp hm),canonicalContext_ok h⟩

theorem P2pAnswerV2.canonicalUnsigned_ok {answer : P2pAnswerV2}
    (h : answer.canonicalUnsigned p = .ok b) :
    ∃ vs, CanonicalItem.FieldList p (.unsignedAnswer answer) vs ∧ appendFields [] vs = .ok b := by
  obtain ⟨_,hc,h⟩:=bind_eq_ok.mp h
  obtain ⟨_,hm,h⟩:=bind_eq_ok.mp h
  exact ⟨_,.unsignedAnswer _ _ _ hc (liftProvisioning_eq_ok.mp hm),canonicalContext_ok h⟩

theorem appendFields_append_ok {vs : List Bytes} {mid v : Bytes}
    (h : appendFields [] vs = .ok mid) (hv : appendField mid v = .ok b) :
    appendFields [] (vs++[v]) = .ok b := by
  obtain ⟨hfits,rfl⟩:=pushFields_eq_ok.mp h
  obtain ⟨hvfits,rfl⟩:=pushField_eq_ok.mp hv
  refine pushFields_eq_ok.mpr ⟨?_,by simp⟩
  intro u hu
  rcases mem_append.mp hu with hu | hu
  · exact hfits u hu
  rw [mem_singleton.mp hu]
  exact hvfits

theorem CanonicalItem.encode_ok {item : CanonicalItem} (h : item.encode p = .ok b) :
    ∃ vs, FieldList p item vs ∧ appendFields [] vs = .ok b := by
  cases item with
  | peerMembership tunnelId peerId overlayIp key =>
    exact ⟨_,.peerMembership tunnelId peerId overlayIp key,liftProvisioning_eq_ok.mp h⟩
  | publicMembership =>
    exact encodePublicMembershipV2_ok (liftProvisioning_eq_ok.mp h)
  | attachmentProof =>
    exact encodeAttachmentProofV2_ok (liftProvisioning_eq_ok.mp h)
  | managedResolveProof =>
    exact encodeManagedResolveProofV2_ok (liftProvisioning_eq_ok.mp h)
  | platformHeartbeatProof =>
    exact encodePlatformHeartbeatProofV2_ok (liftProvisioning_eq_ok.mp h)
  | unsignedOffer offer => exact offer.canonicalUnsigned_ok h
  | unsignedAnswer answer => exact answer.canonicalUnsigned_ok h
  | signedOffer offer =>
    obtain ⟨_,hmid,hlast⟩:=bind_eq_ok.mp h
    obtain ⟨vs,hvs,happ⟩:=offer.canonicalUnsigned_ok hmid
    exact ⟨_,.signedOffer offer vs hvs,
      appendFields_append_ok happ (liftProvisioning_eq_ok.mp hlast)⟩
  | signedAnswer answer =>
    obtain ⟨_,hmid,hlast⟩:=bind_eq_ok.mp h
    obtain ⟨vs,hvs,happ⟩:=answer.canonicalUnsigned_ok hmid
    exact ⟨_,.signedAnswer answer vs hvs,
      appendFields_append_ok happ (liftProvisioning_eq_ok.mp hlast)⟩
  | relayKeyInfo tunnelId sessionId fromPeerId toPeerId =>
    exact ⟨_,.relayKeyInfo tunnelId sessionId fromPeerId toPeerId,canonicalContext_ok h⟩

theorem appendFields_inj {vs ws : List Bytes} (h : appendFields [] vs = .ok b)
    (h' : appendFields [] ws = .ok b) : vs=ws := by
  obtain ⟨hvs,rfl⟩:=pushFields_eq_ok.mp h
  obtain ⟨hws,heq⟩:=pushFields_eq_ok.mp h'
  exact fields_inj (by norm_num) hvs hws heq

end Spec

section Recover
variable {p : Primitives} {b : Bytes}

theorem flatMap_candidateFields_inj {cs ds : List Candidate}
    (h : cs.flatMap candidateFields=ds.flatMap candidateFields) : cs=ds := by
  induction cs generalizing ds with
  | nil =>
    cases ds with
    | nil => rfl
    | cons => simp [candidateFields] at h
  | cons c cs ih =>
    cases ds with
    | nil => simp [candidateFields] at h
    | cons d =>
      simp only [flatMap_cons,candidateFields,cons_append,nil_append,cons.injEq,
        and_true] at h
      obtain ⟨hip,hport,hkind,hrest⟩:=h
      have hcd : c=d := by
        have hport : c.port=d.port :=
          UInt16.toNat_inj.mp (beBytes_inj c.port.toNat_lt d.port.toNat_lt hport)
        cases c
        cases d
        simp only [Candidate.mk.injEq]
        exact ⟨asBytes_inj hip,hport,CandidateKind.asU8_inj hkind⟩
      rw [hcd,ih hrest]

theorem canonicalCandidates_inj {cs ds : List Candidate} (h : canonicalCandidates cs = .ok b)
    (h' : canonicalCandidates ds = .ok b) : cs=ds := by
  unfold canonicalCandidates at h h'
  split_ifs at h h'
  have hfields:=appendFields_inj (liftProvisioning_eq_ok.mp h) (liftProvisioning_eq_ok.mp h')
  exact flatMap_candidateFields_inj (cons.inj hfields).2

variable {m m' : PublicPeerMembershipV2} {vs vs' : List Bytes}

section
variable (hb64 : p.Base64Injective)
include hb64

theorem publicMembership_inj (h : CanonicalItem.FieldList p (.publicMembership m) vs)
    (h' : CanonicalItem.FieldList p (.publicMembership m') vs') (heq : vs=vs') : m=m' := by
  cases h with
  | publicMembership _ key signature hkey hsig =>
    cases h' with
    | publicMembership _ key' signature' hkey' hsig' =>
      simp only [cons.injEq,and_true,true_and] at heq
      obtain ⟨htun,hpeer,hip,rfl,rfl⟩:=heq
      cases m
      cases m'
      simp only [PublicPeerMembershipV2.mk.injEq]
      exact ⟨asBytes_inj htun,asBytes_inj hpeer,octets_inj hip,
        hb64 _ _ _ hkey hkey',hb64 _ _ _ hsig hsig'⟩

theorem encodePublicMembershipV2_inj
    (h : encodePublicMembershipV2 p m = .ok b) (h' : encodePublicMembershipV2 p m' = .ok b) :
    m=m' := by
  obtain ⟨_,hvs,happ⟩:=encodePublicMembershipV2_ok h
  obtain ⟨_,hws,happ'⟩:=encodePublicMembershipV2_ok h'
  exact publicMembership_inj hb64 hvs hws (appendFields_inj happ happ')

theorem unsignedOffer_inj {o o' : P2pOfferV2} (h : CanonicalItem.FieldList p (.unsignedOffer o) vs)
    (h' : CanonicalItem.FieldList p (.unsignedOffer o') vs') (heq : vs=vs')
    (signature : Vector UInt8 64) :
    { o with peerSignature := signature }={ o' with peerSignature := signature } := by
  cases h with
  | unsignedOffer _ candidates membership hc hm =>
    cases h' with
    | unsignedOffer _ candidates' membership' hc' hm' =>
      simp only [cons.injEq,and_true,true_and] at heq
      obtain ⟨htun,hsess,hsrc,htgt,rfl,hcert,rfl,heph⟩:=heq
      simp only [P2pOfferV2.mk.injEq,and_true]
      exact ⟨asBytes_inj htun,Vector.toList_inj.mp hsess,asBytes_inj hsrc,
        asBytes_inj htgt,canonicalCandidates_inj hc hc',Vector.toList_inj.mp hcert,
        encodePublicMembershipV2_inj hb64 hm hm',Vector.toList_inj.mp heph⟩

theorem unsignedAnswer_inj {a a' : P2pAnswerV2}
    (h : CanonicalItem.FieldList p (.unsignedAnswer a) vs)
    (h' : CanonicalItem.FieldList p (.unsignedAnswer a') vs') (heq : vs=vs')
    (signature : Vector UInt8 64) :
    { a with peerSignature := signature }={ a' with peerSignature := signature } := by
  cases h with
  | unsignedAnswer _ candidates membership hc hm =>
    cases h' with
    | unsignedAnswer _ candidates' membership' hc' hm' =>
      simp only [cons.injEq,and_true,true_and] at heq
      obtain ⟨hhash,hpeer,hacc,hwhy,rfl,hcert,rfl,heph⟩:=heq
      simp only [P2pAnswerV2.mk.injEq,and_true]
      exact ⟨Vector.toList_inj.mp hhash,asBytes_inj hpeer,u8OfBool_inj hacc,hwhy,
        canonicalCandidates_inj hc hc',Vector.toList_inj.mp hcert,
        encodePublicMembershipV2_inj hb64 hm hm',Vector.toList_inj.mp heph⟩

end

theorem signed_values_inj {values values' : List Bytes} {s s' : Vector UInt8 64}
    (h : values++[s.toList]=values'++[s'.toList]) : values=values' ∧ s=s' := by
  obtain ⟨hvals,hlast⟩:=append_inj' h rfl
  exact ⟨hvals,Vector.toList_inj.mp (cons.inj hlast).1⟩

theorem signedOffer_inj (hb64 : p.Base64Injective) {o o' : P2pOfferV2}
    (h : CanonicalItem.FieldList p (.signedOffer o) vs)
    (h' : CanonicalItem.FieldList p (.signedOffer o') vs') (heq : vs=vs') : o=o' := by
  cases h with
  | signedOffer _ values hu =>
    cases h' with
    | signedOffer _ values' hu' =>
      obtain ⟨hvals,hsig⟩:=signed_values_inj heq
      have ho:=unsignedOffer_inj hb64 hu hu' hvals o.peerSignature
      exact ho.trans (by rw [hsig])

theorem signedAnswer_inj (hb64 : p.Base64Injective) {a a' : P2pAnswerV2}
    (h : CanonicalItem.FieldList p (.signedAnswer a) vs)
    (h' : CanonicalItem.FieldList p (.signedAnswer a') vs') (heq : vs=vs') : a=a' := by
  cases h with
  | signedAnswer _ values hu =>
    cases h' with
    | signedAnswer _ values' hu' =>
      obtain ⟨hvals,hsig⟩:=signed_values_inj heq
      have ha:=unsignedAnswer_inj hb64 hu hu' hvals a.peerSignature
      exact ha.trans (by rw [hsig])

/-- The digests of two items' memberships do not collide. -/
def CanonicalItem.NoCollision (p : Primitives) (item item' : CanonicalItem) : Prop :=
  ∀ x ∈ item.hashed p, ∀ y ∈ item'.hashed p, p.sha256 x=p.sha256 y → x=y

theorem membership_of_digest (hb64 : p.Base64Injective)
    {e e' : Bytes} (hm : encodePublicMembershipV2 p m = .ok e)
    (hm' : encodePublicMembershipV2 p m' = .ok e') (hsha : p.sha256 e=p.sha256 e' → e=e')
    (heq : (p.sha256 e).toList=(p.sha256 e').toList) : m=m' := by
  have he : e=e' := hsha (Vector.toList_inj.mp heq)
  subst he
  exact encodePublicMembershipV2_inj hb64 hm hm'

theorem timestamp_of_bytes {t t' : UInt64} (h : beBytes 8 t.toNat=beBytes 8 t'.toNat) : t=t' :=
  UInt64.toNat_inj.mp (beBytes_inj t.toNat_lt t'.toNat_lt h)

theorem CanonicalItem.FieldList.covered_eq (hb64 : p.Base64Injective)
    {item item' : CanonicalItem} (hsha : item.NoCollision p item')
    (h : FieldList p item vs) (h' : FieldList p item' vs') (hk : item.kind=item'.kind)
    (heq : vs=vs') : item.covered=item'.covered := by
  cases item with
  | peerMembership =>
    cases item' <;> cases hk
    cases h
    cases h'
    simp only [cons.injEq,and_true,true_and] at heq
    obtain ⟨htun,hpeer,hip,hkey⟩:=heq
    rw [asBytes_inj htun,asBytes_inj hpeer,octets_inj hip,hkey]
  | publicMembership =>
    cases item' <;> cases hk
    rw [publicMembership_inj hb64 h h' heq]
  | attachmentProof =>
    cases item' <;> cases hk
    cases h with | attachmentProof _ _ _ e hm =>
    cases h' with
    | attachmentProof _ _ _ e' hm' =>
      simp only [cons.injEq,and_true,true_and] at heq
      obtain ⟨hchallenge,-,-,hrep,hdig⟩:=heq
      have hsha:=hsha e (by simp [hashed,hm,Except.toOption]) e'
        (by simp [hashed,hm',Except.toOption])
      rw [Vector.toList_inj.mp hchallenge,asBytes_inj hrep,
        membership_of_digest hb64 hm hm' hsha hdig]
  | managedResolveProof =>
    cases item' <;> cases hk
    cases h with | managedResolveProof _ _ _ e hm =>
    cases h' with
    | managedResolveProof _ _ _ e' hm' =>
      simp only [cons.injEq,and_true,true_and] at heq
      obtain ⟨hdig,htime,hreq⟩:=heq
      have hsha:=hsha e (by simp [hashed,hm,Except.toOption]) e'
        (by simp [hashed,hm',Except.toOption])
      rw [timestamp_of_bytes htime,asBytes_inj hreq,
        membership_of_digest hb64 hm hm' hsha hdig]
  | platformHeartbeatProof input =>
    cases item' <;> cases hk
    case platformHeartbeatProof input' =>
      cases h
      cases h'
      simp only [cons.injEq,and_true,true_and] at heq
      obtain ⟨htun,hpeer,hreq,htime,hver,hfinal,hact,hmode⟩:=heq
      cases input
      cases input'
      simp only [covered,CanonicalItem.platformHeartbeatProof.injEq,
        PlatformHeartbeatProofV2.mk.injEq]
      exact ⟨asBytes_inj htun,asBytes_inj hpeer,asBytes_inj hreq,
        timestamp_of_bytes htime,asBytes_inj hver,u8OfBool_inj hfinal,
        u8OfBool_inj hact,PlatformHeartbeatPathModeV2.asStr_inj (asBytes_inj hmode)⟩
  | unsignedOffer =>
    cases item' <;> cases hk
    simp only [covered,unsignedOffer_inj hb64 h h' heq]
  | signedOffer =>
    cases item' <;> cases hk
    rw [signedOffer_inj hb64 h h' heq]
  | unsignedAnswer =>
    cases item' <;> cases hk
    simp only [covered,unsignedAnswer_inj hb64 h h' heq]
  | signedAnswer =>
    cases item' <;> cases hk
    rw [signedAnswer_inj hb64 h h' heq]
  | relayKeyInfo =>
    cases item' <;> cases hk
    cases h
    cases h'
    simp only [cons.injEq,and_true,true_and] at heq
    obtain ⟨htun,hsess,hfrom,hto⟩:=heq
    rw [asBytes_inj htun,Vector.toList_inj.mp hsess,asBytes_inj hfrom,asBytes_inj hto]

end Recover

/-- The signed encodings are unambiguous: equal bytes come from the same kind
of item with the same value in every field the encoder covers. -/
theorem canonicalItem_encode_unambiguous (p : Primitives) (hb64 : p.Base64Injective)
    (item item' : CanonicalItem) (hsha : item.NoCollision p item') (b : Bytes)
    (h : item.encode p = .ok b) (h' : item'.encode p = .ok b) :
    item.kind = item'.kind ∧ item.covered = item'.covered := by
  obtain ⟨vs,hvs,happ⟩:=CanonicalItem.encode_ok h
  obtain ⟨ws,hws,happ'⟩:=CanonicalItem.encode_ok h'
  have heq : vs=ws := appendFields_inj happ happ'
  have hkind : item.kind=item'.kind := hvs.kind_eq (heq ▸ hws)
  exact ⟨hkind,hvs.covered_eq hb64 hsha hws hkind heq⟩

def zeroKeyPrimitives : Primitives where
  base64Decode s :=
    if s = "AAAAAAAAAAAAAAAAAAAAAAAAAAAAAAAAAAAAAAAAAAA=" then some (replicate 32 0)
    else if s = "" then some [] else none
  sha256 _ := Vector.replicate 32 0
  pemReadAll _ := []
  uuidParses _ := false
  ed25519Sign _ _ := none
  ed25519Public _ := none
  ed25519Verify _ _ _ := false
  x25519Public key := key
  x25519 _ key := key
  hkdf _ key _ := key

/-- An Offer whose signature has this byte everywhere. -/
def zeroKeyOffer (signature : UInt8) : CanonicalItem :=
  .unsignedOffer
    { tunnelId := "t", sessionId := Vector.replicate 16 0, sourcePeerId := "a", targetPeerId := "b",
      candidates := [], directCertificateFingerprint := Vector.replicate 32 0,
      publicPeerMembership :=
        { tunnelId := "t", peerId := "a", overlayIp := 0xc6120001,
          peerPublicKey := "AAAAAAAAAAAAAAAAAAAAAAAAAAAAAAAAAAAAAAAAAAA=",
          membershipSignature := "" },
      ephemeralX25519PublicKey := Vector.replicate 32 0,
      peerSignature := Vector.replicate 64 signature }

theorem zeroKeyPrimitives_base64Injective : zeroKeyPrimitives.Base64Injective := by
  intro s t b hs ht
  simp only [zeroKeyPrimitives] at hs ht
  split_ifs at hs ht <;> simp_all

theorem canonicalItem_encode_unambiguous_offer :
    ∃ b, (zeroKeyOffer 0).encode zeroKeyPrimitives = .ok b ∧
      (zeroKeyOffer 1).encode zeroKeyPrimitives = .ok b ∧ zeroKeyOffer 0 ≠ zeroKeyOffer 1 ∧
      (zeroKeyOffer 0).kind = (zeroKeyOffer 1).kind ∧
      (zeroKeyOffer 0).covered = (zeroKeyOffer 1).covered := by
  have hsome : (((zeroKeyOffer 0).encode zeroKeyPrimitives).toOption).isSome=true := by decide
  have hne : zeroKeyOffer 0≠zeroKeyOffer 1 := by simp [zeroKeyOffer]
  have hsha : (zeroKeyOffer 0).NoCollision zeroKeyPrimitives (zeroKeyOffer 1) := by
    intro x hx
    cases hx
  -- the encoder does not read the signature
  have hsame : (zeroKeyOffer 1).encode zeroKeyPrimitives=(zeroKeyOffer 0).encode zeroKeyPrimitives :=
    rfl
  rcases hb : (zeroKeyOffer 0).encode zeroKeyPrimitives with e | b
  · rw [hb] at hsome
    cases hsome
  · exact ⟨b,rfl,hsame.trans hb,hne,
      canonicalItem_encode_unambiguous zeroKeyPrimitives zeroKeyPrimitives_base64Injective _ _ hsha b
        hb (hsame.trans hb)⟩

end Lantunnel.Core
