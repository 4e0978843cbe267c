import Lantunnel.Core.Provisioning

/-!
# PeerLink identity binding and Relay key agreement (tp-core/src/peer_link_crypto.rs)

The signed Offer and Answer two Peers exchange to set up a PeerLink: the
canonical byte strings that are signed, hashed and fed to the key derivation
(`peer_link_crypto.rs:91-117`, `:235-264`, `:552-572`), signing and
verification, and the Relay keys both Peers derive.
-/

namespace Lantunnel.Core
open Lib.FieldCodec Lib.RustStd Lib.RustNet

/-! ### Data (peer_link_crypto.rs:32-42, 164-174, 405-427; p2p_types.rs:51-76) -/

inductive CandidateKind
  | host
  | serverReflexive
  deriving DecidableEq

def CandidateKind.asU8 : CandidateKind → UInt8
  | host => 1
  | serverReflexive => 2

def CandidateKind.fromU8 : UInt8 → Option CandidateKind
  | 1 => some host
  | 2 => some serverReflexive
  | _ => none

theorem CandidateKind.fromU8_eq_some {v : UInt8} {kind : CandidateKind} :
    fromU8 v=some kind ↔ v=kind.asU8 := by
  constructor
  · intro h
    unfold fromU8 at h
    split at h
    · cases h
      rfl
    · cases h
      rfl
    · cases h
  · intro h
    subst h
    cases kind <;> rfl

theorem CandidateKind.asU8_inj {a b : CandidateKind} (h : a.asU8=b.asU8) : a=b := by
  revert h
  cases a <;> cases b <;> decide

structure Candidate where
  ip : String
  port : UInt16
  kind : CandidateKind
  deriving DecidableEq

abbrev SessionId := Vector UInt8 16
abbrev CertFingerprint := Vector UInt8 32

structure P2pOfferV2 where
  tunnelId : String
  sessionId : SessionId
  sourcePeerId : String
  targetPeerId : String
  candidates : List Candidate
  directCertificateFingerprint : CertFingerprint
  publicPeerMembership : PublicPeerMembershipV2
  ephemeralX25519PublicKey : Vector UInt8 32
  peerSignature : Vector UInt8 64
  deriving DecidableEq

structure P2pAnswerV2 where
  offerHash : Vector UInt8 32
  acceptedPeerId : String
  accepted : Bool
  reasonCode : UInt8
  candidates : List Candidate
  directCertificateFingerprint : CertFingerprint
  publicPeerMembership : PublicPeerMembershipV2
  ephemeralX25519PublicKey : Vector UInt8 32
  peerSignature : Vector UInt8 64
  deriving DecidableEq

inductive PeerLinkCryptoErrorV2
  | provisioning (error : ProvisioningError)
  | invalidPeerIdentity
  | invalidPeerSignature
  | offerSubstitution
  | invalidAnswerResult
  | invalidCandidate
  | peerLinkRejected (reasonCode : UInt8)
  | ephemeralKeyMismatch
  | nonContributorySharedSecret
  | invalidWireEncoding

-- `From<ProvisioningError>`, which `?` applies
def liftProvisioning {α : Type} : Except ProvisioningError α → Except PeerLinkCryptoErrorV2 α
  | .ok a => .ok a
  | .error e => .error (.provisioning e)

@[simp] theorem liftProvisioning_eq_ok {α : Type} {r : Except ProvisioningError α} {a : α} :
    liftProvisioning r = .ok a ↔ r = .ok a := by
  cases r with
  | ok b | error e => simp [liftProvisioning]

/-! ### Canonical encodings (peer_link_crypto.rs:91-112, 235-258, 355-372, 552-572) -/

def OFFER_DOMAIN_V2 : Bytes := asBytes "lantunnel.offer.v2"
def ANSWER_DOMAIN_V2 : Bytes := asBytes "lantunnel.answer.v2"
def RELAY_KEY_DOMAIN_V2 : Bytes := asBytes "lantunnel.relay.key.v2"

def canonicalContext (domain : Bytes) (fieldValues : List Bytes) :
    Except PeerLinkCryptoErrorV2 Bytes :=
  liftProvisioning (appendFields [] (domain::fieldValues))

def candidateFields (candidate : Candidate) : List Bytes :=
  [asBytes candidate.ip,beBytes 2 candidate.port.toNat,[candidate.kind.asU8]]

-- the count, then three fields for each candidate, in order
def canonicalCandidates (candidates : List Candidate) : Except PeerLinkCryptoErrorV2 Bytes :=
  if candidates.length<2^32 then
    liftProvisioning
      (appendFields [] (beBytes 4 candidates.length::candidates.flatMap candidateFields))
  else
    .error (.provisioning .canonicalFieldTooLarge)

variable (p : Primitives)

def P2pOfferV2.canonicalUnsigned (offer : P2pOfferV2) : Except PeerLinkCryptoErrorV2 Bytes := do
  let candidates ← canonicalCandidates offer.candidates
  let membership ← liftProvisioning (encodePublicMembershipV2 p offer.publicPeerMembership)
  canonicalContext OFFER_DOMAIN_V2 [asBytes offer.tunnelId,offer.sessionId.toList,
    asBytes offer.sourcePeerId,asBytes offer.targetPeerId,candidates,
    offer.directCertificateFingerprint.toList,membership,offer.ephemeralX25519PublicKey.toList]

def P2pOfferV2.canonicalSigned (offer : P2pOfferV2) : Except PeerLinkCryptoErrorV2 Bytes := do
  let encoded ← offer.canonicalUnsigned p
  liftProvisioning (appendField encoded offer.peerSignature.toList)

def P2pAnswerV2.canonicalUnsigned (answer : P2pAnswerV2) : Except PeerLinkCryptoErrorV2 Bytes := do
  let candidates ← canonicalCandidates answer.candidates
  let membership ← liftProvisioning (encodePublicMembershipV2 p answer.publicPeerMembership)
  canonicalContext ANSWER_DOMAIN_V2 [answer.offerHash.toList,asBytes answer.acceptedPeerId,
    [u8OfBool answer.accepted],[answer.reasonCode],candidates,
    answer.directCertificateFingerprint.toList,membership,answer.ephemeralX25519PublicKey.toList]

def P2pAnswerV2.canonicalSigned (answer : P2pAnswerV2) : Except PeerLinkCryptoErrorV2 Bytes := do
  let encoded ← answer.canonicalUnsigned p
  liftProvisioning (appendField encoded answer.peerSignature.toList)

/-- The info string of one direction's Relay key (`peer_link_crypto.rs:355-372`). -/
def relayKeyInfo (tunnelId : String) (sessionId : SessionId) (fromPeerId toPeerId : String) :
    Except PeerLinkCryptoErrorV2 Bytes :=
  canonicalContext RELAY_KEY_DOMAIN_V2
    [asBytes tunnelId,sessionId.toList,asBytes fromPeerId,asBytes toPeerId]

/-! ### Validation (peer_link_crypto.rs:588-606) -/

def MAX_P2P_CANDIDATES_V2 : ℕ := 255

def validateAnswerResult (accepted : Bool) (reasonCode : UInt8) : Except PeerLinkCryptoErrorV2 Unit :=
  if accepted=(reasonCode == 0) then .ok () else .error .invalidAnswerResult

def validateCandidates (candidates : List Candidate) : Except PeerLinkCryptoErrorV2 Unit :=
  if candidates.length>MAX_P2P_CANDIDATES_V2
      ∨ candidates.any (fun candidate => candidate.port=0 || (parseIpAddr candidate.ip).isNone) then
    .error .invalidCandidate
  else
    .ok ()

/-! ### Offers (peer_link_crypto.rs:44-89, 114-117) -/

-- the private half of one negotiation's X25519 key
abbrev PeerLinkEphemeralSecretV2 := Vector UInt8 32

namespace P2pOfferV2

def sign (sourceProfile : PeerProfileV2) (sessionId : SessionId) (targetPeerId : String)
    (candidates : List Candidate) (directCertificateFingerprint : CertFingerprint)
    (ephemeralSecret : PeerLinkEphemeralSecretV2) : Except PeerLinkCryptoErrorV2 P2pOfferV2 := do
  liftProvisioning (sourceProfile.verify p)
  if trim targetPeerId = "" ∨ targetPeerId=sourceProfile.peer.peerId then
    .error .invalidPeerIdentity
  else
    validateCandidates candidates
    let offer : P2pOfferV2 :=
      { tunnelId := sourceProfile.tunnelId
        sessionId
        sourcePeerId := sourceProfile.peer.peerId
        targetPeerId
        candidates
        directCertificateFingerprint
        publicPeerMembership := sourceProfile.publicMembership
        ephemeralX25519PublicKey := p.x25519Public ephemeralSecret
        peerSignature := Vector.replicate 64 0 }
    let message ← offer.canonicalUnsigned p
    let peerSignature ← liftProvisioning (sourceProfile.signPeerMessageV2 p message)
    .ok { offer with peerSignature }

def verify (offer : P2pOfferV2) (tunnelSigningPublicKey : String) :
    Except PeerLinkCryptoErrorV2 Unit :=
  if trim offer.tunnelId = "" ∨ trim offer.sourcePeerId = "" ∨ trim offer.targetPeerId = ""
      ∨ offer.sourcePeerId=offer.targetPeerId
      ∨ offer.publicPeerMembership.tunnelId ≠ offer.tunnelId
      ∨ offer.publicPeerMembership.peerId ≠ offer.sourcePeerId then
    .error .invalidPeerIdentity
  else do
    validateCandidates offer.candidates
    liftProvisioning (offer.publicPeerMembership.verify p tunnelSigningPublicKey)
    let message ← offer.canonicalUnsigned p
    okOr .invalidPeerSignature
      (offer.publicPeerMembership.verifyPeerMessageV2 p message offer.peerSignature).toOption

def signedHash (offer : P2pOfferV2) : Except PeerLinkCryptoErrorV2 (Vector UInt8 32) := do
  let encoded ← offer.canonicalSigned p
  .ok (p.sha256 encoded)

end P2pOfferV2

/-! ### Answers (peer_link_crypto.rs:176-233) -/

namespace P2pAnswerV2

def sign (targetProfile : PeerProfileV2) (offer : P2pOfferV2) (accepted : Bool) (reasonCode : UInt8)
    (candidates : List Candidate) (directCertificateFingerprint : CertFingerprint)
    (ephemeralSecret : PeerLinkEphemeralSecretV2) : Except PeerLinkCryptoErrorV2 P2pAnswerV2 := do
  liftProvisioning (targetProfile.verify p)
  offer.verify p targetProfile.tunnelSigningPublicKey
  if targetProfile.tunnelId ≠ offer.tunnelId ∨ targetProfile.peer.peerId ≠ offer.targetPeerId then
    .error .invalidPeerIdentity
  else
    validateAnswerResult accepted reasonCode
    validateCandidates candidates
    let offerHash ← offer.signedHash p
    let answer : P2pAnswerV2 :=
      { offerHash
        acceptedPeerId := targetProfile.peer.peerId
        accepted
        reasonCode
        candidates
        directCertificateFingerprint
        publicPeerMembership := targetProfile.publicMembership
        ephemeralX25519PublicKey := p.x25519Public ephemeralSecret
        peerSignature := Vector.replicate 64 0 }
    let message ← answer.canonicalUnsigned p
    let peerSignature ← liftProvisioning (targetProfile.signPeerMessageV2 p message)
    .ok { answer with peerSignature }

def verifyForOffer (answer : P2pAnswerV2) (offer : P2pOfferV2) (tunnelSigningPublicKey : String) :
    Except PeerLinkCryptoErrorV2 Unit := do
  offer.verify p tunnelSigningPublicKey
  let offerHash ← offer.signedHash p
  if answer.offerHash ≠ offerHash then .error .offerSubstitution
  else
    validateAnswerResult answer.accepted answer.reasonCode
    validateCandidates answer.candidates
    if answer.acceptedPeerId ≠ offer.targetPeerId
        ∨ answer.publicPeerMembership.tunnelId ≠ offer.tunnelId
        ∨ answer.publicPeerMembership.peerId ≠ answer.acceptedPeerId then
      .error .invalidPeerIdentity
    else
      liftProvisioning (answer.publicPeerMembership.verify p tunnelSigningPublicKey)
      let message ← answer.canonicalUnsigned p
      okOr .invalidPeerSignature
        (answer.publicPeerMembership.verifyPeerMessageV2 p message answer.peerSignature).toOption

end P2pAnswerV2

/-! ### Session keys (peer_link_crypto.rs:324-403) -/

/-- Locally oriented keys: a source's send key is the target's receive key. -/
structure PeerLinkSessionKeysV2 where
  sendKey : Vector UInt8 32
  receiveKey : Vector UInt8 32
  deriving DecidableEq

def remotePublicKey (localPublicKey : Vector UInt8 32) (offer : P2pOfferV2) (answer : P2pAnswerV2) :
    Except PeerLinkCryptoErrorV2 (Vector UInt8 32 × Bool) :=
  if localPublicKey=offer.ephemeralX25519PublicKey then
    .ok (answer.ephemeralX25519PublicKey,true)
  else if localPublicKey=answer.ephemeralX25519PublicKey then
    .ok (offer.ephemeralX25519PublicKey,false)
  else
    .error .ephemeralKeyMismatch

def deriveSessionKeys (secret : PeerLinkEphemeralSecretV2) (offer : P2pOfferV2)
    (answer : P2pAnswerV2) (tunnelSigningPublicKey : String) :
    Except PeerLinkCryptoErrorV2 PeerLinkSessionKeysV2 := do
  answer.verifyForOffer p offer tunnelSigningPublicKey
  if ¬ answer.accepted then .error (.peerLinkRejected answer.reasonCode)
  else
    let remote ← remotePublicKey (p.x25519Public secret) offer answer
    let sharedSecret:=p.x25519 secret remote.1
    if sharedSecret=Vector.replicate 32 0 then .error .nonContributorySharedSecret
    else
      let signedOffer ← offer.canonicalSigned p
      let signedAnswer ← answer.canonicalSigned p
      let transcriptHash:=p.sha256 (signedOffer++signedAnswer)
      let sourceToTargetInfo ←
        relayKeyInfo offer.tunnelId offer.sessionId offer.sourcePeerId offer.targetPeerId
      let targetToSourceInfo ←
        relayKeyInfo offer.tunnelId offer.sessionId offer.targetPeerId offer.sourcePeerId
      let sourceToTarget:=p.hkdf transcriptHash sharedSecret sourceToTargetInfo
      let targetToSource:=p.hkdf transcriptHash sharedSecret targetToSourceInfo
      -- `remote.2`: the local end is the source
      .ok (if remote.2 then ⟨sourceToTarget,targetToSource⟩ else ⟨targetToSource,sourceToTarget⟩)

end Lantunnel.Core
