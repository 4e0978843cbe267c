import Lantunnel.Lib.CrossedOffers
import Lantunnel.Core.PeerLinkSigning
import Lantunnel.Client.Engine

/-!
# Relay-only PeerLink negotiation (tp-client/src/p2p/manager.rs)

How a Peer offers, accepts and rejects PeerLinks that run over the Relay only
(manager.rs:1361-1434, 2481-2581, 2755-2845), and two Peers of one Tunnel that exchange
their messages in order and without loss.
-/

namespace Lantunnel.Client
open Lib FieldCodec RustStd Core
open Lib.CrossedOffers (Side)

/-! ### Relations (peer_link_manager.rs:263-302) -/

inductive RelationRole
  | initiator
  | acceptor
  deriving DecidableEq

structure PeerRelationKey where
  firstPeerFamily : String
  secondPeerFamily : String
  laneIndex : ℕ
  deriving DecidableEq

def PeerRelationKey.fromStablePeers (first second : String) (laneIndex : ℕ) :
    Except String PeerRelationKey :=
  if trim first = "" ∨ trim second = "" then .error "empty stable Peer identity"
  else if first=second then .error "same stable Peer identity"
  else if strLt first second then .ok ⟨first,second,laneIndex⟩
  else .ok ⟨second,first,laneIndex⟩

/-! ### The manager (manager.rs:250-330) -/

structure PendingV2Offer where
  offer : P2pOfferV2
  ephemeralSecret : PeerLinkEphemeralSecretV2

structure PeerContext where
  meshRelationKey : Option PeerRelationKey

inductive PeerLinkMessage
  | p2pOfferV2 (sourcePeerId targetPeerId : String) (signedOffer : Bytes)
  | p2pAnswerV2 (sourcePeerId targetPeerId : String) (signedAnswer : Bytes)

structure P2pManager where
  v2Profile : Option PeerProfileV2
  certFp : CertFingerprint
  -- whether `peer_link_manager` is set
  peerLinkManager : Bool
  v2CurrentPeerAuthoritySource : Option (String → Bool)
  pendingV2Offers : Table SessionId PendingV2Offer
  peerContexts : Table SessionId PeerContext
  -- the engine's table, filled by `v2_peer_link_sink`
  v2PeerLinks : Table String V2PeerLinkCryptoContext

/-- What happens to Offers and Answers with usable candidates. -/
structure DirectLane where
  usable : Candidate → Bool
  offer : P2pManager → P2pOfferV2 → P2pManager × List PeerLinkMessage
  answer : P2pManager → SessionId → P2pAnswerV2 → P2pManager × List PeerLinkMessage

def V2_REJECT_RELATION_BUSY : UInt8 := 3

namespace P2pManager
variable (p : Primitives) (m : P2pManager)

/-- `installed`: whether a P2P session is live or pending for the relation. -/
def meshRelationIsOccupied (installed : Bool) (key : PeerRelationKey) : Bool :=
  (m.peerContexts.pairs.any fun (_,context) => context.meshRelationKey=some key) || installed

def crossedV2RelayOnlyOffer (incoming : P2pOfferV2) : Option (SessionId × RelationRole) :=
  if ¬ m.peerLinkManager ∨ incoming.candidates ≠ [] then none
  else do
    let relation ←
      (PeerRelationKey.fromStablePeers incoming.sourcePeerId incoming.targetPeerId 0).toOption
    let (pendingSession,_) ← m.pendingV2Offers.pairs.find? fun (sessionId,pending) =>
      pending.offer.candidates=[] && pending.offer.sourcePeerId=incoming.targetPeerId
        && pending.offer.targetPeerId=incoming.sourcePeerId
        && (m.peerContexts.get sessionId).bind (·.meshRelationKey)=some relation
    some (pendingSession,
      if incoming.sourcePeerId=relation.firstPeerFamily then .initiator else .acceptor)

/-- `cleanup_session_attempt` (manager.rs:1696-1739) without the retry queue. -/
def cleanupSessionAttempt (sessionId : SessionId) : P2pManager :=
  { m with
    pendingV2Offers := m.pendingV2Offers.remove sessionId
    peerContexts := m.peerContexts.remove sessionId }

/-- `install_v2_peer_link` (engine.rs:3444-3465), the end of `v2_peer_link_sink`. -/
def installV2PeerLink (profile : PeerProfileV2) (remotePeerId : String) (sessionId : SessionId)
    (keys : PeerLinkSessionKeysV2) : P2pManager :=
  if trim remotePeerId = "" ∨ remotePeerId=profile.peer.peerId then m
  else
    { m with
      v2PeerLinks := m.v2PeerLinks.insert remotePeerId
        ⟨sessionId,⟨keys.sendKey,keys.receiveKey⟩⟩ }

/-! ### Offering (manager.rs:1361-1434) -/

def tryInitiateV2RelayOnly (peerClientId : String) (meshRelationKey : Option PeerRelationKey)
    (sessionId : SessionId) (ephemeralSecret : PeerLinkEphemeralSecretV2) :
    Except String Unit × P2pManager × List PeerLinkMessage :=
  match m.v2Profile with
  | none => (.error "V2 Peer profile is unavailable",m,[])
  | some profile =>
    match P2pOfferV2.sign p profile sessionId peerClientId [] m.certFp ephemeralSecret with
    | .error _ =>
      (.error "could not sign V2 Relay-only offer",m.cleanupSessionAttempt sessionId,[])
    | .ok signedOffer =>
      match signedOffer.toWireBytes with
      | .error _ =>
        (.error "could not encode V2 Relay-only offer",m.cleanupSessionAttempt sessionId,[])
      | .ok wire =>
        (.ok (),
          { m with
            pendingV2Offers := m.pendingV2Offers.insert sessionId ⟨signedOffer,ephemeralSecret⟩
            peerContexts := m.peerContexts.insert sessionId ⟨meshRelationKey⟩ },
          [.p2pOfferV2 profile.peer.peerId peerClientId wire])

/-! ### Answering (manager.rs:2450-2581) -/

def sendV2Rejection (profile : PeerProfileV2) (offer : P2pOfferV2) (reasonCode : UInt8)
    (secret : PeerLinkEphemeralSecretV2) : List PeerLinkMessage :=
  let result:=do
    let answer ← P2pAnswerV2.sign p profile offer false reasonCode [] m.certFp secret
    answer.toWireBytes
  match result with
  | .error _ => []
  | .ok wire => [.p2pAnswerV2 profile.peer.peerId offer.sourcePeerId wire]

def relayOnlyAcceptance (profile : PeerProfileV2) (offer : P2pOfferV2)
    (answerSecret : PeerLinkEphemeralSecretV2) :
    Except PeerLinkCryptoErrorV2 (Bytes × PeerLinkSessionKeysV2) := do
  let answer ← P2pAnswerV2.sign p profile offer true 0 [] m.certFp answerSecret
  let wire ← answer.toWireBytes
  let keys ← deriveSessionKeys p answerSecret offer answer profile.tunnelSigningPublicKey
  .ok (wire,keys)

/-- `secret`: the ephemeral secret generated for the Answer. -/
def handleV2Offer (direct : DirectLane) (outerSourcePeerId outerTargetPeerId : String)
    (signedOffer : Bytes) (secret : PeerLinkEphemeralSecretV2) :
    P2pManager × List PeerLinkMessage :=
  match m.v2Profile, P2pOfferV2.fromWireBytes signedOffer with
  | some profile, .ok offer =>
    if outerSourcePeerId ≠ offer.sourcePeerId ∨ outerTargetPeerId ≠ offer.targetPeerId
        ∨ offer.targetPeerId ≠ profile.peer.peerId ∨ offer.tunnelId ≠ profile.tunnelId
        ∨ (offer.verify p profile.tunnelSigningPublicKey).toOption=none then
      (m,[])
    else if m.v2CurrentPeerAuthoritySource.any fun source => !source offer.sourcePeerId then
      (m,[])
    else if offer.candidates.filter direct.usable ≠ [] then direct.offer m offer
    else
      let crossed:=m.crossedV2RelayOnlyOffer offer
      if crossed.any fun (_,role) => role = .acceptor then
        (m,m.sendV2Rejection p profile offer V2_REJECT_RELATION_BUSY secret)
      else
        match m.relayOnlyAcceptance p profile offer secret with
        | .error _ => (m,[])
        | .ok (wire,keys) =>
          let cancelled:=match crossed with
            | some (pendingSession,_) => m.cleanupSessionAttempt pendingSession
            | none => m
          (cancelled.installV2PeerLink profile offer.sourcePeerId offer.sessionId keys,
            [.p2pAnswerV2 profile.peer.peerId offer.sourcePeerId wire])
  | _, _ => (m,[])

/-! ### The answer to an Offer (manager.rs:2755-2845) -/

def handleV2Answer (direct : DirectLane) (outerSourcePeerId outerTargetPeerId : String)
    (signedAnswer : Bytes) : P2pManager × List PeerLinkMessage :=
  match m.v2Profile, P2pAnswerV2.fromWireBytes signedAnswer with
  | some profile, .ok answer =>
    if outerTargetPeerId ≠ profile.peer.peerId then (m,[])
    else
      match m.pendingV2Offers.pairs.find? fun (_,pending) =>
        (pending.offer.signedHash p).toOption=some answer.offerHash with
      | none => (m,[])
      | some (sessionId,pending) =>
        if outerSourcePeerId ≠ pending.offer.targetPeerId
            ∨ outerTargetPeerId ≠ pending.offer.sourcePeerId
            ∨ (answer.verifyForOffer p pending.offer profile.tunnelSigningPublicKey).toOption
              = none then
          (m,[])
        else if ¬ answer.accepted then (m.cleanupSessionAttempt sessionId,[])
        else if m.v2CurrentPeerAuthoritySource.any fun source => !source pending.offer.targetPeerId
        then (m.cleanupSessionAttempt sessionId,[])
        else if answer.candidates.filter direct.usable ≠ [] then direct.answer m sessionId answer
        else
          match deriveSessionKeys p pending.ephemeralSecret pending.offer answer
            profile.tunnelSigningPublicKey with
          | .error _ => (m.cleanupSessionAttempt sessionId,[])
          | .ok keys =>
            ((m.installV2PeerLink profile answer.acceptedPeerId sessionId keys).cleanupSessionAttempt
              sessionId,[])
  | _, _ => (m,[])

def handleMessage (direct : DirectLane) (secret : PeerLinkEphemeralSecretV2) :
    PeerLinkMessage → P2pManager × List PeerLinkMessage
  | .p2pOfferV2 source target signedOffer => m.handleV2Offer p direct source target signedOffer secret
  | .p2pAnswerV2 source target signedAnswer => m.handleV2Answer p direct source target signedAnswer

end P2pManager

def otherSide : Side → Side
  | .first => .second
  | .second => .first

/-- Two Peers of one Tunnel, each a current member for the other. -/
structure TunnelPeers (p : Primitives) where
  profile : Side → PeerProfileV2
  certFp : Side → CertFingerprint
  currentPeer : Side → Option (String → Bool)
  direct : Side → DirectLane
  verified : ∀ side, (profile side).verify p = .ok ()
  tunnelId : (profile .first).tunnelId=(profile .second).tunnelId
  tunnelSigningPublicKey :
    (profile .first).tunnelSigningPublicKey=(profile .second).tunnelSigningPublicKey
  distinct : (profile .first).peer.peerId ≠ (profile .second).peer.peerId
  current : ∀ side, ∀ source ∈ currentPeer side,
    source (profile (otherSide side)).peer.peerId=true

structure Endpoint where
  manager : P2pManager
  inbox : List PeerLinkMessage

structure NegotiationState where
  endpoint : Side → Endpoint
  -- Offers signed so far
  offers : List P2pOfferV2

/-- `manager` for `side`, which has read what came before `inbox`, and what it
sends to the other one. -/
def NegotiationState.update (s : NegotiationState) (side : Side) (manager : P2pManager)
    (inbox sent : List PeerLinkMessage) : Side → Endpoint := fun which =>
  if which=side then ⟨manager,inbox⟩
  else ⟨(s.endpoint which).manager,(s.endpoint which).inbox++sent⟩

inductive NegotiationEvent
  -- a fresh Offer, with the session id and the secret drawn for it
  | start (side : Side) (sessionId : SessionId) (secret : PeerLinkEphemeralSecretV2)
    (installed : Bool)
  -- the next message for `side`, with the secret drawn while handling it
  | deliver (side : Side) (secret : PeerLinkEphemeralSecretV2)

namespace TunnelPeers
variable {p : Primitives} (peers : TunnelPeers p)

def peerId (side : Side) : String := (peers.profile side).peer.peerId

def relation : Except String PeerRelationKey :=
  PeerRelationKey.fromStablePeers (peers.peerId .first) (peers.peerId .second) 0

def manager (side : Side) : P2pManager where
  v2Profile := some (peers.profile side)
  certFp := peers.certFp side
  peerLinkManager := true
  v2CurrentPeerAuthoritySource := peers.currentPeer side
  pendingV2Offers := .empty
  peerContexts := .empty
  v2PeerLinks := .empty

def start : NegotiationState := ⟨fun side => ⟨peers.manager side,[]⟩,[]⟩

def signedOffer (side : Side) (sessionId : SessionId) (secret : PeerLinkEphemeralSecretV2) :
    Except PeerLinkCryptoErrorV2 P2pOfferV2 :=
  P2pOfferV2.sign p (peers.profile side) sessionId (peers.peerId (otherSide side)) []
    (peers.certFp side) secret

def step (s : NegotiationState) : NegotiationEvent → NegotiationState
  | .start side sessionId secret _ =>
    let (_,manager,sent):=(s.endpoint side).manager.tryInitiateV2RelayOnly p
      (peers.peerId (otherSide side)) peers.relation.toOption sessionId secret
    ⟨s.update side manager (s.endpoint side).inbox sent,
      (peers.signedOffer side sessionId secret).toOption.toList++s.offers⟩
  | .deliver side secret =>
    match (s.endpoint side).inbox with
    | [] => s
    | message::rest =>
      let (manager,sent) :=
        (s.endpoint side).manager.handleMessage p (peers.direct side) secret message
      ⟨s.update side manager rest sent,s.offers⟩

/-- A Peer offers when its relation is not occupied. Session ids and ephemeral
keys are never drawn twice, and SHA-256 tells the Offers apart. -/
def Enabled (s : NegotiationState) : NegotiationEvent → Prop
  | .start side sessionId secret installed =>
    (∀ key, peers.relation = .ok key →
      (s.endpoint side).manager.meshRelationIsOccupied installed key=false) ∧
    (∀ offer ∈ s.offers, offer.sessionId ≠ sessionId) ∧
    (∀ new, peers.signedOffer side sessionId secret = .ok new →
      ∀ offer ∈ s.offers, offer.signedHash p=new.signedHash p → offer=new)
  | .deliver side secret =>
    (s.endpoint side).inbox ≠ [] ∧
    (∀ offer ∈ s.offers, offer.ephemeralX25519PublicKey ≠ p.x25519Public secret)

def machine : Machine NegotiationState NegotiationEvent Unit where
  init := peers.start
  enabled := peers.Enabled
  step := fun s e => (peers.step s e,[])

end TunnelPeers

end Lantunnel.Client
