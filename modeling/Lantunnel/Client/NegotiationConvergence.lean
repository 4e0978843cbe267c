import Lantunnel.Client.PeerLinkNegotiation

/-!
# Crossed relay-only negotiation converges

The two Peers of `TunnelPeers.machine` do what the two parties of `CrossedOffers` do:
the Peer with the smaller id is the first party.
-/

namespace Lantunnel.Client
open Option PeerRelationKey
open Lib FieldCodec RustStd Core P2pManager CrossedOffers P2pAnswerV2 CrossedOffers.State Table List
open Lib.CrossedOffers (Side Party Message)

@[simp] theorem otherSide_otherSide (side : Side) : otherSide (otherSide side)=side := by
  cases side <;> rfl

theorem otherSide_ne (side : Side) : otherSide side≠side := by
  cases side <;> nofun

theorem eq_otherSide_of_ne {side which : Side} (h : which≠side) : which=otherSide side := by
  cases side <;> cases which <;> simp_all [otherSide]

namespace TunnelPeers
variable {p : Primitives} (peers : TunnelPeers p)

def canonical (side : Side) : Side :=
  if strLt (peers.peerId side) (peers.peerId (otherSide side)) then .first else .second

theorem peerId_ne (side : Side) : peers.peerId side≠peers.peerId (otherSide side) := by
  cases side with
  | first => exact peers.distinct
  | second => exact peers.distinct.symm

theorem canonical_otherSide (side : Side) :
    peers.canonical (otherSide side)=otherSide (peers.canonical side) := by
  simp only [canonical,otherSide_otherSide]
  rw [strLt_asymm (peers.peerId_ne side).symm]
  cases strLt (peers.peerId side) (peers.peerId (otherSide side)) <;> rfl

theorem canonical_inj {side which : Side} (h : peers.canonical side=peers.canonical which) :
    side=which := by
  by_contra hne
  rw [eq_otherSide_of_ne (Ne.symm hne),peers.canonical_otherSide] at h
  exact otherSide_ne _ h.symm

theorem forall_canonical {P : Side → Prop} (h : ∀ side, P (peers.canonical side)) (which : Side) :
    P which := by
  have hfst:=h .first
  have hsnd:=h .second
  rw [← show otherSide .first=Side.second from rfl,peers.canonical_otherSide] at hsnd
  cases hcase : peers.canonical .first with
  | first =>
    rw [hcase] at hfst hsnd
    cases which with
    | first => exact hfst
    | second => exact hsnd
  | second =>
    rw [hcase] at hfst hsnd
    cases which with
    | first => exact hsnd
    | second => exact hfst

theorem tunnelId_eq (side which : Side) :
    (peers.profile side).tunnelId=(peers.profile which).tunnelId := by
  have h:=peers.tunnelId
  cases side <;> cases which <;> simp_all

theorem tunnelKey_eq (side which : Side) : (peers.profile side).tunnelSigningPublicKey
    = (peers.profile which).tunnelSigningPublicKey := by
  have h:=peers.tunnelSigningPublicKey
  cases side <;> cases which <;> simp_all

theorem peerId_nonblank (side : Side) : trim (peers.peerId side) ≠ "" := by
  obtain ⟨hmember,-⟩:=PeerProfileV2.verify_eq_ok (peers.verified side)
  exact (PublicPeerMembershipV2.verify_eq_ok hmember).2.1

theorem fromStablePeers_eq (side : Side) :
    fromStablePeers (peers.peerId side) (peers.peerId (otherSide side)) 0 = .ok
      (if peers.canonical side = .first then ⟨peers.peerId side,peers.peerId (otherSide side),0⟩
        else ⟨peers.peerId (otherSide side),peers.peerId side,0⟩) := by
  have hblk : ¬ (trim (peers.peerId side) = "" ∨ trim (peers.peerId (otherSide side)) = "") :=
    not_or.mpr ⟨peers.peerId_nonblank side,peers.peerId_nonblank (otherSide side)⟩
  rw [fromStablePeers,if_neg hblk,if_neg (peers.peerId_ne side),canonical]
  cases strLt (peers.peerId side) (peers.peerId (otherSide side)) <;> simp

theorem relation_eq (side : Side) :
    fromStablePeers (peers.peerId side) (peers.peerId (otherSide side)) 0=peers.relation := by
  cases side with
  | first => rfl
  | second =>
    have hcanon:=peers.canonical_otherSide .first
    have hfst:=peers.fromStablePeers_eq .first
    have hsnd:=peers.fromStablePeers_eq .second
    simp only [otherSide] at hcanon hfst hsnd ⊢
    rw [relation,hsnd,hfst,hcanon]
    cases peers.canonical .first <;> simp

theorem relation_ok : ∃ key, peers.relation = .ok key ∧
    ∀ side, peers.peerId side=key.firstPeerFamily ↔ peers.canonical side = .first := by
  refine ⟨_,(peers.relation_eq .first).symm.trans (peers.fromStablePeers_eq .first),?_⟩
  intro side
  have hcanon:=peers.canonical_otherSide .first
  have hne:=peers.peerId_ne .first
  cases side with
  | first => grind
  | second =>
    simp only [otherSide] at hcanon hne ⊢
    rw [hcanon]
    cases h : peers.canonical .first with
    | first => simpa using hne.symm
    | second => simp

section Relation
variable (side : Side) (offers : List P2pOfferV2)

/-- An Offer the Peer of `side` made for the other one. -/
structure OfferBy (offer : P2pOfferV2) : Prop where
  sourcePeerId : offer.sourcePeerId=peers.peerId side
  targetPeerId : offer.targetPeerId=peers.peerId (otherSide side)
  candidates : offer.candidates=[]
  received : offer.For p (peers.profile (otherSide side))
  wireSourcePeerId : WireString offer.sourcePeerId
  honest : ∃ secret, offer.ephemeralX25519PublicKey=p.x25519Public secret
  made : offer ∈ offers

/-- What a message on its way to `side` says. -/
inductive Carries : PeerLinkMessage → Message P2pOfferV2 P2pAnswerV2 → Prop
  | offer {offer : P2pOfferV2} {wire : Bytes} (hwire : offer.toWireBytes = .ok wire)
      (hoffer : peers.OfferBy (otherSide side) offers offer) :
    Carries (.p2pOfferV2 (peers.peerId (otherSide side)) (peers.peerId side) wire) (.offer offer)
  | accept {offer : P2pOfferV2} {answer : P2pAnswerV2} {wire : Bytes}
      {secret : PeerLinkEphemeralSecretV2} (hwire : answer.toWireBytes = .ok wire)
      (hoffer : peers.OfferBy side offers offer)
      (hanswer : answer.MadeFor p (peers.profile (otherSide side)) offer true secret)
      (hfresh : offer.ephemeralX25519PublicKey ≠ answer.ephemeralX25519PublicKey) :
    Carries (.p2pAnswerV2 (peers.peerId (otherSide side)) (peers.peerId side) wire)
      (.accept offer answer)
  | reject {offer : P2pOfferV2} {answer : P2pAnswerV2} {wire : Bytes}
      {secret : PeerLinkEphemeralSecretV2} (hwire : answer.toWireBytes = .ok wire)
      (hoffer : peers.OfferBy side offers offer)
      (hanswer : answer.MadeFor p (peers.profile (otherSide side)) offer false secret) :
    Carries (.p2pAnswerV2 (peers.peerId (otherSide side)) (peers.peerId side) wire) (.reject offer)

def Pends (m : P2pManager) : Option P2pOfferV2 → Prop
  | none => m.pendingV2Offers = .empty ∧ m.peerContexts = .empty
  | some offer => peers.OfferBy side offers offer ∧ ∃ secret key, peers.relation = .ok key ∧
      offer.ephemeralX25519PublicKey=p.x25519Public secret ∧
      m.pendingV2Offers=Table.empty.insert offer.sessionId ⟨offer,secret⟩ ∧
      m.peerContexts=Table.empty.insert offer.sessionId ⟨some key⟩

def LinkOf : Option V2PeerLinkCryptoContext → Option (P2pOfferV2 × P2pAnswerV2) → Prop
  | none, none => True
  | some link, some (offer,answer) =>
    (∃ which, peers.OfferBy which offers offer) ∧ link.sessionId=offer.sessionId ∧
      offer.ephemeralX25519PublicKey ≠ answer.ephemeralX25519PublicKey ∧
      ∃ secret, deriveSessionKeys p secret offer answer (peers.profile side).tunnelSigningPublicKey
          = .ok ⟨link.cipher.send,link.cipher.receive⟩ ∧
        p.x25519Public secret=if offer.sourcePeerId=peers.peerId side
          then offer.ephemeralX25519PublicKey else answer.ephemeralX25519PublicKey
  | _, _ => False

structure Mirrors (e : Endpoint) (party : Party P2pOfferV2 P2pAnswerV2) : Prop where
  profile : e.manager.v2Profile=some (peers.profile side)
  certFp : e.manager.certFp=peers.certFp side
  peerLinkManager : e.manager.peerLinkManager=true
  currentPeer : e.manager.v2CurrentPeerAuthoritySource=peers.currentPeer side
  pending : peers.Pends side offers e.manager party.pending
  link : peers.LinkOf side offers (e.manager.v2PeerLinks.get (peers.peerId (otherSide side)))
    party.installed
  inbox : List.Forall₂ (peers.Carries side offers) e.inbox party.inbox

end Relation

structure Simulates (s : NegotiationState) (t : CrossedOffers.State P2pOfferV2 P2pAnswerV2) : Prop where
  made : ∀ offer ∈ t.made, offer ∈ s.offers
  apart : ∀ offer ∈ s.offers, ∀ offer' ∈ s.offers,
    offer.signedHash p=offer'.signedHash p → offer=offer'
  mirrors : ∀ side, peers.Mirrors side s.offers (s.endpoint side) (t.party (peers.canonical side))

section Mono
variable {peers} {side : Side} {offers offers' : List P2pOfferV2}

section
variable (hsub : ∀ o ∈ offers, o ∈ offers')
include hsub

theorem OfferBy.mono {offer : P2pOfferV2}
    (h : peers.OfferBy side offers offer) : peers.OfferBy side offers' offer :=
  { h with made := hsub offer h.made }

theorem Carries.mono {message : PeerLinkMessage}
    {abstract : Message P2pOfferV2 P2pAnswerV2} (h : peers.Carries side offers message abstract) :
    peers.Carries side offers' message abstract := by
  cases h with
  | offer hwire hoffer => exact .offer hwire (hoffer.mono hsub)
  | accept hwire hoffer hans hfr => exact .accept hwire (hoffer.mono hsub) hans hfr
  | reject hwire hoffer hans => exact .reject hwire (hoffer.mono hsub) hans

theorem Pends.mono {m : P2pManager} {pending : Option P2pOfferV2}
    (h : peers.Pends side offers m pending) : peers.Pends side offers' m pending := by
  cases pending with
  | none => exact h
  | some => exact ⟨h.1.mono hsub,h.2⟩

theorem LinkOf.mono {link : Option V2PeerLinkCryptoContext}
    {pair : Option (P2pOfferV2 × P2pAnswerV2)} (h : peers.LinkOf side offers link pair) :
    peers.LinkOf side offers' link pair := by
  cases link with
  | none =>
    cases pair with
    | none | some pair => exact h
  | some =>
    cases pair with
    | none => exact h
    | some =>
      obtain ⟨⟨which,hoffer⟩,hrest⟩:=h
      exact ⟨⟨which,hoffer.mono hsub⟩,hrest⟩

theorem Mirrors.mono {e : Endpoint}
    {party : Party P2pOfferV2 P2pAnswerV2} (h : peers.Mirrors side offers e party) :
    peers.Mirrors side offers' e party :=
  { h with
    pending := h.pending.mono hsub
    link := h.link.mono hsub
    inbox := h.inbox.imp fun _ _ => Carries.mono hsub }

end

theorem Mirrors.push {e : Endpoint} {party : Party P2pOfferV2 P2pAnswerV2}
    (h : peers.Mirrors side offers e party) {sent : List PeerLinkMessage}
    {abstract : List (Message P2pOfferV2 P2pAnswerV2)}
    (hsent : List.Forall₂ (peers.Carries side offers) sent abstract) :
    peers.Mirrors side offers ⟨e.manager,e.inbox++sent⟩ (party.push abstract) :=
  { h with inbox := rel_append h.inbox hsent }

end Mono

section Handlers
variable {peers} {side : Side} {offers : List P2pOfferV2} {e : Endpoint}
  {party : Party P2pOfferV2 P2pAnswerV2}

theorem Mirrors.current (h : peers.Mirrors side offers e party) :
    (e.manager.v2CurrentPeerAuthoritySource.any fun source =>
      !source (peers.peerId (otherSide side)))=false := by
  have hcur:=peers.current side
  rw [h.currentPeer]
  cases hsrc : peers.currentPeer side with
  | none => rfl
  | some source =>
    have htrue : source (peers.peerId (otherSide side))=true := hcur source (by rw [hsrc]; rfl)
    simp [htrue]

variable {offer : P2pOfferV2} {secret : PeerLinkEphemeralSecretV2}

theorem Mirrors.crossed (h : peers.Mirrors side offers e party)
    (hoffer : peers.OfferBy (otherSide side) offers offer) :
    e.manager.crossedV2RelayOnlyOffer offer=party.pending.map fun pending =>
      (pending.sessionId,if peers.canonical side = .first then .acceptor else .initiator) := by
  obtain ⟨key,hkey,hfst⟩:=peers.relation_ok
  have hsrc:=hoffer.sourcePeerId
  have htgt:=hoffer.targetPeerId
  rw [otherSide_otherSide] at htgt
  have hrel : fromStablePeers offer.sourcePeerId offer.targetPeerId 0
      = .ok key := by
    have heq:=peers.relation_eq (otherSide side)
    rw [otherSide_otherSide] at heq
    rw [hsrc,htgt,heq,hkey]
  have hrole : offer.sourcePeerId=key.firstPeerFamily ↔ ¬ peers.canonical side = .first := by
    rw [hsrc,hfst (otherSide side),peers.canonical_otherSide]
    cases peers.canonical side <;> simp [otherSide]
  have hnot : ¬ (¬ e.manager.peerLinkManager=true ∨ offer.candidates≠[]) := by
    simp [h.peerLinkManager,hoffer.candidates]
  rw [crossedV2RelayOnlyOffer,if_neg hnot,hrel]
  have hpend:=h.pending
  cases hcase : party.pending with
  | none =>
    rw [hcase] at hpend
    simp [Except.toOption,hpend.1]
  | some =>
    rw [hcase] at hpend
    obtain ⟨hown,_,_,hkey',-,hoffers,hctxs⟩:=hpend
    obtain rfl := Except.ok.inj (hkey.symm.trans hkey')
    simp only [Except.toOption,hoffers,hctxs,pairs_insert_empty]
    rw [hsrc] at hrole
    by_cases hparty : peers.canonical side = .first
    · simp [hown.candidates,hown.sourcePeerId,hown.targetPeerId,hsrc,htgt,hparty,hrole]
    · simp [hown.candidates,hown.sourcePeerId,hown.targetPeerId,hsrc,htgt,hparty,hrole]

theorem OfferBy.answered (hid : p.Ideal)
    (hoffer : peers.OfferBy (otherSide side) offers offer) {accepted : Bool} {reasonCode : UInt8}
    (hres : validateAnswerResult accepted reasonCode = .ok ()) (secret : PeerLinkEphemeralSecretV2) :
    ∃ answer wire, sign p (peers.profile side) offer accepted reasonCode []
        (peers.certFp side) secret = .ok answer ∧ answer.toWireBytes = .ok wire ∧
      answer.MadeFor p (peers.profile side) offer accepted secret := by
  have hrecv:=hoffer.received
  rw [otherSide_otherSide] at hrecv
  obtain ⟨answer,hsign,hmember,hwhy,hmade⟩:=sign_ok hid
    (peers.verified side) hrecv hres (peers.certFp side) secret
  rw [← hwhy,← hmade.accepted] at hres
  obtain ⟨wire,hwire⟩:=hmade.wire hid (peers.verified side) hrecv hmember hres
  exact ⟨answer,wire,hsign,hwire,hmade⟩

theorem Mirrors.sendV2Rejection_eq (hid : p.Ideal) (h : peers.Mirrors side offers e party)
    (hoffer : peers.OfferBy (otherSide side) offers offer) (secret : PeerLinkEphemeralSecretV2) :
    ∃ message, e.manager.sendV2Rejection p (peers.profile side) offer V2_REJECT_RELATION_BUSY secret
        = [message] ∧ peers.Carries (otherSide side) offers message (.reject offer) := by
  have hres : validateAnswerResult false V2_REJECT_RELATION_BUSY = .ok () := rfl
  obtain ⟨_,wire,hsign,hwire,hmade⟩:=hoffer.answered hid hres secret
  refine ⟨.p2pAnswerV2 (peers.peerId side) offer.sourcePeerId wire,?_,?_⟩
  · rw [sendV2Rejection,h.certFp]
    simp only [hsign,bind,Except.bind,hwire]
    rfl
  have hcarry : peers.Carries (otherSide side) offers
      (.p2pAnswerV2 (peers.peerId (otherSide (otherSide side))) (peers.peerId (otherSide side)) wire)
      (.reject offer) := .reject hwire hoffer (otherSide_otherSide side ▸ hmade)
  rwa [otherSide_otherSide,← hoffer.sourcePeerId] at hcarry

theorem Mirrors.relayOnlyAcceptance_eq (hid : p.Ideal) (h : peers.Mirrors side offers e party)
    (hoffer : peers.OfferBy (otherSide side) offers offer)
    (hfr : offer.ephemeralX25519PublicKey≠p.x25519Public secret) :
    ∃ answer wire keys, e.manager.relayOnlyAcceptance p (peers.profile side) offer secret
        = .ok (wire,keys) ∧ peers.Carries (otherSide side) offers
        (.p2pAnswerV2 (peers.peerId side) offer.sourcePeerId wire) (.accept offer answer) ∧
      peers.LinkOf side offers (some ⟨offer.sessionId,⟨keys.sendKey,keys.receiveKey⟩⟩)
        (some (offer,answer)) := by
  have hrecv:=hoffer.received
  rw [otherSide_otherSide] at hrecv
  have hres : validateAnswerResult true 0 = .ok () := rfl
  obtain ⟨answer,wire,hsign,hwire,hmade⟩:=hoffer.answered hid hres secret
  obtain ⟨_,hhonest⟩:=hoffer.honest
  obtain ⟨keys,hkeys⟩:=deriveSessionKeys_ok hid hrecv hoffer.wireSourcePeerId hmade hhonest
    (Or.inr rfl)
  rw [← hmade.key] at hfr
  refine ⟨answer,wire,keys,?_,?_,?_⟩
  · rw [relayOnlyAcceptance,h.certFp]
    exact bind_eq_ok.mpr ⟨answer,hsign,bind_eq_ok.mpr ⟨wire,hwire,bind_eq_ok.mpr ⟨keys,hkeys,rfl⟩⟩⟩
  · have hcarry : peers.Carries (otherSide side) offers
        (.p2pAnswerV2 (peers.peerId (otherSide (otherSide side))) (peers.peerId (otherSide side)) wire)
        (.accept offer answer) := .accept hwire hoffer (otherSide_otherSide side ▸ hmade) hfr
    rwa [otherSide_otherSide,← hoffer.sourcePeerId] at hcarry
  · have hsrc : ¬ offer.sourcePeerId=peers.peerId side := by
      rw [hoffer.sourcePeerId]
      exact (peers.peerId_ne side).symm
    exact ⟨⟨_,hoffer⟩,rfl,hfr,secret,hkeys,by rw [if_neg hsrc,hmade.key]⟩

theorem installV2PeerLink_eq (m : P2pManager) (sessionId : SessionId) (keys : PeerLinkSessionKeysV2) :
    m.installV2PeerLink (peers.profile side) (peers.peerId (otherSide side)) sessionId keys =
      { m with
        v2PeerLinks := m.v2PeerLinks.insert (peers.peerId (otherSide side))
          ⟨sessionId,⟨keys.sendKey,keys.receiveKey⟩⟩ } := by
  rw [installV2PeerLink,if_neg]
  exact not_or.mpr ⟨peers.peerId_nonblank _,(peers.peerId_ne side).symm⟩

theorem Pends.cleanup {m : P2pManager} (h : peers.Pends side offers m (some offer)) :
    m.cleanupSessionAttempt offer.sessionId={ m with
          pendingV2Offers := .empty,
          peerContexts := .empty } := by
  obtain ⟨-,_,_,-,-,hoffers,hctxs⟩:=h
  rw [cleanupSessionAttempt,hoffers,hctxs,remove_insert,remove_empty,remove_insert,remove_empty]

theorem Mirrors.installed (h : peers.Mirrors side offers e party) {link : V2PeerLinkCryptoContext}
    {pair : P2pOfferV2 × P2pAnswerV2} (hlink : peers.LinkOf side offers (some link) (some pair)) :
    peers.Mirrors side offers
      ⟨{ e.manager with
          pendingV2Offers := .empty
          peerContexts := .empty
          v2PeerLinks := e.manager.v2PeerLinks.insert (peers.peerId (otherSide side)) link },
        e.inbox⟩
      { party with pending := none, installed := some pair } where
  profile := h.profile
  certFp := h.certFp
  peerLinkManager := h.peerLinkManager
  currentPeer := h.currentPeer
  pending := ⟨rfl,rfl⟩
  link := by
    rw [Table.get_insert_self]
    exact hlink
  inbox := h.inbox

theorem Mirrors.handleV2Offer (hid : p.Ideal) (h : peers.Mirrors side offers e party)
    (hoffer : peers.OfferBy (otherSide side) offers offer) {wire : Bytes}
    (hwire : offer.toWireBytes = .ok wire) (direct : DirectLane)
    (hfr : offer.ephemeralX25519PublicKey≠p.x25519Public secret) : ∃ answer,
      peers.Mirrors side offers ⟨(e.manager.handleV2Offer p direct (peers.peerId (otherSide side))
          (peers.peerId side) wire secret).1,e.inbox⟩
        (receive (peers.canonical side) party answer (.offer offer)).1 ∧
      List.Forall₂ (peers.Carries (otherSide side) offers)
        (e.manager.handleV2Offer p direct (peers.peerId (otherSide side)) (peers.peerId side) wire
          secret).2 (receive (peers.canonical side) party answer (.offer offer)).2 := by
  have hdec:=P2pOfferV2.fromWireBytes_eq_ok.mpr (P2pOfferV2.toWireBytes_eq_ok.mp hwire)
  have hrecv:=hoffer.received
  rw [otherSide_otherSide] at hrecv
  have hchks : ¬ (peers.peerId (otherSide side)≠offer.sourcePeerId
      ∨ peers.peerId side≠offer.targetPeerId
      ∨ offer.targetPeerId≠(peers.profile side).peer.peerId
      ∨ offer.tunnelId≠(peers.profile side).tunnelId
      ∨ (offer.verify p (peers.profile side).tunnelSigningPublicKey).toOption=none) := by
    simp only [not_or,ne_eq,not_not,toOption_eq_some.mpr hrecv.verifies]
    exact ⟨hoffer.sourcePeerId.symm,hrecv.targetPeerId,hrecv.targetPeerId.symm,
      hrecv.tunnelId.symm,nofun⟩
  have hcand : ¬ offer.candidates.filter direct.usable≠[] := by simp [hoffer.candidates]
  have hcur:=h.current
  rw [← hoffer.sourcePeerId] at hcur
  simp only [P2pManager.handleV2Offer,h.profile,hdec,if_neg hchks,hcur,Bool.false_eq_true,
    if_false,if_neg hcand,h.crossed hoffer]
  obtain ⟨answer,_,_,haccept,hcarry,hlink⟩ :=
    h.relayOnlyAcceptance_eq hid hoffer hfr
  refine ⟨answer,?_⟩
  have hpend:=h.pending
  cases hcase : party.pending with
  | none =>
    rw [hcase] at hpend
    simp only [map_none,any_none,Bool.false_eq_true,if_false,haccept,receive,hcase,isSome_none,
      and_false,hoffer.sourcePeerId,
      installV2PeerLink_eq]
    refine ⟨?_,?_⟩
    · have hinstall:=h.installed hlink
      rwa [← hpend.1,← hpend.2] at hinstall
    rw [← hoffer.sourcePeerId]
    exact .cons hcarry .nil
  | some =>
    rw [hcase] at hpend
    by_cases hparty : peers.canonical side = .first
    · obtain ⟨_,hsent,hreject⟩:=h.sendV2Rejection_eq hid hoffer secret
      simp only [map_some,any_some,hparty,if_true,decide_true,hsent,receive,hcase,isSome_some,
        and_self]
      exact ⟨h,.cons hreject .nil⟩
    · simp only [map_some,any_some,hparty,if_false,reduceCtorEq,decide_false,Bool.false_eq_true,
        haccept,receive,false_and,hpend.cleanup,
        hoffer.sourcePeerId,installV2PeerLink_eq]
      refine ⟨h.installed hlink,?_⟩
      rw [← hoffer.sourcePeerId]
      exact .cons hcarry .nil

theorem Mirrors.cleaned (h : peers.Mirrors side offers e party) : peers.Mirrors side offers
      ⟨{ e.manager with pendingV2Offers := .empty, peerContexts := .empty },e.inbox⟩
      { party with pending := none } :=
  { h with pending := ⟨rfl,rfl⟩ }

theorem Mirrors.find_answered (h : peers.Mirrors side offers e party)
    (hapart : ∀ offer∈offers, ∀ offer'∈offers,
      offer.signedHash p=offer'.signedHash p → offer=offer')
    (hoffer : peers.OfferBy side offers offer) {answer : P2pAnswerV2}
    {accepted : Bool} {answerSecret : PeerLinkEphemeralSecretV2}
    (hans : answer.MadeFor p (peers.profile (otherSide side)) offer accepted answerSecret) :
    (party.pending=some offer → ∃ secret, offer.ephemeralX25519PublicKey=p.x25519Public secret ∧
      (e.manager.pendingV2Offers.pairs.find? fun (_,pending) =>
        (pending.offer.signedHash p).toOption=some answer.offerHash) =
          some (offer.sessionId,⟨offer,secret⟩)) ∧
    (party.pending≠some offer → (e.manager.pendingV2Offers.pairs.find? fun (_,pending) =>
      (pending.offer.signedHash p).toOption=some answer.offerHash)=none) := by
  obtain ⟨signed,hsgn,hsame⟩:=verifyForOffer_hash hans.verifies
  have hhash : offer.signedHash p = .ok answer.offerHash :=
    bind_eq_ok.mpr ⟨signed,hsgn,by rw [hsame]⟩
  have hpend:=h.pending
  cases hcase : party.pending with
  | none =>
    rw [hcase] at hpend
    refine ⟨nofun,?_⟩
    intro _
    rw [hpend.1]
    rfl
  | some =>
    rw [hcase] at hpend
    obtain ⟨hown,secret,_,-,hsec,hoffers,-⟩:=hpend
    rw [hoffers,pairs_insert_empty]
    refine ⟨?_,?_⟩
    · intro heq
      obtain rfl := some.inj heq
      refine ⟨secret,hsec,find?_cons_of_pos ?_⟩
      simp [toOption_eq_some.mpr hhash]
    · intro hne
      refine find?_eq_none.mpr ?_
      intro pair hpair hsame
      obtain rfl := mem_singleton.mp hpair
      have hequal:=toOption_eq_some.mp (of_decide_eq_true hsame)
      exact hne (congrArg some (hapart _ hown.made _ hoffer.made (hequal.trans hhash.symm)))

theorem answer_checks {answer : P2pAnswerV2} {accepted : Bool}
    (hoffer : peers.OfferBy side offers offer)
    (hans : answer.MadeFor p (peers.profile (otherSide side)) offer accepted secret) :
    ¬ (peers.peerId (otherSide side)≠offer.targetPeerId ∨ peers.peerId side≠offer.sourcePeerId
      ∨ (answer.verifyForOffer p offer (peers.profile side).tunnelSigningPublicKey).toOption
        = none) := by
  have hver:=hans.verifies
  rw [peers.tunnelKey_eq (otherSide side) side] at hver
  simp only [not_or,ne_eq,not_not,toOption_eq_some.mpr hver]
  exact ⟨hoffer.targetPeerId.symm,hoffer.sourcePeerId.symm,nofun⟩

section Answer
variable (h : peers.Mirrors side offers e party)
  (hapart : ∀ offer ∈ offers, ∀ offer' ∈ offers,
    offer.signedHash p = offer'.signedHash p → offer = offer')
  {offer : P2pOfferV2} (hoffer : peers.OfferBy side offers offer) {answer : P2pAnswerV2}
  {accepted : Bool} {answerSecret : PeerLinkEphemeralSecretV2} {wire : Bytes}
  (hwire : answer.toWireBytes = .ok wire) (direct : DirectLane)
include h hapart hoffer hwire

theorem Mirrors.handleV2Answer_late
    (hans : answer.MadeFor p (peers.profile (otherSide side)) offer accepted answerSecret)
    (hlate : party.pending≠some offer) :
    e.manager.handleV2Answer p direct (peers.peerId (otherSide side)) (peers.peerId side) wire
      = (e.manager,[]) := by
  have hdec:=fromWireBytes_eq_ok.mpr (toWireBytes_eq_ok.mp hwire)
  have hself : ¬ peers.peerId side≠(peers.profile side).peer.peerId := not_not.mpr rfl
  obtain ⟨-,hmiss⟩:=h.find_answered hapart hoffer hans
  simp only [handleV2Answer,h.profile,hdec,if_neg hself,hmiss hlate]

theorem Mirrors.handleV2Answer_reject
    (hans : answer.MadeFor p (peers.profile (otherSide side)) offer false answerSecret)
    (hpends : party.pending=some offer) :
    e.manager.handleV2Answer p direct (peers.peerId (otherSide side)) (peers.peerId side) wire
      = (e.manager.cleanupSessionAttempt offer.sessionId,[]) := by
  have hdec:=fromWireBytes_eq_ok.mpr (toWireBytes_eq_ok.mp hwire)
  have hself : ¬ peers.peerId side≠(peers.profile side).peer.peerId := not_not.mpr rfl
  obtain ⟨hfnd,-⟩:=h.find_answered hapart hoffer hans
  obtain ⟨_,_,hfind⟩:=hfnd hpends
  have hreject : ¬ answer.accepted=true := by simp [hans.accepted]
  simp only [handleV2Answer,h.profile,hdec,if_neg hself,hfind,
    if_neg (answer_checks hoffer hans),if_pos hreject]

theorem Mirrors.handleV2Answer_accept (hid : p.Ideal)
    (hans : answer.MadeFor p (peers.profile (otherSide side)) offer true answerSecret)
    (hfr : offer.ephemeralX25519PublicKey≠answer.ephemeralX25519PublicKey)
    (hpends : party.pending=some offer) :
    ∃ keys, e.manager.handleV2Answer p direct (peers.peerId (otherSide side)) (peers.peerId side) wire
        = ((e.manager.installV2PeerLink (peers.profile side) (peers.peerId (otherSide side))
            offer.sessionId keys).cleanupSessionAttempt offer.sessionId,[]) ∧
      peers.LinkOf side offers (some ⟨offer.sessionId,⟨keys.sendKey,keys.receiveKey⟩⟩)
        (some (offer,answer)) := by
  have hdec:=fromWireBytes_eq_ok.mpr (toWireBytes_eq_ok.mp hwire)
  have hself : ¬ peers.peerId side≠(peers.profile side).peer.peerId := not_not.mpr rfl
  obtain ⟨hfnd,-⟩:=h.find_answered hapart hoffer hans
  obtain ⟨secret,hsec,hfind⟩:=hfnd hpends
  have hacc : ¬ ¬ answer.accepted=true := not_not.mpr hans.accepted
  have hcur:=h.current
  rw [← hoffer.targetPeerId] at hcur
  have hcand : ¬ answer.candidates.filter direct.usable≠[] := by simp [hans.candidates]
  obtain ⟨keys,hkeys⟩:=deriveSessionKeys_ok hid hoffer.received hoffer.wireSourcePeerId hans
    hsec (Or.inl rfl)
  rw [peers.tunnelKey_eq (otherSide side) side] at hkeys
  refine ⟨keys,?_,?_⟩
  · simp only [handleV2Answer,h.profile,hdec,if_neg hself,hfind,
      if_neg (answer_checks hoffer hans),if_neg hacc,hcur,Bool.false_eq_true,if_false,
      if_neg hcand,hkeys,hans.acceptedPeerId]
    rfl
  · exact ⟨⟨_,hoffer⟩,rfl,hfr,secret,hkeys,by rw [if_pos hoffer.sourcePeerId,hsec]⟩

end Answer

theorem Mirrors.handleMessage (hid : p.Ideal) (h : peers.Mirrors side offers e party)
    (hapart : ∀ offer∈offers, ∀ offer'∈offers,
      offer.signedHash p=offer'.signedHash p → offer=offer')
    {message : PeerLinkMessage} {abstract : Message P2pOfferV2 P2pAnswerV2}
    (hcarry : peers.Carries side offers message abstract) (direct : DirectLane)
    (hfr : ∀ offer∈offers, offer.ephemeralX25519PublicKey≠p.x25519Public secret) :
    ∃ k, peers.Mirrors side offers ⟨(e.manager.handleMessage p direct secret message).1,e.inbox⟩
        (receive (peers.canonical side) party k abstract).1 ∧
      List.Forall₂ (peers.Carries (otherSide side) offers)
        (e.manager.handleMessage p direct secret message).2
        (receive (peers.canonical side) party k abstract).2 := by
  cases hcarry with
  | offer hwire hoffer => exact h.handleV2Offer hid hoffer hwire direct (hfr _ hoffer.made)
  | @accept offer answer wire answerSecret hwire hoffer hans hfresh =>
    refine ⟨answer,?_⟩
    simp only [P2pManager.handleMessage,receive]
    by_cases hpends : party.pending=some offer
    · obtain ⟨keys,hhand,hlink⟩ :=
        h.handleV2Answer_accept hapart hoffer hwire direct hid hans hfresh hpends
      have hpend:=h.pending
      rw [hpends] at hpend
      -- the link table is no part of what is pending
      have hclean : peers.Pends side offers
          { e.manager with
            v2PeerLinks := e.manager.v2PeerLinks.insert (peers.peerId (otherSide side))
              ⟨offer.sessionId,⟨keys.sendKey,keys.receiveKey⟩⟩ } (some offer) := hpend
      rw [hhand,installV2PeerLink_eq,hclean.cleanup,if_pos hpends]
      exact ⟨h.installed hlink,.nil⟩
    · rw [h.handleV2Answer_late hapart hoffer hwire direct hans hpends,if_neg hpends]
      exact ⟨h,.nil⟩
  | @reject offer answer wire answerSecret hwire hoffer hans =>
    refine ⟨answer,?_⟩
    simp only [P2pManager.handleMessage,receive]
    by_cases hpends : party.pending=some offer
    · have hpend:=h.pending
      rw [hpends] at hpend
      rw [h.handleV2Answer_reject hapart hoffer hwire direct hans hpends,if_pos hpends,
        hpend.cleanup]
      exact ⟨h.cleaned,.nil⟩
    · rw [h.handleV2Answer_late hapart hoffer hwire direct hans hpends,if_neg hpends]
      exact ⟨h,.nil⟩

end Handlers

section Steps
variable {peers} {s : NegotiationState} {t : CrossedOffers.State P2pOfferV2 P2pAnswerV2}
  {offers : List P2pOfferV2} {side : Side} {party : Party P2pOfferV2 P2pAnswerV2}
  {secret : PeerLinkEphemeralSecretV2}

theorem Simulates.update
    (h : ∀ which, peers.Mirrors which offers (s.endpoint which) (t.party (peers.canonical which)))
    {manager : P2pManager} {inbox sent : List PeerLinkMessage}
    {abstract : List (Message P2pOfferV2 P2pAnswerV2)}
    (hmoved : peers.Mirrors side offers ⟨manager,inbox⟩ party)
    (hsent : List.Forall₂ (peers.Carries (otherSide side) offers) sent abstract) (which : Side) :
    peers.Mirrors which offers (s.update side manager inbox sent which)
      ((t.update party abstract (peers.canonical side)).party (peers.canonical which)) := by
  by_cases heq : which=side
  · subst heq
    rw [NegotiationState.update,if_pos rfl,party_update_self]
    exact hmoved
  have hne : peers.canonical which≠peers.canonical side := fun hsame =>
    heq (peers.canonical_inj hsame)
  rw [NegotiationState.update,if_neg heq,party_update_of_ne _ _ _ hne]
  obtain rfl := eq_otherSide_of_ne heq
  exact (h _).push hsent

theorem Mirrors.pending_of_not_occupied {e : Endpoint}
    (h : peers.Mirrors side offers e party) {installed : Bool}
    (hfree : ∀ key, peers.relation = .ok key →
      e.manager.meshRelationIsOccupied installed key=false) : party.pending=none := by
  have hpend:=h.pending
  cases hcase : party.pending with
  | none => rfl
  | some =>
    rw [hcase] at hpend
    obtain ⟨-,_,key,hkey,-,-,hctxs⟩:=hpend
    have hoccupied:=hfree key hkey
    rw [meshRelationIsOccupied,hctxs,pairs_insert_empty] at hoccupied
    simp at hoccupied

theorem offerBy_of_sign (hid : p.Ideal) {sessionId : SessionId}
    {offer : P2pOfferV2} {wire : Bytes}
    (hsign : peers.signedOffer side sessionId secret = .ok offer)
    (hwire : offer.toWireBytes = .ok wire) (hmade : offer∈offers) :
    peers.OfferBy side offers offer := by
  obtain ⟨-,-,-,-,-,hoffer⟩:=P2pOfferV2.sign_eq_ok hsign
  have honWire:=P2pOfferV2.toWireBytes_eq_ok.mp hwire
  have hver:=P2pOfferV2.sign_verifies hid hsign
  rw [peers.tunnelKey_eq side (otherSide side)] at hver
  have htun : offer.tunnelId=(peers.profile side).tunnelId := by rw [hoffer]
  have htgt : offer.targetPeerId=peers.peerId (otherSide side) := by rw [hoffer]
  exact
    { sourcePeerId := by rw [hoffer]; rfl
      targetPeerId := htgt
      candidates := by rw [hoffer]
      received :=
        { verifies := hver
          tunnelId := (peers.tunnelId_eq (otherSide side) side).trans htun.symm
          targetPeerId := htgt.symm
          wireTunnelId := honWire.tunnelId
          wireTargetPeerId := honWire.targetPeerId }
      wireSourcePeerId := honWire.sourcePeerId
      honest := ⟨secret,by rw [hoffer]⟩
      made := hmade }

/-- What starting an attempt does to a Peer with nothing pending: the Offer is
sent and pending, or, where it cannot be signed or encoded, nothing happens. -/
theorem Mirrors.tryInitiate {e : Endpoint} (h : peers.Mirrors side offers e party)
    (hnone : party.pending=none) (sessionId : SessionId) (secret : PeerLinkEphemeralSecretV2) :
    let result := e.manager.tryInitiateV2RelayOnly p (peers.peerId (otherSide side))
      peers.relation.toOption sessionId secret
    (result.2=(e.manager,[])) ∨
      ∃ offer wire key, peers.signedOffer side sessionId secret = .ok offer ∧
        offer.toWireBytes = .ok wire ∧ peers.relation = .ok key ∧
        result.2=({ e.manager with
            pendingV2Offers := Table.empty.insert sessionId ⟨offer,secret⟩
            peerContexts := Table.empty.insert sessionId ⟨some key⟩ },
          [.p2pOfferV2 (peers.peerId side) (peers.peerId (otherSide side)) wire]) := by
  have hpend:=h.pending
  rw [hnone] at hpend
  have hclean : e.manager.cleanupSessionAttempt sessionId=e.manager := by
    rw [cleanupSessionAttempt,hpend.1,hpend.2,remove_empty,remove_empty,← hpend.1,
      ← hpend.2]
  obtain ⟨key,hkey,-⟩:=peers.relation_ok
  simp only [tryInitiateV2RelayOnly,h.profile,h.certFp]
  cases hsign : peers.signedOffer side sessionId secret with
  | error =>
    rw [signedOffer] at hsign
    rw [hsign]
    exact .inl (by rw [hclean])
  | ok offer =>
    rw [signedOffer] at hsign
    rw [hsign]
    cases hwire : offer.toWireBytes with
    | error => exact .inl (by simp only [hwire,hclean])
    | ok wire =>
      refine .inr ⟨offer,wire,key,rfl,hwire,hkey,?_⟩
      simp only [hwire,hpend.1,hpend.2,toOption_eq_some.mpr hkey]
      rfl

theorem Simulates.start (hideal : p.Ideal) (h : peers.Simulates s t)
    {sessionId : SessionId} {installed : Bool}
    (he : peers.Enabled s (.start side sessionId secret installed)) :
    peers.Simulates (peers.step s (.start side sessionId secret installed)) t ∨
      ∃ event, t.Enabled event ∧
        peers.Simulates (peers.step s (.start side sessionId secret installed)) (t.step event) := by
  obtain ⟨hfree,hsess,hhash⟩:=he
  let offers' := (peers.signedOffer side sessionId secret).toOption.toList++s.offers
  have hsub : ∀ o∈s.offers, o∈offers' := fun o ho => mem_append_right _ ho
  have hnew : ∀ o∈offers', o∈s.offers ∨ peers.signedOffer side sessionId secret = .ok o := by
    intro o ho
    rcases mem_append.mp ho with hfr | hold
    · exact .inr (toOption_eq_some.mp (mem_toList.mp hfr))
    · exact .inl hold
  have hapart : ∀ o∈offers', ∀ o'∈offers', o.signedHash p=o'.signedHash p → o=o' := by
    intro o ho o' ho' hsame
    rcases hnew o ho with hold | hsgn
    · rcases hnew o' ho' with hold' | hsgn'
      · exact h.apart o hold o' hold' hsame
      · exact hhash o' hsgn' o hold hsame
    rcases hnew o' ho' with hold' | hsgn'
    · exact (hhash o hsgn o' hold' hsame.symm).symm
    · exact Except.ok.inj (hsgn.symm.trans hsgn')
  have hmirror : ∀ which, peers.Mirrors which offers' (s.endpoint which)
      (t.party (peers.canonical which)) := fun which => (h.mirrors which).mono hsub
  have hnone:=(hmirror side).pending_of_not_occupied hfree
  rcases (hmirror side).tryInitiate hnone sessionId secret with hstay | hmoved
  · refine .inl ⟨?_,hapart,?_⟩
    · intro o ho
      exact hsub o (h.made o ho)
    intro which
    simp only [step,hstay]
    by_cases heq : which=side
    · subst heq
      rw [NegotiationState.update,if_pos rfl]
      exact hmirror which
    · rw [NegotiationState.update,if_neg heq,append_nil]
      exact hmirror which
  · obtain ⟨offer,wire,key,hsign,hwire,hkey,hmoved⟩:=hmoved
    obtain ⟨-,-,-,-,-,hoffer⟩:=P2pOfferV2.sign_eq_ok hsign
    have hid : offer.sessionId=sessionId := by rw [hoffer]
    have hsec : offer.ephemeralX25519PublicKey=p.x25519Public secret := by rw [hoffer]
    have hmade : offer∈offers' := by simp [offers',hsign,Except.toOption]
    have hby:=offerBy_of_sign hideal hsign hwire hmade
    refine .inr ⟨.start (peers.canonical side) offer,⟨hnone,?_⟩,?_,hapart,?_⟩
    · intro hold
      exact hsess offer (h.made offer hold) hid
    · intro o ho
      rcases mem_cons.mp ho with rfl | hold
      · exact hmade
      · exact hsub o (h.made o hold)
    · intro which
      simp only [step,hmoved]
      have hpends : peers.Mirrors side offers'
          ⟨{ (s.endpoint side).manager with
              pendingV2Offers := Table.empty.insert sessionId ⟨offer,secret⟩
              peerContexts := Table.empty.insert sessionId ⟨some key⟩ },
            (s.endpoint side).inbox⟩
          { t.party (peers.canonical side) with pending := some offer } :=
        { hmirror side with pending := ⟨hby,secret,key,hkey,hsec,by rw [hid],by rw [hid]⟩ }
      have hcarry : peers.Carries (otherSide side) offers'
          (.p2pOfferV2 (peers.peerId side) (peers.peerId (otherSide side)) wire) (.offer offer) := by
        have hoffered : peers.Carries (otherSide side) offers'
            (.p2pOfferV2 (peers.peerId (otherSide (otherSide side))) (peers.peerId (otherSide side))
              wire) (.offer offer) := .offer hwire (by rwa [otherSide_otherSide])
        rwa [otherSide_otherSide] at hoffered
      exact Simulates.update hmirror hpends (.cons hcarry .nil) which

theorem Simulates.deliver (hid : p.Ideal) (h : peers.Simulates s t)
    (he : peers.Enabled s (.deliver side secret)) : ∃ event, t.Enabled event ∧
      peers.Simulates (peers.step s (.deliver side secret)) (t.step event) := by
  obtain ⟨hinbox,hfr⟩:=he
  have hmirror:=h.mirrors side
  have hboxes:=hmirror.inbox
  cases hbox : (s.endpoint side).inbox with
  | nil => exact absurd hbox hinbox
  | cons message rest =>
    rw [hbox] at hboxes
    cases habs : (t.party (peers.canonical side)).inbox with
    | nil =>
      rw [habs] at hboxes
      cases hboxes
    | cons abstract rest' =>
      rw [habs] at hboxes
      cases hboxes with
      | cons hcarry hrest =>
      have hread : peers.Mirrors side s.offers ⟨(s.endpoint side).manager,rest⟩
          { t.party (peers.canonical side) with inbox := rest' } :=
        { hmirror with inbox := hrest }
      obtain ⟨k,hmoved,hsent⟩ :=
        hread.handleMessage hid h.apart hcarry (peers.direct side) hfr
      refine ⟨.deliver (peers.canonical side) k,?_,?_⟩
      · change (t.party (peers.canonical side)).inbox≠[]
        rw [habs]
        exact cons_ne_nil _ _
      rw [step_deliver habs k]
      simp only [step,hbox]
      refine ⟨?_,h.apart,Simulates.update h.mirrors hmoved hsent⟩
      intro o ho
      rw [made_update] at ho
      exact h.made o ho

theorem simulates_start : peers.Simulates peers.start .start where
  made := nofun
  apart := nofun
  mirrors := by
    intro side
    have hparty : (CrossedOffers.State.start : CrossedOffers.State P2pOfferV2 P2pAnswerV2).party
        (peers.canonical side)=⟨none,none,[]⟩ := by
      cases peers.canonical side <;> rfl
    rw [hparty]
    exact ⟨rfl,rfl,rfl,rfl,⟨rfl,rfl⟩,trivial,.nil⟩

theorem run_simulates (hid : p.Ideal) {tr : List Unit} (h : peers.machine.Run s tr) :
    ∃ t tr', (CrossedOffers.machine P2pOfferV2 P2pAnswerV2).Run t tr' ∧ peers.Simulates s t := by
  refine h.simulates peers.Simulates simulates_start ?_
  intro s t e hrel he
  cases e with
  | start => exact hrel.start hid he
  | deliver => exact .inr (hrel.deliver hid he)

end Steps

section Convergence
variable {peers} {offers : List P2pOfferV2} {offer : P2pOfferV2} {answer : P2pAnswerV2}

theorem LinkOf.eq_none {side : Side} {link : Option V2PeerLinkCryptoContext}
    (h : peers.LinkOf side offers link none) : link=none := by
  cases link with
  | none => rfl
  | some => exact h.elim

theorem LinkOf.exists_some {side : Side} {link : Option V2PeerLinkCryptoContext}
    {pair : P2pOfferV2 × P2pAnswerV2} (h : peers.LinkOf side offers link (some pair)) :
    ∃ context, link=some context := by
  cases link with
  | none => exact h.elim
  | some link => exact ⟨link,rfl⟩

theorem LinkOf.secret {side : Side} {link : V2PeerLinkCryptoContext}
    (h : peers.LinkOf side offers (some link) (some (offer,answer))) :
    ∃ d : Derivation, d.offer=offer ∧ d.answer=answer ∧
      d.tunnelSigningPublicKey=(peers.profile side).tunnelSigningPublicKey ∧
      d.keys p = .ok ⟨link.cipher.send,link.cipher.receive⟩ ∧
      p.x25519Public d.secret=if offer.sourcePeerId=peers.peerId side
        then offer.ephemeralX25519PublicKey else answer.ephemeralX25519PublicKey := by
  obtain ⟨-,-,-,secret,hkeys,hsec⟩:=h
  exact ⟨⟨secret,offer,answer,(peers.profile side).tunnelSigningPublicKey⟩,rfl,rfl,rfl,hkeys,
    hsec⟩

theorem LinkOf.keys_eq (hid : p.Ideal) {link : Side → V2PeerLinkCryptoContext}
    (h : ∀ side, peers.LinkOf side offers (some (link side)) (some (offer,answer))) (side : Side) :
    (link side).cipher.send=(link (otherSide side)).cipher.receive := by
  obtain ⟨⟨source,hby⟩,-⟩:=h side
  have hsrc:=hby.sourcePeerId
  have hoth : ¬ offer.sourcePeerId=peers.peerId (otherSide source) := by
    rw [hsrc]
    exact peers.peerId_ne source
  obtain ⟨d,hoffer,hans,-,hkeys,hsec⟩:=(h source).secret
  obtain ⟨d',hoff',hans',-,hkeys',hsec'⟩:=(h (otherSide source)).secret
  rw [if_pos hsrc] at hsec
  rw [if_neg hoth] at hsec'
  have honest : d.Honest p d' :=
    { offer := hoffer.trans hoff'.symm, answer := hans.trans hans'.symm
      initiatorKey := by rw [hoffer,hsec]
      acceptorKey := by rw [hans',hsec']
      fresh := by
        rw [hoffer,hans]
        exact (h source).2.2.1 }
  by_cases hside : side=source
  · subst hside
    exact honest.keys_eq hid.dhCommutes hkeys hkeys' .send
  obtain rfl := eq_otherSide_of_ne hside
  rw [otherSide_otherSide]
  exact (honest.keys_eq hid.dhCommutes hkeys hkeys' .receive).symm

end Convergence

/-- Whenever nothing is in flight, no Offer is pending, and the links the two
Peers installed last come from one Offer and Answer, the send key of each being
the receive key of the other. -/
theorem relayOnly_negotiation_converges (hideal : p.Ideal) {s : NegotiationState} {tr : List Unit}
    (hrun : peers.machine.Run s tr) (hquiet : ∀ side, (s.endpoint side).inbox = []) :
    (∀ side, (s.endpoint side).manager.pendingV2Offers = .empty) ∧
    ((∀ side, (s.endpoint side).manager.v2PeerLinks.get (peers.peerId (otherSide side)) = none) ∨
      ∃ offer ∈ s.offers, ∃ (answer : P2pAnswerV2) (link : Side → V2PeerLinkCryptoContext)
        (secret : Side → PeerLinkEphemeralSecretV2), ∀ side,
        (s.endpoint side).manager.v2PeerLinks.get (peers.peerId (otherSide side))
          = some (link side) ∧
        (link side).sessionId = offer.sessionId ∧
        deriveSessionKeys p (secret side) offer answer (peers.profile side).tunnelSigningPublicKey
          = .ok ⟨(link side).cipher.send, (link side).cipher.receive⟩ ∧
        (link side).cipher.send = (link (otherSide side)).cipher.receive) := by
  obtain ⟨t,_,habs,hrel⟩:=run_simulates hideal hrun
  have hemp : ∀ side, (t.party (peers.canonical side)).inbox=[] := by
    intro side
    have hinbox:=(hrel.mirrors side).inbox
    rw [hquiet side] at hinbox
    exact forall₂_nil_left_iff.mp hinbox
  obtain ⟨pair,hpart⟩:=CrossedOffers.converged habs (peers.forall_canonical hemp)
  have hlink : ∀ side, peers.LinkOf side s.offers
      ((s.endpoint side).manager.v2PeerLinks.get (peers.peerId (otherSide side))) pair := by
    intro side
    have hlinkOf:=(hrel.mirrors side).link
    rwa [(hpart (peers.canonical side)).2] at hlinkOf
  refine ⟨?_,?_⟩
  · intro side
    have hpends:=(hrel.mirrors side).pending
    rw [(hpart (peers.canonical side)).1] at hpends
    exact hpends.1
  · cases pair with
    | none => exact .inl fun side => (hlink side).eq_none
    | some pair =>
      obtain ⟨offer,answer⟩:=pair
      choose link hget using fun side => (hlink side).exists_some
      have hlks : ∀ side, peers.LinkOf side s.offers (some (link side)) (some (offer,answer)) := by
        intro side
        rw [← hget side]
        exact hlink side
      obtain ⟨⟨_,hby⟩,-⟩:=hlks .first
      choose secret hsec using fun side => (hlks side).2.2.2
      exact .inr ⟨offer,hby.made,answer,link,secret,fun side =>
        ⟨hget side,(hlks side).2.1,(hsec side).1,LinkOf.keys_eq hideal hlks side⟩⟩

end TunnelPeers

def lanProfile (side : Side) : PeerProfileV2 where
  version := 2
  tunnelId := "lan1"
  tunnelSigningPublicKey := lanTunnelKey
  replicas := 1
  peer := match side with
    | .first => ⟨"desk",0xc6120001,
        "MFECAQEwBQYDK2VwBCIEIFJSUlJSUlJSUlJSUlJSUlJSUlJSUlJSUlJSUlJSUlJSgSEAIBLLkMpg6OXY2vZuInLSIz4EhtVX6MZhQe2JIBd9frc=",
        (lanMembership true).peerPublicKey,(lanMembership true).membershipSignature⟩
    | .second => ⟨"laptop",0xc6120002,
        "MFECAQEwBQYDK2VwBCIEIFNTU1NTU1NTU1NTU1NTU1NTU1NTU1NTU1NTU1NTU1NTgSEA+AzM3OSuHAeuIIoq35mjEK5CB+Awb6AjYRCwaCe7uNA=",
        (lanMembership false).peerPublicKey,(lanMembership false).membershipSignature⟩
  bootstrap := .managedPlatform "https://platform.lan"

theorem lanPrimitives_ideal : lanPrimitives.Ideal where
  signs := by
    intro key publicKey message _
    exact ⟨lanSignature message,rfl,decide_eq_true rfl⟩
  signatureLength := by
    intro publicKey message signature h
    rw [of_decide_eq_true h]
    simp
  base64Length := by
    have hlen : ∀ e∈lanTexts, (asBytes e.1).length=4*((e.2.length+2)/3) := by
      decide
    intro text bytes h
    exact hlen _ (lanPrimitives_base64_mem h)
  dhCommutes := lanPrimitives_dhCommutes
  dhContributes := by
    have hshared : beVector 32 0x7a5a425607245e50d0ef106cd552b660848e31344821c5bbec80575da698dc04
        ≠ Vector.replicate 32 0 := by
      decide
    exact fun _ _ => hshared

def lanPeers : TunnelPeers lanPrimitives where
  profile := lanProfile
  certFp side := match side with
    | .first => Vector.replicate 32 0x33
    | .second => Vector.replicate 32 0x44
  currentPeer _ := none
  direct _ := ⟨fun _ => false,fun m _ => (m,[]),fun m _ _ => (m,[])⟩
  verified := by
    intro side
    cases side with
    | first | second => exact toOption_eq_some.mp (by decide)
  tunnelId := rfl
  tunnelSigningPublicKey := rfl
  distinct := by decide
  current := nofun

def lanOffered : NegotiationState :=
  lanPeers.step lanPeers.start (.start .first (Vector.replicate 16 0x22) (lanSecret true) false)

def lanAnswered : NegotiationState := lanPeers.step lanOffered (.deliver .second (lanSecret false))

def lanInstalled : NegotiationState :=
  lanPeers.step lanAnswered (.deliver .first (Vector.replicate 32 0x63))

theorem lanInstalled_run : lanPeers.machine.Run lanInstalled [] := by
  have hsta : lanPeers.Enabled lanPeers.start
      (.start .first (Vector.replicate 16 0x22) (lanSecret true) false) :=
    ⟨fun _ _ => rfl,fun _ hmem => absurd hmem not_mem_nil,fun _ _ _ hmem => absurd hmem not_mem_nil⟩
  have hoffer : (lanOffered.endpoint .second).inbox.isEmpty=false ∧
      ∀ offer∈lanOffered.offers,
        offer.ephemeralX25519PublicKey≠lanPrimitives.x25519Public (lanSecret false) := by
    decide +kernel
  have hanswer : (lanAnswered.endpoint .first).inbox.isEmpty=false ∧
      ∀ offer∈lanAnswered.offers,
        offer.ephemeralX25519PublicKey≠lanPrimitives.x25519Public (Vector.replicate 32 0x63) := by
    decide +kernel
  have hdeliver : lanPeers.Enabled lanOffered (.deliver .second (lanSecret false)) :=
    ⟨isEmpty_eq_false_iff.mp hoffer.1,hoffer.2⟩
  have hread : lanPeers.Enabled lanAnswered (.deliver .first (Vector.replicate 32 0x63)) :=
    ⟨isEmpty_eq_false_iff.mp hanswer.1,hanswer.2⟩
  have hsteps : ∀ {s : NegotiationState} {e : NegotiationEvent}, lanPeers.machine.Run s [] →
      lanPeers.Enabled s e → lanPeers.machine.Run (lanPeers.step s e) [] :=
    fun hrun he => hrun.step _ he
  exact hsteps (hsteps (hsteps .init hsta) hdeliver) hread

theorem relayOnly_negotiation_converges_lan :
    (∀ side, (lanInstalled.endpoint side).inbox = []) ∧
      (∀ side, (lanInstalled.endpoint side).manager.pendingV2Offers = .empty) ∧
      ∃ link : Side → V2PeerLinkCryptoContext, ∀ side,
        (lanInstalled.endpoint side).manager.v2PeerLinks.get (lanPeers.peerId (otherSide side))
          = some (link side) ∧
        (link side).cipher.send = (link (otherSide side)).cipher.receive := by
  have hemp : (lanInstalled.endpoint .first).inbox.isEmpty=true ∧
      (lanInstalled.endpoint .second).inbox.isEmpty=true := by decide +kernel
  have hquiet : ∀ side, (lanInstalled.endpoint side).inbox=[] := by
    intro side
    cases side with
    | first => exact isEmpty_iff.mp hemp.1
    | second => exact isEmpty_iff.mp hemp.2
  have hlkd : ((lanInstalled.endpoint .first).manager.v2PeerLinks.get
      (lanPeers.peerId .second)).isSome=true := by decide +kernel
  obtain ⟨hpend,hnone | ⟨_,-,_,link,_,hlink⟩⟩ :=
    TunnelPeers.relayOnly_negotiation_converges lanPeers lanPrimitives_ideal
      lanInstalled_run hquiet
  · have hmiss : (lanInstalled.endpoint .first).manager.v2PeerLinks.get (lanPeers.peerId .second)
        = none := hnone .first
    rw [hmiss] at hlkd
    cases hlkd
  · exact ⟨hquiet,hpend,link,fun side => ⟨(hlink side).1,(hlink side).2.2.2⟩⟩

end Lantunnel.Client
