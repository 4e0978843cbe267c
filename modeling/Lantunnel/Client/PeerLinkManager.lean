import Lantunnel.Client.PeerLinkNegotiation

/-!
# Logical links between Peers (tp-client/src/peer_link_manager.rs)

A Peer keeps one link for each other Peer of the membership, with a fixed number of
lanes.
-/

namespace Lantunnel.Client
open Lib RustStd List

/-! ### Peers (peer_link_manager.rs:13-130) -/

structure ReplicaDescriptor where
  replicaId : String
  index : ℕ

/-- A Peer has a Replica: the source's constructors refuse an empty set. -/
structure PeerDescriptor where
  peerId : String
  replicas : List ReplicaDescriptor
  nonempty : replicas ≠ []

/-! ### Links and lanes (peer_link_manager.rs:142-261) -/

structure PeerLinkKey where
  first : String
  second : String
  deriving DecidableEq

def PeerLinkKey.canonical (a b : String) : PeerLinkKey := if strLe a b then ⟨a,b⟩ else ⟨b,a⟩

inductive MembershipState
  | present
  | suspectMissing
  | retired
  deriving DecidableEq

structure PeerConnectivity where
  healthyDirect : Bool
  usableExactRelay : Bool

structure PeerLaneKey where
  link : PeerLinkKey
  index : ℕ
  deriving DecidableEq

structure PeerLaneView where
  key : PeerLaneKey
  localReplicaId : String
  remoteReplicaId : String
  localRole : RelationRole
  deriving DecidableEq

def PeerLaneView.index (lane : PeerLaneView) : ℕ := lane.key.index

def PeerLaneView.relationKey (lane : PeerLaneView) : PeerRelationKey :=
  ⟨lane.key.link.first,lane.key.link.second,lane.key.index⟩

structure PeerLinkView where
  key : PeerLinkKey
  lanes : List PeerLaneView
  localIsInitiator : Bool
  membership : MembershipState
  consecutiveRetryFailures : ℕ

/-! ### Building a link (peer_link_manager.rs:481-535) -/

def replicaForLane (peer : PeerDescriptor) (laneIndex : ℕ) : ReplicaDescriptor :=
  (peer.replicas.find? fun replica => replica.index=laneIndex).getD
    (peer.replicas.get ⟨laneIndex % peer.replicas.length,
      Nat.mod_lt _ (length_pos_of_ne_nil peer.nonempty)⟩)

def buildLane (key : PeerLinkKey) (localIsInitiator : Bool) (initiator acceptor : PeerDescriptor)
    (laneIndex : ℕ) : PeerLaneView :=
  let initiatorReplica:=replicaForLane initiator laneIndex
  let acceptorReplica:=replicaForLane acceptor laneIndex
  if localIsInitiator then
    ⟨⟨key,laneIndex⟩,initiatorReplica.replicaId,acceptorReplica.replicaId,.initiator⟩
  else ⟨⟨key,laneIndex⟩,acceptorReplica.replicaId,initiatorReplica.replicaId,.acceptor⟩

def buildPeerLink (localPeer remotePeer : PeerDescriptor) (configuredReplicaCount : ℕ) : PeerLinkView :=
  let key:=PeerLinkKey.canonical localPeer.peerId remotePeer.peerId
  let localIsInitiator : Bool := key.first=localPeer.peerId
  let (initiator,acceptor) :=
    if localIsInitiator then (localPeer,remotePeer) else (remotePeer,localPeer)
  ⟨key,(range configuredReplicaCount).map (buildLane key localIsInitiator initiator acceptor),
    localIsInitiator,.present,0⟩

/-! ### The manager (peer_link_manager.rs:328-473) -/

inductive PeerLinkCommand
  | ensureLane (lane : PeerLaneView)

inductive PeerLinkManagerError
  | zeroReplicaCount

structure PeerLinkManager where
  localPeer : PeerDescriptor
  configuredReplicaCount : ℕ
  links : Table String PeerLinkView
  firstAbsentAt : Table String ℕ
  retiredPeers : List String

-- nanoseconds
def ABSENCE_GRACE : ℕ := 120*1000000000

namespace PeerLinkManager

def new (localPeer : PeerDescriptor) (configuredReplicaCount : ℕ) :
    Except PeerLinkManagerError PeerLinkManager :=
  if configuredReplicaCount=0 then .error .zeroReplicaCount
  else .ok ⟨localPeer,configuredReplicaCount,.empty,.empty,[]⟩

variable (manager : PeerLinkManager)

def desired (peer : PeerDescriptor) : PeerLinkView :=
  buildPeerLink manager.localPeer peer manager.configuredReplicaCount

def applyPeer (peer : PeerDescriptor) : PeerLinkManager × List PeerLinkCommand :=
  if peer.peerId=manager.localPeer.peerId then (manager,[])
  else
    let desired:=manager.desired peer
    match manager.links.get peer.peerId with
    | some link =>
      ({ manager with
          links := manager.links.insert peer.peerId
            { link with lanes := desired.lanes, membership := .present }
          firstAbsentAt := manager.firstAbsentAt.remove peer.peerId },
        (desired.lanes.filter fun lane => link.lanes[lane.index]? ≠ some lane).map .ensureLane)
    | none =>
      ({ manager with
          links := manager.links.insert peer.peerId desired
          firstAbsentAt := manager.firstAbsentAt.remove peer.peerId },
        desired.lanes.map .ensureLane)

def applyPeers : List PeerDescriptor → PeerLinkManager → PeerLinkManager × List PeerLinkCommand
  | [], manager => (manager,[])
  | peer::peers, manager =>
    let (manager,commands):=manager.applyPeer peer
    let (manager,more):=applyPeers peers manager
    (manager,commands++more)

def missPeer (now : ℕ) (connectivityFor : String → PeerConnectivity) (peerId : String)
    (link : PeerLinkView) : PeerLinkManager × Bool :=
  let firstAbsentAt:=(manager.firstAbsentAt.get peerId).getD now
  let connectivity:=connectivityFor peerId
  let gone:=ABSENCE_GRACE≤now-firstAbsentAt && !connectivity.healthyDirect
    && !connectivity.usableExactRelay
  ({ manager with
      links := manager.links.insert peerId
        { link with membership := if gone then .retired else .suspectMissing }
      firstAbsentAt := manager.firstAbsentAt.insert peerId firstAbsentAt },
    gone)

/-- The loop over the links, by their keys. -/
def missPeers (present : List String) (now : ℕ) (connectivityFor : String → PeerConnectivity) :
    List String → PeerLinkManager → PeerLinkManager × List String
  | [], manager => (manager,[])
  | peerId::peerIds, manager =>
    match manager.links.get peerId with
    | none => missPeers present now connectivityFor peerIds manager
    | some link =>
      if peerId ∈ present then missPeers present now connectivityFor peerIds manager
      else
        let (manager',gone):=manager.missPeer now connectivityFor peerId link
        let (manager',retired):=missPeers present now connectivityFor peerIds manager'
        (manager',if gone && peerId ∉ manager.retiredPeers then peerId::retired else retired)

def presentPeers (snapshot : List PeerDescriptor) : List String :=
  (snapshot.filter fun peer => peer.peerId ≠ manager.localPeer.peerId).map (·.peerId)

def linkedPeers : List String := (manager.links.pairs.map Prod.fst).mergeSort strLe

def applySnapshotAt (snapshot : List PeerDescriptor) (now : ℕ)
    (connectivityFor : String → PeerConnectivity) : PeerLinkManager × List PeerLinkCommand :=
  let present:=manager.presentPeers snapshot
  let (manager,commands):=applyPeers snapshot manager
  let (manager,retired):=missPeers present now connectivityFor manager.linkedPeers manager
  ({ manager with retiredPeers := manager.retiredPeers++retired },commands)

def takeRetiredPeers : List String × PeerLinkManager :=
  (manager.retiredPeers,{ manager with retiredPeers := [] })

def confirmRetiredPeer (peerId : String) : Bool × PeerLinkManager :=
  match manager.links.get peerId with
  | none => (false,manager)
  | some link =>
    if link.membership ≠ .retired then (false,manager)
    else
      (true,{ manager with
        links := manager.links.remove peerId
        firstAbsentAt := manager.firstAbsentAt.remove peerId
        retiredPeers := manager.retiredPeers.filter (· ≠ peerId) })

end PeerLinkManager

def RelationRole.opposite : RelationRole → RelationRole
  | .initiator => .acceptor
  | .acceptor => .initiator

theorem PeerLinkKey.canonical_comm (a b : String) :
    PeerLinkKey.canonical a b=PeerLinkKey.canonical b a := by
  by_cases hab : a=b
  · rw [hab]
  rw [PeerLinkKey.canonical,PeerLinkKey.canonical,strLe,strLe,strLt_asymm (Ne.symm hab)]
  cases strLt a b with
  | true | false => rfl

theorem PeerLinkKey.first_canonical (a b : String) :
    (PeerLinkKey.canonical a b).first=a ∨ (PeerLinkKey.canonical a b).first=b := by
  rw [PeerLinkKey.canonical]
  split
  · exact .inl rfl
  · exact .inr rfl

section Lanes
variable {a b : PeerDescriptor} (n : ℕ)

theorem buildPeerLink_initiator (h : (PeerLinkKey.canonical a.peerId b.peerId).first=a.peerId) :
    buildPeerLink a b n=⟨.canonical a.peerId b.peerId,
      (range n).map (buildLane (.canonical a.peerId b.peerId) true a b),true,.present,0⟩ := by
  simp [buildPeerLink,h]

theorem buildPeerLink_acceptor (h : (PeerLinkKey.canonical a.peerId b.peerId).first≠a.peerId) :
    buildPeerLink a b n=⟨.canonical a.peerId b.peerId,
      (range n).map (buildLane (.canonical a.peerId b.peerId) false b a),false,.present,0⟩ := by
  simp [buildPeerLink,h]

theorem length_buildPeerLink (a b : PeerDescriptor) : (buildPeerLink a b n).lanes.length=n := by
  simp [buildPeerLink]

def PeerLaneView.mirror (lane : PeerLaneView) : PeerLaneView :=
  ⟨lane.key,lane.remoteReplicaId,lane.localReplicaId,lane.localRole.opposite⟩

theorem buildLane_mirror (key : PeerLinkKey) (localIsInitiator : Bool) (a b : PeerDescriptor) (i : ℕ) :
    buildLane key (!localIsInitiator) a b i=(buildLane key localIsInitiator a b i).mirror := by
  cases localIsInitiator with
  | true | false => rfl

theorem buildPeerLink_mirror (hne : a.peerId≠b.peerId) :
    (buildPeerLink b a n).key=(buildPeerLink a b n).key ∧
    (buildPeerLink b a n).localIsInitiator = !(buildPeerLink a b n).localIsInitiator ∧
    (buildPeerLink b a n).lanes=(buildPeerLink a b n).lanes.map PeerLaneView.mirror := by
  have hcommit:=PeerLinkKey.canonical_comm b.peerId a.peerId
  have hlanes : ∀ localIsInitiator : Bool, ∀ x y : PeerDescriptor,
      (range n).map (buildLane (.canonical a.peerId b.peerId) (!localIsInitiator) x y) =
        ((range n).map (buildLane (.canonical a.peerId b.peerId) localIsInitiator x y)).map
          PeerLaneView.mirror := by
    intro localIsInitiator x y
    rw [map_map]
    exact map_congr_left fun i _ => buildLane_mirror _ localIsInitiator x y i
  by_cases hfst : (PeerLinkKey.canonical a.peerId b.peerId).first=a.peerId
  · have hoth : (PeerLinkKey.canonical b.peerId a.peerId).first≠b.peerId := by
      rw [hcommit,hfst]
      exact hne
    rw [buildPeerLink_initiator n hfst,buildPeerLink_acceptor n hoth,hcommit]
    exact ⟨rfl,rfl,hlanes true a b⟩
  · have hoth : (PeerLinkKey.canonical b.peerId a.peerId).first=b.peerId := by
      rw [hcommit]
      exact (PeerLinkKey.first_canonical a.peerId b.peerId).resolve_left hfst
    rw [buildPeerLink_acceptor n hfst,buildPeerLink_initiator n hoth,hcommit]
    exact ⟨rfl,rfl,hlanes false b a⟩

theorem getElem?_range_map {f : ℕ → PeerLaneView} {i : ℕ} {lane : PeerLaneView}
    (h : ((List.range n).map f)[i]?=some lane) : lane=f i := by
  obtain ⟨j,hj,rfl⟩:=Option.map_eq_some_iff.mp ((List.getElem?_map ..).symm.trans h)
  obtain ⟨-,rfl⟩:=List.getElem?_eq_some_iff.mp hj
  rw [List.getElem_range]

theorem buildPeerLink_lane {i : ℕ} {lane : PeerLaneView}
    (h : (buildPeerLink a b n).lanes[i]?=some lane) : lane.index=i ∧ lane.localRole =
      if (buildPeerLink a b n).localIsInitiator then .initiator else .acceptor := by
  by_cases hfst : (PeerLinkKey.canonical a.peerId b.peerId).first=a.peerId
  · rw [buildPeerLink_initiator n hfst] at h ⊢
    obtain rfl := getElem?_range_map n h
    exact ⟨rfl,rfl⟩
  rw [buildPeerLink_acceptor n hfst] at h ⊢
  obtain rfl := getElem?_range_map n h
  exact ⟨rfl,rfl⟩

end Lanes

theorem links_agree (a b : PeerDescriptor) (n : ℕ) (hne : a.peerId ≠ b.peerId) :
    let ab := buildPeerLink a b n
    let ba := buildPeerLink b a n
    ab.key=ba.key ∧ ab.lanes.length=n ∧ ba.lanes.length=n ∧
    (∀ (i : ℕ) (lane : PeerLaneView), ab.lanes[i]?=some lane → lane.index=i ∧
      ∃ lane', ba.lanes[i]?=some lane' ∧ lane'.key=lane.key ∧
        lane'.localReplicaId=lane.remoteReplicaId ∧ lane'.remoteReplicaId=lane.localReplicaId ∧
        lane'.localRole=lane.localRole.opposite ∧ lane'.relationKey=lane.relationKey) ∧
    ((∀ lane∈ab.lanes, lane.localRole = .initiator) ∧ (∀ lane∈ba.lanes, lane.localRole = .acceptor) ∨
      (∀ lane∈ab.lanes, lane.localRole = .acceptor) ∧
        ∀ lane∈ba.lanes, lane.localRole = .initiator) := by
  obtain ⟨hkey,_,hlanes⟩:=buildPeerLink_mirror n hne
  have hroles : ∀ {x y : PeerDescriptor}, ∀ lane∈(buildPeerLink x y n).lanes, lane.localRole =
      if (buildPeerLink x y n).localIsInitiator then .initiator else .acceptor := by
    intro x y lane hmem
    obtain ⟨i,hi⟩:=mem_iff_getElem?.mp hmem
    exact (buildPeerLink_lane n hi).2
  refine ⟨hkey.symm,length_buildPeerLink n a b,length_buildPeerLink n b a,?_,?_⟩
  · intro i lane hlane
    refine ⟨(buildPeerLink_lane n hlane).1,lane.mirror,?_,rfl,rfl,rfl,rfl,rfl⟩
    rw [hlanes,getElem?_map,hlane,Option.map_some]
  cases hside : (buildPeerLink a b n).localIsInitiator with
  | true => grind
  | false => grind

def deskPeer : PeerDescriptor :=
  ⟨"lan-AbCd1234-0",[⟨"lan-AbCd1234-0",0⟩,⟨"lan-AbCd1234-1",1⟩,⟨"lan-AbCd1234-2",2⟩],by simp⟩

def laptopPeer : PeerDescriptor :=
  ⟨"lan-Zz001234-0",[⟨"lan-Zz001234-1",1⟩,⟨"lan-Zz001234-5",5⟩],by simp⟩

theorem links_agree_sparse :
    (buildPeerLink deskPeer laptopPeer 4).key = (buildPeerLink laptopPeer deskPeer 4).key ∧
      ∀ lane ∈ (buildPeerLink laptopPeer deskPeer 4).lanes, lane.localRole = .acceptor := by
  obtain ⟨hkey,-,-,-,hroles⟩:=links_agree deskPeer laptopPeer 4 (by decide)
  refine ⟨hkey,?_⟩
  rcases hroles with ⟨-,haccept⟩ | ⟨haccept,-⟩
  · exact haccept
  · exact absurd (haccept _ (mem_cons_self ..)) (by decide)

end Lantunnel.Client
