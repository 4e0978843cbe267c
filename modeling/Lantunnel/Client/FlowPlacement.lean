import Lantunnel.Client.RouteMatcher
import Lantunnel.Client.FlowScheduler
import Lantunnel.Client.P2pRegistry

/-!
# Which lane a flow gets (tp-client/src/engine.rs)

A destination is resolved to a Peer first (`resolve_proxy_target_peer`).
-/

namespace Lantunnel.Client
open Lib RustNet List
open Core (SessionId)

/-! ### The target of a flow (engine.rs:372-381, 3948-4012) -/

/-- The fields of a profile and of a tunnel configuration that are compared. -/
structure TunnelFacts where
  tunnelId : String
  peerId : String
  overlayIpv4 : String
  deriving DecidableEq

/-- An exact target names a Peer: `resolve_proxy_target_peer` is its only maker. -/
structure ResolvedProxyTarget where
  peerId : Option String
  logicalDestination : Option SocketAddr
  v2ExactTarget : Bool
  exact : v2ExactTarget=true → peerId.isSome=true

def resolveOverlayPeerWithMode (routes : OverlayRouteMatcher) (address : String) (v2ExactRouting : Bool) :
    Except String (Option String) :=
  match parseSocketAddr address with
  | none => .ok none
  | some address =>
    let destination:=address.ip
    match if v2ExactRouting then routes.matchV2Destination destination
        else routes.matchDestination destination with
    | .peer peerId => .ok (some peerId)
    | .unmatched => .ok none
    | .ambiguous => .error ("ambiguous exact Peer route for destination " ++ destination.toString)

def resolveProxyTargetPeer (lookupHost : LookupHost) (routes : OverlayRouteMatcher)
    (activeV2Profile latest : Option TunnelFacts) (address : String) : Except String ResolvedProxyTarget := do
  let exactRouting:=activeV2Profile.isSome && activeV2Profile=latest
  let v2ExactRouting:=activeV2Profile.isSome
  let logicalDestination ←
    if exactRouting then (resolveTargetAddrOnce lookupHost address true).map fun target => some target.socket
    else .ok (parseSocketAddr address)
  let target ← match logicalDestination with
    | some destination => resolveOverlayPeerWithMode routes destination.toString v2ExactRouting
    | none => .ok none
  if exactRouting && target.isNone then .error ("no exact Peer route for destination " ++ address)
  else .ok ⟨target,logicalDestination,v2ExactRouting && target.isSome,by simp⟩

/-! ### Lanes (engine.rs:1120-1185) -/

def PathKind.candidatePath : PathKind → CandidatePath
  | .relay => .relay
  | .p2p => .p2p

structure ProxyFlowLane where
  localClientId : String
  multi : ℕ
  path : PathKind
  p2pSessionId : Option SessionId
  p2pSession : Option ℕ
  targetPeerClientId : Option String
  v2ExactTarget : Bool
  candidateKey : CandidateKey
  deriving DecidableEq

inductive ProxyFlowAttemptExclude
  | lane (localClientId : String) (path : PathKind) (p2pSessionId : Option SessionId)
  | path (path : PathKind)

def ProxyFlowAttemptExclude.matches (lane : ProxyFlowLane) : ProxyFlowAttemptExclude → Bool
  | .lane localClientId kind p2pSessionId =>
    localClientId=lane.localClientId && kind=lane.path && p2pSessionId=lane.p2pSessionId
  | .path kind => kind=lane.path

/-! ### The engine (engine.rs:2866-2886, 4542-4726) -/

structure SessionQueueSnapshot where
  streamQueueUsed : ℕ
  streamQueueCapacity : ℕ
  datagramSendBufferSpace : Option ℕ
  datagramSendBufferCapacity : Option ℕ
  droppedFull : ℕ

structure FlowEngine (F : Type) where
  sessions : P2pRegistry
  -- client id of `tunnel_identity`
  tunnelIdentity : Option String
  -- `anchor_client_id` of `group_context`
  groupAnchorClientId : Option String
  activeV2Profile : Option TunnelFacts
  gatewayAttached : Bool
  v2CurrentMembership : List String
  v2PeerLinks : List String
  proxyFlowRegistry : FlowPlacementRegistry F
  proxyFlowScheduler : ReplicaFlowScheduler
  relayQueue : ℕ → SessionQueueSnapshot
  sessionQueue : ℕ → SessionQueueSnapshot

namespace FlowEngine
variable {F : Type} (self : FlowEngine F)

def usesV2PeerProfile : Bool := self.activeV2Profile.isSome

def hasUsableV2GatewayRelayLane : Bool :=
  self.sessions.replicaSessions.any fun entry => entry.relayActive && entry.relayAcceptsNewFlows

def hasUsableExactRelayForPeer (peerId : String) : Bool :=
  self.gatewayAttached && self.hasUsableV2GatewayRelayLane && self.v2CurrentMembership.contains peerId &&
    self.v2PeerLinks.contains peerId

/-- The anchor stands in for a Replica when there is none. -/
def lanes : List ReplicaMultiSession :=
  if self.sessions.replicaSessions=[] then
    self.sessions.anchor.toList.map fun multi =>
      ⟨(self.tunnelIdentity.or self.groupAnchorClientId).getD "anchor",multi,true,true,0⟩
  else self.sessions.replicaSessions

def p2pCandidates (entry : ReplicaMultiSession) (target : Option String) (v2ExactTarget : Bool) :
    List P2pCandidatePath :=
  let multi:=self.sessions.multis entry.multi
  match target with
  | some peerId =>
    if v2ExactTarget then multi.p2pCandidatePaths.filter fun candidate => candidate.peerClientId=peerId
    else multi.candidatePathsForPeer peerId
  | none => multi.p2pCandidatePaths

def p2pLane (entry : ReplicaMultiSession) (target : Option String) (v2ExactTarget : Bool)
    (p2p : P2pCandidatePath) : ProxyFlowLane :=
  { localClientId := entry.clientId
    multi := entry.multi
    path := .p2p
    p2pSessionId := some p2p.sessionId
    p2pSession := some p2p.session
    targetPeerClientId := target.map fun _ => p2p.peerClientId
    v2ExactTarget
    candidateKey := ⟨entry.clientId,.p2p,some p2p.sessionId,some p2p.peerClientId,
      if v2ExactTarget then target else some p2p.peerFamily,0⟩ }

/-- The relay lane of a Replica; the outer `none` skips the Replica. -/
def relayTarget (entry : ReplicaMultiSession) (target : Option String) (v2ExactTarget : Bool) :
    Option (Option String) :=
  match target with
  | none => some none
  | some peerFamily =>
    if v2ExactTarget then some (some peerFamily)
    else do
      let index ← replicaIndex entry.clientId
      let replicaId ← replicaIdForIndex peerFamily index
      some (some replicaId)

def relayLane (entry : ReplicaMultiSession) (v2ExactTarget : Bool) (targetPeerClientId : Option String) :
    ProxyFlowLane :=
  { localClientId := entry.clientId
    multi := entry.multi
    path := .relay
    p2pSessionId := none
    p2pSession := none
    targetPeerClientId
    v2ExactTarget
    candidateKey := match targetPeerClientId with
      | some peerClientId => .relayToPeer entry.clientId entry.transportGeneration peerClientId
      | none => .relay entry.clientId entry.transportGeneration }

def exactV2RelayAuthorized (target : Option String) (v2ExactTarget : Bool) : Bool :=
  match target with
  | some peerId => if v2ExactTarget then self.hasUsableExactRelayForPeer peerId else true
  | none => true

def flowLanes (target : Option String) (v2ExactTarget : Bool) : List ProxyFlowLane :=
  (self.lanes.flatMap fun entry =>
    (self.p2pCandidates entry target v2ExactTarget).map (p2pLane entry target v2ExactTarget)) ++
  self.lanes.filterMap fun entry =>
    if !entry.relayActive || !entry.relayAcceptsNewFlows ||
        !self.exactV2RelayAuthorized target v2ExactTarget then none
    else (relayTarget entry target v2ExactTarget).map (relayLane entry v2ExactTarget)

def queueSnapshotForCandidate (multi : ℕ) (key : CandidateKey) : Option SessionQueueSnapshot :=
  match key.path with
  | .relay => some (self.relayQueue multi)
  | .p2p => do
    let sessionId ← key.p2pSessionId
    let entry ← (self.sessions.multis multi).p2pSessions.get sessionId
    some (self.sessionQueue entry.session)

variable [F64 F]

def ratio (used capacity : ℕ) : Option F :=
  if capacity=0 then none else some (F64.div (F64.ofNat used) (F64.ofNat capacity))

def withQueueSnapshot (load : LaneLoadSnapshot F) (snapshot : SessionQueueSnapshot) : LaneLoadSnapshot F :=
  { load with
    streamQueueUsedRatio := ratio snapshot.streamQueueUsed snapshot.streamQueueCapacity
    datagramSendBufferSpaceRatio := do
      let space ← snapshot.datagramSendBufferSpace
      let capacity ← snapshot.datagramSendBufferCapacity
      ratio space capacity
    recentUdpDroppedDelta := snapshot.droppedFull }

def proxyFlowCandidateForLane (lane : ProxyFlowLane) : PlacementCandidate F :=
  let load:=match self.queueSnapshotForCandidate lane.multi lane.candidateKey with
    | some snapshot => withQueueSnapshot .default snapshot
    | none => .default
  ⟨lane.candidateKey,load,.none⟩

def markedCandidate (excludes : List ProxyFlowAttemptExclude) (lane : ProxyFlowLane) : PlacementCandidate F :=
  let candidate:=self.proxyFlowCandidateForLane lane
  if excludes.any fun exclude => exclude.matches lane then
    { candidate with excludedReason := .attemptTimeout }
  else candidate

def pickProxyFlowLaneLocked (flowKind : FlowKind) (excludes : List ProxyFlowAttemptExclude)
    (targetPeerFamily : Option String) (v2ExactTarget : Bool) : Option ProxyFlowLane × FlowEngine F :=
  if !v2ExactTarget && self.usesV2PeerProfile then (none,self)
  else
    let v2ExactTarget:=v2ExactTarget && targetPeerFamily.isSome
    let target:=targetPeerFamily.map fun peerId => if v2ExactTarget then peerId else replicaFamilyId peerId
    if self.lanes=[] then (none,self)
    else
      let flowLanes:=self.flowLanes target v2ExactTarget
      let (decision,scheduler):=self.proxyFlowScheduler.placeProxyFlow flowKind self.proxyFlowRegistry
        (flowLanes.map (self.markedCandidate excludes))
      (decision.selected.bind fun selected => flowLanes.find? fun lane => lane.candidateKey=selected,
        { self with proxyFlowScheduler := scheduler })

def pickAndRecordProxyFlowLaneForPeer (connId : String) (flowKind : FlowKind)
    (excludes : List ProxyFlowAttemptExclude) (target : ResolvedProxyTarget) :
    Option ProxyFlowLane × FlowEngine F :=
  match self.pickProxyFlowLaneLocked flowKind excludes target.peerId target.v2ExactTarget with
  | (none,self) => (none,self)
  | (some lane,self) =>
    (some lane,{ self with
      proxyFlowRegistry := self.proxyFlowRegistry.recordPending connId flowKind lane.candidateKey })

end FlowEngine

/-- A P2P session installed for the Peer, or a relay lane addressed to it while it
has a usable exact relay. -/
inductive CarriesTo {F : Type} (engine : FlowEngine F) (peerId : String) (lane : ProxyFlowLane) : Prop
  | p2p (sessionId : SessionId) (entry : P2pSessionEntry) (hpath : lane.path = .p2p)
      (hentry : (engine.sessions.multis lane.multi).p2pSessions.get sessionId=some entry)
      (hsession : lane.p2pSession=some entry.session) (hid : lane.p2pSessionId=some entry.sessionId)
      (hpeer : entry.peerClientId=peerId) (haccepts : entry.acceptsNewFlows=true)
  | relay (hpath : lane.path = .relay) (htarget : lane.targetPeerClientId=some peerId)
      (husable : engine.hasUsableExactRelayForPeer peerId=true)

section Placement
variable {F : Type} {engine : FlowEngine F}

theorem p2pCandidatePaths_entry {multi : MultiSession} {candidate : P2pCandidatePath}
    (h : candidate∈multi.p2pCandidatePaths) :
    ∃ sessionId entry, multi.p2pSessions.get sessionId=some entry ∧ entry.acceptsNewFlows=true ∧
      candidate.session=entry.session ∧ candidate.sessionId=entry.sessionId ∧
      candidate.peerClientId=entry.peerClientId := by
  obtain ⟨entry,hent,rfl⟩:=mem_map.mp h
  obtain ⟨hmem,hacc⟩:=mem_filter.mp hent
  obtain ⟨sessionId,hget⟩:=MultiSession.mem_entries.mp hmem
  exact ⟨sessionId,entry,hget,hacc,rfl,rfl,rfl⟩

variable {lane : ProxyFlowLane}

theorem flowLanes_carriesTo {peerId : String}
    (h : lane∈engine.flowLanes (some peerId) true) : CarriesTo engine peerId lane := by
  rcases mem_append.mp h with hp2p | hrelay
  · obtain ⟨_,-,hlane⟩:=mem_flatMap.mp hp2p
    obtain ⟨_,hcand,rfl⟩:=mem_map.mp hlane
    obtain ⟨hcand,hpeer⟩:=mem_filter.mp hcand
    obtain ⟨sessionId,installed,hget,hacc,hsess,hid,hinstall⟩ :=
      p2pCandidatePaths_entry hcand
    refine .p2p sessionId installed rfl hget (congrArg some hsess) (congrArg some hid) ?_ hacc
    exact hinstall.symm.trans (of_decide_eq_true hpeer)
  · obtain ⟨_,-,hlane⟩:=mem_filterMap.mp hrelay
    split at hlane
    · cases hlane
    rename_i halw
    simp only [Bool.or_eq_true,Bool.not_eq_true',not_or,Bool.not_eq_false] at halw
    obtain ⟨_,htgt,rfl⟩:=Option.map_eq_some_iff.mp hlane
    obtain rfl := Option.some.inj htgt
    exact .relay rfl rfl halw.2

structure KeyOf (lane : ProxyFlowLane) : Prop where
  localClientId : lane.candidateKey.localClientId=lane.localClientId
  path : lane.candidateKey.path=lane.path.candidatePath
  p2pSessionId : lane.candidateKey.p2pSessionId=lane.p2pSessionId

theorem flowLanes_keyOf {target : Option String} {v2ExactTarget : Bool}
    (h : lane∈engine.flowLanes target v2ExactTarget) : KeyOf lane := by
  rcases mem_append.mp h with hp2p | hrelay
  · obtain ⟨_,-,hlane⟩:=mem_flatMap.mp hp2p
    obtain ⟨_,-,rfl⟩:=mem_map.mp hlane
    exact ⟨rfl,rfl,rfl⟩
  obtain ⟨_,-,hlane⟩:=mem_filterMap.mp hrelay
  split at hlane
  · cases hlane
  obtain ⟨peer,-,rfl⟩:=Option.map_eq_some_iff.mp hlane
  cases peer with
  | none | some peer => exact ⟨rfl,rfl,rfl⟩

theorem candidatePath_injective {a b : PathKind} (h : a.candidatePath=b.candidatePath) : a=b := by
  cases a with
  | relay =>
    cases b with
    | relay => rfl
    | p2p => cases h
  | p2p =>
    cases b with
    | relay => cases h
    | p2p => rfl

theorem matches_eq_of_key {lane' : ProxyFlowLane} (h : KeyOf lane) (h' : KeyOf lane')
    (hkey : lane.candidateKey=lane'.candidateKey) (exclude : ProxyFlowAttemptExclude) :
    exclude.matches lane=exclude.matches lane' := by
  have hcl : lane.localClientId=lane'.localClientId := by
    rw [← h.localClientId,hkey,h'.localClientId]
  have hpath : lane.path=lane'.path := by
    apply candidatePath_injective
    rw [← h.path,hkey,h'.path]
  have hsess : lane.p2pSessionId=lane'.p2pSessionId := by
    rw [← h.p2pSessionId,hkey,h'.p2pSessionId]
  cases exclude with
  | lane =>
    simp only [ProxyFlowAttemptExclude.matches,hcl,hpath,hsess]
  | path => simp only [ProxyFlowAttemptExclude.matches,hpath]

variable [F64 F]

theorem pickProxyFlowLaneLocked_spec {flowKind : FlowKind} {excludes : List ProxyFlowAttemptExclude}
    {targetPeerFamily : Option String} {v2ExactTarget : Bool}
    (h : (engine.pickProxyFlowLaneLocked flowKind excludes targetPeerFamily v2ExactTarget).1=some lane) :
    (engine.usesV2PeerProfile=true → v2ExactTarget=true) ∧
      (∀ peerId, targetPeerFamily=some peerId → v2ExactTarget=true →
        lane∈engine.flowLanes (some peerId) true) ∧
      ∀ exclude∈excludes, exclude.matches lane=false := by
  rw [FlowEngine.pickProxyFlowLaneLocked] at h
  split at h
  · cases h
  rename_i hauth
  split at h
  · cases h
  obtain ⟨selected,hselect,hfind⟩:=Option.bind_eq_some_iff.mp h
  have hlane:=mem_of_find?_eq_some hfind
  have hkey : lane.candidateKey=selected := by simpa using find?_some hfind
  obtain ⟨_,hcandidate,hcand,hwhy⟩ :=
    ReplicaFlowScheduler.placeProxyFlow_mem hselect
  obtain ⟨chosen,hchosen,rfl⟩:=mem_map.mp hcandidate
  refine ⟨?_,?_,?_⟩
  · grind
  · rintro peerId rfl rfl
    simpa using hlane
  · -- the lane found may be another one of the same key
    intro exclude hexclude
    have hunmarked : (excludes.any fun exclude => exclude.matches chosen)=false := by
      rw [FlowEngine.markedCandidate] at hwhy
      split at hwhy
      · cases hwhy
      · exact Bool.eq_false_of_not_eq_true ‹_›
    have hchoice : chosen.candidateKey=selected := by
      rw [FlowEngine.markedCandidate] at hcand
      split at hcand <;> exact hcand
    rw [matches_eq_of_key (flowLanes_keyOf hlane) (flowLanes_keyOf hchosen) (hkey.trans hchoice.symm)]
    have hall:=any_eq_false.mp hunmarked exclude hexclude
    exact Bool.eq_false_of_not_eq_true hall

/-- A flow for an exact Peer gets a lane to that Peer, no flow gets an excluded
lane, and under a V2 profile every flow that gets a lane has an exact Peer. -/
theorem placement_respects_identity {connId : String} {flowKind : FlowKind}
    {excludes : List ProxyFlowAttemptExclude} {target : ResolvedProxyTarget} {lane : ProxyFlowLane}
    (h : (engine.pickAndRecordProxyFlowLaneForPeer connId flowKind excludes target).1 = some lane) :
    (∀ peerId, target.peerId = some peerId → target.v2ExactTarget = true → CarriesTo engine peerId lane) ∧
      (∀ exclude ∈ excludes, exclude.matches lane = false) ∧
      (engine.usesV2PeerProfile = true →
        target.v2ExactTarget = true ∧ ∃ peerId, target.peerId = some peerId) := by
  have hpick : (engine.pickProxyFlowLaneLocked flowKind excludes target.peerId
      target.v2ExactTarget).1=some lane := by
    rw [FlowEngine.pickAndRecordProxyFlowLaneForPeer] at h
    split at h
    · cases h
    rename_i picked engine' hpicked
    rw [hpicked]
    exact h
  obtain ⟨hauth,hlanes,hexclude⟩:=pickProxyFlowLaneLocked_spec hpick
  refine ⟨fun peerId hpeer hexact => flowLanes_carriesTo (hlanes peerId hpeer hexact),hexclude,?_⟩
  intro huses
  have hexact:=hauth huses
  exact ⟨hexact,Option.isSome_iff_exists.mp (target.exact hexact)⟩

end Placement

def idleQueue : SessionQueueSnapshot := ⟨0,64,none,none,0⟩

def officeEngine : FlowEngine ℚ where
  sessions := (p2pMachine.exec p2pMachine.init (quarantined++[recovered])).1
  tunnelIdentity := none
  groupAnchorClientId := none
  activeV2Profile := some ⟨"lan","peer-a","198.18.0.1"⟩
  gatewayAttached := true
  v2CurrentMembership := ["peer-a","peer-b"]
  v2PeerLinks := ["peer-b"]
  proxyFlowRegistry := ⟨.empty,.empty⟩
  proxyFlowScheduler := .default
  relayQueue := fun _ => idleQueue
  sessionQueue := fun _ => idleQueue

def officeTarget : ResolvedProxyTarget := ⟨some "peer-b",none,true,fun _ => rfl⟩

theorem placement_respects_identity_office : ∃ lane,
    (officeEngine.pickAndRecordProxyFlowLaneForPeer "conn-1" .tcp [.path .p2p] officeTarget).1 = some lane ∧
      CarriesTo officeEngine "peer-b" lane ∧ lane.path = .relay := by
  have hlane : (officeEngine.pickAndRecordProxyFlowLaneForPeer "conn-1" .tcp [.path .p2p] officeTarget).1 =
      some ⟨"client-0",0,.relay,none,none,some "peer-b",true,
        ⟨"client-0",.relay,none,some "peer-b",some "peer-b",0⟩⟩ := by
    decide +kernel
  obtain ⟨hcarry,-,-⟩:=placement_respects_identity hlane
  exact ⟨_,hlane,hcarry "peer-b" rfl rfl,rfl⟩

end Lantunnel.Client
