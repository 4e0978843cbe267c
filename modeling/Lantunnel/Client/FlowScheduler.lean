import Lantunnel.Client.Replica
import Lantunnel.Core.PeerLinkCrypto

/-!
# Placing flows on lanes (tp-client/src/p2p/flow_scheduler.rs)

Each candidate lane gets a score from its load; the lowest score wins, and lanes of
equal score take turns.
-/

namespace Lantunnel.Client
open Lib RustStd List
open Core (SessionId)

class F64 (F : Type) where
  literal : ℚ → F
  ofNat : ℕ → F
  infinity : F
  add : F → F → F
  mul : F → F → F
  div : F → F → F
  min : F → F → F
  lt : F → F → Bool
  eq : F → F → Bool
  -- `total_cmp` is not `Greater`
  totalLe : F → F → Bool

instance rationalScores : F64 ℚ where
  literal := id
  ofNat := Nat.cast
  infinity := 10^9
  add := (·+·)
  mul := (·*·)
  div := (·/·)
  min := min
  lt a b := a<b
  eq a b := a=b
  totalLe a b := a≤b

/-! ### Candidates (flow_scheduler.rs:10-117) -/

inductive FlowKind
  | tcp
  | udp
  deriving DecidableEq

inductive CandidatePath
  | relay
  | p2p
  deriving DecidableEq

structure CandidateKey where
  localClientId : String
  path : CandidatePath
  p2pSessionId : Option SessionId
  peerClientId : Option String
  peerFamily : Option String
  transportGeneration : ℕ
  deriving DecidableEq

def strCmp (a b : String) : Ordering := if strLt a b then .lt else if strLt b a then .gt else .eq

def optionCmp {α : Type} (cmp : α → α → Ordering) : Option α → Option α → Ordering
  | none, none => .eq
  | none, some _ => .lt
  | some _, none => .gt
  | some a, some b => cmp a b

namespace CandidateKey

def pathRank : CandidatePath → ℕ
  | .relay => 0
  | .p2p => 1

def cmp (a b : CandidateKey) : Ordering :=
  (strCmp a.localClientId b.localClientId).then <|
  (compare (pathRank a.path) (pathRank b.path)).then <|
  (optionCmp (fun a b : SessionId => compare (a.toList.map UInt8.toNat) (b.toList.map UInt8.toNat))
    a.p2pSessionId b.p2pSessionId).then <|
  (optionCmp strCmp a.peerClientId b.peerClientId).then <|
  (optionCmp strCmp a.peerFamily b.peerFamily).then <|
  compare a.transportGeneration b.transportGeneration

def relay (localClientId : String) (transportGeneration : ℕ) : CandidateKey :=
  ⟨localClientId,.relay,none,none,none,transportGeneration⟩

def relayToPeer (localClientId : String) (transportGeneration : ℕ) (peerClientId : String) : CandidateKey :=
  ⟨localClientId,.relay,none,some peerClientId,some (replicaFamilyId peerClientId),transportGeneration⟩

end CandidateKey

/-! ### Scores (flow_scheduler.rs:119-203, 684-700) -/

structure LaneLoadSnapshot (F : Type) where
  activeTcp : ℕ
  activeUdp : ℕ
  txMbpsEwma : F
  udpTxMbpsEwma : F
  streamQueueUsedRatio : Option F
  datagramSendBufferSpaceRatio : Option F
  recentUdpDroppedDelta : ℕ

inductive PlacementExcludedReason
  | none
  | attemptTimeout
  deriving DecidableEq

structure LaneScoreBreakdown (F : Type) where
  activeTcpCost : F
  activeUdpCost : F
  bandwidthCost : F
  streamPressureCost : F
  datagramPressureCost : F
  recentUdpDropCost : F
  attemptCost : F
  totalScore : F

section Scores
variable {F : Type} [F64 F]

def LaneLoadSnapshot.default : LaneLoadSnapshot F := ⟨0,0,F64.literal 0,F64.literal 0,none,none,0⟩

def streamPressureCost : Option F → F
  | some ratio =>
    if F64.lt (F64.literal 0.90) ratio then F64.literal 300
    else if F64.lt (F64.literal 0.75) ratio then F64.literal 150
    else F64.literal 0
  | none => F64.literal 0

def datagramPressureCost : Option F → F
  | some ratio =>
    if F64.eq ratio (F64.literal 0) then F64.literal 600
    else if F64.lt ratio (F64.literal 0.10) then F64.literal 300
    else if F64.lt ratio (F64.literal 0.25) then F64.literal 100
    else F64.literal 0
  | none => F64.literal 0

def LaneScoreBreakdown.forLoad (flowKind : FlowKind) (load : LaneLoadSnapshot F)
    (excludedReason : PlacementExcludedReason) : LaneScoreBreakdown F :=
  let attemptCost:=match excludedReason with
    | .none => F64.literal 0
    | .attemptTimeout => F64.infinity
  let zero : F := F64.literal 0
  let out : LaneScoreBreakdown F := match flowKind with
    | .tcp => {
        activeTcpCost := F64.mul (F64.ofNat load.activeTcp) (F64.literal 100)
        activeUdpCost := F64.mul (F64.ofNat load.activeUdp) (F64.literal 200)
        bandwidthCost := F64.min (F64.mul load.txMbpsEwma (F64.literal 2)) (F64.literal 400)
        streamPressureCost := Client.streamPressureCost load.streamQueueUsedRatio
        datagramPressureCost := zero
        recentUdpDropCost := zero
        attemptCost
        totalScore := zero }
    | .udp => {
        activeTcpCost := F64.mul (F64.ofNat load.activeTcp) (F64.literal 25)
        activeUdpCost := F64.mul (F64.ofNat load.activeUdp) (F64.literal 1000)
        bandwidthCost := F64.min (F64.mul load.udpTxMbpsEwma (F64.literal 4)) (F64.literal 400)
        streamPressureCost := zero
        datagramPressureCost := Client.datagramPressureCost load.datagramSendBufferSpaceRatio
        recentUdpDropCost :=
          F64.min (F64.mul (F64.ofNat load.recentUdpDroppedDelta) (F64.literal 10)) (F64.literal 500)
        attemptCost
        totalScore := zero }
  { out with
    totalScore := F64.add (F64.add (F64.add (F64.add (F64.add (F64.add out.activeTcpCost out.activeUdpCost)
      out.bandwidthCost) out.streamPressureCost) out.datagramPressureCost) out.recentUdpDropCost)
      out.attemptCost }

end Scores

/-! ### Flows already placed (flow_scheduler.rs:241-355, 460-483) -/

inductive FlowPlacementState
  | pending
  | established
  deriving DecidableEq

structure FlowPlacementEntry where
  kind : FlowKind
  key : CandidateKey
  state : FlowPlacementState

structure FlowPlacementRegistry (F : Type) where
  placements : Table String FlowPlacementEntry
  -- the averages of the last sample
  traffic : Table CandidateKey (F × F)

namespace FlowPlacementRegistry
variable {F : Type} (self : FlowPlacementRegistry F)

def recordPending (connId : String) (kind : FlowKind) (key : CandidateKey) : FlowPlacementRegistry F :=
  { self with placements := self.placements.insert connId ⟨kind,key,.pending⟩ }

def activeCount (kind : FlowKind) (key : CandidateKey) : ℕ :=
  (self.placements.pairs.filter fun entry => entry.2.key=key && entry.2.kind=kind).length

def laneLoadSnapshot [F64 F] (key : CandidateKey) : LaneLoadSnapshot F :=
  let (txMbpsEwma,udpTxMbpsEwma):=(self.traffic.get key).getD (F64.literal 0,F64.literal 0)
  { LaneLoadSnapshot.default with
    activeTcp := self.activeCount .tcp key, activeUdp := self.activeCount .udp key, txMbpsEwma, udpTxMbpsEwma }

end FlowPlacementRegistry

/-! ### Placement (flow_scheduler.rs:205-239, 485-663) -/

structure PlacementCandidate (F : Type) where
  key : CandidateKey
  load : LaneLoadSnapshot F
  excludedReason : PlacementExcludedReason

structure PlacementDecisionRecord (F : Type) where
  decisionId : ℕ
  flowKind : FlowKind
  key : CandidateKey
  load : LaneLoadSnapshot F
  breakdown : LaneScoreBreakdown F
  selected : Bool
  excludedReason : PlacementExcludedReason

structure PlacementDecision (F : Type) where
  decisionId : ℕ
  selected : Option CandidateKey
  records : List (PlacementDecisionRecord F)

structure ReplicaFlowScheduler where
  -- the source's counter wraps at `2^64`, which only shows in the ids of the records
  nextDecisionId : ℕ
  p2pTcpRr : ℕ
  p2pUdpRr : ℕ
  relayTcpRr : ℕ
  relayUdpRr : ℕ

namespace ReplicaFlowScheduler
variable {F : Type} [F64 F]

def default : ReplicaFlowScheduler := ⟨1,0,0,0,0⟩

def tieCursor (self : ReplicaFlowScheduler) : CandidatePath → FlowKind → ℕ
  | .p2p, .tcp => self.p2pTcpRr
  | .p2p, .udp => self.p2pUdpRr
  | .relay, .tcp => self.relayTcpRr
  | .relay, .udp => self.relayUdpRr

def setTieCursor (self : ReplicaFlowScheduler) (cursor : ℕ) : CandidatePath → FlowKind → ReplicaFlowScheduler
  | .p2p, .tcp => { self with p2pTcpRr := cursor }
  | .p2p, .udp => { self with p2pUdpRr := cursor }
  | .relay, .tcp => { self with relayTcpRr := cursor }
  | .relay, .udp => { self with relayUdpRr := cursor }

/-- The least score by `total_cmp`, the first of several. -/
def minScore : List F → Option F
  | [] => none
  | first::rest => some (rest.foldl (fun least score => if F64.totalLe least score then least else score) first)

def selectLowestScoreWithRr (records : List (PlacementDecisionRecord F)) (tieCursor : ℕ) :
    Option CandidateKey × ℕ :=
  let allowed:=records.filter fun record => record.excludedReason = .none
  match minScore (allowed.map fun record => record.breakdown.totalScore) with
  | none => (none,tieCursor)
  | some least =>
    let tied:=allowed.filter fun record => F64.eq record.breakdown.totalScore least
    if tied.length=1 then (tied[0]?.map (·.key),tieCursor)
    else if tied=[] then (none,tieCursor)
    else (tied[tieCursor % tied.length]?.map (·.key),(tieCursor+1) % 2^64)

def recordOf (registry : FlowPlacementRegistry F) (decisionId : ℕ) (flowKind : FlowKind)
    (candidate : PlacementCandidate F) : PlacementDecisionRecord F :=
  let load : LaneLoadSnapshot F := { registry.laneLoadSnapshot candidate.key with
    streamQueueUsedRatio := candidate.load.streamQueueUsedRatio
    datagramSendBufferSpaceRatio := candidate.load.datagramSendBufferSpaceRatio
    recentUdpDroppedDelta := candidate.load.recentUdpDroppedDelta }
  ⟨decisionId,flowKind,candidate.key,load,.forLoad flowKind load candidate.excludedReason,false,
    candidate.excludedReason⟩

def placeCandidatesWithTieBreak (self : ReplicaFlowScheduler) (flowKind : FlowKind) (path : CandidatePath)
    (registry : FlowPlacementRegistry F) (candidates : List (PlacementCandidate F)) :
    PlacementDecision F × ReplicaFlowScheduler :=
  let candidates:=candidates.mergeSort fun a b => (a.key.cmp b.key).isLE
  let records:=candidates.map (recordOf registry self.nextDecisionId flowKind)
  let (selected,cursor):=selectLowestScoreWithRr records (self.tieCursor path flowKind)
  let records:=records.map fun record => { record with selected := selected=some record.key }
  (⟨self.nextDecisionId,selected,records⟩,
    { self.setTieCursor cursor path flowKind with nextDecisionId := self.nextDecisionId+1 })

def placeProxyFlow (self : ReplicaFlowScheduler) (flowKind : FlowKind) (registry : FlowPlacementRegistry F)
    (candidates : List (PlacementCandidate F)) : PlacementDecision F × ReplicaFlowScheduler :=
  let p2pCandidates:=candidates.filter fun candidate => candidate.key.path = .p2p
  let relayCandidates:=candidates.filter fun candidate => candidate.key.path = .relay
  if p2pCandidates.any fun candidate => candidate.excludedReason = .none then
    self.placeCandidatesWithTieBreak flowKind .p2p registry p2pCandidates
  else self.placeCandidatesWithTieBreak flowKind .relay registry relayCandidates

/-- The keys of the least score. -/
def tied (records : List (PlacementDecisionRecord F)) : List CandidateKey :=
  let allowed:=records.filter fun record => record.excludedReason = .none
  match minScore (allowed.map fun record => record.breakdown.totalScore) with
  | none => []
  | some least => (allowed.filter fun record => F64.eq record.breakdown.totalScore least).map (·.key)

theorem select_eq (records : List (PlacementDecisionRecord F)) (cursor : ℕ) :
    selectLowestScoreWithRr records cursor=((tied records)[cursor % (tied records).length]?,
      if (tied records).length≤1 then cursor else (cursor+1) % 2^64) := by
  rw [selectLowestScoreWithRr,tied]
  cases (minScore (map _ (records.filter _)) : Option F) with
  | none => simp
  | some =>
    simp only [length_map,getElem?_map]
    split
    · rename_i hone
      rw [hone,Nat.mod_one,if_pos le_rfl]
    split
    · rename_i hnil
      simp [hnil]
    rename_i hone hnil
    have:=length_pos_iff.mpr hnil
    rw [if_neg (by omega)]

theorem selectLowestScoreWithRr_mem {records : List (PlacementDecisionRecord F)} {tieCursor : ℕ}
    {key : CandidateKey} (h : (selectLowestScoreWithRr records tieCursor).1=some key) :
    ∃ record∈records, record.key=key ∧ record.excludedReason = .none := by
  rw [select_eq] at h
  have hkey:=mem_of_getElem? h
  rw [tied] at hkey
  split at hkey
  · cases hkey
  obtain ⟨record,hrec,rfl⟩:=mem_map.mp hkey
  obtain ⟨hmem,hwhy⟩:=mem_filter.mp (mem_filter.mp hrec).1
  exact ⟨record,hmem,rfl,of_decide_eq_true hwhy⟩

theorem placeCandidatesWithTieBreak_mem {self : ReplicaFlowScheduler} {flowKind : FlowKind}
    {path : CandidatePath} {registry : FlowPlacementRegistry F} {candidates : List (PlacementCandidate F)}
    {key : CandidateKey}
    (h : (self.placeCandidatesWithTieBreak flowKind path registry candidates).1.selected=some key) :
    ∃ candidate∈candidates, candidate.key=key ∧ candidate.excludedReason = .none := by
  obtain ⟨_,hrec,hkey,hwhy⟩:=selectLowestScoreWithRr_mem h
  obtain ⟨candidate,hcand,rfl⟩:=mem_map.mp hrec
  exact ⟨candidate,mem_mergeSort.mp hcand,hkey,hwhy⟩

theorem placeProxyFlow_mem {self : ReplicaFlowScheduler} {flowKind : FlowKind}
    {registry : FlowPlacementRegistry F} {candidates : List (PlacementCandidate F)} {key : CandidateKey}
    (h : (self.placeProxyFlow flowKind registry candidates).1.selected=some key) :
    ∃ candidate∈candidates, candidate.key=key ∧ candidate.excludedReason = .none := by
  rw [placeProxyFlow] at h
  split at h
  · obtain ⟨candidate,hmem,hrest⟩:=placeCandidatesWithTieBreak_mem h
    exact ⟨candidate,(mem_filter.mp hmem).1,hrest⟩
  obtain ⟨candidate,hmem,hrest⟩:=placeCandidatesWithTieBreak_mem h
  exact ⟨candidate,(mem_filter.mp hmem).1,hrest⟩

end ReplicaFlowScheduler

end Lantunnel.Client
