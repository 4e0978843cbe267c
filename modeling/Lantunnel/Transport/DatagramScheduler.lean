import Lantunnel.Lib.Machine
import Lantunnel.Lib.Table
import Lantunnel.Core.Wire

/-!
# The datagram scheduler (tp-transport/src/datagram_scheduler.rs)

UDP datagrams wait in one queue for each association until the writer takes
them. Senders enqueue whole fragment groups, evicting the oldest items of their
own queue and then of the noisiest queue when a limit would be passed; the
receiver takes one item at a visit, associations in turn.

One call is one step, as the state is behind a mutex; a receive that finds
nothing either waits or, with no sender left, ends, and changes nothing. The
counters are natural numbers: the saturation of the deficit, which is added with
`saturating_add`, is left out.
-/

namespace Lantunnel.Transport
open Lib Core.Wire

/-! ### Data (datagram_scheduler.rs:11-158) -/

structure DatagramFrame where
  connId : String
  packed : PackedMessage
  bytes : ℕ
  fragmentGroup : Option UInt64
  deriving DecidableEq

structure DatagramSchedulerConfig where
  perAssociationPacketLimit : ℕ
  perAssociationByteLimit : ℕ
  globalPacketLimit : ℕ
  globalByteLimit : ℕ

structure DatagramEnqueueOutcome where
  accepted : Bool := false
  acceptedPackets : ℕ := 0
  perAssociationEvicted : ℕ := 0
  globalBudgetEvicted : ℕ := 0
  deriving DecidableEq

inductive QueueItem
  | single (frame : DatagramFrame)
  | fragmentGroup (frames : List DatagramFrame) (bytes : ℕ)
  deriving DecidableEq

namespace QueueItem

def packets : QueueItem → ℕ
  | single _ => 1
  | fragmentGroup frames _ => frames.length

def bytes : QueueItem → ℕ
  | single frame => frame.bytes
  | fragmentGroup _ bytes => bytes

def intoFrames : QueueItem → List DatagramFrame
  | single frame => [frame]
  | fragmentGroup frames _ => frames

end QueueItem

structure QueueEviction where
  packets : ℕ := 0
  bytes : ℕ := 0

structure AssociationQueue where
  items : List QueueItem
  packets : ℕ
  bytes : ℕ
  deficit : ℕ
  active : Bool

namespace AssociationQueue

def new : AssociationQueue := ⟨[],0,0,0,false⟩

def pushItem (queue : AssociationQueue) (item : QueueItem) : AssociationQueue :=
  { queue with
    packets := queue.packets+item.packets
    bytes := queue.bytes+item.bytes
    items := queue.items++[item] }

def popOldestItem (queue : AssociationQueue) : QueueEviction × AssociationQueue :=
  match queue.items with
  | [] => ({},queue)
  | item::items =>
    (⟨item.packets,item.bytes⟩,
      { queue with
        items
        packets := queue.packets-item.packets
        bytes := queue.bytes-item.bytes
        deficit := if items=[] then 0 else queue.deficit })

def isEmpty (queue : AssociationQueue) : Bool := queue.packets == 0

end AssociationQueue

structure State where
  queues : Table String AssociationQueue
  ready : List String
  totalPackets : ℕ
  totalBytes : ℕ

namespace State

def new : State := ⟨.empty,[],0,0⟩

def items (s : State) (connId : String) : List QueueItem :=
  ((s.queues.get connId).map (·.items)).getD []

/-! ### Ready list and eviction (datagram_scheduler.rs:446-480) -/

def markReady (s : State) (connId : String) : State :=
  match s.queues.get connId with
  | none => s
  | some queue =>
    if queue.active || queue.isEmpty then s
    else
      { s with
        queues := s.queues.insert connId { queue with active := true }
        ready := s.ready++[connId] }

/-- The order in which a hash map is iterated, whatever it is. -/
structure HashIter where
  order : List (String × AssociationQueue) → List (String × AssociationQueue)
  perm : ∀ entries, (order entries).Perm entries

def keyLe (a b : ℕ × ℕ) : Bool := a.1<b.1 || (a.1 == b.1 && a.2≤b.2)

def maxByKey {α : Type} (key : α → ℕ × ℕ) : List α → Option α
  | [] => none
  | x::xs => some (xs.foldl (fun best y => if keyLe (key best) (key y) then y else best) x)

def noisiest (iter : HashIter) (s : State) (byBytes : Bool) : Option (String × AssociationQueue) :=
  if byBytes then maxByKey (fun e => (e.2.bytes,e.2.packets)) (iter.order s.queues.pairs)
  else maxByKey (fun e => (e.2.packets,e.2.bytes)) (iter.order s.queues.pairs)

def evictNoisiest (iter : HashIter) (s : State) (byBytes : Bool) : Option (QueueEviction × State) :=
  match s.noisiest iter byBytes with
  | none => none
  | some (connId,queue) =>
    let (evicted,queue):=queue.popOldestItem
    let s:={ s with
      queues := s.queues.insert connId queue
      totalPackets := s.totalPackets-evicted.packets
      totalBytes := s.totalBytes-evicted.bytes }
    if queue.isEmpty then
      some (evicted,{ s with
        queues := s.queues.remove connId
        ready := s.ready.filter (· ≠ connId) })
    else some (evicted,s)

/-! ### Enqueueing (datagram_scheduler.rs:240-334) -/

variable (config : DatagramSchedulerConfig)

-- the group has to fit the association's own limits beside what is queued
def evictOwnLoop (connId : String) (packets bytes : ℕ) : ℕ → State → ℕ → State × ℕ
  | 0, s, evicted => (s,evicted)
  | fuel+1, s, evicted =>
    let queue:=(s.queues.get connId).getD .new
    let s:={ s with queues := s.queues.insert connId queue }
    if queue.packets+packets≤config.perAssociationPacketLimit ∧
        queue.bytes+bytes≤config.perAssociationByteLimit then (s,evicted)
    else
      let (eviction,queue):=queue.popOldestItem
      let s:={ s with queues := s.queues.insert connId queue }
      if eviction.packets=0 then (s,evicted)
      else
        evictOwnLoop connId packets bytes fuel
          { s with
            totalPackets := s.totalPackets-eviction.packets
            totalBytes := s.totalBytes-eviction.bytes }
          (evicted+eviction.packets)

/-- One round for each item, and the one that finds the queue empty. -/
def evictOwn (connId : String) (packets bytes : ℕ) (s : State) : State × ℕ :=
  evictOwnLoop config connId packets bytes ((s.items connId).length+1) s 0

def overBudget (packets bytes : ℕ) (s : State) : Bool :=
  s.totalPackets+packets>config.globalPacketLimit || s.totalBytes+bytes>config.globalByteLimit

def evictGlobalLoop (iter : HashIter) (packets bytes : ℕ) : ℕ → State → ℕ → State × ℕ
  | 0, s, evicted => (s,evicted)
  | fuel+1, s, evicted =>
    if s.overBudget config packets bytes then
      match s.evictNoisiest iter (s.totalBytes+bytes>config.globalByteLimit) with
      | none => (s,evicted)
      | some (eviction,s) =>
        evictGlobalLoop iter packets bytes fuel s (evicted+eviction.packets)
    else (s,evicted)

def evictGlobal (iter : HashIter) (packets bytes : ℕ) (s : State) : State × ℕ :=
  evictGlobalLoop config iter packets bytes (s.totalPackets+1) s 0

def push (connId : String) (item : QueueItem) (packets bytes : ℕ) (s : State) : State :=
  let queue:=(s.queues.get connId).getD .new
  markReady
    { s with
      queues := s.queues.insert connId (queue.pushItem item)
      totalPackets := s.totalPackets+packets
      totalBytes := s.totalBytes+bytes }
    connId

end State

def groupBytes (frames : List DatagramFrame) : ℕ := (frames.map (·.bytes)).sum

def groupItem (first : DatagramFrame) (frames : List DatagramFrame) : QueueItem :=
  if frames.length=1 ∧ first.fragmentGroup=none then .single first
  else .fragmentGroup frames (groupBytes frames)

def admissible (config : DatagramSchedulerConfig) (first : DatagramFrame)
    (frames : List DatagramFrame) : Bool :=
  frames.all (·.connId=first.connId) && frames.all (·.fragmentGroup=first.fragmentGroup) &&
    frames.length≤config.perAssociationPacketLimit &&
    groupBytes frames≤config.perAssociationByteLimit &&
    frames.length≤config.globalPacketLimit && groupBytes frames≤config.globalByteLimit

def State.enqueueGroup (config : DatagramSchedulerConfig) (iter : State.HashIter) (closed : Bool)
    (s : State) (frames : List DatagramFrame) : DatagramEnqueueOutcome × State :=
  match frames with
  | [] => ({},s)
  | first::_ =>
    if closed || !admissible config first frames then ({},s)
    else
      let connId:=first.connId
      let packets:=frames.length
      let bytes:=groupBytes frames
      let (s,own):=s.evictOwn config connId packets bytes
      let (s,noisy):=s.evictGlobal config iter packets bytes
      (⟨true,packets,own,noisy⟩,s.push connId (groupItem first frames) packets bytes)

/-! ### Removing (datagram_scheduler.rs:321-334) -/

def State.removeAssociation (s : State) (connId : String) : ℕ × State :=
  match s.queues.get connId with
  | none => (0,s)
  | some queue =>
    (queue.packets,
      { queues := s.queues.remove connId
        totalPackets := s.totalPackets-queue.packets
        totalBytes := s.totalBytes-queue.bytes
        ready := s.ready.filter (· ≠ connId) })

/-! ### Popping (datagram_scheduler.rs:384-443) -/

namespace State

/-- The body of the loop, for the association in front of the ready list. -/
def visit (quantum : ℕ) (connId : String) (s : State) : Option QueueItem × State :=
  match s.queues.get connId with
  | none => (none,s)
  | some queue =>
    let queue:={ queue with active := false }
    if queue.isEmpty then (none,{ s with queues := s.queues.remove connId })
    else
      let queue:={ queue with deficit := queue.deficit+quantum }
      match queue.items with
      | [] => (none,{ s with queues := s.queues.remove connId })
      | item::items =>
        if queue.deficit < item.bytes then
          (none,markReady { s with queues := s.queues.insert connId queue } connId)
        else
          let queue:={ queue with
            deficit := queue.deficit-item.bytes
            items
            packets := queue.packets-item.packets
            bytes := queue.bytes-item.bytes }
          let s:={ s with
            queues := s.queues.insert connId queue
            totalPackets := s.totalPackets-item.packets
            totalBytes := s.totalBytes-item.bytes }
          if queue.isEmpty then (some item,{ s with queues := s.queues.remove connId })
          else (some item,markReady s connId)

def popLoop (quantum : ℕ) : ℕ → State → Option QueueItem × State
  | 0, s => (none,s)
  | attempts+1, s =>
    match s.ready with
    | [] => (none,s)
    | connId::ready =>
      match visit quantum connId { s with ready } with
      | (some item,s) => (some item,s)
      | (none,s) => popLoop quantum attempts s

def maxHeadBytes (s : State) : ℕ :=
  (s.queues.pairs.filterMap fun e => e.2.items.head?.map QueueItem.bytes).foldl max 0

def attempts (quantum : ℕ) (s : State) : ℕ :=
  let readyLen:=s.ready.length
  -- `checked_div` by a quantum that is never zero
  let visitsPerQueue:=max ((s.maxHeadBytes+(quantum-1))/quantum) 1
  max (readyLen*visitsPerQueue+readyLen) 1

def tryPopWithQuantum (quantum : ℕ) (s : State) : Option QueueItem × State :=
  popLoop quantum (s.attempts quantum) s

end State

/-! ### The channel (datagram_scheduler.rs:160-382) -/

structure Scheduler where
  state : State
  /-- what the receiver took and has not handed out -/
  pending : List DatagramFrame
  receiverClosed : Bool

inductive SchedulerEvent
  | enqueueGroup (frames : List DatagramFrame) (iter : State.HashIter)
  | removeAssociation (connId : String)
  | recv (quantum : ℕ)
  | recvBatch (quantum : ℕ)
  | dropReceiver

inductive SchedulerOutput
  | enqueued (frames : List DatagramFrame) (outcome : DatagramEnqueueOutcome)
  | removed (connId : String) (packets : ℕ)
  | received (frames : List DatagramFrame)
  | closed
  deriving DecidableEq

namespace Scheduler

def new : Scheduler := ⟨.new,[],false⟩

def recvBatchWithQuantum (s : Scheduler) (quantum : ℕ) : List DatagramFrame × Scheduler :=
  if s.pending ≠ [] then (s.pending,{ s with pending := [] })
  else
    match s.state.tryPopWithQuantum (max quantum 1) with
    | (some item,state) => (item.intoFrames,{ s with state })
    | (none,state) => ([],{ s with state })

def recvWithQuantum (s : Scheduler) (quantum : ℕ) : List DatagramFrame × Scheduler :=
  match s.pending with
  | frame::pending => ([frame],{ s with pending })
  | [] =>
    match s.recvBatchWithQuantum quantum with
    | ([],s) => ([],s)
    | (first::batch,s) => ([first],{ s with pending := batch })

def Enabled (s : Scheduler) : SchedulerEvent → Prop
  | .recv _ | .recvBatch _ | .dropReceiver => s.receiverClosed=false
  | _ => True

def step (config : DatagramSchedulerConfig) (s : Scheduler) :
    SchedulerEvent → Scheduler × List SchedulerOutput
  | .enqueueGroup frames iter =>
    let (outcome,state):=s.state.enqueueGroup config iter s.receiverClosed frames
    ({ s with state },[.enqueued frames outcome])
  | .removeAssociation connId =>
    let (packets,state):=s.state.removeAssociation connId
    ({ s with state },[.removed connId packets])
  | .recv quantum =>
    let (frames,s):=s.recvWithQuantum quantum
    (s,[.received frames])
  | .recvBatch quantum =>
    let (frames,s):=s.recvBatchWithQuantum quantum
    (s,[.received frames])
  | .dropReceiver => ({ s with receiverClosed := true },[.closed])

def machine (config : DatagramSchedulerConfig) :
    Machine Scheduler SchedulerEvent SchedulerOutput where
  init := new
  enabled := Enabled
  step := step config

end Scheduler

end Lantunnel.Transport
