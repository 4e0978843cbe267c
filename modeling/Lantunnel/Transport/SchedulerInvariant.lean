import Lantunnel.Transport.SchedulerEffects

/-!
# Every state of the datagram scheduler

The counters are the sums over what is queued, the limits hold, no empty queue
is kept and the ready list names each backlogged association once, after any
calls with any quanta; and a group that is accepted is queued whole, the report
counting what it evicted.
-/

namespace Lantunnel.Transport
open Lib FieldCodec KeyedFifo Core.Wire

/-- What holds of the scheduler between two calls. -/
structure SchedulerInvariant (config : DatagramSchedulerConfig) (s : State) : Prop where
  totalPackets : s.totalPackets=s.queues.total (·.packets)
  totalBytes : s.totalBytes=s.queues.total (·.bytes)
  counters : ∀ a q, s.queues.get a=some q → q.packets=packetsOf q.items ∧
    q.bytes=bytesOf q.items
  ownLimits : ∀ a q, s.queues.get a=some q → q.packets≤config.perAssociationPacketLimit ∧
    q.bytes≤config.perAssociationByteLimit
  globalLimits : s.totalPackets≤config.globalPacketLimit ∧ s.totalBytes≤config.globalByteLimit
  noEmptyQueue : ∀ a q, s.queues.get a=some q → q.items ≠ [] ∧ q.isEmpty=false
  ready : ∀ a, s.ready.count a=if s.items a=[] then 0 else 1
  /-- the group is behind what is left of each queue, and the evicted packets are reported -/
  enqueue : ∀ iter closed frames outcome s',
    s.enqueueGroup config iter closed frames=(outcome,s') → outcome.accepted=true →
    ∃ first rest entries kept, frames=first::rest ∧ Drains s.items entries kept ∧
      (∀ x, s'.items x=kept x++if x=first.connId then [groupItem first frames] else []) ∧
      (groupItem first frames).intoFrames=frames ∧ outcome.acceptedPackets=frames.length ∧
      outcome.perAssociationEvicted+outcome.globalBudgetEvicted=packetsOf (entries.map (·.2))

theorem State.Sound.invariant {config : DatagramSchedulerConfig} {s : State} (h : s.Sound config) :
    SchedulerInvariant config s where
  totalPackets := h.totalPackets
  totalBytes := h.totalBytes
  counters := fun a q hget => ⟨(h.counted hget).packets,(h.counted hget).bytes⟩
  ownLimits := fun a q hget => h.ownLimits hget
  globalLimits := h.globalLimits
  noEmptyQueue := by
    intro a q hget
    have hne:=(h.live hget).1
    refine ⟨hne,?_⟩
    rw [← Bool.not_eq_true,(h.counted hget).isEmpty_iff]
    exact hne
  ready := by
    intro a
    split
    · rename_i hnil
      rw [List.count_eq_zero,h.mem_ready_iff,not_not]
      exact hnil
    · rename_i hne
      exact List.count_eq_one_of_mem h.nodup ((h.mem_ready_iff a).mpr hne)
  enqueue := by
    intro iter closed frames outcome s' heq hacc
    rcases State.enqueueGroup_cases config s iter closed frames with
      ⟨first,rest,rfl,hopen,hok⟩ | hreject
    · obtain ⟨_,entries,mid,_,heq',-,hpkts,-,hdone⟩ :=
        State.enqueueGroup_accepted h iter first rest hok
      rw [hopen,heq'] at heq
      obtain ⟨rfl,rfl⟩:=Prod.mk.inj heq
      exact ⟨first,rest,entries,mid.items,rfl,hdone.evicted.drains,hdone.items,
        groupItem_intoFrames first rest,hpkts,hdone.reported⟩
    · grind

/-- The invariant holds after any calls. -/
theorem scheduler_invariant (config : DatagramSchedulerConfig) {s : Scheduler}
    {tr : List SchedulerOutput} (h : (Scheduler.machine config).Run s tr) :
    SchedulerInvariant config s.state := by
  have hsnd:=(Scheduler.run_invariant (fun _ _ => True) trivial (fun _ _ _ _ _ _ _ _ => trivial)
    h).1
  exact hsnd.invariant

def udpDatagram (connId : String) (payload : Bytes) : DatagramFrame :=
  ⟨connId,pack (.udpData connId payload),(pack (.udpData connId payload)).totalLen,none⟩

def insertionOrder : State.HashIter := ⟨id,fun _ => .refl _⟩

def tightConfig : DatagramSchedulerConfig := ⟨2,1024,3,1024⟩

def noisyEvents : List SchedulerEvent :=
  [.enqueueGroup [udpDatagram "noisy" [1]] insertionOrder,
    .enqueueGroup [udpDatagram "noisy" [2]] insertionOrder,
    .enqueueGroup [udpDatagram "noisy" [3]] insertionOrder,
    .enqueueGroup [udpDatagram "quiet" [4]] insertionOrder,
    .enqueueGroup [udpDatagram "quiet" [5]] insertionOrder,.recvBatch 1452]

def noisyRun : Scheduler := ((Scheduler.machine tightConfig).exec Scheduler.new noisyEvents).1

def noisyOutputs : List SchedulerOutput :=
  ((Scheduler.machine tightConfig).exec Scheduler.new noisyEvents).2

theorem noisyRun_run : (Scheduler.machine tightConfig).Run noisyRun noisyOutputs :=
  Machine.Run.exec .init noisyEvents ⟨trivial,trivial,trivial,trivial,trivial,rfl,trivial⟩

theorem scheduler_invariant_noisy :
    noisyOutputs = [.enqueued [udpDatagram "noisy" [1]] ⟨true, 1, 0, 0⟩,
        .enqueued [udpDatagram "noisy" [2]] ⟨true, 1, 0, 0⟩,
        .enqueued [udpDatagram "noisy" [3]] ⟨true, 1, 1, 0⟩,
        .enqueued [udpDatagram "quiet" [4]] ⟨true, 1, 0, 0⟩,
        .enqueued [udpDatagram "quiet" [5]] ⟨true, 1, 0, 1⟩, .received [udpDatagram "noisy" [3]]] ∧
      SchedulerInvariant tightConfig noisyRun.state :=
  ⟨by decide,scheduler_invariant tightConfig noisyRun_run⟩

end Lantunnel.Transport
