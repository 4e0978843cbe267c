import Lantunnel.Transport.SchedulerSteps

/-!
# What one event does to the scheduler

Every call has one of four effects: a group is accepted, an association is removed, a
pop runs on an empty batch, or the queues stay as they are and at most a part of the
batch is handed out.
-/

namespace Lantunnel.Transport

namespace SchedulerOutput

def acceptedItem : SchedulerOutput → Option (String × QueueItem)
  | enqueued (first::rest) outcome =>
    if outcome.accepted then some (first.connId,groupItem first (first::rest)) else none
  | _ => none

def receivedFrames : SchedulerOutput → List DatagramFrame
  | received frames => frames
  | _ => []

def evictedCount : SchedulerOutput → ℕ
  | enqueued _ outcome => outcome.perAssociationEvicted+outcome.globalBudgetEvicted
  | _ => 0

def removedCount : SchedulerOutput → ℕ
  | removed _ packets => packets
  | _ => 0

end SchedulerOutput

namespace Scheduler
variable {config : DatagramSchedulerConfig} {s : Scheduler}

theorem recvBatchWithQuantum_cases (h : s.state.Sound config) (quantum : ℕ) :
    (s.pending≠[] ∧ s.recvBatchWithQuantum quantum=(s.pending,{ s with pending := [] })) ∨
    ∃ result state, s.pending=[] ∧ state.Sound config ∧
      State.Pops (max quantum 1) s.state result state ∧ s.recvBatchWithQuantum quantum =
        ((result.map fun e => e.2.intoFrames).getD [],{ s with state }) := by
  rw [recvBatchWithQuantum]
  by_cases hpend : s.pending=[]
  · obtain ⟨result,hres,hsnd,hpops⟩ :=
      State.popLoop_spec h (max quantum 1) (s.state.attempts (max quantum 1))
    rcases hpop : State.popLoop (max quantum 1) (s.state.attempts (max quantum 1)) s.state with
      ⟨popped,state⟩
    rw [hpop] at hres hsnd hpops
    refine .inr ⟨result,state,hpend,hsnd,hpops,?_⟩
    rw [if_neg (not_not.mpr hpend),State.tryPopWithQuantum,hpop]
    cases result with
    | none =>
      obtain rfl : popped=none := hres
      rfl
    | some entry =>
      obtain rfl : popped=some entry.2 := hres
      rfl
  · exact .inl ⟨hpend,if_pos hpend⟩

/-- What an event may do, and what it reports. -/
inductive Effect (config : DatagramSchedulerConfig) (s : Scheduler) :
    SchedulerEvent → Scheduler → SchedulerOutput → Prop
  | accepted {iter : State.HashIter} {first : DatagramFrame} {rest : List DatagramFrame}
    {outcome : DatagramEnqueueOutcome} {entries : List (String × QueueItem)} {mid state : State}
    (hok : admissible config first (first::rest)=true) (haccepted : outcome.accepted=true)
    (hsound : state.Sound config)
    (h : State.Enqueued s.state first.connId (groupItem first (first::rest)) outcome entries mid
      state) :
    Effect config s (.enqueueGroup (first::rest) iter) { s with state }
      (.enqueued (first::rest) outcome)
  | removed (connId : String) :
    Effect config s (.removeAssociation connId)
      { s with state := (s.state.removeAssociation connId).2 }
      (.removed connId (s.state.removeAssociation connId).1)
  | popped {e : SchedulerEvent} {quantum : ℕ} {result : Option (String × QueueItem)} {state : State}
    {frames pending : List DatagramFrame} (he : e = .recv quantum ∨ e = .recvBatch quantum)
    (hpending : s.pending=[]) (hsound : state.Sound config)
    (hpops : State.Pops (max quantum 1) s.state result state)
    (hframes : frames++pending=(result.map fun entry => entry.2.intoFrames).getD []) :
    Effect config s e { s with state, pending } (.received frames)
  | quiet {e : SchedulerEvent} {s' : Scheduler} {o : SchedulerOutput} (hstate : s'.state=s.state)
    (haccepted : o.acceptedItem=none) (hreceived : o.receivedFrames++s'.pending=s.pending)
    (hevicted : o.evictedCount=0) (hremoved : o.removedCount=0) : Effect config s e s' o

theorem recvBatch_effect (h : s.state.Sound config) (quantum : ℕ) :
    Effect config s (.recvBatch quantum) (s.recvBatchWithQuantum quantum).2
      (.received (s.recvBatchWithQuantum quantum).1) := by
  rcases recvBatchWithQuantum_cases h quantum with
    ⟨-,heq⟩ | ⟨result,state,hpend,hsnd,hpops,heq⟩
  · rw [heq]
    exact .quiet rfl rfl (List.append_nil _) rfl rfl
  rw [heq,hpend]
  exact .popped (.inr rfl) hpend hsnd hpops (List.append_nil _)

theorem recv_effect (h : s.state.Sound config) (quantum : ℕ) :
    Effect config s (.recv quantum) (s.recvWithQuantum quantum).2
      (.received (s.recvWithQuantum quantum).1) := by
  rw [recvWithQuantum]
  cases hpend : s.pending with
  | cons => exact .quiet rfl rfl hpend.symm rfl rfl
  | nil =>
    rcases recvBatchWithQuantum_cases h quantum with
      ⟨hheld,-⟩ | ⟨result,state,-,hsnd,hpops,heq⟩
    · exact absurd hpend hheld
    rw [heq,hpend]
    cases hframes : (result.map fun entry => entry.2.intoFrames).getD [] with
    | nil => exact .popped (.inl rfl) hpend hsnd hpops hframes.symm
    | cons first batch =>
      have hrest : [first]++batch=(result.map fun entry => entry.2.intoFrames).getD [] :=
        hframes.symm
      exact .popped (.inl rfl) hpend hsnd hpops hrest

theorem step_effect (h : s.state.Sound config) (e : SchedulerEvent) :
    ∃ o, (step config s e).2=[o] ∧ Effect config s e (step config s e).1 o := by
  cases e with
  | enqueueGroup frames iter =>
    refine ⟨.enqueued frames (s.state.enqueueGroup config iter s.receiverClosed frames).1,rfl,?_⟩
    rw [step]
    rcases State.enqueueGroup_cases config s.state iter s.receiverClosed frames with
      ⟨first,rest,rfl,hopen,hok⟩ | heq
    · obtain ⟨_,_,_,_,heq,hacc,-,hsnd,hdone⟩ :=
        State.enqueueGroup_accepted h iter first rest hok
      rw [← hopen] at heq
      rw [heq]
      exact .accepted hok hacc hsnd hdone
    · rw [heq]
      have hreject : (SchedulerOutput.enqueued frames {}).acceptedItem=none := by
        cases frames with
        | nil | cons first rest => rfl
      exact .quiet rfl hreject rfl rfl rfl
  | removeAssociation connId => exact ⟨_,rfl,.removed connId⟩
  | recv quantum => exact ⟨_,rfl,recv_effect h quantum⟩
  | recvBatch quantum => exact ⟨_,rfl,recvBatch_effect h quantum⟩
  | dropReceiver => exact ⟨_,rfl,.quiet rfl rfl rfl rfl rfl⟩

theorem Effect.sound {e : SchedulerEvent} {s' : Scheduler} {o : SchedulerOutput}
    (h : Effect config s e s' o) (hsnd : s.state.Sound config) : s'.state.Sound config := by
  cases h with
  | accepted _ _ hnext => exact hnext
  | removed connId => exact (State.removeAssociation_spec hsnd connId).1
  | popped _ _ hnext => exact hnext
  | quiet hst =>
    rw [hst]
    exact hsnd

theorem run_invariant (Inv : Scheduler → List SchedulerOutput → Prop) (h0 : Inv new [])
    (hstep : ∀ s tr e s' o, s.state.Sound config → Inv s tr → Effect config s e s' o →
      Inv s' (tr++[o])) {tr : List SchedulerOutput} (h : (machine config).Run s tr) :
    s.state.Sound config ∧ Inv s tr := by
  refine h.invariant (fun s tr => s.state.Sound config ∧ Inv s tr) ⟨State.sound_new,h0⟩ ?_
  rintro s tr e ⟨hsnd,hinv⟩ -
  obtain ⟨o,ho,heff⟩:=step_effect hsnd e
  have hout : ((machine config).step s e).2=[o] := ho
  rw [hout]
  exact ⟨heff.sound hsnd,hstep s tr e _ o hsnd hinv heff⟩

end Scheduler

end Lantunnel.Transport
