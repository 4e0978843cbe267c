import Lantunnel.Transport.SchedulerFairness

/-!
# How long an association waits

Something queued is always served. An association that is visited and not served is a
quantum nearer to its head, and each of the others is served once at most between two of
its visits.
-/

namespace Lantunnel.Transport
open Lib KeyedFifo Rotation Scheduler List State

theorem Scheduler.run_sound {config : DatagramSchedulerConfig} {s : Scheduler}
    {tr : List SchedulerOutput} (h : (machine config).Run s tr) : s.state.Sound config :=
  (run_invariant (fun _ _ => True) trivial (fun _ _ _ _ _ _ _ _ => trivial) h).1

/-- Whatever is queued after any calls, a pop returns a group, with the attempts
of the code too, and a receive hands out frames. -/
theorem tryPopWithQuantum_work_conserving (config : DatagramSchedulerConfig) {s : Scheduler}
    {tr : List SchedulerOutput} (h : (Scheduler.machine config).Run s tr) {a : String}
    (hqueued : s.state.items a ≠ []) {quantum : ℕ} (hq : 0 < quantum) :
    (s.state.tryPopWithQuantum quantum).1 ≠ none ∧
      (config.globalByteLimit < 2 ^ 64 →
        (State.popLoop quantum (s.state.saturatedAttempts quantum) s.state).1 ≠ none) ∧
      (s.recvBatchWithQuantum quantum).1 ≠ [] ∧ (s.recvWithQuantum quantum).1 ≠ [] := by
  have hsnd:=run_sound h
  have hrdy : s.state.ready≠[] := ne_nil_of_mem ((hsnd.mem_ready_iff a).mpr hqueued)
  have hbatch : (s.recvBatchWithQuantum quantum).1≠[] := by
    by_cases hpend : s.pending=[]
    · obtain ⟨entry,_,-,hpops,heq⟩ :=
        recvBatchWithQuantum_serves hsnd hpend hqueued quantum
      have hmem : entry.2∈s.state.items entry.1 := by
        rw [hpops.drains.split () entry.1]
        simp [settle,itemsOf]
      rw [heq]
      exact (hsnd.wellFormed hmem).1
    · rw [recvBatchWithQuantum,if_pos hpend]
      exact hpend
  refine ⟨tryPopWithQuantum_serves hq hsnd hrdy,?_,hbatch,?_⟩
  · intro hfits
    exact popLoop_serves hq _ hsnd hrdy
      (Nat.lt_of_lt_of_le Nat.one_pos (le_max_right _ _)) (hsnd.totalNeed_le_saturated hq hfits)
  rw [recvWithQuantum]
  cases s.pending with
  | cons => exact cons_ne_nil _ _
  | nil => grind

theorem tryPopWithQuantum_work_conserving_noisy :
    (noisyRun.state.tryPopWithQuantum 1).1 ≠ none :=
  (tryPopWithQuantum_work_conserving tightConfig noisyRun_run
    (by decide : noisyRun.state.items "quiet" ≠ []) Nat.one_pos).1

/-- No item of `a` leaves its queue, and a receive has a quantum of `least` or more. -/
def Waits (config : DatagramSchedulerConfig) (least : ℕ) (a : String) (s : Scheduler)
    (e : SchedulerEvent) : Prop :=
  ((Scheduler.step config s e).1.state.items a).length =
      (s.state.items a).length+(acceptedItems (Scheduler.step config s e).2 a).length ∧
    ∀ quantum, e = .recv quantum ∨ e = .recvBatch quantum → least≤quantum

def popped (b : String) (s s' : Scheduler) : SchedulerEvent → ℕ
  | .recv _ | .recvBatch _ => (s.state.items b).length-(s'.state.items b).length
  | _ => 0

def totalPopped (config : DatagramSchedulerConfig) (b : String) : Scheduler → List SchedulerEvent → ℕ
  | _, [] => 0
  | s, e::events =>
    popped b s (Scheduler.step config s e).1 e +
      totalPopped config b (Scheduler.step config s e).1 events

namespace State
variable {config : DatagramSchedulerConfig} {s s' : State} {a b : String} {quantum least : ℕ}

/-- The items of `b` that may still be popped before `a` is served: one before each
visit that `a` needs, but none before the next one if `a` is in front of `b`. -/
def allowance (least : ℕ) (b a : String) (s : State) : ℕ :=
  max (s.need least a) 1-if [b,a].Sublist s.ready then 0 else 1

theorem allowance_mono (hneed : s'.need least a=s.need least a)
    (hrdy : [b,a].Sublist s'.ready → [b,a].Sublist s.ready) :
    allowance least b a s'≤allowance least b a s := by
  rw [allowance,allowance,hneed]
  by_cases h : [b,a].Sublist s'.ready
  · rw [if_pos h,if_pos (hrdy h)]
  rw [if_neg h]
  split <;> omega

theorem need_eq (hhead : (s'.items a).head?=(s.items a).head?) (hdef : s'.deficit a=s.deficit a) :
    s'.need least a=s.need least a := by
  rw [need,need,headBytes,headBytes,hhead,hdef]

theorem pair_of_rotated {c : String} {rest back : List String} (hac : a≠c)
    (hback : back=[] ∨ back=[c]) (h : [b,a].Sublist (rest++back)) : [b,a].Sublist rest := by
  rcases hback with rfl | rfl
  · rwa [append_nil] at h
  · exact InTurn.pair_of_concat hac h

theorem Passed.allowance_le {c : String} (h : Passed quantum c s s') (hnd : s.ready.Nodup)
    (hba : b≠a) (hpos : 0<least) (hle : least≤quantum) :
    allowance least b a s'≤allowance least b a s := by
  obtain ⟨_,hrdy,hrdy'⟩:=h.ready
  by_cases hac : a=c
  · subst hac
    obtain ⟨_,_⟩:=h.need_front hpos hle
    have hfront : ¬[b,a].Sublist s.ready := by
      intro hsub
      rw [hrdy] at hsub hnd
      exact (nodup_cons.mp hnd).1 ((InTurn.pair_of_cons hba hsub).subset (by simp))
    rw [allowance,allowance,if_neg hfront]
    omega
  · refine allowance_mono (need_eq (by rw [h.items]) (by rw [h.deficit,if_neg hac])) ?_
    intro hsub
    rw [hrdy'] at hsub
    rw [hrdy]
    exact (InTurn.pair_of_concat hac hsub).cons c

theorem Served.allowance_le {c : String} {item : QueueItem} (h : Served quantum c item s s')
    (hnd : s.ready.Nodup) (ha : a∈s.ready) (hac : a≠c) :
    (s.items b).length-(s'.items b).length+allowance least b a s'≤allowance least b a s := by
  obtain ⟨_,hrdy,hrdy'⟩:=h.ready
  have hback : (if s'.items c=[] then [] else [c])=[] ∨ (if s'.items c=[] then [] else [c])=[c] := by
    split
    · exact .inl rfl
    · exact .inr rfl
  have hneed : s'.need least a=s.need least a :=
    need_eq (by rw [h.others a hac]) (h.otherDeficits a hac)
  by_cases hbc : b=c
  · subst hbc
    rw [hrdy] at hnd ha
    have hbef : [b,a].Sublist s.ready := by
      rw [hrdy]
      exact (singleton_sublist.mpr ((mem_cons.mp ha).resolve_left hac)).cons_cons b
    have haft : ¬[b,a].Sublist s'.ready := by
      intro hsub
      rw [hrdy'] at hsub
      exact (nodup_cons.mp hnd).1 ((pair_of_rotated hac hback hsub).subset (by simp))
    rw [allowance,allowance,if_pos hbef,if_neg haft,hneed,h.head,length_cons]
    omega
  · rw [h.others b hbc,Nat.sub_self,Nat.zero_add]
    refine allowance_mono hneed ?_
    intro hsub
    rw [hrdy'] at hsub
    rw [hrdy]
    exact (pair_of_rotated hac hback hsub).cons c

theorem Pops.allowance_le {result : Option (String × QueueItem)} (h : Pops quantum s result s')
    (hnd : s.ready.Nodup) (ha : a∈s.ready) (hstays : (s'.items a).length=(s.items a).length)
    (hba : b≠a) (hpos : 0<least) (hle : least≤quantum) :
    (s.items b).length-(s'.items b).length+allowance least b a s'≤allowance least b a s := by
  induction h with
  | idle => omega
  | @pass s mid s' c result hpass _ ih =>
    obtain ⟨rest,hrdy,hrdy'⟩:=hpass.ready
    have hperm : mid.ready.Perm s.ready := by
      rw [hrdy,hrdy']
      exact perm_append_singleton c rest
    have hrest:=ih (hperm.nodup_iff.mpr hnd) (hperm.mem_iff.mpr ha) (by rw [hpass.items,hstays])
    rw [hpass.items] at hrest
    exact hrest.trans (hpass.allowance_le hnd hba hpos hle)
  | @serve s s' c item hserve =>
    refine hserve.allowance_le hnd ha ?_
    rintro rfl
    rw [hserve.head,length_cons] at hstays
    omega

theorem evictOwnLoop_ready (config : DatagramSchedulerConfig) (connId : String)
    (packets bytes fuel : ℕ) (s : State) (n : ℕ) :
    (evictOwnLoop config connId packets bytes fuel s n).1.ready=s.ready := by
  induction fuel generalizing s n with
  | zero => rfl
  | succ fuel ih =>
    rw [evictOwnLoop]
    dsimp only
    split
    · rfl
    split
    · rfl
    · exact ih _ _

theorem evictNoisiest_ready {iter : HashIter} {byBytes : Bool} {eviction : QueueEviction}
    (h : s.evictNoisiest iter byBytes=some (eviction,s')) : s'.ready.Sublist s.ready := by
  rw [evictNoisiest] at h
  split at h
  · cases h
  dsimp only at h
  split at h
  · obtain rfl := (Prod.mk.inj (Option.some.inj h)).2
    exact filter_sublist
  obtain rfl := (Prod.mk.inj (Option.some.inj h)).2
  exact List.Sublist.refl _

theorem evictGlobalLoop_ready (config : DatagramSchedulerConfig) (iter : HashIter)
    (packets bytes fuel : ℕ) (s : State) (n : ℕ) :
    (evictGlobalLoop config iter packets bytes fuel s n).1.ready.Sublist s.ready := by
  induction fuel generalizing s n with
  | zero => exact List.Sublist.refl _
  | succ fuel ih =>
    rw [evictGlobalLoop]
    split
    · split
      · exact List.Sublist.refl _
      rename_i hevict
      exact (ih _ _).trans (evictNoisiest_ready hevict)
    · exact List.Sublist.refl _

theorem enqueueGroup_ready (iter : HashIter) (closed : Bool) (s : State) (first : DatagramFrame)
    (rest : List DatagramFrame) :
    ∃ kept back, kept.Sublist s.ready ∧ (back=[] ∨ back=[first.connId]) ∧
      (s.enqueueGroup config iter closed (first::rest)).2.ready=kept++back := by
  rw [enqueueGroup]
  split
  · exact ⟨s.ready,[],List.Sublist.refl _,.inl rfl,(append_nil _).symm⟩
  have hown:=evictOwnLoop_ready config first.connId (first::rest).length
    (groupBytes (first::rest)) ((s.items first.connId).length+1) s 0
  have hglobal:=evictGlobalLoop_ready config iter (first::rest).length (groupBytes (first::rest))
  dsimp only
  rw [push,markReady]
  split
  · simp_all
  split
  · refine ⟨_,[],?_,.inl rfl,(append_nil _).symm⟩
    exact hown ▸ hglobal _ _ _
  refine ⟨_,[first.connId],?_,.inr rfl,rfl⟩
  exact hown ▸ hglobal _ _ _

theorem Enqueued.pair {connId : String} {item : QueueItem} {outcome : DatagramEnqueueOutcome}
    {entries : List (String × QueueItem)} {mid : State} (h : Enqueued s connId item outcome entries mid s')
    (hs : Sound config s) (hs' : Sound config s') (hmid : mid.items a≠[]) (hba : b≠a)
    (hrdy : ∃ kept back, kept.Sublist s.ready ∧ (back=[] ∨ back=[connId]) ∧ s'.ready=kept++back)
    (hsub : [b,a].Sublist s'.ready) : [b,a].Sublist s.ready := by
  by_cases hac : a=connId
  · subst hac
    have hb : mid.items b≠[] := by
      have hqd:=(hs'.mem_ready_iff b).mp (hsub.subset (by simp))
      rwa [h.items,if_neg hba,append_nil] at hqd
    have hmem : ∀ x, mid.items x≠[] → x∈s.ready :=
      fun x hx => (hs.mem_ready_iff x).mpr (h.evicted.items_ne hx)
    obtain ⟨_,-,⟨hab,-⟩ | ⟨hab,-⟩⟩:=InTurn.start (hmem a hmid) (hmem b hb) hba.symm
    · have hkept:=h.turns a b (h.evicted.turns a b hmid hb hab)
      exact absurd hsub (InTurn.pair_asymm hs'.nodup hkept)
    · exact hab
  · obtain ⟨_,_,hkept,hback,heq⟩:=hrdy
    rw [heq] at hsub
    exact (pair_of_rotated hac hback hsub).trans hkept

end State

section Run
variable {config : DatagramSchedulerConfig} {s : Scheduler} {e : SchedulerEvent} {a b : String}
  {least : ℕ}

/-- One event pops no more items of `b` than the allowance falls by. -/
theorem step_allowance (hsnd : s.state.Sound config) (hqd : s.state.items a≠[])
    (hwaits : Waits config least a s e) (hba : b≠a) (hpos : 0<least) :
    popped b s (Scheduler.step config s e).1 e+
        (Scheduler.step config s e).1.state.allowance least b a≤ s.state.allowance least b a := by
  have hrdy : ∀ first rest iter, e=.enqueueGroup (first::rest) iter → ∃ kept back,
      kept.Sublist s.state.ready ∧ (back=[] ∨ back=[first.connId]) ∧
        (Scheduler.step config s e).1.state.ready=kept++back := by
    rintro first rest iter rfl
    exact enqueueGroup_ready iter s.receiverClosed s.state first rest
  obtain ⟨hstays,hquantum⟩:=hwaits
  obtain ⟨o,ho,heff⟩:=step_effect hsnd e
  have hmem:=(hsnd.mem_ready_iff a).mpr hqd
  rw [ho] at hstays
  generalize (Scheduler.step config s e).1=s' at *
  cases heff with
  | @accepted iter first rest outcome entries mid state hok hacc hnext hdone =>
    have hitem : (SchedulerOutput.enqueued (first::rest) outcome).acceptedItem=
        some (first.connId,groupItem first (first::rest)) := if_pos hacc
    have hmid : mid.items a=s.state.items a := by
      have hsuffix:=drains_subset hdone.evicted.drains a
      refine hsuffix.eq_of_length ?_
      rw [← nil_append [SchedulerOutput.enqueued _ _],acceptedItems_concat,hitem,
        hdone.items,length_append] at hstays
      exact Nat.add_right_cancel hstays
    refine (Nat.zero_add _).trans_le (allowance_mono (need_eq ?_ ?_) ?_)
    · rw [hdone.items,hmid,head?_append_of_ne_nil _ hqd]
    · rw [hdone.deficit,hdone.evicted.deficit a (hmid ▸ hqd)]
    · exact hdone.pair hsnd hnext (hmid ▸ hqd) hba (hrdy first rest iter rfl)
  | removed connId =>
    obtain ⟨-,-,hits,hdef,hleft⟩:=removeAssociation_spec hsnd connId
    have hac : a≠connId := by
      intro hac
      rw [hits,if_pos hac] at hstays
      exact hqd (length_eq_zero_iff.mp (Nat.eq_zero_of_add_eq_zero_right hstays.symm))
    refine (Nat.zero_add _).trans_le (allowance_mono (need_eq ?_ ?_) ?_)
    · rw [hits,if_neg hac]
    · exact hdef a hac
    intro hsub
    rw [hleft] at hsub
    exact hsub.trans filter_sublist
  | @popped _ q result state frames pending he hpend hnext hpops hframes =>
    have hpop : popped b s { s with state, pending } e=
        (s.state.items b).length-(state.items b).length := by
      rcases he with rfl | rfl <;> rfl
    have hle:=(hquantum q he).trans (le_max_left q 1)
    rw [hpop]
    exact hpops.allowance_le hsnd.nodup hmem (hstays.trans (Nat.add_zero _)) hba hpos hle
  | @quiet _ s' o hst hacc _ _ _ =>
    have hpop : popped b s s' e=0 := by
      cases e <;> simp [popped,hst]
    rw [hpop,hst,Nat.zero_add]

theorem totalPopped_le (events : List SchedulerEvent) (hsnd : s.state.Sound config)
    (hqd : s.state.items a≠[])
    (h : ((machine config).restrict (Waits config least a)).Accepts s events)
    (hba : b≠a) (hpos : 0<least) : totalPopped config b s events≤ s.state.allowance least b a := by
  induction events generalizing s with
  | nil => exact Nat.zero_le _
  | cons e events ih =>
    obtain ⟨⟨-,hwaits⟩,hrest⟩:=h
    obtain ⟨o,-,heff⟩:=step_effect hsnd e
    have hqd' : (Scheduler.step config s e).1.state.items a≠[] := by
      have hlen:=hwaits.1
      have hsome:=length_pos_iff.mpr hqd
      exact length_pos_iff.mp (by omega)
    have hstep:=step_allowance hsnd hqd hwaits hba hpos
    have hmore:=ih (heff.sound hsnd) hqd' hrest
    rw [totalPopped]
    omega

/-- While the head of `a` waits, with receives of `least` bytes or more, no other
association has more items popped than quanta of `least` make up the head, or one
if the head is empty. -/
theorem totalPopped_while_waiting (config : DatagramSchedulerConfig) {s : Scheduler}
    {tr : List SchedulerOutput} (h : (Scheduler.machine config).Run s tr) {a b : String}
    {item : QueueItem} (hhead : (s.state.items a).head? = some item) {least : ℕ} (hpos : 0 < least)
    (events : List SchedulerEvent)
    (hwaits : ((Scheduler.machine config).restrict (Waits config least a)).Accepts s events)
    (hba : b ≠ a) :
    totalPopped config b s events ≤ max ((item.bytes + (least - 1)) / least) 1 := by
  have hqd : s.state.items a≠[] := by
    intro hnil
    rw [hnil] at hhead
    cases hhead
  refine (totalPopped_le events (run_sound h) hqd hwaits hba hpos).trans ?_
  refine (Nat.sub_le _ _).trans (max_le_max_right 1 (Nat.div_le_div_right ?_))
  rw [headBytes,hhead]
  exact Nat.add_le_add_right (Nat.sub_le _ _) _

end Run

def emptyHeadEvents : List SchedulerEvent :=
  [.enqueueGroup [udpDatagram "other" [1]] insertionOrder,
    .enqueueGroup [{ udpDatagram "empty" [] with bytes := 0 }] insertionOrder]

def emptyHeadRun : Scheduler := ((Scheduler.machine tightConfig).exec .new emptyHeadEvents).1

theorem emptyHeadRun_run : ∃ tr, (machine tightConfig).Run emptyHeadRun tr :=
  ⟨_,Machine.Run.exec .init emptyHeadEvents ⟨trivial,trivial,trivial⟩⟩

theorem emptyHead_waits :
    ((machine tightConfig).restrict (Waits tightConfig 1 "empty")).Accepts emptyHeadRun
      [.recvBatch 64] := by
  refine ⟨⟨rfl,by decide,?_⟩,trivial⟩
  rintro q (h | h)
  · cases h
  obtain rfl := SchedulerEvent.recvBatch.inj h
  decide

theorem totalPopped_empty_head :
    (∃ tr, (Scheduler.machine tightConfig).Run emptyHeadRun tr) ∧
      ((emptyHeadRun.state.items "empty").head?.map QueueItem.bytes) = some 0 ∧
      ((Scheduler.machine tightConfig).restrict (Waits tightConfig 1 "empty")).Accepts emptyHeadRun
        [.recvBatch 64] ∧
      totalPopped tightConfig "other" emptyHeadRun [.recvBatch 64] = 1 :=
  ⟨emptyHeadRun_run,by decide,emptyHead_waits,by decide⟩

/-! A head of two quanta, which lets two items of the other association go before it. -/

def longHeadEvents : List SchedulerEvent :=
  [.enqueueGroup [udpDatagram "short" [1]] insertionOrder,
    .enqueueGroup [udpDatagram "short" [2]] insertionOrder,
    .enqueueGroup [udpDatagram "long" (replicate 18 0)] insertionOrder]

def longHeadRun : Scheduler := ((Scheduler.machine tightConfig).exec .new longHeadEvents).1

theorem longHead_waits :
    ((machine tightConfig).restrict (Waits tightConfig 16 "long")).Accepts longHeadRun
      [.recvBatch 16,.recvBatch 16] := by
  have hquantum : ∀ q, SchedulerEvent.recvBatch 16 = .recv q ∨ SchedulerEvent.recvBatch 16 = .recvBatch q →
      16≤q := by
    rintro q (h | h) <;> cases h
    exact le_rfl
  exact ⟨⟨rfl,by decide,hquantum⟩,⟨rfl,by decide,hquantum⟩,trivial⟩

theorem totalPopped_while_waiting_long :
    (longHeadRun.state.items "long").head?.map QueueItem.bytes = some 32 ∧
      totalPopped tightConfig "short" longHeadRun [.recvBatch 16, .recvBatch 16] = 2 ∧
      totalPopped tightConfig "short" longHeadRun [.recvBatch 16, .recvBatch 16] ≤
        max ((32 + (16 - 1)) / 16) 1 :=
  ⟨by decide,by decide,totalPopped_while_waiting tightConfig
    (Machine.Run.exec .init longHeadEvents ⟨trivial,trivial,trivial,trivial⟩)
    (rfl : (longHeadRun.state.items "long").head?=some _) (by decide) _ longHead_waits (by decide)⟩

end Lantunnel.Transport
