import Lantunnel.Transport.SchedulerInvariant

/-!
# What becomes of every datagram

A log of the items that left their queues, each with what became of it, tells
the whole story of a run: for each association the accepted items are those of
the log, then those still queued; the receiver was handed the frames of the
items taken, in the order of the log, up to what it still holds; and every
report counts the items that the log ascribes to it.
-/

namespace Lantunnel.Transport
open Lib KeyedFifo List

/-- The ways out of a queue; a call is named by its place in the run. -/
inductive Fate
  | taken
  | evicted (call : ℕ)
  | removed (call : ℕ)
  deriving DecidableEq

abbrev DeliveryLog := List (Settled String QueueItem Fate)

def withFate (log : DeliveryLog) (fate : Fate) : List QueueItem :=
  (log.filter (·.fate=fate)).map (·.item)

def acceptedItems (tr : List SchedulerOutput) (a : String) : List QueueItem :=
  ((tr.filterMap (·.acceptedItem)).filter (·.1=a)).map (·.2)

def acceptedFrames (tr : List SchedulerOutput) (a : String) : List DatagramFrame :=
  (acceptedItems tr a).flatMap (·.intoFrames)

def receivedFrames (tr : List SchedulerOutput) : List DatagramFrame :=
  tr.flatMap (·.receivedFrames)

theorem acceptedItems_concat (tr : List SchedulerOutput) (o : SchedulerOutput) (a : String) :
    acceptedItems (tr++[o]) a=acceptedItems tr a ++
      match o.acceptedItem with
      | none => []
      | some e => if a=e.1 then [e.2] else [] := by
  rw [acceptedItems,acceptedItems,filterMap_append,filter_append,map_append]
  cases ho : o.acceptedItem with
  | none => simp [ho]
  | some => grind

variable {tr : List SchedulerOutput}

theorem acceptedItems_of_none {o : SchedulerOutput}
    (h : o.acceptedItem=none) : acceptedItems (tr++[o])=acceptedItems tr := by
  funext a
  rw [acceptedItems_concat,h,append_nil]

theorem receivedFrames_concat (tr : List SchedulerOutput) (o : SchedulerOutput) :
    receivedFrames (tr++[o])=receivedFrames tr++o.receivedFrames := by
  simp [receivedFrames]

theorem withFate_settle (log : DeliveryLog) (entries : List (String × QueueItem)) (fate g : Fate) :
    withFate (log++entries.map (settle fate)) g =
      withFate log g++if g=fate then entries.map (·.2) else [] := by
  rw [withFate,withFate,filter_append,map_append]
  congr 1
  by_cases hg : g=fate
  · rw [if_pos hg,filter_eq_self.mpr,map_map]
    · rfl
    intro e he
    obtain ⟨_,-,rfl⟩:=mem_map.mp he
    exact decide_eq_true hg.symm
  · rw [if_neg hg,filter_eq_nil_iff.mpr,map_nil]
    intro e he
    obtain ⟨_,-,rfl⟩:=mem_map.mp he
    simp only [decide_eq_true_eq]
    exact Ne.symm hg

/-- The log explains the run so far and the state it reached. -/
structure Delivered (s : Scheduler) (tr : List SchedulerOutput) (log : DeliveryLog) : Prop where
  /-- each accepted group left its queue in one way, or is queued -/
  accounts : Accounts (acceptedItems tr) log s.state.items
  owned : ∀ a, ∀ item ∈ acceptedItems tr a, ∀ f ∈ item.intoFrames, f.connId=a
  /-- the groups taken are received whole, one after the other, up to what is held -/
  received : receivedFrames tr++s.pending=(withFate log .taken).flatMap (·.intoFrames)
  pending : s.pending=[] ∨ ∃ before item, withFate log .taken=before++[item] ∧
    s.pending <:+ item.intoFrames
  /-- each call counts the packets of the groups it made leave -/
  counted : ∀ i o, tr[i]?=some o →
    o.evictedCount=packetsOf (withFate log (.evicted i)) ∧
      o.removedCount=packetsOf (withFate log (.removed i))
  calls : ∀ e ∈ log, ∀ i, e.fate = .evicted i ∨ e.fate = .removed i → i<tr.length

namespace Delivered
variable {config : DatagramSchedulerConfig} {s s' : Scheduler} {tr : List SchedulerOutput}
  {log : DeliveryLog} {o : SchedulerOutput} {entries : List (String × QueueItem)} {fate : Fate}

theorem start : Delivered Scheduler.new [] [] where
  accounts := fun a => rfl
  owned := by
    intro a item hitem
    cases hitem
  received := rfl
  pending := .inl rfl
  counted := by
    intro i o ho
    cases ho
  calls := by
    intro e he
    cases he

section
variable (h : Delivered s tr log)
include h

theorem withFate_call :
    withFate log (.evicted tr.length)=[] ∧ withFate log (.removed tr.length)=[] := by
  constructor
  all_goals
    rw [withFate,map_eq_nil_iff,filter_eq_nil_iff]
    intro e he hfate
    have hlt:=h.calls e he tr.length
    simp only [decide_eq_true_eq] at hfate
    simp [hfate] at hlt

theorem next
    (haccounts : Accounts (acceptedItems (tr++[o])) (log++entries.map (settle fate)) s'.state.items)
    (howned : ∀ a, ∀ item∈acceptedItems (tr++[o]) a, ∀ f∈item.intoFrames, f.connId=a)
    (hrecv : receivedFrames (tr++[o])++s'.pending =
      (withFate (log++entries.map (settle fate)) .taken).flatMap (·.intoFrames))
    (hpend : s'.pending=[] ∨ ∃ before item,
      withFate (log++entries.map (settle fate)) .taken=before++[item] ∧
        s'.pending <:+ item.intoFrames)
    (hfate : fate = .taken ∨ fate = .evicted tr.length ∨ fate = .removed tr.length)
    (hev : o.evictedCount =
      packetsOf (if .evicted tr.length=fate then entries.map (·.2) else []))
    (hrem : o.removedCount =
      packetsOf (if .removed tr.length=fate then entries.map (·.2) else [])) :
    Delivered s' (tr++[o]) (log++entries.map (settle fate)) := by
  obtain ⟨hnoneEvicted,hnone⟩:=h.withFate_call
  refine ⟨haccounts,howned,hrecv,hpend,?_,?_⟩
  · intro i o' ho'
    rw [withFate_settle,withFate_settle]
    rcases Nat.lt_or_ge i tr.length with hi | hi
    · -- an earlier call: none of these items is ascribed to it
      rw [getElem?_append_left hi] at ho'
      have hne : Fate.evicted i≠fate ∧ Fate.removed i≠fate := by
        rcases hfate with rfl | rfl | rfl
        · exact ⟨nofun,nofun⟩
        · exact ⟨fun heq => absurd (Fate.evicted.inj heq) (by omega),nofun⟩
        · exact ⟨nofun,fun heq => absurd (Fate.removed.inj heq) (by omega)⟩
      rw [if_neg hne.1,if_neg hne.2,List.append_nil,List.append_nil]
      exact h.counted i o' ho'
    · obtain ⟨hlt,-⟩:=List.getElem?_eq_some_iff.mp ho'
      have hieq : i=tr.length := by
        rw [List.length_append,List.length_singleton] at hlt
        omega
      subst hieq
      rw [getElem?_concat_length] at ho'
      obtain rfl := Option.some.inj ho'
      rw [hnoneEvicted,hnone,nil_append,nil_append]
      exact ⟨hev,hrem⟩
  · intro e he i hi
    rw [length_append,length_singleton]
    rcases mem_append.mp he with he | he
    · exact Nat.lt_succ_of_lt (h.calls e he i hi)
    obtain ⟨entry,-,rfl⟩:=mem_map.mp he
    have hent : (settle fate entry).fate=fate := rfl
    rcases hfate with rfl | rfl | rfl
    · rcases hi with hi | hi <;> cases hi
    · rcases hi with hi | hi
      · rw [← Fate.evicted.inj hi]
        exact Nat.lt_succ_self _
      · cases hi
    · rcases hi with hi | hi
      · cases hi
      rw [← Fate.removed.inj hi]
      exact Nat.lt_succ_self _

theorem quiet (hits : s'.state.items=s.state.items)
    (hacc : o.acceptedItem=none) (hrecv : o.receivedFrames++s'.pending=s.pending)
    (hev : o.evictedCount=0) (hrem : o.removedCount=0) : Delivered s' (tr++[o]) log := by
  have hpend : s'.pending <:+ s.pending := ⟨o.receivedFrames,hrecv⟩
  have hnext : Delivered s' (tr++[o])
      (log++([] : List (String × QueueItem)).map (settle .taken)) := by
    refine h.next ?_ ?_ ?_ ?_ (.inl rfl) hev hrem
    · rw [acceptedItems_of_none hacc,hits,map_nil,append_nil]
      exact h.accounts
    · rw [acceptedItems_of_none hacc]
      exact h.owned
    · rw [receivedFrames_concat,append_assoc,hrecv,map_nil,append_nil]
      exact h.received
    · rw [map_nil,append_nil]
      rcases h.pending with _ | ⟨before,item,htk,hsuffix⟩
      · simp_all
      · exact .inr ⟨before,item,htk,hpend.trans hsuffix⟩
  rwa [map_nil,append_nil] at hnext

theorem take {a : String} {item : QueueItem}
    (hdrain : Drains s.state.items [(a,item)] s'.state.items) (hpend : s.pending=[])
    (hacc : o.acceptedItem=none)
    (hrecv : o.receivedFrames++s'.pending=item.intoFrames) (hev : o.evictedCount=0)
    (hrem : o.removedCount=0) :
    Delivered s' (tr++[o]) (log++[(a,item)].map (settle .taken)) := by
  have htk : withFate (log++[(a,item)].map (settle .taken)) .taken =
      withFate log .taken++[item] := by
    rw [withFate_settle,if_pos rfl]
    rfl
  have hbef:=h.received
  rw [hpend,append_nil] at hbef
  refine h.next ?_ ?_ ?_ ?_ (.inl rfl) hev hrem
  · rw [acceptedItems_of_none hacc]
    exact h.accounts.drains hdrain .taken
  · rw [acceptedItems_of_none hacc]
    exact h.owned
  · rw [receivedFrames_concat,append_assoc,hrecv,htk,flatMap_append,hbef]
    simp
  · grind

theorem removeAssociation (hsnd : s.state.Sound config)
    (connId : String) : ∃ log', Delivered { s with state := (s.state.removeAssociation connId).2 }
      (tr++[.removed connId (s.state.removeAssociation connId).1]) log' := by
  obtain ⟨-,hpkts,hits,-,-⟩:=State.removeAssociation_spec hsnd connId
  have hdrain:=Drains.all s.state.items connId
  have hview : (s.state.removeAssociation connId).2.items =
      fun x => if x=connId then [] else s.state.items x := funext hits
  rw [← hview] at hdrain
  have hkeep : withFate (log++((s.state.items connId).map fun item => (connId,item)).map
      (settle (.removed tr.length))) .taken=withFate log .taken := by
    rw [withFate_settle,if_neg nofun,append_nil]
  have hnone : acceptedItems (tr++[.removed connId (s.state.removeAssociation connId).1]) =
      acceptedItems tr := acceptedItems_of_none rfl
  refine ⟨_,h.next (hnone ▸ h.accounts.drains hdrain (.removed tr.length)) (hnone ▸ h.owned) ?_ ?_
    (.inr (.inr rfl)) ?_ ?_⟩
  · rw [hkeep,receivedFrames_concat]
    exact (congrArg (·++s.pending) (append_nil _)).trans h.received
  · rw [hkeep]
    exact h.pending
  · rfl
  · rw [if_pos rfl,map_map]
    exact hpkts.trans (congrArg packetsOf (map_id _).symm)

theorem enqueue {first : DatagramFrame} {rest : List DatagramFrame}
    {outcome : DatagramEnqueueOutcome} {mid state : State}
    (hok : admissible config first (first::rest)=true) (hacc : outcome.accepted=true)
    (hdone : State.Enqueued s.state first.connId (groupItem first (first::rest)) outcome entries
      mid state) :
    ∃ log', Delivered { s with state } (tr++[.enqueued (first::rest) outcome]) log' := by
  have hitem : (SchedulerOutput.enqueued (first::rest) outcome).acceptedItem =
      some (first.connId,groupItem first (first::rest)) := if_pos hacc
  have hits : ∀ a, acceptedItems (tr++[.enqueued (first::rest) outcome]) a =
      acceptedItems tr a++if a=first.connId then [groupItem first (first::rest)] else [] := by
    intro a
    rw [acceptedItems_concat,hitem]
  have hkeep : withFate (log++entries.map (settle (.evicted tr.length))) .taken =
      withFate log .taken := by
    rw [withFate_settle,if_neg nofun,append_nil]
  refine ⟨_,h.next ((h.accounts.drains hdone.evicted.drains (.evicted tr.length)).accept hits
    hdone.items) ?_ ?_ ?_ (.inr (.inl rfl)) ?_ ?_⟩
  · intro a item hmem
    rw [hits] at hmem
    rcases mem_append.mp hmem with hmem | hmem
    · exact h.owned a item hmem
    split at hmem
    · rename_i ha
      rw [mem_singleton.mp hmem,groupItem_intoFrames,ha]
      exact (State.admissible_limits hok).1
    · cases hmem
  · rw [hkeep,receivedFrames_concat]
    exact (congrArg (·++s.pending) (append_nil _)).trans h.received
  · rw [hkeep]
    exact h.pending
  · rw [if_pos rfl]
    exact hdone.reported
  · rfl

end

end Delivered

theorem State.Pops.drains {quantum : ℕ} {s s' : State} {result : Option (String × QueueItem)}
    (h : State.Pops quantum s result s') : Drains s.items result.toList s'.items := by
  induction h with
  | idle => exact .done _
  | pass hpass _ ih => rwa [funext hpass.items] at ih
  | serve hserve => exact .one hserve.head hserve.others

namespace Delivered
variable {config : DatagramSchedulerConfig} {s : Scheduler} {tr : List SchedulerOutput}
  {log : DeliveryLog}

theorem pop (h : Delivered s tr log) (hpend : s.pending=[]) {quantum : ℕ} {state : State}
    {result : Option (String × QueueItem)} (hpops : State.Pops quantum s.state result state)
    {frames pending : List DatagramFrame}
    (hframes : frames++pending=(result.map fun e => e.2.intoFrames).getD []) :
    ∃ log', Delivered { s with state, pending } (tr++[.received frames]) log' := by
  have hdrain:=hpops.drains
  cases result with
  | none =>
    obtain ⟨hframes,hnone⟩:=append_eq_nil_iff.mp hframes
    subst hframes hnone
    exact ⟨log,h.quiet hdrain.eq_of_nil rfl hpend.symm rfl rfl⟩
  | some => exact ⟨_,h.take hdrain hpend rfl hframes rfl rfl⟩

theorem step {e : SchedulerEvent} {s' : Scheduler} {o : SchedulerOutput} (h : Delivered s tr log)
    (hsnd : s.state.Sound config) (heff : Scheduler.Effect config s e s' o) :
    ∃ log', Delivered s' (tr++[o]) log' := by
  cases heff with
  | accepted hok hacc _ hdone => exact h.enqueue hok hacc hdone
  | removed connId => exact h.removeAssociation hsnd connId
  | popped _ hpend _ hpops hframes => exact h.pop hpend hpops hframes
  | quiet hst hacc hrecv hev hrem =>
    exact ⟨log,h.quiet (congrArg State.items hst) hacc hrecv hev hrem⟩

end Delivered

theorem run_delivered {config : DatagramSchedulerConfig} {s : Scheduler}
    (h : (Scheduler.machine config).Run s tr) : ∃ log, Delivered s tr log := by
  refine (Scheduler.run_invariant (fun s tr => ∃ log, Delivered s tr log) ⟨[],.start⟩ ?_ h).2
  rintro s tr e s' o hsnd ⟨_,hlog⟩ heff
  exact hlog.step hsnd heff

theorem withFate_cons (e : Settled String QueueItem Fate) (log : DeliveryLog) (fate : Fate) :
    withFate (e::log) fate=(if e.fate=fate then [e.item] else [])++withFate log fate := by
  by_cases h : e.fate=fate <;> simp [withFate,h]

theorem taken_frames_sublist {log : DeliveryLog} (a : String)
    (howned : ∀ e∈log, ∀ f∈e.item.intoFrames, f.connId=e.key) :
    (((withFate log .taken).flatMap (·.intoFrames)).filter (·.connId=a)).Sublist
      ((itemsOf log a).flatMap (·.intoFrames)) := by
  induction log with
  | nil => exact .slnil
  | cons e log ih =>
    have hrest:=ih fun e' he' => howned e' (mem_cons_of_mem _ he')
    have hhead : (((if e.fate = .taken then [e.item] else []).flatMap (·.intoFrames)).filter
        (·.connId=a)).Sublist
          ((if e.key=a then [e.item] else []).flatMap (·.intoFrames)) := by
      split
      · rw [flatMap_singleton]
        split
        · rw [flatMap_singleton]
          exact filter_sublist
        rename_i hkey
        rw [filter_eq_nil_iff.mpr]
        · exact nil_sublist _
        intro f hf
        rw [decide_eq_true_eq,howned e (mem_cons_self ..) f hf]
        exact hkey
      · exact nil_sublist _
    rw [withFate_cons,itemsOf_cons,flatMap_append,flatMap_append,filter_append]
    exact hhead.append hrest

theorem Delivered.inOrder {s : Scheduler} {log : DeliveryLog}
    (h : Delivered s tr log) (a : String) :
    ((receivedFrames tr++s.pending).filter (·.connId=a)).Sublist (acceptedFrames tr a) := by
  have howned : ∀ e∈log, ∀ f∈e.item.intoFrames, f.connId=e.key := by
    intro e he
    refine h.owned e.key e.item ((h.accounts.left_prefix e.key).subset ?_)
    exact mem_map.mpr ⟨e,mem_filter.mpr ⟨he,decide_eq_true rfl⟩,rfl⟩
  have hpre : ((itemsOf log a).flatMap (·.intoFrames)).Sublist (acceptedFrames tr a) := by
    rw [acceptedFrames,h.accounts a,flatMap_append]
    exact sublist_append_left _ _
  rw [h.received]
  exact (taken_frames_sublist a howned).trans hpre

/-- In every run each accepted group leaves its queue in one way or is still
queued, and the receiver gets the groups it takes whole and in order. -/
theorem scheduler_delivery (config : DatagramSchedulerConfig) {s : Scheduler}
    {tr : List SchedulerOutput} (h : (Scheduler.machine config).Run s tr) :
    ∃ log, Delivered s tr log ∧
      ∀ a, ((receivedFrames tr ++ s.pending).filter (·.connId = a)).Sublist (acceptedFrames tr a) := by
  obtain ⟨log,hlog⟩:=run_delivered h
  exact ⟨log,hlog,hlog.inOrder⟩

theorem scheduler_delivery_noisy :
    receivedFrames noisyOutputs = [udpDatagram "noisy" [3]] ∧
      acceptedFrames noisyOutputs "noisy" =
        [udpDatagram "noisy" [1], udpDatagram "noisy" [2], udpDatagram "noisy" [3]] ∧
      ∃ log, Delivered noisyRun noisyOutputs log ∧
        ∀ a, ((receivedFrames noisyOutputs ++ noisyRun.pending).filter (·.connId = a)).Sublist
          (acceptedFrames noisyOutputs a) :=
  ⟨by decide,by decide,scheduler_delivery tightConfig noisyRun_run⟩

end Lantunnel.Transport
