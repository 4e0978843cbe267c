import Lantunnel.Lib.Rotation
import Lantunnel.Transport.SchedulerDelivery
import Lantunnel.Transport.SchedulerProgress

/-!
# How fair the scheduler is

Two associations that stay backlogged are visited in turn. A visit adds a quantum to the
deficit and serves one item at most; the unused part of a quantum stays in the deficit.
-/

namespace Lantunnel.Transport
open Lib KeyedFifo Rotation List

/-- All receives have one quantum, all groups are as `P` says. -/
def Uses (quantum : ℕ) (P : String → QueueItem → Prop) : SchedulerEvent → Prop
  | .enqueueGroup (first::rest) _ => P first.connId (groupItem first (first::rest))
  | .recv q | .recvBatch q => q=quantum
  | _ => True

/-- Something that was queued before the event is queued after it. -/
def StaysBacklogged (config : DatagramSchedulerConfig) (s : Scheduler) (e : SchedulerEvent)
    (x : String) : Prop :=
  (acceptedItems (Scheduler.step config s e).2 x).length <
    ((Scheduler.step config s e).1.state.items x).length

/-- Runs from a state during which two associations stay backlogged. -/
def window (config : DatagramSchedulerConfig) (quantum : ℕ) (P : String → QueueItem → Prop)
    (start : Scheduler) (a b : String) : Machine Scheduler SchedulerEvent SchedulerOutput where
  init := start
  enabled := fun s e => Scheduler.Enabled s e ∧ Uses quantum P e ∧
    StaysBacklogged config s e a ∧ StaysBacklogged config s e b
  step := Scheduler.step config

def bytesFor (frames : List DatagramFrame) (x : String) : ℕ :=
  groupBytes (frames.filter (·.connId=x))

def Sized (least most : ℕ) : String → QueueItem → Prop :=
  fun _ item => least ≤ item.bytes ∧ item.bytes≤ most

/-- With one quantum and items of these sizes, in any window of any run the bytes
received for two backlogged associations differ by at most `bound`. -/
def Fair (quantum least most bound : ℕ) : Prop :=
  ∀ config start tr,
    ((Scheduler.machine config).restrict fun _ e => Uses quantum (Sized least most) e).Run start tr →
    ∀ a b, a ≠ b → start.state.items a ≠ [] → start.state.items b ≠ [] →
    ∀ s out, (window config quantum (Sized least most) start a b).Run s out →
      bytesFor (receivedFrames out) a≤bytesFor (receivedFrames out) b+bound ∧
        bytesFor (receivedFrames out) b≤bytesFor (receivedFrames out) a+bound

theorem bytesFor_append (frames frames' : List DatagramFrame) (x : String) :
    bytesFor (frames++frames') x=bytesFor frames x+bytesFor frames' x := by
  simp [bytesFor,groupBytes]

theorem bytesFor_le (frames : List DatagramFrame) (x : String) :
    bytesFor frames x≤groupBytes frames := by
  exact (filter_sublist.map _).sum_le_sum fun _ _ => Nat.zero_le _

theorem groupBytes_suffix {frames frames' : List DatagramFrame} (h : frames <:+ frames') :
    groupBytes frames≤groupBytes frames' := by
  obtain ⟨_,rfl⟩:=h
  simp [groupBytes]

theorem bytesFor_item {c : String} {item : QueueItem} (hwf : item.WellFormed)
    (howned : ∀ f∈item.intoFrames, f.connId=c) (x : String) :
    bytesFor item.intoFrames x=if c=x then item.bytes else 0 := by
  rw [bytesFor]
  split
  · rename_i hcx
    rw [filter_eq_self.mpr,← hwf.2]
    intro f hf
    rw [howned f hf,hcx]
    exact decide_eq_true rfl
  · rename_i hcx
    rw [filter_eq_nil_iff.mpr]
    · rfl
    intro f hf
    rw [howned f hf,decide_eq_true_eq]
    exact hcx

variable {x a b : String}

theorem State.Sound.wellFormed {config : DatagramSchedulerConfig} {s : State} (h : s.Sound config)
    {item : QueueItem} (hitem : item∈s.items x) : item.WellFormed := by
  rw [← State.queueOf_items] at hitem
  exact (h.queueOf x).wellFormed item hitem

theorem State.Sound.deficit_nil {config : DatagramSchedulerConfig} {s : State} (h : s.Sound config)
    (hnil : s.items x=[]) : s.deficit x=0 := by
  rw [State.deficit,State.queueOf]
  cases hget : s.queues.get x with
  | none => rfl
  | some =>
    rw [State.items_of_get hget] at hnil
    exact absurd hnil (h.live hget).1

theorem drains_subset {queues last : String → List QueueItem} {entries : List (String × QueueItem)}
    (h : Drains queues entries last) (x : String) : last x <:+ queues x :=
  ⟨_,(h.split () x).symm⟩

variable {config : DatagramSchedulerConfig} {quantum most : ℕ} {P : String → QueueItem → Prop}

/-- What holds of every state reached with groups as `P` says. An association
whose items are no smaller than the quantum keeps no more than an item's bytes. -/
structure Kept (quantum most : ℕ) (P : String → QueueItem → Prop) (s : Scheduler) : Prop where
  items : ∀ x, ∀ item ∈ s.state.items x, P x item ∧ ∀ f ∈ item.intoFrames, f.connId=x
  pending : groupBytes s.pending≤ most
  deficit : ∀ x, (∀ item, P x item → quantum ≤ item.bytes) → s.state.deficit x≤ most

theorem kept_new : Kept quantum most P Scheduler.new where
  items := by
    intro x item hitem
    cases hitem
  pending := Nat.zero_le _
  deficit := fun _ _ => Nat.zero_le _

theorem State.Pops.deficit_le {s s' : State} {result : Option (String × QueueItem)}
    (h : State.Pops quantum s result s') (hs' : s'.Sound config)
    (hmost : ∀ x item, P x item → item.bytes≤ most)
    (hits : ∀ item∈s.items x, P x item) (hleast : ∀ item, P x item → quantum≤ item.bytes)
    (hdef : s.deficit x≤ most) : s'.deficit x≤ most := by
  induction h with
  | idle => exact hdef
  | @pass s mid s' a result hpass _ ih =>
    refine ih hs' ?_ ?_
    · rw [hpass.items]
      exact hits
    rw [hpass.deficit]
    split
    · rename_i hxa
      obtain ⟨item,hhead,_⟩:=hpass.head
      have hP:=hits item (hxa ▸ mem_of_head? hhead)
      have hbs:=hmost x item hP
      omega
    · exact hdef
  | @serve s s' a item hserve =>
    by_cases hxa : x=a
    · subst hxa
      by_cases hnil : s'.items x=[]
      · rw [hs'.deficit_nil hnil]
        exact Nat.zero_le _
      have haft:=hserve.deficit hnil
      have hbs:=hleast item (hits item (hserve.head ▸ mem_cons_self ..))
      omega
    · rw [hserve.otherDeficits x hxa]
      exact hdef

theorem Kept.effect {s s' : Scheduler} {e : SchedulerEvent} {o : SchedulerOutput}
    (h : Kept quantum most P s) (hq : 0<quantum) (hmost : ∀ x item, P x item → item.bytes≤ most)
    (hsnd : s.state.Sound config) (heff : Scheduler.Effect config s e s' o)
    (huses : Uses quantum P e) : Kept quantum most P s' := by
  cases heff with
  | @accepted iter first rest outcome entries mid state hok hacc hnext hdone =>
    refine ⟨?_,h.pending,?_⟩
    · intro x item hitem
      rw [hdone.items] at hitem
      rcases mem_append.mp hitem with hitem | hitem
      · exact h.items x item ((drains_subset hdone.evicted.drains x).subset hitem)
      split at hitem
      · rename_i hx
        rw [mem_singleton.mp hitem,hx,groupItem_intoFrames]
        exact ⟨huses,(State.admissible_limits hok).1⟩
      · cases hitem
    · intro x hleast
      rw [hdone.deficit]
      exact (hdone.evicted.deficit_le x).trans (h.deficit x hleast)
  | removed connId =>
    obtain ⟨hnext,-,hits,hdef,-⟩:=State.removeAssociation_spec hsnd connId
    refine ⟨?_,h.pending,?_⟩
    · intro x item hitem
      rw [hits] at hitem
      split at hitem
      · cases hitem
      · exact h.items x item hitem
    · intro x hleast
      by_cases hx : x=connId
      · have hnil : (s.state.removeAssociation connId).2.items x=[] := by
          rw [hits,if_pos hx]
        rw [hnext.deficit_nil hnil]
        exact Nat.zero_le _
      · rw [hdef x hx]
        exact h.deficit x hleast
  | @popped _ q result state frames pending he hpend hnext hpops hframes =>
    have hqe : max q 1=quantum := by
      rcases he with rfl | rfl <;> obtain rfl : q=quantum := huses <;> omega
    rw [hqe] at hpops
    refine ⟨?_,?_,?_⟩
    · intro x item hitem
      exact h.items x item ((drains_subset hpops.drains x).subset hitem)
    · have hsuffix : pending <:+ (result.map fun entry => entry.2.intoFrames).getD [] :=
        ⟨frames,hframes⟩
      refine (groupBytes_suffix hsuffix).trans ?_
      cases result with
      | none => exact Nat.zero_le _
      | some entry =>
        have hmem : entry.2∈s.state.items entry.1 := by
          rw [hpops.drains.split () entry.1]
          simp [settle,itemsOf]
        rw [Option.map_some,Option.getD_some,← (hsnd.wellFormed hmem).2]
        exact hmost _ _ (h.items _ _ hmem).1
    · intro x hleast
      exact hpops.deficit_le hnext hmost (fun item hitem => (h.items x item hitem).1) hleast
        (h.deficit x hleast)
  | quiet hst _ hrecv =>
    refine ⟨?_,?_,?_⟩
    · rw [hst]
      exact h.items
    · exact (groupBytes_suffix ⟨_,hrecv⟩).trans h.pending
    · rw [hst]
      exact h.deficit

theorem run_kept (hq : 0<quantum) (hmost : ∀ x item, P x item → item.bytes≤ most)
    {s : Scheduler} {tr : List SchedulerOutput}
    (h : ((Scheduler.machine config).restrict fun _ e => Uses quantum P e).Run s tr) :
    s.state.Sound config ∧ Kept quantum most P s := by
  refine h.invariant (fun s _ => s.state.Sound config ∧ Kept quantum most P s)
    ⟨State.sound_new,kept_new⟩ ?_
  rintro s tr e ⟨hsnd,hkept⟩ ⟨-,huses⟩
  obtain ⟨o,-,heff⟩:=Scheduler.step_effect hsnd e
  exact ⟨heff.sound hsnd,hkept.effect hq hmost hsnd heff huses⟩

abbrev Visit := String × Option QueueItem

def visitsTo (visits : List Visit) (x : String) : ℕ := (visits.filter (·.1=x)).length

def servedTo (visits : List Visit) (x : String) : ℕ :=
  ((visits.filter (·.1=x)).map fun v => (v.2.map QueueItem.bytes).getD 0).sum

section
variable (visits : List Visit) (c : String) (served : Option QueueItem) (x : String)

theorem visitsTo_concat :
    visitsTo (visits++[(c,served)]) x=visitsTo visits x+if c=x then 1 else 0 := by
  by_cases h : c=x <;> simp [visitsTo,h]

theorem servedTo_concat : servedTo (visits++[(c,served)]) x =
      servedTo visits x+if c=x then (served.map QueueItem.bytes).getD 0 else 0 := by
  by_cases h : c=x <;> simp [servedTo,h]

end

/-- The visits made since `start`, in which the two took turns: what one was
served and the deficit it has are what it had and the quanta of its visits. -/
structure Turns (quantum : ℕ) (P : String → QueueItem → Prop) (a b : String) (lead : ℕ)
    (start s : State) (visits : List Visit) : Prop where
  balance : ∀ x, x=a ∨ x=b →
    servedTo visits x+s.deficit x=start.deficit x+visitsTo visits x*quantum
  inTurn : InTurn a b lead s.ready (visitsTo visits a) (visitsTo visits b)
  visits : ∀ v ∈ visits, ∃ item, P v.1 item ∧ (v.2=some item ∨ v.2=none ∧ quantum < item.bytes)

namespace Turns
variable {a b c : String} {lead : ℕ} {start s s' : State} {visits : List Visit}

section
variable (h : Turns quantum P a b lead start s visits)
include h

theorem keep
    (hdef : ∀ x, x=a ∨ x=b → s'.deficit x=s.deficit x)
    (hrdy : InTurn a b lead s'.ready (visitsTo visits a) (visitsTo visits b)) :
    Turns quantum P a b lead start s' visits := by
  refine ⟨?_,hrdy,h.visits⟩
  intro x hx
  rw [hdef x hx]
  exact h.balance x hx

theorem concat_visits {item : QueueItem}
    {served : Option QueueItem} (hP : P c item)
    (hserve : served=some item ∨ served=none ∧ quantum < item.bytes) : ∀ v∈visits++[(c,served)],
      ∃ item, P v.1 item ∧ (v.2=some item ∨ v.2=none ∧ quantum < item.bytes) := by
  intro v hv
  rcases mem_append.mp hv with hv | hv
  · exact h.visits v hv
  rw [mem_singleton.mp hv]
  exact ⟨item,hP,hserve⟩

theorem passed (hab : a≠b)
    (hnd : s.ready.Nodup) (hits : ∀ item∈s.items c, P c item)
    (hpass : State.Passed quantum c s s') :
    Turns quantum P a b lead start s' (visits++[(c,none)]) := by
  obtain ⟨item,hhead,_⟩:=hpass.head
  obtain ⟨_,hrdy,hrdy'⟩:=hpass.ready
  refine ⟨?_,?_,h.concat_visits (hits item (mem_of_head? hhead)) (.inr ⟨rfl,by omega⟩)⟩
  · intro x hx
    have hbal:=h.balance x hx
    rw [servedTo_concat,visitsTo_concat,hpass.deficit]
    by_cases hcx : c=x
    · grind
    · grind
  · rw [visitsTo_concat,visitsTo_concat,hrdy']
    have hturn:=h.inTurn
    rw [hrdy] at hturn hnd
    exact hturn.rotate hnd hab

theorem served (hab : a≠b)
    (hnd : s.ready.Nodup) {item : QueueItem} (hitem : P c item)
    (hserve : State.Served quantum c item s s') (ha : s'.items a≠[]) (hb : s'.items b≠[]) :
    Turns quantum P a b lead start s' (visits++[(c,some item)]) := by
  obtain ⟨_,hrdy,hrdy'⟩:=hserve.ready
  refine ⟨?_,?_,h.concat_visits hitem (.inl rfl)⟩
  · intro x hx
    have hbal:=h.balance x hx
    have hleft : s'.items x≠[] := by
      rcases hx with rfl | rfl
      · exact ha
      · exact hb
    rw [servedTo_concat,visitsTo_concat]
    by_cases hcx : c=x
    · subst hcx
      have hdef:=hserve.deficit hleft
      rw [if_pos rfl,if_pos rfl,Nat.succ_mul]
      simp only [Option.map_some,Option.getD_some]
      omega
    · rw [if_neg hcx,if_neg hcx,hserve.otherDeficits x (Ne.symm hcx)]
      exact hbal
  · rw [visitsTo_concat,visitsTo_concat,hrdy']
    have hturn:=h.inTurn
    rw [hrdy] at hturn hnd
    by_cases hnil : s'.items c=[]
    · have hca : c≠a := fun heq => ha (heq ▸ hnil)
      have hcb : c≠b := fun heq => hb (heq ▸ hnil)
      rw [if_pos hnil,if_neg hca,if_neg hcb,append_nil]
      exact hturn.leave hca hcb
    · rw [if_neg hnil]
      exact hturn.rotate hnd hab

end

theorem pops {result : Option (String × QueueItem)} (hpops : State.Pops quantum s result s')
    (h : Turns quantum P a b lead start s visits) (hab : a≠b) (hnd : s.ready.Nodup)
    (hits : ∀ x, ∀ item∈s.items x, P x item) (ha : s'.items a≠[]) (hb : s'.items b≠[]) :
    ∃ more, Turns quantum P a b lead start s' (visits++more) ∧
      (∀ x, servedTo (visits++more) x=servedTo visits x +
        (result.map fun entry => if entry.1=x then entry.2.bytes else 0).getD 0) ∧
      (result≠none → more≠[]) := by
  induction hpops generalizing visits with
  | idle =>
    refine ⟨[],?_,?_,fun hne => absurd rfl hne⟩
    · rwa [append_nil]
    intro x
    rw [append_nil]
    rfl
  | @pass s mid s' c result hpass _ ih =>
    have hmid:=h.passed hab hnd (hits c) hpass
    have hnd' : mid.ready.Nodup := by
      obtain ⟨rest,hrdy,hrdy'⟩:=hpass.ready
      rw [hrdy']
      rw [hrdy] at hnd
      exact (perm_append_singleton c rest).nodup_iff.mpr hnd
    obtain ⟨more,_,hserve,_⟩:=ih hmid hnd'
      (fun x item hitem => hits x item (hpass.items x ▸ hitem)) ha hb
    refine ⟨(c,none)::more,?_,?_,fun _ => cons_ne_nil _ _⟩
    · rwa [append_cons]
    intro x
    rw [append_cons,hserve,servedTo_concat]
    split <;> rfl
  | @serve s s' c item hserve =>
    refine ⟨[(c,some item)],?_,?_,fun _ => cons_ne_nil _ _⟩
    · exact h.served hab hnd (hits c item (hserve.head ▸ mem_cons_self ..)) hserve ha hb
    intro x
    rw [servedTo_concat]
    rfl

end Turns

/-- What the receiver got, up to what it held at the start and holds now, is what
the visits served. -/
structure Ledger (quantum : ℕ) (P : String → QueueItem → Prop) (a b : String) (lead : ℕ)
    (start s : Scheduler) (out : List SchedulerOutput) (visits : List Visit) : Prop where
  turns : Turns quantum P a b lead start.state s.state visits
  received : ∀ x, bytesFor (receivedFrames out) x+bytesFor s.pending x =
    bytesFor start.pending x+servedTo visits x

namespace Ledger
variable {a b : String} {lead : ℕ} {start s s' : Scheduler} {out : List SchedulerOutput}
  {o : SchedulerOutput} {visits : List Visit}

theorem init (hlead : InTurn a b lead start.state.ready 0 0) :
    Ledger quantum P a b lead start start [] [] := by
  refine ⟨⟨?_,hlead,?_⟩,?_⟩
  · intro x _
    exact (Nat.zero_add _).trans (by rw [visitsTo,filter_nil,length_nil]; omega)
  · intro v hv
    cases hv
  · intro x
    exact (Nat.zero_add _).trans (Nat.add_zero _).symm

section
variable (h : Ledger quantum P a b lead start s out visits)
include h

theorem keep
    (hdef : ∀ x, x=a ∨ x=b → s'.state.deficit x=s.state.deficit x)
    (hrdy : InTurn a b lead s'.state.ready (visitsTo visits a) (visitsTo visits b))
    (hrecv : o.receivedFrames++s'.pending=s.pending) :
    Ledger quantum P a b lead start s' (out++[o]) visits := by
  refine ⟨h.turns.keep hdef hrdy,?_⟩
  intro x
  rw [receivedFrames_concat,bytesFor_append,Nat.add_assoc,← bytesFor_append,hrecv]
  exact h.received x

theorem pop (hab : a≠b)
    (hsnd : s.state.Sound config) (hkept : Kept quantum most P s) (hpend : s.pending=[])
    {result : Option (String × QueueItem)} {state : State} {frames pending : List DatagramFrame}
    (hpops : State.Pops quantum s.state result state)
    (hframes : frames++pending=(result.map fun entry => entry.2.intoFrames).getD [])
    (ha : state.items a≠[]) (hb : state.items b≠[]) :
    ∃ more, Ledger quantum P a b lead start { s with state, pending } (out++[.received frames])
      (visits++more) ∧ (result≠none → more≠[]) := by
  obtain ⟨more,hturns,hserve,hmore⟩:=h.turns.pops hpops hab hsnd.nodup
    (fun x item hitem => (hkept.items x item hitem).1) ha hb
  refine ⟨more,⟨hturns,?_⟩,hmore⟩
  intro x
  have hbef:=h.received x
  have hnothing : bytesFor [] x=0 := rfl
  rw [hpend,hnothing,Nat.add_zero] at hbef
  have hgiven : bytesFor (frames++pending) x =
      (result.map fun entry => if entry.1=x then entry.2.bytes else 0).getD 0 := by
    rw [hframes]
    cases result with
    | none => rfl
    | some entry =>
      have hmem : entry.2∈s.state.items entry.1 := by
        rw [hpops.drains.split () entry.1]
        simp [settle,itemsOf]
      exact bytesFor_item (hsnd.wellFormed hmem) (hkept.items _ _ hmem).2 x
  rw [bytesFor_append] at hgiven
  rw [receivedFrames_concat,bytesFor_append,hserve,← Nat.add_assoc,← hbef,← hgiven]
  exact Nat.add_assoc _ _ _

theorem effect {e : SchedulerEvent} (hab : a≠b)
    (hq : 0<quantum) (hsnd : s.state.Sound config) (hkept : Kept quantum most P s)
    (heff : Scheduler.Effect config s e s' o) (huses : Uses quantum P e)
    (hstays : ∀ x, x=a ∨ x=b → (acceptedItems [o] x).length<(s'.state.items x).length) :
    ∃ more, Ledger quantum P a b lead start s' (out++[o]) (visits++more) := by
  have hleft : ∀ x, x=a ∨ x=b → s'.state.items x≠[] := by
    intro x hx
    exact length_pos_iff.mp (Nat.lt_of_le_of_lt (Nat.zero_le _) (hstays x hx))
  cases heff with
  | @accepted iter first rest outcome entries mid state hok hacc hnext hdone =>
    -- what stays was not evicted, so the deficit and the place are kept
    have hmid : ∀ x, x=a ∨ x=b → mid.items x≠[] := by
      intro x hx hnil
      have hlen:=hstays x hx
      have hitem : (SchedulerOutput.enqueued (first::rest) outcome).acceptedItem =
          some (first.connId,groupItem first (first::rest)) := if_pos hacc
      rw [← nil_append [SchedulerOutput.enqueued _ _],acceptedItems_concat,hitem,
        hdone.items,hnil] at hlen
      exact absurd hlen (Nat.lt_irrefl _)
    refine ⟨[],?_⟩
    rw [append_nil]
    refine h.keep ?_ ?_ rfl
    · intro x hx
      rw [hdone.deficit,hdone.evicted.deficit x (hmid x hx)]
    refine h.turns.inTurn.keep ?_ ?_
    · intro hsub
      exact hdone.turns a b
        (hdone.evicted.turns a b (hmid a (.inl rfl)) (hmid b (.inr rfl)) hsub)
    intro hsub
    exact hdone.turns b a
      (hdone.evicted.turns b a (hmid b (.inr rfl)) (hmid a (.inl rfl)) hsub)
  | removed connId =>
    obtain ⟨-,-,hits,hdef,hrdy⟩:=State.removeAssociation_spec hsnd connId
    have hoth : ∀ x, x=a ∨ x=b → x≠connId := by
      intro x hx heq
      have hne:=hleft x hx
      rw [hits,if_pos heq] at hne
      exact hne rfl
    have hfilter : ∀ x y, x=a ∨ x=b → y=a ∨ y=b → [x,y].Sublist s.state.ready →
        [x,y].Sublist (s.state.ready.filter (· ≠ connId)) := by
      intro x y hx hy hsub
      have hsub':=hsub.filter (· ≠ connId)
      grind
    refine ⟨[],?_⟩
    rw [append_nil]
    refine h.keep ?_ ?_ rfl
    · intro x hx
      exact hdef x (hoth x hx)
    rw [hrdy]
    exact h.turns.inTurn.keep (hfilter a b (.inl rfl) (.inr rfl))
      (hfilter b a (.inr rfl) (.inl rfl))
  | @popped _ q result state frames pending he hpend hnext hpops hframes =>
    have hqe : max q 1=quantum := by
      rcases he with rfl | rfl <;> obtain rfl : q=quantum := huses <;> omega
    rw [hqe] at hpops
    obtain ⟨more,hledger,-⟩:=h.pop hab hsnd hkept hpend hpops hframes
      (hleft a (.inl rfl)) (hleft b (.inr rfl))
    exact ⟨more,hledger⟩
  | quiet hst _ hrecv =>
    refine ⟨[],?_⟩
    rw [append_nil]
    refine h.keep ?_ ?_ hrecv
    · intro x _
      rw [hst]
    rw [hst]
    exact h.turns.inTurn

end

end Ledger

theorem window_ledger {lead : ℕ} {start s : Scheduler} {out : List SchedulerOutput}
    (hq : 0<quantum) (hmost : ∀ x item, P x item → item.bytes≤ most) (hab : a≠b)
    (hsnd : start.state.Sound config) (hkept : Kept quantum most P start)
    (hlead : InTurn a b lead start.state.ready 0 0)
    (h : (window config quantum P start a b).Run s out) :
    Kept quantum most P s ∧ ∃ visits, Ledger quantum P a b lead start s out visits := by
  have hall : s.state.Sound config ∧ Kept quantum most P s ∧
      ∃ visits, Ledger quantum P a b lead start s out visits := by
    refine h.invariant (fun s out => s.state.Sound config ∧ Kept quantum most P s ∧
      ∃ visits, Ledger quantum P a b lead start s out visits) ⟨hsnd,hkept,[],.init hlead⟩ ?_
    rintro s out e ⟨hsnd,hkept,_,hledger⟩ ⟨-,huses,hstay,hstaysb⟩
    obtain ⟨o,ho,heff⟩:=Scheduler.step_effect hsnd e
    have hout : ((window config quantum P start a b).step s e).2=[o] := ho
    have hstays : ∀ x, x=a ∨ x=b →
        (acceptedItems [o] x).length<((Scheduler.step config s e).1.state.items x).length := by
      rintro x (rfl | rfl)
      · rw [← ho]
        exact hstay
      rw [← ho]
      exact hstaysb
    obtain ⟨_,hnext⟩:=hledger.effect hab hq hsnd hkept heff huses hstays
    rw [hout]
    exact ⟨heff.sound hsnd,hkept.effect hq hmost hsnd heff huses,_,hnext⟩
  exact hall.2

theorem Turns.servedTo_eq {lead size : ℕ} {start s : State} {visits : List Visit}
    (h : Turns quantum P a b lead start s visits) (hsize : ∀ item, P x item → item.bytes=size)
    (hwith : size≤quantum) : servedTo visits x=visitsTo visits x*size := by
  have hserve : ∀ v∈visits.filter (·.1=x), (v.2.map QueueItem.bytes).getD 0=size := by
    intro v hv
    obtain ⟨hmem,hvx⟩:=mem_filter.mp hv
    rw [decide_eq_true_eq] at hvx
    obtain ⟨item,hP,hitem | ⟨-,_⟩⟩:=h.visits v hmem
    · rw [hitem]
      exact hsize item (hvx ▸ hP)
    have hbs:=hsize item (hvx ▸ hP)
    omega
  rw [servedTo,visitsTo,map_congr_left hserve,map_const',sum_replicate,smul_eq_mul]

theorem mul_le_of_le_succ {v w : ℕ} (n : ℕ) (h : v≤w+1) : v*n≤w*n+n := by
  have hmul:=Nat.mul_le_mul_right n h
  rwa [Nat.succ_mul] at hmul

theorem fair_of_uniform {least : ℕ} (hq : 0<quantum) (h : quantum≤least ∨ least=most) :
    Fair quantum least most (quantum+4*most) := by
  intro config start tr hrun a b hab hfilleda hfill s out hwindow
  have hmost : ∀ x item, Sized least most x item → item.bytes≤ most := fun _ _ hitem => hitem.2
  obtain ⟨hsnd,hkept⟩:=run_kept hq hmost hrun
  obtain ⟨_,hlead,hturn⟩:=InTurn.start ((hsnd.mem_ready_iff a).mpr hfilleda)
    ((hsnd.mem_ready_iff b).mpr hfill) hab
  obtain ⟨hkept',_,hledger⟩:=window_ledger hq hmost hab hsnd hkept hturn hwindow
  obtain ⟨hva,hvb⟩:=hledger.turns.inTurn.counts hlead
  have hgot:=hledger.received a
  have hreceivedb:=hledger.received b
  have hheld : ∀ x, bytesFor start.pending x≤ most := fun x => (bytesFor_le _ x).trans hkept.pending
  have hholds : ∀ x, bytesFor s.pending x≤ most := fun x => (bytesFor_le _ x).trans hkept'.pending
  have helda:=hheld a
  have heldb:=hheld b
  have holdsa:=hholds a
  have holdsb:=hholds b
  rcases Nat.lt_or_ge least quantum with hlt | hge
  · -- every item has the same size and every visit serves one
    obtain rfl : least=most := h.resolve_left (by omega)
    have hsize : ∀ x item, Sized least least x item → item.bytes=least :=
      fun _ _ hitem => le_antisymm hitem.2 hitem.1
    have hserveda:=hledger.turns.servedTo_eq (hsize a) hlt.le
    have hserve:=hledger.turns.servedTo_eq (hsize b) hlt.le
    have hmula:=mul_le_of_le_succ least hva
    have hmulb:=mul_le_of_le_succ least hvb
    omega
  · -- no deficit passes the size of an item
    have hleast : ∀ x item, Sized least most x item → quantum≤ item.bytes :=
      fun _ _ hitem => hge.trans hitem.1
    have hbal:=hledger.turns.balance a (.inl rfl)
    have hbalanceb:=hledger.turns.balance b (.inr rfl)
    have hstarta:=hkept.deficit a (hleast a)
    have hstart:=hkept.deficit b (hleast b)
    have henda:=hkept'.deficit a (hleast a)
    have hendb:=hkept'.deficit b (hleast b)
    have hmula:=mul_le_of_le_succ quantum hva
    have hmulb:=mul_le_of_le_succ quantum hvb
    omega

end Lantunnel.Transport
