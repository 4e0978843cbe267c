import Lantunnel.Lib.KeyedFifo
import Lantunnel.Transport.DatagramScheduler

/-!
# What a call on the datagram scheduler does

The counters, the queues and the ready list agree in every state (`Consistent`), between
two calls also with the limits (`Sound`).
-/

namespace Lantunnel.Transport
open Lib KeyedFifo List Table AssociationQueue

def QueueItem.WellFormed (item : QueueItem) : Prop :=
  item.intoFrames ≠ [] ∧ item.bytes=groupBytes item.intoFrames

theorem QueueItem.packets_eq (item : QueueItem) : item.packets=item.intoFrames.length := by
  cases item <;> rfl

theorem QueueItem.WellFormed.packets_pos {item : QueueItem} (h : item.WellFormed) :
    0 < item.packets := by
  rw [item.packets_eq]
  exact length_pos_iff.mpr h.1

section
variable (first : DatagramFrame) (rest : List DatagramFrame)

theorem groupItem_intoFrames : (groupItem first (first::rest)).intoFrames=first::rest := by
  unfold groupItem
  split
  · rename_i h
    have hrest : rest=[] := by simpa using h.1
    rw [hrest]
    rfl
  · rfl

theorem groupItem_bytes : (groupItem first (first::rest)).bytes=groupBytes (first::rest) := by
  unfold groupItem
  split
  · rename_i h
    have hrest : rest=[] := by simpa using h.1
    simp [hrest,QueueItem.bytes,groupBytes]
  · rfl

theorem groupItem_wellFormed : (groupItem first (first::rest)).WellFormed := by
  refine ⟨?_,?_⟩
  · rw [groupItem_intoFrames]
    exact cons_ne_nil _ _
  · rw [groupItem_intoFrames,groupItem_bytes]

end

def packetsOf (items : List QueueItem) : ℕ := (items.map (·.packets)).sum

def bytesOf (items : List QueueItem) : ℕ := (items.map (·.bytes)).sum

theorem packetsOf_cons (item : QueueItem) (items : List QueueItem) :
    packetsOf (item::items)=item.packets+packetsOf items := rfl

theorem packetsOf_append (items items' : List QueueItem) :
    packetsOf (items++items')=packetsOf items+packetsOf items' := by
  simp [packetsOf]

namespace AssociationQueue
variable {q : AssociationQueue} {item : QueueItem} {items : List QueueItem}

/-- The counters are the sums over the items. -/
structure Counted (q : AssociationQueue) : Prop where
  packets : q.packets=packetsOf q.items
  bytes : q.bytes=bytesOf q.items
  wellFormed : ∀ item ∈ q.items, item.WellFormed

theorem counted_new : new.Counted := ⟨rfl,rfl,by simp [new]⟩

theorem Counted.pushItem (h : q.Counted) (hitem : item.WellFormed) : (q.pushItem item).Counted := by
  obtain ⟨hpkts,hbs,hwf⟩:=h
  refine ⟨?_,?_,?_⟩
  · simp [AssociationQueue.pushItem,packetsOf,hpkts]
  · simp [AssociationQueue.pushItem,bytesOf,hbs]
  intro x hx
  rcases mem_append.mp hx with hx | hx
  · exact hwf x hx
  rw [mem_singleton.mp hx]
  exact hitem

theorem Counted.isEmpty_iff (h : q.Counted) : q.isEmpty=true ↔ q.items=[] := by
  rw [isEmpty,beq_iff_eq,h.packets]
  constructor
  · intro hzero
    cases hits : q.items with
    | nil => rfl
    | cons item =>
      have hpos:=(h.wellFormed item (hits ▸ mem_cons_self ..)).packets_pos
      rw [hits,packetsOf_cons] at hzero
      omega
  · intro hnil
    rw [hnil]
    rfl

theorem Counted.head (h : q.Counted) (hits : q.items=item::items) :
    item.WellFormed ∧ q.packets=item.packets+packetsOf items ∧
      q.bytes=item.bytes+bytesOf items := by
  obtain ⟨hpkts,hbs,hwf⟩:=h
  refine ⟨hwf item (hits ▸ mem_cons_self ..),?_,?_⟩
  · rw [hpkts,hits,packetsOf_cons]
  rw [hbs,hits]
  rfl

theorem Counted.tail (h : q.Counted) (hits : q.items=item::items) (deficit : ℕ) (active : Bool) :
    Counted ⟨items,q.packets-item.packets,q.bytes-item.bytes,deficit,active⟩ := by
  obtain ⟨-,hpkts,hbs⟩:=h.head hits
  refine ⟨?_,?_,?_⟩
  · rw [hpkts,Nat.add_sub_cancel_left]
  · rw [hbs,Nat.add_sub_cancel_left]
  intro x hx
  exact h.wellFormed x (hits ▸ mem_cons_of_mem _ hx)

theorem Counted.with (h : q.Counted) (deficit : ℕ) (active : Bool) :
    Counted { q with deficit, active } := ⟨h.packets,h.bytes,h.wellFormed⟩

end AssociationQueue

namespace State
variable {config : DatagramSchedulerConfig} {s s' : State} {a : String} {q q' : AssociationQueue}

theorem items_of_get (h : s.queues.get a=some q) : s.items a=q.items := by
  rw [items,h]
  rfl

theorem items_of_none (h : s.queues.get a=none) : s.items a=[] := by
  rw [items,h]
  rfl

/-- The counters, the queues and the ready list agree. -/
structure Consistent (s : State) : Prop where
  counted : ∀ {a q}, s.queues.get a=some q → q.Counted
  totalPackets : s.totalPackets=s.queues.total (·.packets)
  totalBytes : s.totalBytes=s.queues.total (·.bytes)
  nodup : s.ready.Nodup
  mem_ready : ∀ a, a ∈ s.ready ↔ ∃ q, s.queues.get a=some q ∧ q.active=true

def queueOf (s : State) (a : String) : AssociationQueue := (s.queues.get a).getD .new

theorem queueOf_of_get (h : s.queues.get a=some q) : s.queueOf a=q := by
  rw [queueOf,h]
  rfl

theorem queueOf_items (s : State) (a : String) : (s.queueOf a).items=s.items a := by
  rw [queueOf,items]
  cases s.queues.get a with
  | none | some q => rfl

theorem Consistent.queueOf (h : Consistent s) (a : String) : (s.queueOf a).Counted := by
  rw [State.queueOf]
  cases hget : s.queues.get a with
  | none => exact counted_new
  | some => exact h.counted hget

theorem Consistent.rest (h : Consistent s) (a : String) :
    (s.queues.remove a).total (·.packets)+(s.queueOf a).packets=s.totalPackets ∧
      (s.queues.remove a).total (·.bytes)+(s.queueOf a).bytes=s.totalBytes := by
  rw [h.totalPackets,h.totalBytes,← total_remove s.queues a,← total_remove s.queues a,State.queueOf]
  cases s.queues.get a with
  | none | some q => exact ⟨rfl,rfl⟩

theorem Consistent.active_iff (h : Consistent s) (a : String) :
    a∈s.ready ↔ (s.queueOf a).active=true := by
  rw [h.mem_ready,State.queueOf]
  cases s.queues.get a with
  | none => simp [AssociationQueue.new]
  | some => simp

theorem Consistent.ready_same (h : Consistent s) (hact : q.active=(s.queueOf a).active)
    (x : String) : x∈s.ready ↔ (x=a ∧ q.active=true) ∨ (x≠a ∧ x∈s.ready) := by
  rw [hact,← h.active_iff]
  by_cases hx : x=a <;> simp [hx]

variable {packets bytes : ℕ} {ready rest : List String}

theorem Consistent.replace (h : Consistent s) (hq : s.queueOf a=q) (hcount : q'.Counted)
    (hpkts : packets+q.packets=s.totalPackets+q'.packets)
    (hbs : bytes+q.bytes=s.totalBytes+q'.bytes) (hnd : ready.Nodup)
    (hrdy : ∀ x, x∈ready ↔ (x=a ∧ q'.active=true) ∨ (x≠a ∧ x∈s.ready)) :
    Consistent ⟨s.queues.insert a q',ready,packets,bytes⟩ := by
  obtain ⟨hrestp,hrestb⟩:=h.rest a
  rw [hq] at hrestp hrestb
  refine ⟨?_,?_,?_,hnd,?_⟩
  · exact forall_insert hcount (fun _ _ => h.counted) _ _
  · rw [total_insert]
    dsimp only
    omega
  · rw [total_insert]
    dsimp only
    omega
  · intro x
    rw [hrdy,get_insert,h.mem_ready]
    by_cases hx : x=a <;> simp [hx]

theorem Consistent.drop (h : Consistent s) (hq : s.queueOf a=q)
    (hpkts : packets+q.packets=s.totalPackets) (hbs : bytes+q.bytes=s.totalBytes)
    (hnd : ready.Nodup) (hrdy : ∀ x, x∈ready ↔ x≠a ∧ x∈s.ready) :
    Consistent ⟨s.queues.remove a,ready,packets,bytes⟩ := by
  obtain ⟨hrestp,hrestb⟩:=h.rest a
  rw [hq] at hrestp hrestb
  refine ⟨fun hp => h.counted (get_of_get_remove hp),?_,?_,hnd,?_⟩
  · dsimp only
    omega
  · dsimp only
    omega
  · intro x
    rw [hrdy,get_remove,h.mem_ready]
    by_cases hx : x=a <;> simp [hx]

def deficit (s : State) (a : String) : ℕ := (s.queueOf a).deficit

theorem items_insert (s : State) (a : String) (q : AssociationQueue) (ready : List String)
    (packets bytes : ℕ) (x : String) :
    items ⟨s.queues.insert a q,ready,packets,bytes⟩ x=if x=a then q.items else s.items x := by
  rw [items,items,get_insert]
  split <;> rfl

theorem items_remove (s : State) (a : String) (ready : List String) (packets bytes : ℕ) (x : String) :
    items ⟨s.queues.remove a,ready,packets,bytes⟩ x=if x=a then [] else s.items x := by
  rw [items,items,get_remove]
  split <;> rfl

theorem deficit_insert (s : State) (a : String) (q : AssociationQueue) (ready : List String)
    (packets bytes : ℕ) (x : String) : deficit ⟨s.queues.insert a q,ready,packets,bytes⟩ x =
      if x=a then q.deficit else s.deficit x := by
  rw [deficit,deficit,queueOf,queueOf,get_insert]
  split <;> rfl

theorem deficit_remove (s : State) {a x : String} (ready : List String) (packets bytes : ℕ)
    (h : x≠a) : deficit ⟨s.queues.remove a,ready,packets,bytes⟩ x=s.deficit x := by
  rw [deficit,deficit,queueOf,queueOf,get_remove,if_neg h]

/-- Within a call for `connId`: only its own queue may be empty. -/
structure Opened (config : DatagramSchedulerConfig) (connId : String) (s : State) : Prop
    extends Consistent s where
  live : ∀ {a q}, s.queues.get a=some q → a ≠ connId → q.items ≠ []
  active : ∀ {a q}, s.queues.get a=some q → q.items ≠ [] → q.active=true
  ownLimits : ∀ {a q}, s.queues.get a=some q →
    q.packets≤config.perAssociationPacketLimit ∧ q.bytes≤config.perAssociationByteLimit
  globalLimits : s.totalPackets≤config.globalPacketLimit ∧ s.totalBytes≤config.globalByteLimit

structure Sound (config : DatagramSchedulerConfig) (s : State) : Prop extends Consistent s where
  live : ∀ {a q}, s.queues.get a=some q → q.items ≠ [] ∧ q.active=true
  ownLimits : ∀ {a q}, s.queues.get a=some q →
    q.packets≤config.perAssociationPacketLimit ∧ q.bytes≤config.perAssociationByteLimit
  globalLimits : s.totalPackets≤config.globalPacketLimit ∧ s.totalBytes≤config.globalByteLimit

theorem Sound.opened (h : Sound config s) (connId : String) : Opened config connId s :=
  ⟨h.toConsistent,fun hget _ => (h.live hget).1,fun hget _ => (h.live hget).2,h.ownLimits,
    h.globalLimits⟩

theorem Sound.drop (h : Sound config s)
    (hs : Consistent ⟨s.queues.remove a,ready,packets,bytes⟩)
    (hpkts : packets≤ s.totalPackets) (hbs : bytes≤ s.totalBytes) :
    Sound config ⟨s.queues.remove a,ready,packets,bytes⟩ :=
  ⟨hs,fun hp => h.live (get_of_get_remove hp),fun hp => h.ownLimits (get_of_get_remove hp),
    hpkts.trans h.globalLimits.1,hbs.trans h.globalLimits.2⟩

section Insert
variable (hs : Consistent ⟨s.queues.insert a q,ready,packets,bytes⟩)
  (hown : q.packets≤config.perAssociationPacketLimit ∧ q.bytes≤config.perAssociationByteLimit)
  (hglobal : packets≤config.globalPacketLimit ∧ bytes≤config.globalByteLimit)
include hs hown hglobal

theorem Opened.insert (h : Opened config connId s) (hlive : a≠connId → q.items≠[])
    (hact : q.items≠[] → q.active=true) :
    Opened config connId ⟨s.queues.insert a q,ready,packets,bytes⟩ := by
  refine ⟨hs,?_,forall_insert hact (fun _ _ => h.active) _ _,?_,hglobal⟩
  · intro x p hp hx
    rcases get_of_get_insert hp with hp | ⟨rfl,rfl⟩
    · exact h.live hp hx
    · exact hlive hx
  · refine forall_insert ?_ (fun _ _ => h.ownLimits) _ _
    exact hown

theorem Opened.sound_insert (h : Opened config a s) (hlive : q.items≠[] ∧ q.active=true) :
    Sound config ⟨s.queues.insert a q,ready,packets,bytes⟩ := by
  refine ⟨hs,?_,?_,hglobal⟩
  · intro x p hp
    rw [get_insert] at hp
    split at hp
    · obtain rfl := Option.some.inj hp
      exact hlive
    rename_i hx
    have hne:=h.live hp hx
    exact ⟨hne,h.active hp hne⟩
  · refine forall_insert ?_ (fun _ _ => h.ownLimits) _ _
    exact hown

end Insert

/-- Items were evicted, each from the head of its queue. A queue that is not
drained keeps its deficit and its place in the ready list. -/
structure Evicted (s : State) (entries : List (String × QueueItem)) (s' : State) : Prop where
  drains : Drains s.items entries s'.items
  packets : s.totalPackets=s'.totalPackets+packetsOf (entries.map (·.2))
  deficit : ∀ x, s'.items x ≠ [] → s'.deficit x=s.deficit x
  deficit_le : ∀ x, s'.deficit x≤ s.deficit x
  turns : ∀ x y, s'.items x ≠ [] → s'.items y ≠ [] → [x,y].Sublist s.ready →
    [x,y].Sublist s'.ready

theorem Evicted.none (hits : s'.items=s.items) (hpkts : s'.totalPackets=s.totalPackets)
    (hdef : ∀ x, s'.deficit x=s.deficit x) (hrdy : s'.ready=s.ready) : Evicted s [] s' := by
  refine ⟨?_,?_,fun x _ => hdef x,fun x => (hdef x).le,?_⟩
  · rw [hits]
    exact .done _
  · rw [hpkts]
    rfl
  · intro x y _ _ h
    rwa [hrdy]

theorem Evicted.items_ne (h : Evicted s entries s') {x : String} (hx : s'.items x≠[]) :
    s.items x≠[] := by
  rw [h.drains.split () x]
  simp [hx]

theorem Evicted.trans {mid : State} {entries entries' : List (String × QueueItem)}
    (h : Evicted s entries mid) (h' : Evicted mid entries' s') :
    Evicted s (entries++entries') s' := by
  refine ⟨h.drains.append h'.drains,?_,?_,fun x => (h'.deficit_le x).trans (h.deficit_le x),?_⟩
  · rw [h.packets,h'.packets,map_append,packetsOf_append]
    omega
  · intro x hx
    rw [h'.deficit x hx,h.deficit x (h'.items_ne hx)]
  · intro x y hx hy hxy
    exact h'.turns x y hx hy (h.turns x y (h'.items_ne hx) (h'.items_ne hy) hxy)

theorem Evicted.queueOf_le (h : Evicted s entries s') (hs : Consistent s) (hs' : Consistent s')
    (x : String) :
    (s'.queueOf x).packets≤(s.queueOf x).packets ∧ (s'.queueOf x).bytes≤(s.queueOf x).bytes := by
  have hspl:=h.drains.split () x
  rw [(hs'.queueOf x).packets,(hs.queueOf x).packets,(hs'.queueOf x).bytes,(hs.queueOf x).bytes,
    queueOf_items,queueOf_items,hspl,packetsOf_append,bytesOf,bytesOf,map_append,sum_append]
  omega

theorem popOldestItem_cons {item : QueueItem} {items : List QueueItem} (h : q.items=item::items) :
    q.popOldestItem=(⟨item.packets,item.bytes⟩,⟨items,q.packets-item.packets,q.bytes-item.bytes,
        if items=[] then 0 else q.deficit,q.active⟩) := by
  unfold popOldestItem
  rw [h]

section Pop
variable {item : QueueItem} {items : List QueueItem}

def popped (s : State) (a : String) (q : AssociationQueue) (item : QueueItem)
    (items : List QueueItem) : State :=
  ⟨s.queues.insert a ⟨items,q.packets-item.packets,q.bytes-item.bytes,
    if items=[] then 0 else q.deficit,q.active⟩,s.ready,s.totalPackets-item.packets,
    s.totalBytes-item.bytes⟩

section
variable (h : Consistent s) (hget : s.queues.get a=some q) (hits : q.items=item::items)
include h hget hits

theorem Consistent.totals_head : item.packets≤ s.totalPackets ∧ item.bytes≤ s.totalBytes := by
  obtain ⟨-,_⟩:=(h.counted hget).head hits
  obtain ⟨hrestp,hrestb⟩:=h.rest a
  rw [queueOf_of_get hget] at hrestp hrestb
  omega

theorem evicted_popped : Evicted s [(a,item)] (s.popped a q item items) := by
  have hlep:=(h.totals_head hget hits).1
  refine ⟨.one ?_ ?_,?_,?_,?_,?_⟩
  · rw [popped,items_insert,if_pos rfl,items_of_get hget,hits]
  · intro x hx
    rw [popped,items_insert,if_neg hx]
  · change s.totalPackets=s.totalPackets-item.packets+item.packets
    omega
  · intro x hx
    rw [popped,items_insert] at hx
    rw [popped,deficit_insert]
    split
    · rename_i hxa
      rw [if_pos hxa] at hx
      rw [if_neg hx,hxa,deficit,queueOf_of_get hget]
    · rfl
  · intro x
    rw [popped,deficit_insert]
    split
    · rename_i hxa
      rw [hxa,deficit,queueOf_of_get hget]
      split
      · exact Nat.zero_le _
      · exact le_rfl
    · exact le_rfl
  · intro x y _ _ hxy
    exact hxy

end

end Pop

theorem Opened.opened (h : Opened config connId s) :
    Opened config connId { s with queues := s.queues.insert connId (s.queueOf connId) } := by
  have hs:=h.toConsistent.replace rfl (h.queueOf connId) rfl rfl h.nodup (h.ready_same rfl)
  refine h.insert hs ?_ h.globalLimits (absurd rfl) ?_
  · cases hget : s.queues.get connId with
    | none =>
      rw [queueOf,hget]
      exact ⟨Nat.zero_le _,Nat.zero_le _⟩
    | some =>
      rw [queueOf_of_get hget]
      exact h.ownLimits hget
  · intro hits
    cases hget : s.queues.get connId with
    | none =>
      rw [queueOf,hget] at hits
      exact absurd rfl hits
    | some =>
      rw [queueOf_of_get hget] at hits ⊢
      exact h.active hget hits

theorem evicted_opened (s : State) (connId : String) :
    Evicted s [] { s with queues := s.queues.insert connId (s.queueOf connId) } := by
  refine .none ?_ rfl ?_ rfl
  · funext x
    rw [items_insert]
    split
    · rename_i hx
      rw [hx,queueOf_items]
    · rfl
  · intro x
    rw [deficit_insert]
    split
    · rename_i hx
      rw [hx]
      rfl
    · rfl

theorem Opened.popped {item : QueueItem} {items : List QueueItem}
    (h : Opened config connId s) (hget : s.queues.get a=some q)
    (hits : q.items=item::items) (hkeep : a≠connId → items≠[]) :
    Opened config connId (s.popped a q item items) := by
  obtain ⟨-,_⟩:=(h.counted hget).head hits
  obtain ⟨_,_⟩:=h.totals_head hget hits
  obtain ⟨_,_⟩:=h.ownLimits hget
  obtain ⟨_,_⟩:=h.globalLimits
  have hact : q.active=true := h.active hget (by rw [hits]; exact cons_ne_nil _ _)
  have hq:=queueOf_of_get hget
  refine h.insert (h.toConsistent.replace hq ((h.counted hget).tail hits _ _) ?_ ?_ h.nodup
    (h.ready_same (by rw [hq]))) ?_ ?_ hkeep fun _ => hact
  all_goals try dsimp only
  all_goals omega

def OwnFits (config : DatagramSchedulerConfig) (connId : String) (packets bytes : ℕ)
    (s : State) : Prop :=
  (s.queueOf connId).packets+packets≤config.perAssociationPacketLimit ∧
    (s.queueOf connId).bytes+bytes≤config.perAssociationByteLimit

theorem evictOwnLoop_spec (hpkts : packets≤config.perAssociationPacketLimit)
    (hbs : bytes≤config.perAssociationByteLimit) (fuel : ℕ) (h : Opened config connId s)
    (hfuel : (s.items connId).length<fuel) (n : ℕ) :
    ∃ entries s', evictOwnLoop config connId packets bytes fuel s n =
        (s',n+packetsOf (entries.map (·.2))) ∧
      Opened config connId s' ∧ Evicted s entries s' ∧ OwnFits config connId packets bytes s' := by
  -- one round for each item that has to go
  induction fuel generalizing s n with
  | zero => omega
  | succ fuel ih =>
    rw [evictOwnLoop]
    have hopd:=h.opened
    have hev:=evicted_opened s connId
    have hq : (s.queues.get connId).getD .new=s.queueOf connId := rfl
    have hget : ({ s with queues := s.queues.insert connId (s.queueOf connId) } : State).queues.get
        connId=some (s.queueOf connId) := get_insert_self ..
    simp only [hq]
    split
    · rename_i hfits
      refine ⟨[],_,rfl,hopd,hev,?_⟩
      rw [OwnFits,queueOf_of_get hget]
      exact hfits
    · cases hits : (s.queueOf connId).items with
      | nil =>
        have hemp:=h.queueOf connId
        have hp : (s.queueOf connId).packets=0 := by rw [hemp.packets,hits]; rfl
        have hb : (s.queueOf connId).bytes=0 := by rw [hemp.bytes,hits]; rfl
        omega
      | cons item =>
        have hpos:=((h.queueOf connId).head hits).1.packets_pos
        rw [popOldestItem_cons hits]
        dsimp only
        rw [if_neg (by omega)]
        have hstep:=evicted_popped hopd.toConsistent hget hits
        obtain ⟨entries,s',hloop,hs',hdrain,hroom⟩:=ih (hopd.popped hget hits (absurd rfl))
          (by
            rw [popped,items_insert,if_pos rfl]
            rw [← queueOf_items,hits,length_cons] at hfuel
            dsimp only
            omega) (n+item.packets)
        refine ⟨(connId,item)::entries,s',hloop.trans ?_,hs',(hev.trans hstep).trans hdrain,hroom⟩
        rw [map_cons,packetsOf_cons,Nat.add_assoc]

theorem keyLe_trans {a b c : ℕ × ℕ} (h : keyLe a b=true) (h' : keyLe b c=true) :
    keyLe a c=true := by
  simp only [keyLe,Bool.or_eq_true,Bool.and_eq_true,decide_eq_true_eq,beq_iff_eq] at h h' ⊢
  omega

theorem keyLe_of_not {a b : ℕ × ℕ} (h : keyLe a b≠true) : keyLe b a=true := by
  simp only [keyLe,Bool.or_eq_true,Bool.and_eq_true,decide_eq_true_eq,beq_iff_eq,ne_eq] at h ⊢
  omega

theorem keyLe_refl (a : ℕ × ℕ) : keyLe a a=true := by
  simp [keyLe]

theorem maxByKey_spec {α : Type} {k : α → ℕ × ℕ} {entries : List α} (h : entries≠[]) :
    ∃ best∈entries, maxByKey k entries=some best ∧ ∀ x∈entries, keyLe (k x) (k best)=true := by
  cases entries with
  | nil => exact absurd rfl h
  | cons x xs =>
    refine ⟨_,RustStd.foldl_best_mem xs x,rfl,RustStd.foldl_best (p := fun a b => keyLe (k b) (k a)=true)
      (fun _ _ _ hab hbc => keyLe_trans hbc hab) (fun _ => keyLe_refl _) (fun a b => ?_) xs x⟩
    split
    · assumption
    · exact keyLe_of_not ‹_›

theorem exists_of_total_pos {t : Table String AssociationQueue} {w : AssociationQueue → ℕ}
    (h : 0<t.total w) : ∃ e∈t.pairs, 0<w e.2 := by
  by_contra hnone
  push Not at hnone
  have hzero : t.total w=0 := by
    refine sum_eq_zero ?_
    intro n hn
    obtain ⟨e,he,rfl⟩:=mem_map.mp hn
    exact Nat.le_zero.mp (hnone e he)
  omega

/-- The queue that is picked is one that adds to the total that is too large. -/
theorem noisiest_spec (h : Consistent s) (iter : HashIter) (byBytes : Bool)
    (hpos : if byBytes then 0<s.totalBytes else 0<s.totalPackets) :
    ∃ a q item items, s.noisiest iter byBytes=some (a,q) ∧ s.queues.get a=some q ∧
      q.items=item::items := by
  -- the key's first component is positive somewhere, so it is positive for the greatest
  have hpick : ∀ key : AssociationQueue → ℕ × ℕ, 0<s.queues.total (fun q => (key q).1) →
      (∀ q, q.Counted → q.items=[] → (key q).1=0) →
      ∃ best∈s.queues.pairs, maxByKey (fun e => key e.2) (iter.order s.queues.pairs)=some best ∧
        best.2.items≠[] := by
    intro key htot hzero
    obtain ⟨e,he,_⟩:=exists_of_total_pos htot
    have hperm:=iter.perm s.queues.pairs
    obtain ⟨best,hbest,hmax,hle⟩ :=
      maxByKey_spec (k := fun e => key e.2) (ne_nil_of_mem (hperm.mem_iff.mpr he))
    have hmem:=hperm.mem_iff.mp hbest
    refine ⟨best,hmem,hmax,fun hnil => ?_⟩
    have hnone:=hzero best.2 (h.counted (mem_pairs.mp hmem)) hnil
    have hkeyLen:=hle e (hperm.mem_iff.mpr he)
    simp only [keyLe,Bool.or_eq_true,Bool.and_eq_true,decide_eq_true_eq,beq_iff_eq] at hkeyLen
    omega
  have hfnd : ∃ best∈s.queues.pairs, s.noisiest iter byBytes=some best ∧
      best.2.items≠[] := by
    cases byBytes with
    | true =>
      refine hpick (fun q => (q.bytes,q.packets)) (h.totalBytes ▸ hpos) ?_
      intro q hq hnil
      rw [hq.bytes,hnil]
      rfl
    | false =>
      refine hpick (fun q => (q.packets,q.bytes)) (h.totalPackets ▸ hpos) ?_
      intro q hq hnil
      rw [hq.packets,hnil]
      rfl
  obtain ⟨⟨a,q⟩,hmem,hnoisy,hne⟩:=hfnd
  obtain ⟨item,items,hits⟩:=exists_cons_of_ne_nil hne
  exact ⟨a,q,item,items,hnoisy,mem_pairs.mp hmem,hits⟩

section Noisy
variable {item : QueueItem} {items : List QueueItem}

def drained (s : State) (a : String) (item : QueueItem) : State :=
  ⟨s.queues.remove a,s.ready.filter (· ≠ a),s.totalPackets-item.packets,
    s.totalBytes-item.bytes⟩

theorem mem_ready_filter (s : State) (a x : String) :
    x∈s.ready.filter (· ≠ a) ↔ x≠a ∧ x∈s.ready := by
  rw [mem_filter,decide_eq_true_eq,and_comm]

theorem evicted_drained (h : Consistent s) (hget : s.queues.get a=some q)
    (hits : q.items=[item]) : Evicted s [(a,item)] (s.drained a item) := by
  have hlep:=(h.totals_head hget hits).1
  have hkept : ∀ x, (s.drained a item).items x≠[] → x≠a := by
    intro x hx hxa
    rw [drained,items_remove,if_pos hxa] at hx
    exact hx rfl
  refine ⟨.one ?_ ?_,?_,?_,?_,?_⟩
  · rw [drained,items_remove,if_pos rfl,items_of_get hget,hits]
  · intro x hx
    rw [drained,items_remove,if_neg hx]
  · change s.totalPackets=s.totalPackets-item.packets+item.packets
    omega
  · intro x hx
    rw [drained,deficit_remove _ _ _ _ (hkept x hx)]
  · intro x
    by_cases hx : x=a
    · rw [hx,drained,deficit,queueOf,get_remove,if_pos rfl]
      exact Nat.zero_le _
    · rw [drained,deficit_remove _ _ _ _ hx]
  · intro x y hx hy hxy
    have hfilter:=hxy.filter (· ≠ a)
    rwa [filter_cons_of_pos (by simpa using hkept x hx),
      filter_cons_of_pos (by simpa using hkept y hy)] at hfilter

theorem Opened.drained (h : Opened config connId s) (hget : s.queues.get a=some q)
    (hits : q.items=[item]) : Opened config connId (s.drained a item) := by
  obtain ⟨-,_⟩:=(h.counted hget).head hits
  obtain ⟨_,_⟩:=h.totals_head hget hits
  obtain ⟨hglobalp,hglobal⟩:=h.globalLimits
  have hnil : packetsOf []=0 ∧ bytesOf []=0 := ⟨rfl,rfl⟩
  refine ⟨h.toConsistent.drop (queueOf_of_get hget) ?_ ?_ (h.nodup.filter _)
    (s.mem_ready_filter a),fun hp => h.live (get_of_get_remove hp),
    fun hp => h.active (get_of_get_remove hp),fun hp => h.ownLimits (get_of_get_remove hp),?_⟩
  · omega
  · omega
  · exact ⟨(Nat.sub_le _ _).trans hglobalp,(Nat.sub_le _ _).trans hglobal⟩

theorem evictNoisiest_spec (h : Opened config connId s) (iter : HashIter) (byBytes : Bool)
    (hpos : if byBytes then 0<s.totalBytes else 0<s.totalPackets) :
    ∃ a item s', s.evictNoisiest iter byBytes=some (⟨item.packets,item.bytes⟩,s') ∧
      0 < item.packets ∧ Opened config connId s' ∧ Evicted s [(a,item)] s' := by
  obtain ⟨a,q,item,items,hnoisy,hget,hits⟩:=noisiest_spec h.toConsistent iter byBytes hpos
  have hcount:=(h.counted hget).tail hits (if items=[] then 0 else q.deficit) q.active
  have hpkts:=((h.counted hget).head hits).1.packets_pos
  rw [evictNoisiest,hnoisy]
  dsimp only
  rw [popOldestItem_cons hits]
  by_cases hne : items=[]
  · subst hne
    refine ⟨a,item,s.drained a item,?_,hpkts,h.drained hget hits,
      evicted_drained h.toConsistent hget hits⟩
    rw [if_pos (hcount.isEmpty_iff.mpr rfl),remove_insert]
    rfl
  · refine ⟨a,item,s.popped a q item items,?_,hpkts,h.popped hget hits fun _ => hne,
      evicted_popped h.toConsistent hget hits⟩
    rw [if_neg fun hemp => hne (hcount.isEmpty_iff.mp hemp)]
    rfl

end Noisy

theorem evictGlobalLoop_spec (iter : HashIter)
    (hpkts : packets≤config.globalPacketLimit) (hbs : bytes≤config.globalByteLimit)
    (fuel : ℕ) (h : Opened config connId s) (hfuel : s.totalPackets<fuel) (n : ℕ) :
    ∃ entries s', evictGlobalLoop config iter packets bytes fuel s n =
        (s',n+packetsOf (entries.map (·.2))) ∧ Opened config connId s' ∧ Evicted s entries s' ∧
      s'.totalPackets+packets≤config.globalPacketLimit ∧
      s'.totalBytes+bytes≤config.globalByteLimit := by
  induction fuel generalizing s n with
  | zero => omega
  | succ fuel ih =>
    rw [evictGlobalLoop]
    split
    · rename_i hover
      simp only [overBudget,Bool.or_eq_true,decide_eq_true_eq] at hover
      have hpos : if decide (s.totalBytes+bytes>config.globalByteLimit) then 0<s.totalBytes
          else 0<s.totalPackets := by
        by_cases hb : s.totalBytes+bytes>config.globalByteLimit
        · simp only [hb,decide_true,if_true]
          omega
        simp only [hb,decide_false,Bool.false_eq_true,if_false]
        omega
      obtain ⟨a,item,mid,heq,_,hmid,hstep⟩:=evictNoisiest_spec h iter _ hpos
      rw [heq]
      have hdown : s.totalPackets=mid.totalPackets+item.packets := hstep.packets
      obtain ⟨entries,s',hloop,hs',hdrain,hroom⟩ :=
        ih hmid (by omega) (n+item.packets)
      refine ⟨(a,item)::entries,s',hloop.trans ?_,hs',hstep.trans hdrain,hroom⟩
      rw [map_cons,packetsOf_cons,Nat.add_assoc]
    · rename_i hover
      simp only [overBudget,Bool.or_eq_true,decide_eq_true_eq,not_or,Nat.not_lt,gt_iff_lt] at hover
      refine ⟨[],s,rfl,h,.none rfl rfl (fun _ => rfl) rfl,hover⟩

theorem sound_new : Sound config State.new := by
  have hget : ∀ {a q}, State.new.queues.get a=some q → False := by
    intro a q h
    cases h
  refine ⟨⟨fun h => (hget h).elim,rfl,rfl,nodup_nil,?_⟩,fun h => (hget h).elim,
    fun h => (hget h).elim,Nat.zero_le _,Nat.zero_le _⟩
  intro a
  constructor
  · intro h
    cases h
  rintro ⟨q,h,-⟩
  exact (hget h).elim

theorem Sound.mem_ready_iff (h : Sound config s) (a : String) : a∈s.ready ↔ s.items a≠[] := by
  rw [h.mem_ready]
  constructor
  · rintro ⟨q,hget,-⟩
    rw [items_of_get hget]
    exact (h.live hget).1
  intro hne
  cases hget : s.queues.get a with
  | none => exact absurd (items_of_none hget) hne
  | some q => exact ⟨q,rfl,(h.live hget).2⟩

section Push
variable {connId : String} {item : QueueItem}

section
variable (hwf : item.WellFormed)
include hwf

theorem push_eq (s : State) (hcount : (s.queueOf connId).Counted) :
    s.push connId item packets bytes =
      ⟨s.queues.insert connId { (s.queueOf connId).pushItem item with active := true },
        if (s.queueOf connId).active then s.ready else s.ready++[connId],
        s.totalPackets+packets,s.totalBytes+bytes⟩ := by
  have hq : (s.queues.get connId).getD .new=s.queueOf connId := rfl
  have hfill : ((s.queueOf connId).pushItem item).isEmpty=false := by
    have hne : ((s.queueOf connId).pushItem item).items≠[] := by
      simp [pushItem]
    rw [← Bool.not_eq_true]
    exact fun hemp => hne ((hcount.pushItem hwf).isEmpty_iff.mp hemp)
  have hact : ((s.queueOf connId).pushItem item).active=(s.queueOf connId).active := rfl
  rw [push,hq]
  rw [markReady,get_insert_self]
  dsimp only
  rw [hfill,hact,Bool.or_false]
  split
  · rename_i h
    have hsame : { (s.queueOf connId).pushItem item with active := true } =
        (s.queueOf connId).pushItem item := by
      rw [← hact] at h
      rw [← h]
    rw [hsame]
  · rw [insert_insert]

section
variable (hcount : (s.queueOf connId).Counted)
include hcount

theorem push_items (x : String) :
    (s.push connId item packets bytes).items x=s.items x++if x=connId then [item] else [] := by
  rw [push_eq hwf s hcount,items_insert]
  split
  · rename_i hx
    rw [hx,← queueOf_items]
    rfl
  · rw [append_nil]

theorem push_deficit (x : String) : (s.push connId item packets bytes).deficit x=s.deficit x := by
  rw [push_eq hwf s hcount,deficit_insert]
  split
  · rename_i hx
    rw [hx]
    rfl
  · rfl

theorem push_ready {turn : List String} (h : turn.Sublist s.ready) :
    turn.Sublist (s.push connId item packets bytes).ready := by
  rw [push_eq hwf s hcount]
  split
  · exact h
  · exact h.trans (sublist_append_left _ _)

end

end

theorem Opened.push (h : Opened config connId s) (hwf : item.WellFormed)
    (hown : OwnFits config connId item.packets item.bytes s)
    (hglobal : s.totalPackets+item.packets≤config.globalPacketLimit ∧
      s.totalBytes+item.bytes≤config.globalByteLimit) :
    Sound config (s.push connId item item.packets item.bytes) := by
  have hcount:=h.queueOf connId
  have hpush : ((s.queueOf connId).pushItem item).items≠[] := by
    simp [pushItem]
  rw [push_eq hwf s hcount]
  -- the flag says whether the association is in the ready list already
  have hflag:=h.active_iff connId
  refine h.sound_insert (h.toConsistent.replace rfl ((hcount.pushItem hwf).with _ _) ?_ ?_ ?_ ?_)
    hown hglobal ⟨hpush,rfl⟩
  · simp only [pushItem]
    omega
  · simp only [pushItem]
    omega
  · split
    · exact h.nodup
    rename_i hidle
    rw [nodup_append]
    refine ⟨h.nodup,nodup_singleton _,?_⟩
    intro x hx y hy hxy
    rw [mem_singleton] at hy
    subst hy
    exact hidle (hflag.mp (hxy ▸ hx))
  · grind

end Push

/-- What a group that is taken does: evictions, then the group behind what its
association still has. -/
structure Enqueued (s : State) (connId : String) (item : QueueItem)
    (outcome : DatagramEnqueueOutcome) (entries : List (String × QueueItem)) (mid s' : State) :
    Prop where
  evicted : Evicted s entries mid
  reported : outcome.perAssociationEvicted+outcome.globalBudgetEvicted =
    packetsOf (entries.map (·.2))
  packets : s'.totalPackets=mid.totalPackets+item.packets
  items : ∀ x, s'.items x=mid.items x++if x=connId then [item] else []
  deficit : ∀ x, s'.deficit x=mid.deficit x
  turns : ∀ x y, [x,y].Sublist mid.ready → [x,y].Sublist s'.ready

theorem admissible_limits {first : DatagramFrame} {frames : List DatagramFrame}
    (h : admissible config first frames=true) : (∀ f∈frames, f.connId=first.connId) ∧
      frames.length≤config.perAssociationPacketLimit ∧
      groupBytes frames≤config.perAssociationByteLimit ∧
      frames.length≤config.globalPacketLimit ∧ groupBytes frames≤config.globalByteLimit := by
  simp only [admissible,Bool.and_eq_true,all_eq_true,decide_eq_true_eq] at h
  obtain ⟨⟨⟨⟨⟨hid,-⟩,h1⟩,h2⟩,h3⟩,h4⟩:=h
  exact ⟨hid,h1,h2,h3,h4⟩

theorem enqueueGroup_accepted (h : Sound config s) (iter : HashIter) (first : DatagramFrame)
    (rest : List DatagramFrame) (hok : admissible config first (first::rest)=true) :
    ∃ outcome entries mid s', s.enqueueGroup config iter false (first::rest)=(outcome,s') ∧
      outcome.accepted=true ∧ outcome.acceptedPackets=(first::rest).length ∧ Sound config s' ∧
      Enqueued s first.connId (groupItem first (first::rest)) outcome entries mid s' := by
  obtain ⟨-,hownp,hownb,hglobalp,hglobal⟩:=admissible_limits hok
  have hwf:=groupItem_wellFormed first rest
  have hpkts : (groupItem first (first::rest)).packets=(first::rest).length := by
    rw [QueueItem.packets_eq,groupItem_intoFrames]
  have hbs:=groupItem_bytes first rest
  obtain ⟨own,s1,hownLoop,hs1,hownEvicted,hroom⟩ :=
    evictOwnLoop_spec hownp hownb ((s.items first.connId).length+1) (h.opened first.connId)
      (Nat.lt_succ_self _) 0
  obtain ⟨noisy,s2,hnoisyLoop,hs2,hnoise,hbudget⟩ :=
    evictGlobalLoop_spec iter hglobalp hglobal (s1.totalPackets+1) hs1 (Nat.lt_succ_self _) 0
  rw [Nat.zero_add] at hownLoop hnoisyLoop
  have hfits : OwnFits config first.connId (first::rest).length (groupBytes (first::rest)) s2 := by
    obtain ⟨_,_⟩:=hnoise.queueOf_le hs1.toConsistent hs2.toConsistent first.connId
    obtain ⟨_,_⟩:=hroom
    exact ⟨by omega,by omega⟩
  rw [← hpkts,← hbs] at hfits hbudget
  have hcount:=hs2.queueOf first.connId
  refine ⟨⟨true,(first::rest).length,packetsOf (own.map (·.2)),packetsOf (noisy.map (·.2))⟩,
    own++noisy,s2,s2.push first.connId (groupItem first (first::rest))
      (first::rest).length (groupBytes (first::rest)),?_,rfl,rfl,?_,?_⟩
  · rw [enqueueGroup]
    dsimp only
    rw [hok,evictOwn,hownLoop]
    rw [evictGlobal,hnoisyLoop]
    rfl
  · rw [← hpkts,← hbs]
    exact hs2.push hwf hfits hbudget
  · refine ⟨hownEvicted.trans hnoise,?_,?_,push_items hwf hcount,
      push_deficit hwf hcount,fun x y hxy => push_ready hwf hcount hxy⟩
    · rw [map_append,packetsOf_append]
    · rw [push_eq hwf s2 hcount,hpkts]

theorem enqueueGroup_cases (config : DatagramSchedulerConfig) (s : State) (iter : HashIter) (closed : Bool)
    (frames : List DatagramFrame) : (∃ first rest, frames=first::rest ∧ closed=false ∧
      admissible config first (first::rest)=true) ∨
      s.enqueueGroup config iter closed frames=({},s) := by
  cases frames with
  | nil => exact .inr rfl
  | cons first rest =>
    by_cases hok : closed=false ∧ admissible config first (first::rest)=true
    · exact .inl ⟨first,rest,rfl,hok⟩
    refine .inr ?_
    rw [enqueueGroup]
    rw [if_pos]
    simp only [Bool.or_eq_true,Bool.not_eq_true']
    rw [← Bool.not_eq_true,← Bool.not_eq_false]
    tauto

theorem removeAssociation_spec (h : Sound config s) (connId : String) :
    Sound config (s.removeAssociation connId).2 ∧
      (s.removeAssociation connId).1=packetsOf (s.items connId) ∧
      (∀ x, (s.removeAssociation connId).2.items x=if x=connId then [] else s.items x) ∧
      (∀ x, x≠connId → (s.removeAssociation connId).2.deficit x=s.deficit x) ∧
      (s.removeAssociation connId).2.ready=s.ready.filter (· ≠ connId) := by
  rw [removeAssociation]
  cases hget : s.queues.get connId with
  | none =>
    have hout : connId∉s.ready := by
      rw [h.mem_ready_iff,not_not,items_of_none hget]
    refine ⟨h,?_,?_,fun _ _ => rfl,?_⟩
    · rw [items_of_none hget]
      rfl
    · intro x
      by_cases hx : x=connId
      · rw [if_pos hx,hx]
        exact items_of_none hget
      · rw [if_neg hx]
    · rw [filter_eq_self.mpr]
      intro x hx
      simp only [decide_eq_true_eq]
      exact fun hxc => hout (hxc ▸ hx)
  | some =>
    obtain ⟨hrestp,hrestb⟩:=h.rest connId
    have hq:=queueOf_of_get hget
    rw [hq] at hrestp hrestb
    refine ⟨h.drop (h.toConsistent.drop hq ?_ ?_ (h.nodup.filter _) (s.mem_ready_filter connId))
      (Nat.sub_le _ _) (Nat.sub_le _ _),?_,?_,?_,rfl⟩
    · omega
    · omega
    · rw [items_of_get hget]
      exact (h.counted hget).packets
    · exact items_remove s connId _ _ _
    · intro x hx
      exact deficit_remove s _ _ _ hx

/-- The association in front has not enough deficit for its head and goes to the
back. -/
structure Passed (quantum : ℕ) (a : String) (s s' : State) : Prop where
  head : ∃ item, (s.items a).head?=some item ∧ s.deficit a+quantum < item.bytes
  items : ∀ x, s'.items x=s.items x
  deficit : ∀ x, s'.deficit x=if x=a then s.deficit a+quantum else s.deficit x
  ready : ∃ rest, s.ready=a::rest ∧ s'.ready=rest++[a]

/-- The association in front is served its head and goes to the back, unless
nothing is left. -/
structure Served (quantum : ℕ) (a : String) (item : QueueItem) (s s' : State) : Prop where
  enough : item.bytes≤ s.deficit a+quantum
  head : s.items a=item::s'.items a
  others : ∀ x, x ≠ a → s'.items x=s.items x
  deficit : s'.items a ≠ [] → s'.deficit a+item.bytes=s.deficit a+quantum
  otherDeficits : ∀ x, x ≠ a → s'.deficit x=s.deficit x
  ready : ∃ rest, s.ready=a::rest ∧
    s'.ready=rest++if s'.items a=[] then [] else [a]

theorem markReady_insert {t : Table String AssociationQueue}
    (hidle : q.active=false) (hfill : q.isEmpty=false) :
    markReady ⟨t.insert a q,ready,packets,bytes⟩ a =
      ⟨t.insert a { q with active := true },ready++[a],packets,bytes⟩ := by
  rw [markReady,get_insert_self]
  dsimp only
  rw [hidle,hfill,Bool.or_false,if_neg Bool.false_ne_true,insert_insert]

theorem Sound.front (h : Sound config s) (hrdy : s.ready=a::rest) :
    rest.Nodup ∧ (∀ x, x∈rest ↔ x≠a ∧ x∈s.ready) ∧ (rest++[a]).Nodup ∧
      ∀ x, x∈rest++[a] ↔ (x=a ∧ true=true) ∨ (x≠a ∧ x∈s.ready) := by
  obtain ⟨_,hrest⟩:=nodup_cons.mp (hrdy ▸ h.nodup)
  have hout : ∀ x, x∈rest ↔ x≠a ∧ x∈s.ready := by
    intro x
    rw [hrdy,mem_cons]
    constructor
    · grind
    rintro ⟨hxa,hx | hx⟩
    · exact absurd hx hxa
    · exact hx
  refine ⟨hrest,hout,?_,?_⟩
  · grind
  · grind

section Visit
variable {rest : List String} {item : QueueItem} {items : List QueueItem} {p b d : ℕ} {active : Bool}

theorem isEmpty_false_of_cons (h : AssociationQueue.Counted ⟨item::items,p,b,d,active⟩) :
    isEmpty ⟨item::items,p,b,d,active⟩=false := by
  rw [← Bool.not_eq_true]
  intro hemp
  cases h.isEmpty_iff.mp hemp

section
variable (h : Sound config s) (hrdy : s.ready=a::rest) (hget : s.queues.get a=some ⟨item::items,p,b,d,active⟩) (quantum : ℕ)
include h hrdy hget

theorem visit_passed (hpass : d+quantum < item.bytes) : ∃ s', visit quantum a { s with ready :=rest }=(none,s') ∧ Sound config s' ∧
      Passed quantum a s s' := by
  obtain ⟨-,-,hnd,hback⟩:=h.front hrdy
  have hcount:=h.counted hget
  have hq:=queueOf_of_get hget
  have hlim:=h.ownLimits hget
  have hdef : s.deficit a=d := by rw [deficit,hq]
  refine ⟨⟨s.queues.insert a ⟨item::items,p,b,d+quantum,true⟩,rest++[a],s.totalPackets,
    s.totalBytes⟩,?_,?_,?_⟩
  · rw [visit,hget]
    dsimp only
    rw [isEmpty_false_of_cons (hcount.with d false),if_neg Bool.false_ne_true,if_pos hpass,
      markReady_insert rfl (isEmpty_false_of_cons (hcount.with _ _))]
  · exact (h.opened a).sound_insert (h.toConsistent.replace hq (hcount.with _ _) rfl rfl hnd hback)
      hlim h.globalLimits ⟨cons_ne_nil _ _,rfl⟩
  · refine ⟨⟨item,?_,?_⟩,?_,?_,rest,hrdy,rfl⟩
    · rw [items_of_get hget]
      rfl
    · rw [hdef]
      exact hpass
    · intro x
      rw [items_insert]
      split
      · rename_i hx
        rw [hx,items_of_get hget]
      · rfl
    · intro x
      rw [deficit_insert,hdef]

theorem visit_served (henough : item.bytes≤d+quantum) : ∃ s', visit quantum a { s with ready :=rest }=(some item,s') ∧ Sound config s' ∧
      Served quantum a item s s' := by
  obtain ⟨hrest,hout,hnd,hback⟩:=h.front hrdy
  have hcount:=h.counted hget
  have hq:=queueOf_of_get hget
  obtain ⟨-,hpkts,hbs⟩:=hcount.head rfl
  obtain ⟨_,_⟩:=h.totals_head hget rfl
  obtain ⟨hownp,hownb⟩:=h.ownLimits hget
  obtain ⟨_,_⟩:=h.globalLimits
  have htail:=fun deficit active => hcount.tail rfl deficit active
  have hits : s.items a=item::items := items_of_get hget
  have hdef : s.deficit a=d := by rw [deficit,hq]
  dsimp only at hpkts hbs hownp hownb
  have hvisit:=isEmpty_false_of_cons (hcount.with d false)
  cases items with
  | nil =>
    have hnil : packetsOf []=0 ∧ bytesOf []=0 := ⟨rfl,rfl⟩
    refine ⟨⟨s.queues.remove a,rest,s.totalPackets-item.packets,s.totalBytes-item.bytes⟩,
      ?_,h.drop (h.toConsistent.drop hq ?_ ?_ hrest hout) (Nat.sub_le _ _) (Nat.sub_le _ _),?_⟩
    · rw [visit,hget]
      dsimp only
      rw [hvisit,if_neg Bool.false_ne_true,if_neg (Nat.not_lt.mpr henough),
        if_pos ((htail _ _).isEmpty_iff.mpr rfl),remove_insert]
    · dsimp only
      omega
    · dsimp only
      omega
    · refine ⟨by omega,?_,?_,?_,?_,rest,hrdy,?_⟩
      · rw [items_remove,if_pos rfl,hits]
      · intro x hx
        rw [items_remove,if_neg hx]
      · intro hne
        rw [items_remove,if_pos rfl] at hne
        exact absurd rfl hne
      · intro x hx
        exact deficit_remove s _ _ _ hx
      · rw [items_remove,if_pos rfl,if_pos rfl,append_nil]
  | cons next more =>
    refine ⟨⟨s.queues.insert a ⟨next::more,p-item.packets,b-item.bytes,
      d+quantum-item.bytes,true⟩,rest++[a],s.totalPackets-item.packets,
      s.totalBytes-item.bytes⟩,?_,(h.opened a).sound_insert (h.toConsistent.replace hq (htail _ _)
        ?_ ?_ hnd hback) ?_ ?_ ⟨cons_ne_nil _ _,rfl⟩,?_⟩
    · have hfill:=isEmpty_false_of_cons (htail (d+quantum-item.bytes) false)
      rw [visit,hget]
      dsimp only
      rw [hvisit,if_neg Bool.false_ne_true,if_neg (Nat.not_lt.mpr henough),
        hfill,if_neg Bool.false_ne_true,markReady_insert rfl hfill]
    · dsimp only
      omega
    · dsimp only
      omega
    · dsimp only
      omega
    · omega
    · refine ⟨by omega,?_,?_,?_,?_,rest,hrdy,?_⟩
      · rw [items_insert,if_pos rfl,hits]
      · intro x hx
        rw [items_insert,if_neg hx]
      · rw [deficit_insert,if_pos rfl,hdef]
        dsimp only
        omega
      · intro x hx
        rw [deficit_insert,if_neg hx]
      · rw [items_insert,if_pos rfl,if_neg (cons_ne_nil _ _)]

end

end Visit

theorem visit_spec (h : Sound config s) (hrdy : s.ready=a::rest) (quantum : ℕ) :
    (∃ s', visit quantum a { s with ready := rest }=(none,s') ∧ Sound config s' ∧
      Passed quantum a s s') ∨
    ∃ item s', visit quantum a { s with ready := rest }=(some item,s') ∧ Sound config s' ∧
      Served quantum a item s s' := by
  obtain ⟨q,hget,-⟩:=(h.mem_ready a).mp (hrdy ▸ mem_cons_self ..)
  obtain ⟨item,_,hits⟩:=exists_cons_of_ne_nil (h.live hget).1
  obtain ⟨_,_,_,d,_⟩:=q
  subst hits
  by_cases hpass : d+quantum < item.bytes
  · exact .inl (visit_passed h hrdy hget quantum hpass)
  · exact .inr ⟨item,visit_served h hrdy hget quantum (Nat.not_lt.mp hpass)⟩

/-- The visits of one pop: some pass, and the last may serve. -/
inductive Pops (quantum : ℕ) : State → Option (String × QueueItem) → State → Prop
  | idle (s : State) : Pops quantum s none s
  | pass {s mid s' : State} {a : String} {result : Option (String × QueueItem)}
    (h : Passed quantum a s mid) (hrest : Pops quantum mid result s') : Pops quantum s result s'
  | serve {s s' : State} {a : String} {item : QueueItem} (h : Served quantum a item s s') :
    Pops quantum s (some (a,item)) s'

theorem popLoop_spec (h : Sound config s) (quantum attempts : ℕ) :
    ∃ result, (popLoop quantum attempts s).1=result.map (·.2) ∧
      Sound config (popLoop quantum attempts s).2 ∧
      Pops quantum s result (popLoop quantum attempts s).2 := by
  induction attempts generalizing s with
  | zero => exact ⟨none,rfl,h,.idle s⟩
  | succ attempts ih =>
    rw [popLoop]
    cases hrdy : s.ready with
    | nil => exact ⟨none,rfl,h,.idle s⟩
    | cons a =>
      dsimp only
      rcases visit_spec h hrdy quantum with ⟨_,hvisit,hmid,hpass⟩ | ⟨item,_,hvisit,hs',hserve⟩
      · rw [hvisit]
        obtain ⟨result,hres,hsnd,hpops⟩:=ih hmid
        exact ⟨result,hres,hsnd,.pass hpass hpops⟩
      · rw [hvisit]
        exact ⟨some (a,item),rfl,hs',.serve hserve⟩

end State

end Lantunnel.Transport
