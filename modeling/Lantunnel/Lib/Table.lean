import Mathlib.Data.List.AList
import Mathlib.Tactic

/-!
# Finite tables

The concurrent hash map of the program (`DashMap`, `HashMap`) with one operation at a
time: `get`, `insert`, `remove`, `retain`, `removeIf`.
-/

namespace Lantunnel.Lib
open List

def Table (α β : Type) : Type := AList fun _ : α => β

namespace Table
variable {α β : Type} [DecidableEq α]

def empty : Table α β := (∅ : AList fun _ : α => β)

def get (t : Table α β) (a : α) : Option β := AList.lookup a t

def insert (t : Table α β) (a : α) (b : β) : Table α β := AList.insert a b t

def remove (t : Table α β) (a : α) : Table α β := AList.erase a t

def contains (t : Table α β) (a : α) : Bool := (t.get a).isSome

def retain (t : Table α β) (p : α → β → Bool) : Table α β :=
  ⟨AList.entries t |>.filter fun e => p e.1 e.2,
    List.NodupKeys.sublist filter_sublist t.nodupKeys⟩

def removeIf (t : Table α β) (a : α) (p : β → Bool) : Table α β :=
  t.retain fun a' b => !(decide (a'=a) && p b)

def pairs (t : Table α β) : List (α × β) := (AList.entries t).map fun e => (e.1,e.2)

def mapValues (t : Table α β) (f : α → β → β) : Table α β :=
  ⟨(AList.entries t).map fun e => ⟨e.1,f e.1 e.2⟩,by
    rw [List.NodupKeys,keys,map_map]
    exact t.nodupKeys⟩

@[simp] theorem get_empty (a : α) : (empty : Table α β).get a=none := AList.lookup_empty a

@[simp] theorem get_insert_self (t : Table α β) (a : α) (b : β) : (t.insert a b).get a=some b :=
  AList.lookup_insert t

variable {a a' : α} {t : Table α β}

theorem get_insert_ne (t : Table α β) (b : β) (h : a'≠a) : (t.insert a b).get a'=t.get a' :=
  AList.lookup_insert_ne h

theorem get_insert (t : Table α β) (a a' : α) (b : β) :
    (t.insert a b).get a'=if a'=a then some b else t.get a' := by
  by_cases h : a'=a
  · subst h
    rw [if_pos rfl,get_insert_self]
  · rw [if_neg h,get_insert_ne t b h]

@[simp] theorem get_remove_self (t : Table α β) (a : α) : (t.remove a).get a=none :=
  AList.lookup_erase a t

theorem get_remove (t : Table α β) (a a' : α) :
    (t.remove a).get a'=if a'=a then none else t.get a' := by
  by_cases h : a'=a
  · subst h
    rw [if_pos rfl,get_remove_self]
  rw [if_neg h]
  exact AList.lookup_erase_ne h

theorem get_of_get_remove {b : β} (h : (t.remove a).get a'=some b) : t.get a'=some b := by
  rw [get_remove] at h
  split at h
  · cases h
  · exact h

theorem get_of_get_insert {b b' : β}
    (h : (t.insert a b).get a'=some b') : t.get a'=some b' ∨ a'=a ∧ b'=b := by
  rw [get_insert] at h
  split at h
  · exact .inr ⟨‹_›,(Option.some.inj h).symm⟩
  · exact .inl h

theorem forall_insert {b : β} {P : α → β → Prop} (hnew : P a b)
    (hold : ∀ a' b', t.get a'=some b' → P a' b') :
    ∀ a' b', (t.insert a b).get a'=some b' → P a' b' := by
  intro a' b' h
  rcases get_of_get_insert h with h | ⟨rfl,rfl⟩
  · exact hold a' b' h
  · exact hnew

theorem mem_pairs {b : β} : (a,b)∈t.pairs ↔ t.get a=some b := by
  have hent : (⟨a,b⟩ : (_ : α) × β)∈AList.entries t ↔ t.get a=some b :=
    AList.mem_lookup_iff.symm
  rw [← hent,pairs,mem_map]
  constructor
  · simp
  · intro hmem
    exact ⟨⟨a,b⟩,hmem,rfl⟩

omit [DecidableEq α] in
theorem pairs_nodup (t : Table α β) : (t.pairs.map Prod.fst).Nodup := by
  have hkeys : (AList.entries t).keys.Nodup := t.nodupKeys
  rwa [pairs,map_map]

theorem filter_key_of_perm {l : List (α × β)} (h : l.Perm t.pairs) (a : α) :
    l.filter (fun e => e.1=a)=((t.get a).map (Prod.mk a)).toList := by
  have hkeys : (l.map Prod.fst).Nodup := (h.map Prod.fst).nodup_iff.mpr t.pairs_nodup
  cases hget : t.get a with
  | none =>
    rw [Option.map_none,Option.toList_none,filter_eq_nil_iff]
    rintro ⟨a',b⟩ hmem ha
    obtain rfl : a'=a := of_decide_eq_true ha
    rw [mem_pairs.mp (h.mem_iff.mp hmem)] at hget
    cases hget
  | some =>
    obtain ⟨_,_,rfl⟩:=append_of_mem (h.mem_iff.mpr (mem_pairs.mpr hget))
    rw [map_append,map_cons,nodup_middle,nodup_cons,mem_append,not_or] at hkeys
    have hnone : ∀ l' : List (α × β), a∉l'.map Prod.fst → l'.filter (fun e => e.1=a)=[] := by
      intro l' hnot
      rw [filter_eq_nil_iff]
      intro e he ha
      exact hnot (mem_map.mpr ⟨e,he,of_decide_eq_true ha⟩)
    grind

theorem pairs_insert_of_get_eq_none (b : β) (h : t.get a=none) :
    (t.insert a b).pairs=(a,b)::t.pairs := by
  have hents : AList.entries (t.insert a b)=⟨a,b⟩::AList.entries t :=
    AList.entries_insert_of_notMem (AList.lookup_eq_none.mp h)
  rw [pairs,hents]
  rfl

theorem sum_pairs (t : Table α β) (a : α) (w : β → ℕ) :
    (t.pairs.map fun e => if e.1=a then w e.2 else 0).sum=((t.get a).map w).getD 0 := by
  have hents : ∀ l : List ((_ : α) × β), l.NodupKeys →
      (l.map fun e => if e.1=a then w e.2 else 0).sum=((dlookup a l).map w).getD 0 := by
    intro l
    induction l with
    | nil => exact fun _ => rfl
    | cons e l ih =>
      intro hkeys
      obtain ⟨hnew,hrest⟩:=nodupKeys_cons.mp hkeys
      rw [map_cons,sum_cons,ih hrest]
      obtain ⟨b,c⟩:=e
      by_cases h : b=a
      · subst h
        rw [if_pos rfl,dlookup_eq_none.mpr hnew,dlookup_cons_eq]
        rfl
      · rw [if_neg h,dlookup_cons_ne l ⟨b,c⟩ (Ne.symm h),Nat.zero_add]
  rw [pairs,map_map]
  exact hents (AList.entries t) t.nodupKeys

def total (t : Table α β) (w : β → ℕ) : ℕ := (t.pairs.map fun e => w e.2).sum

section
variable (t : Table α β) (a : α)

theorem total_insert (b : β) (w : β → ℕ) : (t.insert a b).total w=w b+(t.remove a).total w := by
  have hpairs : (t.insert a b).pairs=(a,b)::(t.remove a).pairs := rfl
  rw [total,hpairs,map_cons,sum_cons]
  rfl

theorem total_remove (w : β → ℕ) : (t.remove a).total w+((t.get a).map w).getD 0=t.total w := by
  have hents : ∀ l : List ((_ : α) × β), l.NodupKeys →
      ((l.kerase a).map fun e => w e.2).sum+((dlookup a l).map w).getD 0 =
        (l.map fun e => w e.2).sum := by
    intro l
    induction l with
    | nil => exact fun _ => rfl
    | cons e l ih =>
      intro hkeys
      obtain ⟨-,hrest⟩:=nodupKeys_cons.mp hkeys
      obtain ⟨b,c⟩:=e
      by_cases h : b=a
      · subst h
        have herase : kerase b (⟨b,c⟩::l)=l := kerase_cons_eq rfl
        rw [herase,dlookup_cons_eq,map_cons,sum_cons,Nat.add_comm]
        rfl
      · rw [kerase_cons_ne (Ne.symm h),dlookup_cons_ne l ⟨b,c⟩ (Ne.symm h),map_cons,map_cons,
          sum_cons,sum_cons,Nat.add_assoc,ih hrest]
  have hsum:=hents (AList.entries t) t.nodupKeys
  rw [total,total,pairs,pairs,map_map,map_map]
  exact hsum

@[simp] theorem insert_insert (b b' : β) :
    (t.insert a b).insert a b'=t.insert a b' := AList.insert_insert t

@[simp] theorem remove_insert (b : β) :
    (t.insert a b).remove a=t.remove a := by
  apply AList.ext
  have herase : kerase a (⟨a,b⟩::(AList.entries t).kerase a)=(AList.entries t).kerase a :=
    kerase_cons_eq rfl
  exact herase

end

omit [DecidableEq α] in
@[simp] theorem pairs_empty : (empty : Table α β).pairs=[] := rfl

@[simp] theorem pairs_insert_empty (a : α) (b : β) :
    ((empty : Table α β).insert a b).pairs=[(a,b)] := rfl

@[simp] theorem remove_empty (a : α) : (empty : Table α β).remove a=empty := rfl

theorem get_retain (t : Table α β) (p : α → β → Bool) (a : α) :
    (t.retain p).get a=(t.get a).filter (p a) := by
  have hmem : ∀ b, (t.retain p).get a=some b ↔ t.get a=some b ∧ p a b=true := by
    intro b
    rw [← mem_pairs,← mem_pairs]
    simp [pairs,retain]
  ext b
  rw [hmem,Option.filter_eq_some_iff]

theorem get_mapValues (t : Table α β) (f : α → β → β) (a : α) :
    (t.mapValues f).get a=(t.get a).map (f a) := by
  have hmem : ∀ b, (t.mapValues f).get a=some b ↔ ∃ b', t.get a=some b' ∧ f a b'=b := by
    intro b
    rw [← mem_pairs,pairs,mapValues,map_map]
    constructor
    · intro hin
      obtain ⟨e,he,heq⟩:=mem_map.mp hin
      obtain ⟨rfl,rfl⟩:=Prod.mk.inj heq
      exact ⟨e.2,mem_pairs.mp (mem_map.mpr ⟨e,he,rfl⟩),rfl⟩
    · rintro ⟨_,hget,rfl⟩
      obtain ⟨e,he,heq⟩:=mem_map.mp (mem_pairs.mpr hget)
      obtain ⟨rfl,rfl⟩:=Prod.mk.inj heq
      exact mem_map.mpr ⟨e,he,rfl⟩
  ext b
  rw [hmem,Option.map_eq_some_iff]

theorem get_removeIf (t : Table α β) (a a' : α) (p : β → Bool) :
    (t.removeIf a p).get a'=if a'=a then (t.get a).filter fun b => !p b else t.get a' := by
  rw [removeIf,get_retain]
  by_cases h : a'=a
  · subst h
    simp
  rw [if_neg h]
  cases t.get a' <;> simp [h]

end Table

end Lantunnel.Lib
