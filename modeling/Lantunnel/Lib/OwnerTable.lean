import Mathlib.Data.Finset.Sort
import Lantunnel.Lib.Table

/-!
# Tables of owners

For every item the set of those who own it; an item without owners has no entry.
-/

namespace Lantunnel.Lib

abbrev OwnerTable (α β : Type) : Type := Table β (Finset α)

namespace OwnerTable
variable {α β : Type} [DecidableEq α] [DecidableEq β]

def ownersOf (t : OwnerTable α β) (b : β) : Finset α := (t.get b).getD ∅

def addOwner (t : OwnerTable α β) (a : α) (b : β) : OwnerTable α β :=
  t.insert b (insert a (t.ownersOf b))

def removeOwner (t : OwnerTable α β) (a : α) (b : β) : OwnerTable α β :=
  match t.get b with
  | none => t
  | some owners => if owners.erase a=∅ then t.remove b else t.insert b (owners.erase a)

structure Lists (t : OwnerTable α β) (owns : α → β → Prop) : Prop where
  mem : ∀ a b, a ∈ t.ownersOf b ↔ owns a b
  nonempty : ∀ b, t.get b ≠ some ∅

variable {t t' : OwnerTable α β} {owns owns' : α → β → Prop}

omit [DecidableEq α] in
theorem ownersOf_insert (t : OwnerTable α β) (b b' : β) (owners : Finset α) :
    ownersOf (t.insert b owners) b'=if b'=b then owners else t.ownersOf b' := by
  rw [ownersOf,Table.get_insert]
  split <;> rfl

omit [DecidableEq α] in
theorem ownersOf_remove (t : OwnerTable α β) (b b' : β) :
    ownersOf (t.remove b) b'=if b'=b then ∅ else t.ownersOf b' := by
  rw [ownersOf,Table.get_remove]
  split <;> rfl

theorem ownersOf_removeOwner (t : OwnerTable α β) (a : α) (b b' : β) :
    ownersOf (t.removeOwner a b) b'=if b'=b then (t.ownersOf b).erase a else t.ownersOf b' := by
  rw [removeOwner]
  cases hget : t.get b with
  | none =>
    have hemp : t.ownersOf b=∅ := by simp [ownersOf,hget]
    by_cases hb : b'=b
    · simp [hb,hemp]
    · simp [hb]
  | some owners =>
    have hown : t.ownersOf b=owners := by simp [ownersOf,hget]
    by_cases hlast : owners.erase a=∅
    · simp [hlast,ownersOf_remove,hown]
    · simp [hlast,ownersOf_insert,hown]

namespace Lists

omit [DecidableEq α] in
theorem congr (h : t.Lists owns) (hiff : ∀ a b, owns a b ↔ owns' a b) : t.Lists owns' :=
  ⟨fun a b => (h.mem a b).trans (hiff a b),h.nonempty⟩

omit [DecidableEq α] in
theorem empty : Lists (Table.empty : OwnerTable α β) fun _ _ => False :=
  ⟨fun a b => by simp [ownersOf],fun b => by simp⟩

section
variable (h : t.Lists owns) (a : α)
include h

theorem addOwner (b : β) : (t.addOwner a b).Lists fun a' b' => owns a' b' ∨ a'=a ∧ b'=b := by
  constructor
  · intro a' b'
    rw [OwnerTable.addOwner,ownersOf_insert]
    by_cases hb : b'=b
    · simp [hb,← h.mem,or_comm]
    · simp [hb,h.mem]
  · intro b'
    rw [OwnerTable.addOwner,Table.get_insert]
    split
    · simp
    · exact h.nonempty b'

theorem removeOwner (b : β) :
    (t.removeOwner a b).Lists fun a' b' => owns a' b' ∧ ¬ (a'=a ∧ b'=b) := by
  constructor
  · intro a' b'
    rw [ownersOf_removeOwner]
    by_cases hb : b'=b
    · simp [hb,← h.mem,and_comm]
    · simp [hb,h.mem]
  · intro b'
    rw [OwnerTable.removeOwner]
    cases hget : t.get b with
    | none => exact h.nonempty b'
    | some owners =>
      by_cases hlast : owners.erase a=∅
      · simp only [hlast,if_true,Table.get_remove]
        split
        · simp
        · exact h.nonempty b'
      · simp only [hlast,if_false,Table.get_insert]
        split
        · simpa using hlast
        · exact h.nonempty b'

theorem addOwners (items : List β) :
    (items.foldl (fun t b => t.addOwner a b) t).Lists fun a' b' => owns a' b' ∨ a'=a ∧ b'∈items := by
  induction items generalizing t owns with
  | nil => exact h.congr fun a' b' => by simp
  | cons b items ih =>
    refine (ih (h.addOwner a b)).congr fun a' b' => ?_
    rw [List.mem_cons]
    tauto

theorem removeOwners (items : List β) : (items.foldl (fun t b => t.removeOwner a b) t).Lists
      fun a' b' => owns a' b' ∧ ¬ (a'=a ∧ b'∈items) := by
  induction items generalizing t owns with
  | nil => exact h.congr fun a' b' => by simp
  | cons b items ih =>
    refine (ih (h.removeOwner a b)).congr fun a' b' => ?_
    rw [List.mem_cons]
    tauto

end

omit [DecidableEq α] in
theorem get_isSome_iff (h : t.Lists owns) (b : β) : (t.get b).isSome ↔ ∃ a, owns a b := by
  cases hget : t.get b with
  | none =>
    have hnone : ∀ a, ¬ owns a b := by
      intro a
      rw [← h.mem,ownersOf,hget]
      simp
    simp [hnone]
  | some owners =>
    have hne : owners≠∅ := fun hemp => h.nonempty b (hget.trans (congrArg some hemp))
    obtain ⟨a,ha⟩:=Finset.nonempty_iff_ne_empty.mpr hne
    have howns : owns a b := (h.mem a b).mp (by rw [ownersOf,hget]; exact ha)
    exact ⟨fun _ => ⟨a,howns⟩,fun _ => rfl⟩

omit [DecidableEq α] in
theorem get_eq (h : t.Lists owns) (h' : t'.Lists owns) (b : β) : t.get b=t'.get b := by
  have hsome : (t.get b).isSome ↔ (t'.get b).isSome := (h.get_isSome_iff b).trans (h'.get_isSome_iff b).symm
  have hown : t.ownersOf b=t'.ownersOf b := by
    ext a
    rw [h.mem,h'.mem]
  cases hget : t.get b with
  | none => simp_all
  | some =>
    rw [hget] at hsome
    cases hget' : t'.get b with
    | none => simp [hget'] at hsome
    | some => simpa [ownersOf,hget,hget'] using hown

end Lists

end OwnerTable

end Lantunnel.Lib
