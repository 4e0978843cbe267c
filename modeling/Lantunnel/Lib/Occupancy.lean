import Mathlib.Tactic

/-!
# Keys with at most one occupant

A key is occupied by places; a reservation and what it is exchanged for are two places
of one key.
-/

namespace Lantunnel.Lib

def Occupancy (κ π : Type) : Type := κ → π → Prop

namespace Occupancy
variable {κ π : Type} {o o' o'' : Occupancy κ π}

def Sole (o : Occupancy κ π) : Prop := ∀ k p q, o k p → o k q → p=q

/-- No place is taken that was free. -/
def Leaves (o o' : Occupancy κ π) : Prop := ∀ k p, o' k p → o k p

/-- All that a step may do to the occupants of the keys. -/
inductive Change (o o' : Occupancy κ π) : Prop
  | leave (h : Leaves o o')
  | enter (k : κ) (p : π) (hfree : ∀ q, ¬o k q) (h : ∀ j q, o' j q → o j q ∨ j=k ∧ q=p)
  | move (k : κ) (p q : π) (hfrom : o k p)
      (h : ∀ j r, o' j r → (o j r ∧ ¬(j=k ∧ r=p)) ∨ j=k ∧ r=q)

theorem Leaves.refl (o : Occupancy κ π) : Leaves o o := fun _ _ h => h

theorem Sole.change (h : Sole o) (hc : Change o o') : Sole o' := by
  intro k p q hp hq
  cases hc with
  | leave hleave => exact h k p q (hleave k p hp) (hleave k q hq)
  | enter j r hfree henter =>
    rcases henter k p hp with hold | ⟨rfl,rfl⟩
    · rcases henter k q hq with hold' | ⟨rfl,-⟩
      · exact h k p q hold hold'
      · exact absurd hold (hfree p)
    rcases henter k q hq with hold' | ⟨-,rfl⟩
    · exact absurd hold' (hfree q)
    · rfl
  | move j r s hfrom hmove =>
    -- an old occupant of the key would have been the one that moved
    have hnew : ∀ t, o' j t → t=s := by
      intro t ht
      rcases hmove j t ht with ⟨hold,hne⟩ | ⟨-,rfl⟩
      · exact absurd ⟨rfl,h j t r hold hfrom⟩ hne
      · rfl
    by_cases hkey : k=j
    · subst hkey
      rw [hnew p hp,hnew q hq]
    have hold : ∀ t, o' k t → o k t := by
      intro t ht
      rcases hmove k t ht with ⟨hold,-⟩ | ⟨rfl,-⟩
      · exact hold
      · exact absurd rfl hkey
    exact h k p q (hold p hp) (hold q hq)

end Occupancy

end Lantunnel.Lib
