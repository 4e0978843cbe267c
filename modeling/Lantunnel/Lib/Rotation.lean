import Mathlib.Tactic

/-!
# Taking turns in a rotating list

The front of the list is taken and goes to its back, so two elements that stay in the
list are taken in turn.
-/

namespace Lantunnel.Lib.Rotation
open List

variable {α : Type} [DecidableEq α]

/-- `a` and `b` had `va` and `vb` turns; `lead` is one if `b` was first at the start. -/
def InTurn (a b : α) (lead : ℕ) (ready : List α) (va vb : ℕ) : Prop :=
  ([a,b].Sublist ready ∧ va+lead=vb) ∨ ([b,a].Sublist ready ∧ va+lead=vb+1)

namespace InTurn
variable {a b c : α} {lead va vb : ℕ} {ready ready' rest : List α}

omit [DecidableEq α] in
theorem start (ha : a∈ready) (hb : b∈ready) (hab : a≠b) :
    ∃ lead≤1, InTurn a b lead ready 0 0 := by
  obtain ⟨_,after,rfl⟩:=append_of_mem ha
  rcases mem_append.mp hb with hb | hb
  · refine ⟨1,le_rfl,.inr ⟨?_,rfl⟩⟩
    have hpair:=(singleton_sublist.mpr hb).append
      (singleton_sublist.mpr (mem_cons_self .. : a∈a::after))
    exact hpair
  · refine ⟨0,Nat.zero_le _,.inl ⟨?_,rfl⟩⟩
    rcases mem_cons.mp hb with rfl | hb
    · exact absurd rfl hab
    · exact ((singleton_sublist.mpr hb).cons_cons a).trans (sublist_append_right _ _)

omit [DecidableEq α] in
theorem counts (h : InTurn a b lead ready va vb) (hlead : lead≤1) : va≤vb+1 ∧ vb≤va+1 := by
  rcases h with ⟨-,_⟩ | ⟨-,_⟩ <;> omega

omit [DecidableEq α] in
theorem keep (h : InTurn a b lead ready va vb) (hab : [a,b].Sublist ready → [a,b].Sublist ready')
    (hba : [b,a].Sublist ready → [b,a].Sublist ready') : InTurn a b lead ready' va vb := by
  rcases h with ⟨hsub,hcnt⟩ | ⟨hsub,hcnt⟩
  · exact .inl ⟨hab hsub,hcnt⟩
  · exact .inr ⟨hba hsub,hcnt⟩

omit [DecidableEq α] in
theorem pair_of_cons {x y : α} (hx : x≠c) (h : [x,y].Sublist (c::rest)) :
    [x,y].Sublist rest := by
  cases h with
  | cons _ h => exact h
  | cons_cons => exact absurd rfl hx

omit [DecidableEq α] in
theorem pair_asymm {x y : α} {l : List α} (hnd : l.Nodup)
    (h : [x,y].Sublist l) : ¬[y,x].Sublist l := by
  induction l with
  | nil => cases h
  | cons c l ih =>
    obtain ⟨hnew,hrest⟩:=nodup_cons.mp hnd
    intro h'
    cases h with
    | cons _ h =>
      cases h' with
      | cons _ h' => exact ih hrest h h'
      | cons_cons => exact hnew (h.subset (by simp))
    | cons_cons => grind

omit [DecidableEq α] in
theorem pair_of_concat {x y : α} (hy : y≠c) (h : [x,y].Sublist (rest++[c])) :
    [x,y].Sublist rest := by
  have hrev : [y,x].Sublist (c::rest.reverse) := by
    rw [← reverse_concat']
    exact h.reverse
  exact reverse_sublist.mp (pair_of_cons hy hrev)

omit [DecidableEq α] in
theorem pair_front {y : α} (hnew : c∉rest) (h : [c,y].Sublist (c::rest)) : y∈rest := by
  cases h with
  | cons _ h => exact absurd (h.subset (mem_cons_self ..)) hnew
  | cons_cons _ h => exact singleton_sublist.mp h

omit [DecidableEq α] in
theorem pair_back {y : α} (hy : y∈rest) : [y,c].Sublist (rest++[c]) :=
  (singleton_sublist.mpr hy).append (List.Sublist.refl [c])

theorem rotate (h : InTurn a b lead (c::rest) va vb) (hnd : (c::rest).Nodup) (hab : a≠b) :
    InTurn a b lead (rest++[c]) (va+if c=a then 1 else 0) (vb+if c=b then 1 else 0) := by
  have hnew:=(nodup_cons.mp hnd).1
  have hend : ∀ {x y : α}, x≠c → [x,y].Sublist (c::rest) → [x,y].Sublist (rest++[c]) :=
    fun hx hsub => (pair_of_cons hx hsub).trans (sublist_append_left _ _)
  by_cases hca : c=a
  · subst hca
    rw [if_pos rfl,if_neg hab]
    rcases h with ⟨hsub,_⟩ | ⟨hsub,-⟩
    · exact .inr ⟨pair_back (pair_front hnew hsub),by omega⟩
    · exact absurd ((pair_of_cons (Ne.symm hab) hsub).subset (by simp)) hnew
  · by_cases hcb : c=b
    · subst hcb
      rw [if_neg hca,if_pos rfl]
      rcases h with ⟨hsub,-⟩ | ⟨hsub,_⟩
      · exact absurd ((pair_of_cons hab hsub).subset (by simp)) hnew
      · exact .inl ⟨pair_back (pair_front hnew hsub),by omega⟩
    · rw [if_neg hca,if_neg hcb]
      exact h.keep (hend (Ne.symm hca)) (hend (Ne.symm hcb))

omit [DecidableEq α] in
theorem leave (h : InTurn a b lead (c::rest) va vb) (hca : c≠a) (hcb : c≠b) :
    InTurn a b lead rest va vb :=
  h.keep (pair_of_cons (Ne.symm hca)) (pair_of_cons (Ne.symm hcb))

end InTurn

end Lantunnel.Lib.Rotation
