import Mathlib.Tactic

/-!
# Machines that emit outputs

A machine takes one atomic step for each event it is given and emits a list of outputs.
`Run` pairs a reachable state with everything emitted on the way there, in order, so an
invariant may relate the state to the past.
-/

namespace Lantunnel.Lib

structure Machine (σ ε ω : Type) where
  init : σ
  enabled : σ → ε → Prop
  step : σ → ε → σ × List ω

namespace Machine
variable {σ ε ω : Type} (M : Machine σ ε ω)

inductive Run : σ → List ω → Prop
  | init : Run M.init []
  | step {s : σ} {tr : List ω} (h : Run s tr) (e : ε) (he : M.enabled s e) :
    Run (M.step s e).1 (tr++(M.step s e).2)

/-- The machine of the runs all of whose steps meet a condition. -/
def restrict (cond : σ → ε → Prop) : Machine σ ε ω where
  init := M.init
  enabled := fun s e => M.enabled s e ∧ cond s e
  step := M.step

variable {M} {tr : List ω}

theorem Run.invariant (Inv : σ → List ω → Prop) (h0 : Inv M.init [])
    (hstep : ∀ s tr e, Inv s tr → M.enabled s e → Inv (M.step s e).1 (tr++(M.step s e).2))
    {s : σ} (h : M.Run s tr) : Inv s tr := by
  induction h with
  | init => exact h0
  | step _ e he ih => exact hstep _ _ e ih he

theorem Run.next {s : σ} (h : M.Run s tr) (e : ε) (he : M.enabled s e) (out : List ω)
    (hout : (M.step s e).2=out) : M.Run (M.step s e).1 (tr++out) :=
  hout ▸ h.step e he

theorem Run.of_restrict {cond : σ → ε → Prop} {s : σ}
    (h : (M.restrict cond).Run s tr) : M.Run s tr := by
  induction h with
  | init => exact .init
  | step _ e he ih => exact .step ih e he.1

/-- Every run of `M` is matched by a run of `N`, if one step is matched by one
step or by none. -/
theorem Run.simulates {σ' ε' ω' : Type} {N : Machine σ' ε' ω'} (R : σ → σ' → Prop)
    (h0 : R M.init N.init) (hstep : ∀ s t e, R s t → M.enabled s e →
      R (M.step s e).1 t ∨ ∃ e', N.enabled t e' ∧ R (M.step s e).1 (N.step t e').1)
    {s : σ} (h : M.Run s tr) : ∃ t tr', N.Run t tr' ∧ R s t := by
  induction h with
  | init => exact ⟨N.init,[],.init,h0⟩
  | step h e he ih =>
    obtain ⟨t,tr',hrun,hrel⟩:=ih
    rcases hstep _ t e hrel he with hstay | ⟨e',he',hnext⟩
    · exact ⟨t,tr',hrun,hstay⟩
    · exact ⟨_,_,hrun.step e' he',hnext⟩

variable (M)

def exec (s : σ) : List ε → σ × List ω
  | [] => (s,[])
  | e::es => ((exec (M.step s e).1 es).1,(M.step s e).2++(exec (M.step s e).1 es).2)

def Accepts (s : σ) : List ε → Prop
  | [] => True
  | e::es => M.enabled s e ∧ Accepts (M.step s e).1 es

variable {M}

theorem accepts_of_enabled (h : ∀ s e, M.enabled s e) (s : σ) (es : List ε) : M.Accepts s es := by
  induction es generalizing s with
  | nil => trivial
  | cons e es ih => exact ⟨h s e,ih _⟩

theorem exec_restrict (cond : σ → ε → Prop) (s : σ) (es : List ε) :
    (M.restrict cond).exec s es=M.exec s es := by
  induction es generalizing s with
  | nil => rfl
  | cons e es ih =>
    rw [Machine.exec,Machine.exec,ih]
    rfl

theorem Run.exec {s : σ} (h : M.Run s tr) (es : List ε) (hes : M.Accepts s es) :
    M.Run (M.exec s es).1 (tr++(M.exec s es).2) := by
  induction es generalizing s tr with
  | nil => simpa [Machine.exec] using h
  | cons e es ih =>
    have hrun:=ih (h.step e hes.1) hes.2
    rwa [List.append_assoc] at hrun

end Machine

theorem exists_split_concat {α : Type} {l : List α} {y : α} {P : List α → α → List α → Prop} :
    (∃ before x after, l++[y]=before++x::after ∧ P before x after) ↔
      (∃ before x after, l=before++x::after ∧ P before x (after++[y])) ∨ P l y [] := by
  constructor
  · rintro ⟨before,x,after,heq,hP⟩
    rcases List.eq_nil_or_concat after with rfl | ⟨after,z,rfl⟩
    · simp_all
    rw [List.concat_eq_append] at heq hP
    rw [← List.cons_append,← List.append_assoc] at heq
    obtain ⟨rfl,hz⟩:=List.append_inj' heq rfl
    obtain rfl := List.singleton_inj.mp hz
    exact .inl ⟨before,x,after,rfl,hP⟩
  rintro (⟨before,x,after,rfl,hP⟩ | hP)
  · exact ⟨before,x,after++[y],by simp,hP⟩
  · exact ⟨l,y,[],rfl,hP⟩

section Justified
variable {ω : Type} {J : List ω → ω → Prop}

/-- Every output of the trace is justified by the outputs before it. -/
def Justified (J : List ω → ω → Prop) (tr : List ω) : Prop :=
  ∀ before o after, tr=before++o::after → J before o

theorem justified_nil : Justified J [] := by
  intro before o after h
  cases before <;> cases h

theorem justified_concat {tr : List ω} {o : ω} (htr : Justified J tr) (ho : J tr o) :
    Justified J (tr++[o]) := by
  intro before o' after h
  by_contra hnot
  rcases (exists_split_concat (P := fun b x _ => ¬J b x)).mp ⟨before,o',after,h,hnot⟩ with
    ⟨b,x,a,rfl,hx⟩ | hx
  · exact hx (htr b x a rfl)
  · exact hx ho

theorem justified_append {tr out : List ω} (htr : Justified J tr)
    (hout : ∀ o∈out, ∀ before, J before o) : Justified J (tr++out) := by
  induction out generalizing tr with
  | nil => rwa [List.append_nil]
  | cons o out ih =>
    rw [List.append_cons]
    refine ih (justified_concat htr (hout o (List.mem_cons_self ..) tr)) ?_
    intro o' ho'
    exact hout o' (List.mem_cons_of_mem _ ho')

theorem justified_of_mem {tr : List ω} (htr : Justified J tr) {o : ω} (ho : o∈tr) :
    ∃ before, before <+: tr ∧ J before o := by
  obtain ⟨before,after,rfl⟩:=List.append_of_mem ho
  exact ⟨before,List.prefix_append _ _,htr before o after rfl⟩

end Justified

end Lantunnel.Lib
