import Mathlib.Tactic

/-!
# First-in first-out queues under keys

What is queued is seen as a function from keys to lists. Items leave a queue from its
head only, each with what became of it; `Accounts accepted log queues` says which are
gone.
-/

namespace Lantunnel.Lib.KeyedFifo

variable {κ α φ : Type} [DecidableEq κ]

structure Settled (κ α φ : Type) where
  key : κ
  item : α
  fate : φ

def settle (fate : φ) (entry : κ × α) : Settled κ α φ := ⟨entry.1,entry.2,fate⟩

def itemsOf (log : List (Settled κ α φ)) (a : κ) : List α :=
  (log.filter fun e => e.key=a).map (·.item)

theorem itemsOf_append (log log' : List (Settled κ α φ)) (a : κ) :
    itemsOf (log++log') a=itemsOf log a++itemsOf log' a := by
  simp [itemsOf]

theorem itemsOf_cons (e : Settled κ α φ) (log : List (Settled κ α φ)) (a : κ) :
    itemsOf (e::log) a=(if e.key=a then [e.item] else [])++itemsOf log a := by
  by_cases h : e.key=a <;> simp [itemsOf,h]

/-- Items taken from the heads, one after the other. -/
inductive Drains : (κ → List α) → List (κ × α) → (κ → List α) → Prop
  | done (queues : κ → List α) : Drains queues [] queues
  | pop {queues mid last : κ → List α} {a : κ} {item : α} {entries : List (κ × α)}
    (hhead : queues a=item::mid a) (hothers : ∀ x, x ≠ a → mid x=queues x)
    (hrest : Drains mid entries last) : Drains queues ((a,item)::entries) last

variable {queues last : κ → List α}

omit [DecidableEq κ] in
theorem Drains.append {mid : κ → List α} {entries entries' : List (κ × α)}
    (h : Drains queues entries mid) (h' : Drains mid entries' last) :
    Drains queues (entries++entries') last := by
  induction h with
  | done => exact h'
  | pop hhead hoths _ ih => exact .pop hhead hoths (ih h')

omit [DecidableEq κ] in
theorem Drains.one {a : κ} {item : α}
    (hhead : queues a=item::last a) (hoths : ∀ x, x≠a → last x=queues x) :
    Drains queues [(a,item)] last :=
  .pop hhead hoths (.done last)

omit [DecidableEq κ] in
theorem Drains.eq_of_nil (h : Drains queues [] last) : last=queues := by
  cases h
  rfl

theorem Drains.all (queues : κ → List α) (a : κ) :
    Drains queues ((queues a).map fun item => (a,item)) fun x => if x=a then [] else queues x := by
  generalize hits : queues a=items
  induction items generalizing queues with
  | nil =>
    have hsame : (fun x => if x=a then [] else queues x)=queues := by
      funext x
      split
      · rename_i hx
        rw [hx,hits]
      · rfl
    rw [hsame]
    exact .done queues
  | cons item items ih =>
    have hrest:=ih (fun x => if x=a then items else queues x) (if_pos rfl)
    have hsame : (fun x => if x=a then [] else if x=a then items else queues x) =
        fun x => if x=a then [] else queues x := by
      funext x
      split <;> rfl
    rw [hsame] at hrest
    refine .pop ?_ ?_ hrest
    · rw [hits,if_pos rfl]
    intro x hx
    rw [if_neg hx]

theorem Drains.split {entries : List (κ × α)} (h : Drains queues entries last) (fate : φ) (a : κ) :
    queues a=itemsOf (entries.map (settle fate)) a++last a := by
  induction h with
  | done => rfl
  | @pop queues mid last b item entries hhead hoths _ ih =>
    rw [List.map_cons,itemsOf_cons,List.append_assoc,← ih]
    by_cases hab : a=b
    · subst hab
      rw [hhead,settle,if_pos rfl]
      rfl
    · rw [settle,if_neg (Ne.symm hab),hoths a hab]
      rfl

/-- Every accepted item either left, with one fate, or is still queued, in the
order in which they were accepted. -/
def Accounts (accepted : κ → List α) (log : List (Settled κ α φ)) (queues : κ → List α) : Prop :=
  ∀ a, accepted a=itemsOf log a++queues a

namespace Accounts
variable {accepted accepted' queues queues' : κ → List α} {log : List (Settled κ α φ)}

section
variable (h : Accounts accepted log queues)
include h

theorem drains {entries : List (κ × α)} (hdrain : Drains queues entries queues') (fate : φ) :
    Accounts accepted (log++entries.map (settle fate)) queues' := by
  intro a
  rw [h a,itemsOf_append,List.append_assoc,hdrain.split fate a]

theorem accept {a : κ} {item : α} (hacc : ∀ x, accepted' x=accepted x++if x=a then [item] else [])
    (hqueue : ∀ x, queues' x=queues x++if x=a then [item] else []) :
    Accounts accepted' log queues' := by
  intro x
  rw [hacc,hqueue,h x,List.append_assoc]

theorem left_prefix (a : κ) : itemsOf log a <+: accepted a := by
  rw [h a]
  exact List.prefix_append _ _

end

end Accounts

end Lantunnel.Lib.KeyedFifo
