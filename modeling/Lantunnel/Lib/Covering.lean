import Mathlib.Data.List.Destutter
import Mathlib.Tactic

/-!
# Lists of pieces that cover a set

A list of pieces, each well formed, covers just the points of a set.
-/

namespace Lantunnel.Lib
open List

variable {α β γ : Type} {Ok : β → Prop} {Has : β → α → Prop}

structure Covering (Ok : β → Prop) (Has : β → α → Prop) (pieces : List β) (S : α → Prop) : Prop where
  wellFormed : ∀ q ∈ pieces, Ok q
  covers : ∀ a, (∃ q ∈ pieces, Has q a) ↔ S a

namespace Covering
variable {pieces pieces' : List β} {S T : α → Prop}

theorem congr (h : Covering Ok Has pieces S) (hST : ∀ a, S a ↔ T a) : Covering Ok Has pieces T :=
  ⟨h.wellFormed,fun a => (h.covers a).trans (hST a)⟩

theorem nil (h : ∀ a, ¬ S a) : Covering Ok Has [] S := by
  refine ⟨fun q hq => absurd hq not_mem_nil,?_⟩
  intro a
  constructor
  · rintro ⟨q,hq,-⟩
    exact absurd hq not_mem_nil
  · exact fun hS => absurd hS (h a)

theorem singleton {p : β} (hp : Ok p) : Covering Ok Has [p] (Has p) := by
  refine ⟨?_,?_⟩
  · intro q hq
    rwa [mem_singleton.mp hq]
  intro a
  constructor
  · simp
  · exact fun ha => ⟨p,mem_singleton_self p,ha⟩

theorem whole {p : β} (hp : Ok p) (h : ∀ a, Has p a → T a) :
    Covering Ok Has [p] fun a => Has p a ∧ T a :=
  (singleton hp).congr fun a => ⟨fun ha => ⟨ha,h a ha⟩,And.left⟩

theorem append (h : Covering Ok Has pieces S) (h' : Covering Ok Has pieces' T) :
    Covering Ok Has (pieces++pieces') fun a => S a ∨ T a := by
  refine ⟨?_,?_⟩
  · intro q hq
    rcases mem_append.mp hq with hq | hq
    · exact h.wellFormed q hq
    · exact h'.wellFormed q hq
  · intro a
    rw [← h.covers a,← h'.covers a]
    constructor
    · grind
    · grind

theorem flatMap (h : Covering Ok Has pieces S) {cut : β → List β}
    (hcut : ∀ q, Ok q → Covering Ok Has (cut q) fun a => Has q a ∧ T a) :
    Covering Ok Has (pieces.flatMap cut) fun a => S a ∧ T a := by
  refine ⟨?_,?_⟩
  · intro q hq
    obtain ⟨p,hp,hq⟩:=mem_flatMap.mp hq
    exact (hcut p (h.wellFormed p hp)).wellFormed q hq
  intro a
  constructor
  · rintro ⟨q,hq,ha⟩
    obtain ⟨p,hp,hq⟩:=mem_flatMap.mp hq
    obtain ⟨hin,hT⟩:=((hcut p (h.wellFormed p hp)).covers a).mp ⟨q,hq,ha⟩
    exact ⟨(h.covers a).mp ⟨p,hp,hin⟩,hT⟩
  · rintro ⟨hS,hT⟩
    obtain ⟨p,hp,hin⟩:=(h.covers a).mpr hS
    obtain ⟨q,hq,ha⟩:=((hcut p (h.wellFormed p hp)).covers a).mpr ⟨hin,hT⟩
    exact ⟨q,mem_flatMap.mpr ⟨p,hp,hq⟩,ha⟩

theorem foldl {cut : γ → β → List β} {T : γ → α → Prop} (cuts : List γ)
    (h : Covering Ok Has pieces S)
    (hcut : ∀ c∈cuts, ∀ q, Ok q → Covering Ok Has (cut c q) fun a => Has q a ∧ T c a) :
    Covering Ok Has (cuts.foldl (fun remaining c => remaining.flatMap (cut c)) pieces)
      fun a => S a ∧ ∀ c∈cuts, T c a := by
  induction cuts generalizing pieces S with
  | nil => exact h.congr fun a => by simp
  | cons c cuts ih =>
    have hfst:=h.flatMap (hcut c (mem_cons_self ..))
    have hrest:=ih hfst fun c' hc' => hcut c' (mem_cons_of_mem _ hc')
    refine hrest.congr fun a => ?_
    rw [forall_mem_cons,and_assoc]

theorem of_mem_iff (h : Covering Ok Has pieces S) (hmem : ∀ q, q∈pieces' ↔ q∈pieces) :
    Covering Ok Has pieces' S := by
  refine ⟨fun q hq => h.wellFormed q ((hmem q).mp hq),?_⟩
  intro a
  rw [← h.covers a]
  simp [hmem]

end Covering

theorem mem_destutter_ne [DecidableEq β] {l : List β} (x : β) :
    x∈l.destutter (· ≠ ·) ↔ x∈l := by
  have hfrom : ∀ (l : List β) (b : β), x∈l.destutter' (· ≠ ·) b ↔ x∈b::l := by
    intro l
    induction l with
    | nil => simp
    | cons c l ih =>
      intro b
      rw [destutter'_cons]
      split
      · rw [mem_cons,ih,← mem_cons]
      rename_i hbc
      rw [not_not] at hbc
      rw [ih,hbc]
      simp
  cases l with
  | nil => simp
  | cons b l => exact hfrom l b

end Lantunnel.Lib
