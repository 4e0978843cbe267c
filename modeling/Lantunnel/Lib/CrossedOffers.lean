import Lantunnel.Lib.Machine

/-!
# Two parties that may offer at once

Two parties are joined by channels that keep order and lose nothing, and either may
offer while it has no offer pending.
-/

namespace Lantunnel.Lib.CrossedOffers
open List

inductive Side
  | first
  | second
  deriving DecidableEq

inductive Message (ι κ : Type)
  | offer (i : ι)
  | accept (i : ι) (k : κ)
  | reject (i : ι)

structure Party (ι κ : Type) where
  pending : Option ι
  -- the offer installed last, with its answer
  installed : Option (ι × κ)
  inbox : List (Message ι κ)

structure State (ι κ : Type) where
  first : Party ι κ
  second : Party ι κ
  -- offers made so far
  made : List ι

inductive Event (ι κ : Type)
  | start (side : Side) (i : ι)
  -- the next message for `side`; `k` is the answer if there is one to make
  | deliver (side : Side) (k : κ)

variable {ι κ : Type} [DecidableEq ι]

@[simp] def receive (side : Side) (party : Party ι κ) (k : κ) :
    Message ι κ → Party ι κ × List (Message ι κ)
  | .offer i =>
    if side = .first ∧ party.pending.isSome then (party,[.reject i])
    else ({ party with pending := none, installed := some (i,k) },[.accept i k])
  | .accept i k =>
    if party.pending=some i then ({ party with pending := none, installed := some (i,k) },[])
    else (party,[])
  | .reject i => if party.pending=some i then ({ party with pending := none },[]) else (party,[])

@[simp] def Party.push (party : Party ι κ) (messages : List (Message ι κ)) : Party ι κ :=
  { party with inbox := party.inbox++messages }

namespace State

@[simp] def party (s : State ι κ) : Side → Party ι κ
  | .first => s.first
  | .second => s.second

@[simp] def update (s : State ι κ) (party : Party ι κ) (sent : List (Message ι κ)) : Side → State ι κ
  | .first => { s with first := party, second := s.second.push sent }
  | .second => { s with second := party, first := s.first.push sent }

omit [DecidableEq ι] in
theorem made_update (s : State ι κ) (party : Party ι κ) (sent : List (Message ι κ)) (side : Side) :
    (s.update party sent side).made=s.made := by
  cases side <;> rfl

omit [DecidableEq ι] in
theorem party_update_self (s : State ι κ) (party : Party ι κ) (sent : List (Message ι κ))
    (side : Side) : (s.update party sent side).party side=party := by
  cases side <;> rfl

omit [DecidableEq ι] in
theorem party_update_of_ne (s : State ι κ) (party : Party ι κ) (sent : List (Message ι κ))
    {side which : Side} (h : which≠side) :
    (s.update party sent side).party which=(s.party which).push sent := by
  cases side with
  | first =>
    cases which with
    | first => exact absurd rfl h
    | second => rfl
  | second =>
    cases which with
    | first => rfl
    | second => exact absurd rfl h

@[simp] def step (s : State ι κ) : Event ι κ → State ι κ
  | .start side i =>
    { s.update { s.party side with pending := some i } [.offer i] side with made := i::s.made }
  | .deliver side k =>
    match (s.party side).inbox with
    | [] => s
    | m::rest =>
      s.update (receive side { s.party side with inbox := rest } k m).1
        (receive side { s.party side with inbox := rest } k m).2 side

theorem step_deliver {s : State ι κ} {side : Side} {m : Message ι κ} {rest : List (Message ι κ)}
    (h : (s.party side).inbox=m::rest) (k : κ) : s.step (.deliver side k) =
      s.update (receive side { s.party side with inbox := rest } k m).1
        (receive side { s.party side with inbox := rest } k m).2 side := by
  rw [step,h]

def Enabled (s : State ι κ) : Event ι κ → Prop
  | .start side i => (s.party side).pending=none ∧ i ∉ s.made
  | .deliver side _ => (s.party side).inbox ≠ []

def start : State ι κ := ⟨⟨none,none,[]⟩,⟨none,none,[]⟩,[]⟩

end State

def machine (ι κ : Type) [DecidableEq ι] : Machine (State ι κ) (Event ι κ) Unit where
  init := .start
  enabled := State.Enabled
  step := fun s e => (s.step e,[])

/-- The pending offers and the installed pairs of the first and the second
party, what is on its way to the first, and what is on its way to the second
apart from rejections that come too late to matter. -/
inductive Phase : Option ι → Option ι → Option (ι × κ) → Option (ι × κ) → List (Message ι κ) →
    List (Message ι κ) → Prop
  | idle (pair) : Phase none none pair pair [] []
  | firstOffered (i pair) : Phase (some i) none pair pair [] [.offer i]
  | secondOffered (j pair) : Phase none (some j) pair pair [.offer j] []
  | firstAccepted (j k old) : Phase none (some j) (some (j,k)) old [] [.accept j k]
  | firstAcceptedOffered (j k i old) :
      Phase (some i) (some j) (some (j,k)) old [] [.accept j k,.offer i]
  | secondAccepted (i k old) : Phase (some i) none old (some (i,k)) [.accept i k] []
  | secondAcceptedOffered (i k j old) :
      Phase (some i) (some j) old (some (i,k)) [.accept i k,.offer j] []
  -- both offered, neither has seen the other's offer
  | crossed (i j pair) : Phase (some i) (some j) pair pair [.offer j] [.offer i]
  -- the first has seen it
  | rejected (i j pair) : Phase (some i) (some j) pair pair [] [.offer i,.reject j]
  -- the second has seen it
  | cancelled (i j k old) : Phase (some i) none old (some (i,k)) [.offer j,.accept i k] []
  | cancelledOffered (i j k j' old) (h : j ≠ j') :
      Phase (some i) (some j') old (some (i,k)) [.offer j,.accept i k,.offer j'] []

structure Inv (s : State ι κ) : Prop where
  phase : ∃ (late : List ι) (fresh : List (Message ι κ)), s.second.inbox=late.map .reject++fresh ∧
    (∀ i ∈ late, i ∈ s.made ∧ s.second.pending ≠ some i) ∧
    Phase s.first.pending s.second.pending s.first.installed s.second.installed s.first.inbox fresh
  pending : ∀ i, s.second.pending=some i → i ∈ s.made
  offers : ∀ i, .offer i ∈ s.first.inbox → i ∈ s.made

omit [DecidableEq ι] in
theorem inv_start : Inv (State.start : State ι κ) := by
  refine ⟨⟨[],[],rfl,?_,.idle none⟩,?_,?_⟩
  · intro i hi
    cases hi
  · intro i hi
    cases hi
  · intro i hi
    cases hi

variable {s : State ι κ}

theorem Inv.startFirst (h : Inv s) {i : ι} (he : s.Enabled (.start .first i)) :
    Inv (s.step (.start .first i)) := by
  obtain ⟨⟨late,fresh,hbox,_,hph⟩,hpend,hoffers⟩:=h
  obtain ⟨hnone,_⟩:=he
  have hmade : ∀ j, j∈s.made → j∈i::s.made := fun j hj => mem_cons_of_mem i hj
  refine ⟨⟨late,fresh++[.offer i],?_,?_,?_⟩,?_,?_⟩
  · simp [hbox]
  · simp_all
  · have hp : s.first.pending=none := hnone
    rw [hp] at hph
    simp only [State.step,State.update,State.party,Party.push]
    generalize s.second.pending=p2, s.first.installed=pair1, s.second.installed=pair2,
      s.first.inbox=box at hph
    cases hph with
    | idle => exact .firstOffered i _
    | secondOffered j => exact .crossed i j _
    | firstAccepted j k => exact .firstAcceptedOffered j k i _
  · intro j hj
    exact hmade j (hpend j hj)
  · intro j hj
    exact hmade j (hoffers j hj)

theorem Inv.startSecond (h : Inv s) {j : ι} (he : s.Enabled (.start .second j)) :
    Inv (s.step (.start .second j)) := by
  obtain ⟨⟨late,fresh,hbox,hlate,hph⟩,_,hoffers⟩:=h
  obtain ⟨hnone,hnew⟩:=he
  have hmade : ∀ i, i∈s.made → i∈j::s.made := fun i hi => mem_cons_of_mem j hi
  refine ⟨⟨late,fresh,?_,?_,?_⟩,?_,?_⟩
  · simp [hbox]
  · intro i hi
    refine ⟨hmade i (hlate i hi).1,?_⟩
    intro heq
    obtain rfl : j=i := Option.some.inj heq
    exact hnew (hlate j hi).1
  · have hp : s.second.pending=none := hnone
    rw [hp] at hph
    simp only [State.step,State.update,State.party,Party.push]
    generalize s.first.pending=p1, s.first.installed=pair1, s.second.installed=pair2,
      hfst : s.first.inbox=box at hph
    cases hph with
    | idle => exact .secondOffered j _
    | firstOffered i => exact .crossed i j _
    | secondAccepted i k => exact .secondAcceptedOffered i k j _
    | cancelled i j0 k =>
      refine .cancelledOffered i j0 k j _ ?_
      intro heq
      subst heq
      exact hnew (hoffers j0 (by rw [hfst]; exact mem_cons_self ..))
  · simp
  · intro i hi
    simp only [State.step,State.update,State.party,Party.push,mem_append,mem_singleton,
      Message.offer.injEq] at hi
    rcases hi with hi | rfl
    · exact hmade i (hoffers i hi)
    · exact mem_cons_self ..

theorem Inv.deliverFirst (h : Inv s) {k : κ} (he : s.Enabled (.deliver .first k)) :
    Inv (s.step (.deliver .first k)) := by
  obtain ⟨⟨_,_⟩,⟨p2,_⟩,made⟩:=s
  obtain ⟨⟨late,_,rfl,hlate,hph⟩,hpend,hoffers⟩:=h
  dsimp only at hlate hph hpend hoffers
  -- a rejection the first party sends is late: the second has dropped the offer
  have hreject : ∀ j, j∈made → p2≠some j → ∀ i∈late++[j], i∈made ∧ p2≠some i := by
    intro j hj hne i hi
    rcases mem_append.mp hi with hi | hi
    · exact hlate i hi
    obtain rfl := mem_singleton.mp hi
    exact ⟨hj,hne⟩
  cases hph with
  | secondOffered j =>
    refine ⟨⟨late,[.accept j k],?_,hlate,.firstAccepted j k _⟩,hpend,?_⟩ <;> simp
  | crossed i j =>
    refine ⟨⟨late,[.offer i,.reject j],?_,hlate,.rejected i j _⟩,hpend,?_⟩ <;> simp
  | secondAccepted i k =>
    refine ⟨⟨late,[],?_,hlate,?_⟩,hpend,?_⟩
    · simp
    · simpa using Phase.idle (some (i,k))
    · simp
  | secondAcceptedOffered i k j =>
    refine ⟨⟨late,[],?_,hlate,?_⟩,hpend,?_⟩
    · simp
    · simpa using Phase.secondOffered j (some (i,k))
    · simpa using hoffers j (by simp)
  | cancelled i j k =>
    have hj : j∈made := hoffers j (mem_cons_self ..)
    refine ⟨⟨late++[j],[],?_,hreject j hj nofun,.secondAccepted i k _⟩,hpend,?_⟩ <;> simp
  | cancelledOffered i j k j' old hne =>
    have hj : j∈made := hoffers j (mem_cons_self ..)
    have hoth : (some j' : Option ι)≠some j := fun heq => hne (Option.some.inj heq).symm
    refine ⟨⟨late++[j],[],?_,hreject j hj hoth,.secondAcceptedOffered i k j' _⟩,hpend,?_⟩
    · simp
    · simpa using hpend j' rfl
  | _ => exact absurd rfl he

theorem Inv.deliverSecond (h : Inv s) {k : κ} (he : s.Enabled (.deliver .second k)) :
    Inv (s.step (.deliver .second k)) := by
  obtain ⟨⟨_,_⟩,⟨p2,_⟩,made⟩:=s
  obtain ⟨⟨late,fresh,rfl,hlate,hph⟩,hpend,hoffers⟩:=h
  dsimp only at hlate hph hpend hoffers
  cases late with
  | cons i late =>
    have hstale : p2≠some i := (hlate i (mem_cons_self ..)).2
    have hrest : ∀ j∈late, j∈made ∧ p2≠some j :=
      fun j hj => hlate j (mem_cons_of_mem i hj)
    refine ⟨⟨late,fresh,?_,?_,?_⟩,?_,?_⟩
    · simp [hstale]
    · simpa [hstale] using hrest
    · simpa [hstale] using hph
    · simpa [hstale] using hpend
    · simpa [hstale] using hoffers
  | nil =>
    cases hph with
    | firstOffered i =>
      refine ⟨⟨[],[],rfl,nofun,.secondAccepted i k _⟩,nofun,?_⟩
      simp
    | firstAccepted j k =>
      refine ⟨⟨[],[],?_,nofun,?_⟩,?_,?_⟩
      · simp
      · simpa using
          Phase.idle (some (j,k))
      · simp
      · simp
    | firstAcceptedOffered j k i =>
      refine ⟨⟨[],[.offer i],?_,nofun,?_⟩,?_,?_⟩
      · simp
      · simpa using
          Phase.firstOffered i (some (j,k))
      · simp
      · simp
    | crossed i j =>
      refine ⟨⟨[],[],rfl,nofun,.cancelled i j k _⟩,nofun,?_⟩
      simpa using hoffers j (by simp)
    | rejected i j =>
      refine ⟨⟨[j],[],rfl,?_,.secondAccepted i k _⟩,nofun,?_⟩
      · simp_all
      · simp
    | _ => exact absurd rfl he

theorem Inv.step (h : Inv s) {e : Event ι κ} (he : s.Enabled e) : Inv (s.step e) := by
  cases e with
  | start side =>
    cases side with
    | first => exact h.startFirst he
    | second => exact h.startSecond he
  | deliver side =>
    cases side with
    | first => exact h.deliverFirst he
    | second => exact h.deliverSecond he

theorem run_inv {tr : List Unit} (h : (machine ι κ).Run s tr) : Inv s :=
  h.invariant (fun s _ => Inv s) inv_start fun _ _ _ hinv he => hinv.step he

/-- With nothing in flight, nothing is pending and both parties have installed
the same pair last. -/
theorem converged {tr : List Unit} (h : (machine ι κ).Run s tr)
    (hquiet : ∀ side, (s.party side).inbox=[]) :
    ∃ pair, ∀ side, (s.party side).pending=none ∧ (s.party side).installed=pair := by
  obtain ⟨_,_,hbox,-,hph⟩:=(run_inv h).phase
  have hfst : s.first.inbox=[] := hquiet .first
  have hsnd : s.second.inbox=[] := hquiet .second
  rw [hsnd] at hbox
  obtain ⟨-,rfl⟩:=append_eq_nil_iff.mp hbox.symm
  rw [hfst] at hph
  refine ⟨s.first.installed,?_⟩
  generalize hp1 : s.first.pending=p1, hp2 : s.second.pending=p2, hi1 : s.first.installed=pair1,
    hi2 : s.second.installed=pair2 at hph ⊢
  cases hph with
  | idle =>
    intro side
    cases side with
    | first => exact ⟨hp1,hi1⟩
    | second => exact ⟨hp2,hi2⟩

end Lantunnel.Lib.CrossedOffers
