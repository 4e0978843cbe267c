import Lantunnel.Client.FlowScheduler
import Lantunnel.Client.MultiSender

/-!
# Relay or P2P for the next frame (tp-client/src/p2p/scheduler.rs, p2p/session.rs:889-938)

P2P is picked after it has been healthy and fast for a number of picks in a row; one
pick at which it is not starts the count again.
-/

namespace Lantunnel.Client

-- `rtt` in nanoseconds
structure SessionStats (F : Type) where
  rtt : ℕ
  lossRate : F
  ptoCount : ℕ

structure PathScheduler (F : Type) where
  p2pMinAdvantage : F
  p2pStableCycles : UInt32
  healthyRttMax : ℕ
  healthyLossMax : F
  healthyPtoMax : ℕ

/-- The statistics of the Relay session and of the P2P session, if there is one. -/
abbrev PickCall (F : Type) := SessionStats F × Option (SessionStats F)

/-- What a scheduler keeps between picks; `lastPick` is `none` for `LAST_PICK_UNSET`. -/
structure SchedState where
  p2pHealthyCycles : ℕ := 0
  lastPick : Option PathKind := none

def SchedState.recordTransition (st : SchedState) (new : PathKind) :
    SchedState × Option PathKind :=
  ({ st with lastPick := some new },if st.lastPick=some new then none else st.lastPick)

def asSecsF64 {F : Type} [F64 F] (nanos : ℕ) : F :=
  F64.add (F64.ofNat (nanos/10^9)) (F64.div (F64.ofNat (nanos % 10^9)) (F64.literal (10^9)))

namespace PathScheduler
variable {F : Type} [F64 F] (s : PathScheduler F)

def isHealthy (stats : SessionStats F) : Bool :=
  stats.rtt<s.healthyRttMax && F64.lt stats.lossRate s.healthyLossMax &&
    stats.ptoCount<s.healthyPtoMax

def advantage (relay p2p : SessionStats F) : Bool :=
  let least:=F64.mul s.p2pMinAdvantage (asSecsF64 relay.rtt)
  relay.rtt=0 || F64.lt (asSecsF64 p2p.rtt) least || F64.eq (asSecsF64 p2p.rtt) least

def pickKind (st : SchedState) (relay : SessionStats F) :
    Option (SessionStats F) → SchedState × PathKind
  | none => ({ st with p2pHealthyCycles := 0 },.relay)
  | some p2p =>
    if !s.isHealthy p2p then ({ st with p2pHealthyCycles := 0 },.relay)
    else if !s.advantage relay p2p then ({ st with p2pHealthyCycles := 0 },.relay)
    else
      -- `saturating_add` of a `u32`
      let cycles:=min (st.p2pHealthyCycles+1) (2^32-1)
      ({ st with p2pHealthyCycles := cycles },
        if s.p2pStableCycles.toNat≤cycles then .p2p else .relay)

def pickWithKind (st : SchedState) (relay : SessionStats F) (p2p : Option (SessionStats F)) :
    SchedState × PathKind × Option (PathKind × PathKind) :=
  let (st,kind):=s.pickKind st relay p2p
  let (st,prev):=st.recordTransition kind
  let taken:=match kind, p2p with
    | .p2p, some _ => PathKind.p2p
    | _, _ => .relay
  (st,taken,prev.map (·,kind))

def picks (calls : List (PickCall F)) :
    SchedState × List PathKind × List (PathKind × PathKind) :=
  calls.foldl (fun (st,answers,switches) (relay,p2p) =>
    let (st,kind,switch):=s.pickWithKind st relay p2p
    (st,answers++[kind],switches++switch.toList)) ({},[],[])

/-- P2P is there, healthy and advantageous. -/
def Good (call : PickCall F) : Prop :=
  ∃ p2p, call.2=some p2p ∧ s.isHealthy p2p=true ∧ s.advantage call.1 p2p=true

def GoodFor (n : ℕ) (calls : List (PickCall F)) : Prop :=
  n≤calls.length ∧ ∀ call ∈ calls.drop (calls.length-n), s.Good call

def changes (answers : List PathKind) : List (PathKind × PathKind) :=
  (answers.zip answers.tail).filter fun (a,b) => a ≠ b

variable {s} {calls : List (PickCall F)} {call : PickCall F}

theorem goodFor_concat {n : ℕ} :
    s.GoodFor (n+1) (calls++[call]) ↔ s.GoodFor n calls ∧ s.Good call := by
  have hdrop : (calls++[call]).drop ((calls++[call]).length-(n+1)) =
      calls.drop (calls.length-n)++[call] := by
    rw [← List.drop_append_of_le_length (by omega)]
    simp
  unfold GoodFor
  rw [hdrop]
  simp only [List.forall_mem_append,List.forall_mem_singleton,List.length_append,
    List.length_singleton,Nat.add_le_add_iff_right,and_assoc]

theorem changes_concat (answers : List PathKind) (kind : PathKind) :
    changes (answers++[kind])=changes answers++
      ((if answers.getLast?=some kind then none else answers.getLast?).map (·,kind)).toList := by
  induction answers with
  | nil => rfl
  | cons a answers ih =>
    cases answers with
    | nil => cases a <;> cases kind <;> rfl
    | cons =>
      simp only [changes,List.cons_append,List.tail_cons,List.zip_cons_cons,List.filter_cons,
        List.getLast?_cons_cons] at ih ⊢
      rw [ih]
      split <;> simp

variable (s call)

theorem pickKind_cases (st : SchedState) :
    s.Good call ∧ s.pickKind st call.1 call.2 =
      ({ st with p2pHealthyCycles := min (st.p2pHealthyCycles+1) (2^32-1) },
        if s.p2pStableCycles.toNat≤ min (st.p2pHealthyCycles+1) (2^32-1) then .p2p else .relay) ∨
    ¬s.Good call ∧ s.pickKind st call.1 call.2=({ st with p2pHealthyCycles := 0 },.relay) := by
  obtain ⟨relay,p2p⟩:=call
  cases p2p with
  | none => simp [Good,pickKind]
  | some p2p =>
    by_cases hhealthy : s.isHealthy p2p
    · by_cases hadvantage : s.advantage relay p2p <;> simp [Good,pickKind,hhealthy,hadvantage]
    · simp [Good,pickKind,hhealthy]

theorem pickWithKind_eq (st : SchedState) : s.pickWithKind st call.1 call.2 =
    let (st,kind) := s.pickKind st call.1 call.2
    ({ st with lastPick := some kind },kind,
      (if st.lastPick=some kind then none else st.lastPick).map (·,kind)) := by
  obtain ⟨relay,p2p⟩:=call
  cases p2p with
  | none => simp [pickWithKind,pickKind,SchedState.recordTransition]
  | some p2p =>
    simp only [pickWithKind,SchedState.recordTransition]
    cases (s.pickKind st relay (some p2p)).2 <;> rfl

theorem picks_concat (calls : List (PickCall F)) : s.picks (calls++[call]) =
    let (st,answers,switches) := s.picks calls
    let (st,kind,switch) := s.pickWithKind st call.1 call.2
    (st,answers++[kind],switches++switch.toList) := by
  simp [picks]

/-- The count is that of the good calls at the end, and the last answer is remembered. -/
theorem picks_state (calls : List (PickCall F)) :
    (∀ n, n≤(s.picks calls).1.p2pHealthyCycles ↔ n≤2^32-1 ∧ s.GoodFor n calls) ∧
      (s.picks calls).1.lastPick=(s.picks calls).2.1.getLast? ∧
      (s.picks calls).2.2=changes (s.picks calls).2.1 := by
  induction calls using List.reverseRecOn with
  | nil => simp [picks,GoodFor,changes]
  | append_singleton calls call ih =>
    obtain ⟨hcycles,hlast,hswitches⟩:=ih
    rw [picks_concat]
    simp only [pickWithKind_eq]
    refine ⟨?_,by simp,?_⟩
    · intro n
      cases n with
      | zero => simp [GoodFor]
      | succ n =>
        rw [goodFor_concat]
        have hn:=hcycles n
        rcases s.pickKind_cases call (s.picks calls).1 with ⟨hgood,hpick⟩ | ⟨hgood,hpick⟩
        · grind
        · simp [hpick,hgood]
    · have hkept : (s.pickKind (s.picks calls).1 call.1 call.2).1.lastPick =
          (s.picks calls).1.lastPick := by
        rcases s.pickKind_cases call (s.picks calls).1 with ⟨-,hpick⟩ | ⟨-,hpick⟩ <;> rw [hpick]
      simp only [hkept,hlast,hswitches,changes_concat]

/-- P2P is picked exactly when the last picks, `stable_cycles` of them or one, were all
good, and the switches are the changes between consecutive answers. -/
theorem path_hysteresis (s : PathScheduler F) (calls : List (PickCall F)) :
    (∀ call, (s.pickWithKind (s.picks calls).1 call.1 call.2).2.1 = .p2p ↔
      s.GoodFor (max 1 s.p2pStableCycles.toNat) (calls ++ [call])) ∧
    (s.picks calls).2.2 = changes (s.picks calls).2.1 := by
  obtain ⟨_,-,hswitches⟩:=s.picks_state calls
  refine ⟨?_,hswitches⟩
  intro call
  have hbound:=s.p2pStableCycles.toNat_lt
  obtain ⟨n,hn⟩:=Nat.exists_eq_succ_of_ne_zero (show max 1 s.p2pStableCycles.toNat≠0 by simp)
  rw [hn,goodFor_concat,pickWithKind_eq]
  rcases s.pickKind_cases call (s.picks calls).1 with ⟨hgood,hpick⟩ | ⟨hgood,hpick⟩
  · grind
  · simp [hpick,hgood]

end PathScheduler

end Lantunnel.Client
