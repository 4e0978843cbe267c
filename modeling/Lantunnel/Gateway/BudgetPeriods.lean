import Lantunnel.Gateway.RelayQuota
import Lantunnel.Lib.Machine

/-!
# What a period of the Relay budget lets pass

Calls of any number of connections on one `RelayQuotaLimiter`, interleaved with the
Platform's updates. A ledger is kept for each period over the whole run.
-/

namespace Lantunnel.Gateway
open Lib RustStd RelayQuotaState

structure PeriodLedger where
  /-- What the Platform last said is left. -/
  told : ℕ := 0
  /-- What it granted at the first update of the period, and its increases since. -/
  granted : ℕ := 0
  consumed : ℕ := 0
  refunded : ℕ := 0
  /-- Consumed, neither refunded nor committed yet. -/
  reserved : ℕ := 0
  deriving DecidableEq

/-- The period whose budget is spent, if there is a budget. -/
def RelayQuotaState.budget (s : RelayQuotaState) : Option String :=
  if s.quotaBytes=0 then none else some s.period

/-- The ledger of `none` is that of the bytes consumed without a budget. -/
structure BudgetPeriods where
  limiter : RelayQuotaState
  ledger : Option String → PeriodLedger

/-- `origin`: the budget the bytes were consumed from. -/
inductive BudgetEvent
  | update (tunnelId period : String) (quotaBytes remainingBytes : UInt64)
  | tryConsume (bytes : UInt64)
  | refund (bytes : UInt64) (origin : Option String)
  | commitUsage (now : String) (bytes : UInt64) (origin : Option String)

namespace BudgetPeriods
variable (s : BudgetPeriods)

def Enabled : BudgetEvent → Prop
  | .refund bytes origin | .commitUsage _ bytes origin => bytes.toNat≤(s.ledger origin).reserved
  | _ => True

def book (origin : Option String) (entry : PeriodLedger → PeriodLedger) :
    Option String → PeriodLedger :=
  Function.update s.ledger origin (entry (s.ledger origin))

def step : BudgetEvent → BudgetPeriods
  | .update tunnelId period quotaBytes remainingBytes =>
    let told:=(min remainingBytes quotaBytes).toNat
    { limiter := s.limiter.update tunnelId period quotaBytes remainingBytes
      ledger := if period = "" ∨ quotaBytes=0 then s.ledger
        else s.book (some period) fun l => { l with told, granted := l.granted+(told-l.told) } }
  | .tryConsume bytes =>
    match s.limiter.tryConsume bytes with
    | (false,limiter) => { s with limiter }
    | (true,limiter) =>
      { limiter
        ledger := s.book s.limiter.budget fun l =>
          { l with consumed := l.consumed+bytes.toNat, reserved := l.reserved+bytes.toNat } }
  | .refund bytes origin =>
    { limiter := s.limiter.refund bytes
      ledger := s.book origin fun l =>
        { l with refunded := l.refunded+bytes.toNat, reserved := l.reserved-bytes.toNat } }
  | .commitUsage now bytes origin =>
    { limiter := s.limiter.commitUsage now bytes
      ledger := s.book origin fun l => { l with reserved := l.reserved-bytes.toNat } }

/-- A budget is set for the current period or for one never heard of. A refund is of
bytes of the current budget, or the budget has no room for it. -/
def KeepsPeriods : BudgetEvent → Prop
  | .update _ period quotaBytes _ =>
    period = "" ∨ quotaBytes=0 ∨ s.limiter.budget=some period ∨ s.ledger (some period)={}
  | .refund bytes origin =>
    origin=s.limiter.budget ∨ bytes=0 ∨ s.limiter.quotaBytes≤ s.limiter.remainingBytes
  | _ => True

structure NotOverspent : Prop where
  spent : ∀ period, (s.ledger (some period)).consumed ≤
    (s.ledger (some period)).granted+(s.ledger (some period)).refunded
  left : ∀ period, s.limiter.budget=some period →
    (s.ledger (some period)).told=s.limiter.lastPlatformRemainingBytes.toNat ∧
      s.limiter.remainingBytes.toNat+(s.ledger (some period)).consumed ≤
        (s.ledger (some period)).granted+(s.ledger (some period)).refunded

end BudgetPeriods

def budgetMachine (now tunnelId : String) : Machine BudgetPeriods BudgetEvent Unit where
  init := ⟨.newUnlimitedUsageMeter now tunnelId,fun _ => {}⟩
  enabled := BudgetPeriods.Enabled
  step := fun s e => (s.step e,[])

namespace RelayQuotaState

theorem syncedRemaining_le_add {s : RelayQuotaState} {quotaBytes platformRemaining : UInt64}
    (hle : platformRemaining.toNat≤quotaBytes.toNat) :
    (s.syncedRemaining quotaBytes platformRemaining).toNat≤ s.remainingBytes.toNat +
        (platformRemaining.toNat-s.lastPlatformRemainingBytes.toNat) := by
  rcases Nat.lt_or_ge quotaBytes.toNat s.quotaBytes.toNat with hquota | hquota
  · rw [syncedRemaining_of_lt hquota hle]
    split_ifs <;> omega
  rw [syncedRemaining_of_le hquota hle]
  split_ifs <;> omega

variable (s : RelayQuotaState) (bytes : UInt64)

theorem refund_remaining : (s.refund bytes).remainingBytes.toNat =
    min (s.remainingBytes.toNat+bytes.toNat) s.quotaBytes.toNat := by
  have hle:=s.remaining_le
  have hlt:=s.quotaBytes.toNat_lt
  unfold refund
  split_ifs with hbs hquota
  · simp [hbs,hle]
  · simp_all
  · simp only [toNat_min,toNat_saturatingAdd]
    omega

theorem refund_budget : (s.refund bytes).budget=s.budget ∧
    (s.refund bytes).lastPlatformRemainingBytes=s.lastPlatformRemainingBytes := by
  unfold refund
  split_ifs <;> exact ⟨rfl,rfl⟩

theorem commitUsage_budget (now : String) : (s.commitUsage now bytes).budget=s.budget ∧
    (s.commitUsage now bytes).remainingBytes=s.remainingBytes ∧
      (s.commitUsage now bytes).lastPlatformRemainingBytes=s.lastPlatformRemainingBytes := by
  unfold commitUsage metered budget
  dsimp only
  split_ifs with hbs htun hquota <;> simp_all

end RelayQuotaState

namespace BudgetPeriods
variable {s : BudgetPeriods}

theorem refund_le_iff (bytes : UInt64) (origin : Option String) :
    (s.step (.refund bytes origin)).limiter.remainingBytes.toNat ≤
      s.limiter.remainingBytes.toNat+(if origin=s.limiter.budget then bytes.toNat else 0) ↔
        s.KeepsPeriods (.refund bytes origin) := by
  rw [step,refund_remaining,KeepsPeriods,UInt64.le_iff_toNat_le,← UInt64.toNat_inj,
    UInt64.toNat_zero]
  split_ifs with horigin
  · simp [horigin]
  · simp only [horigin,false_or]
    omega

theorem NotOverspent.update (hs : s.NotOverspent) {tunnelId period : String}
    {quotaBytes remainingBytes : UInt64}
    (he : s.KeepsPeriods (.update tunnelId period quotaBytes remainingBytes)) :
    (s.step (.update tunnelId period quotaBytes remainingBytes)).NotOverspent := by
  simp only [BudgetPeriods.step]
  by_cases hnone : period = "" ∨ quotaBytes=0
  · rw [if_pos hnone,RelayQuotaState.update,dif_pos hnone]
    exact ⟨hs.spent,fun p hp => by cases hp⟩
  have hle : (min remainingBytes quotaBytes).toNat≤quotaBytes.toNat := by
    rw [toNat_min]
    exact min_le_right _ _
  have hnew : (s.limiter.update tunnelId period quotaBytes remainingBytes).budget=some period ∧
      (s.limiter.update tunnelId period quotaBytes remainingBytes).lastPlatformRemainingBytes =
        min remainingBytes quotaBytes := by
    rw [RelayQuotaState.update,dif_neg hnone]
    dsimp only
    split_ifs <;> simp [budget,(not_or.mp hnone).2]
  -- what is left after the update was left before, or is granted by it
  have hleft : (s.limiter.update tunnelId period quotaBytes remainingBytes).remainingBytes.toNat +
      (s.ledger (some period)).consumed ≤ (s.ledger (some period)).granted +
        ((min remainingBytes quotaBytes).toNat-(s.ledger (some period)).told) +
          (s.ledger (some period)).refunded := by
    rw [RelayQuotaState.update,dif_neg hnone]
    dsimp only
    by_cases hfst : s.limiter.period≠period ∨ s.limiter.quotaBytes=0
    · rw [if_pos hfst]
      have hother : s.limiter.budget≠some period := by
        unfold budget
        split_ifs with hq
        · simp
        · simpa [hq] using hfst
      have hempty : s.ledger (some period)={} := by
        rcases he with h | h | h | h
        · exact absurd (.inl h) hnone
        · exact absurd (.inr h) hnone
        · exact absurd h hother
        · exact h
      simp [hempty]
    · rw [if_neg hfst]
      have hcurrent : s.limiter.budget=some period := by
        simp only [not_or,not_not] at hfst
        rw [budget,if_neg hfst.2,hfst.1]
      obtain ⟨_,_⟩:=hs.left period hcurrent
      have hgrown:=syncedRemaining_le_add (s := s.limiter) hle
      dsimp only
      omega
  rw [if_neg hnone]
  refine ⟨fun p => ?_,fun p hp => ?_⟩
  · by_cases hp : p=period
    · subst hp
      simp only [book,Function.update_self]
      omega
    · simpa [book,hp] using hs.spent p
  · obtain rfl : period=p := Option.some.inj (hnew.1.symm.trans hp)
    simp only [book,Function.update_self,hnew.2,true_and]
    exact hleft

theorem NotOverspent.tryConsume (hs : s.NotOverspent) (bytes : UInt64) :
    (s.step (.tryConsume bytes)).NotOverspent := by
  simp only [BudgetPeriods.step,RelayQuotaState.tryConsume]
  split_ifs with hbs hquota hlt
  · refine ⟨fun p => ?_,fun p hp => ?_⟩
    · by_cases hp : some p=s.limiter.budget <;> simpa [book,hbs,hp] using hs.spent p
    · have hrun:=hs.left p hp
      have hp : s.limiter.budget=some p := hp
      simpa [book,hbs,hp] using hrun
  · have hnone : s.limiter.budget=none := if_pos hquota
    refine ⟨fun p => by simpa [book,hnone] using hs.spent p,fun p hp => ?_⟩
    cases hnone.symm.trans hp
  · exact ⟨hs.spent,hs.left⟩
  · have hsome : s.limiter.budget=some s.limiter.period := if_neg hquota
    obtain ⟨htold,_⟩:=hs.left _ hsome
    rw [UInt64.lt_iff_toNat_lt] at hlt
    refine ⟨fun p => ?_,fun p hp => ?_⟩
    · by_cases hp : p=s.limiter.period
      · simp only [book,hsome,hp,Function.update_self]
        omega
      · simpa [book,hsome,hp] using hs.spent p
    · obtain rfl : s.limiter.period=p := Option.some.inj (hsome.symm.trans hp)
      simp only [book,hsome,Function.update_self,toNat_saturatingSub]
      exact ⟨htold,by omega⟩

theorem NotOverspent.refund (hs : s.NotOverspent) {bytes : UInt64} {origin : Option String}
    (he : s.KeepsPeriods (.refund bytes origin)) :
    (s.step (.refund bytes origin)).NotOverspent := by
  have hraise:=(refund_le_iff bytes origin).mpr he
  obtain ⟨hsame,hlast⟩:=s.limiter.refund_budget bytes
  simp only [BudgetPeriods.step] at hraise ⊢
  refine ⟨fun p => ?_,fun p hp => ?_⟩
  · have hspent:=hs.spent p
    by_cases hp : some p=origin
    · simp only [book,hp,Function.update_self] at hspent ⊢
      omega
    · simpa [book,hp] using hspent
  · obtain ⟨htold,_⟩:=hs.left p (hsame.symm.trans hp)
    have hp : s.limiter.budget=some p := hsame.symm.trans hp
    rw [hp] at hraise
    by_cases horigin : origin=some p
    · simp only [book,horigin,Function.update_self,if_true] at hraise ⊢
      exact ⟨by rw [hlast,htold],by omega⟩
    · simp only [book,Function.update_of_ne (Ne.symm horigin),if_neg horigin] at hraise ⊢
      exact ⟨by rw [hlast,htold],by omega⟩

theorem NotOverspent.step (hs : s.NotOverspent) {e : BudgetEvent} (he : s.KeepsPeriods e) :
    (s.step e).NotOverspent := by
  cases e with
  | update => exact hs.update he
  | tryConsume bytes => exact hs.tryConsume bytes
  | refund => exact hs.refund he
  | commitUsage now bytes origin =>
    obtain ⟨hsame,hrem,hlast⟩:=s.limiter.commitUsage_budget bytes now
    refine ⟨fun p => ?_,fun p hp => ?_⟩
    · by_cases hp : some p=origin <;> simpa [BudgetPeriods.step,book,hp] using hs.spent p
    · have hrun:=hs.left p (hsame.symm.trans hp)
      by_cases hp : some p=origin <;>
        simpa [BudgetPeriods.step,book,hp,hrem,hlast] using hrun

end BudgetPeriods

/-- In every run whose events meet the condition no period, counted from its first update,
lets more pass than it was granted; and a refund raises the budget by no byte of another
period exactly when it meets it. -/
theorem budget_not_overspent {now tunnelId : String} {s : BudgetPeriods} {tr : List Unit}
    (h : ((budgetMachine now tunnelId).restrict BudgetPeriods.KeepsPeriods).Run s tr) :
    s.limiter.remainingBytes ≤ s.limiter.quotaBytes ∧
      (∀ period, (s.ledger (some period)).consumed ≤
        (s.ledger (some period)).granted + (s.ledger (some period)).refunded) ∧
      (∀ period, s.limiter.budget = some period →
        s.limiter.remainingBytes.toNat + (s.ledger (some period)).consumed ≤
          (s.ledger (some period)).granted + (s.ledger (some period)).refunded) ∧
      ∀ bytes origin, (s.step (.refund bytes origin)).limiter.remainingBytes.toNat ≤
          s.limiter.remainingBytes.toNat + (if origin = s.limiter.budget then bytes.toNat else 0) ↔
        s.KeepsPeriods (.refund bytes origin) := by
  have hinv : s.NotOverspent := by
    refine h.invariant (fun s _ => s.NotOverspent)
      ⟨fun _ => Nat.zero_le _,fun p hp => by cases hp⟩ ?_
    intro s tr e hs he
    exact hs.step he.2
  exact ⟨UInt64.le_iff_toNat_le.mpr s.limiter.remaining_le,hinv.spent,
    fun p hp => (hinv.left p hp).2,BudgetPeriods.refund_le_iff⟩

/-- A refund of bytes of an earlier period, and a return to a period whose bytes the
Platform has not counted yet, each let more pass than was granted. -/
theorem refund_of_earlier_period_overspends :
    (∃ s tr, (budgetMachine "202608" "t").Run s tr ∧
      (s.ledger (some "202609")).granted = 50 ∧ (s.ledger (some "202609")).consumed = 150 ∧
      (s.ledger (some "202609")).refunded = 0) ∧
    ∃ s tr, (budgetMachine "202608" "t").Run s tr ∧
      (s.ledger (some "202608")).granted = 100 ∧ (s.ledger (some "202608")).consumed = 200 ∧
      (s.ledger (some "202608")).refunded = 0 :=
  ⟨⟨_,_,Machine.Run.exec (M := budgetMachine "202608" "t") .init [.update "t" "202608" 200 200,.tryConsume 100,
      .update "t" "202609" 200 50,.refund 100 (some "202608"),.tryConsume 150]
      ⟨trivial,trivial,trivial,Nat.le_refl 100,trivial,trivial⟩,by decide,by decide,by decide⟩,
    _,_,Machine.Run.exec (M := budgetMachine "202608" "t") .init [.update "t" "202608" 100 100,.tryConsume 100,
      .update "t" "" 0 0,.update "t" "202608" 100 100,.tryConsume 100]
      ⟨trivial,trivial,trivial,trivial,trivial,trivial⟩,by decide,by decide,by decide⟩

theorem budget_not_overspent_own : ∃ s tr,
    ((budgetMachine "202608" "t").restrict BudgetPeriods.KeepsPeriods).Run s tr ∧
      s.limiter.budget = some "202609" ∧
      (s.ledger (some "202608")).consumed = 100 ∧ (s.ledger (some "202608")).consumed ≤
        (s.ledger (some "202608")).granted + (s.ledger (some "202608")).refunded := by
  have hrun:=Machine.Run.exec
    (.init (M := (budgetMachine "202608" "t").restrict BudgetPeriods.KeepsPeriods))
    [.update "t" "202608" 200 200,.tryConsume 100,.refund 40 (some "202608"),
      .update "t" "202609" 200 200,.commitUsage "202609" 60 (some "202608")]
    ⟨⟨trivial,.inr (.inr (.inr (by decide)))⟩,⟨trivial,trivial⟩,⟨Nat.le_add_right 40 60,.inl (by decide)⟩,
      ⟨trivial,.inr (.inr (.inr (by decide)))⟩,⟨Nat.le_refl 60,trivial⟩,trivial⟩
  exact ⟨_,_,hrun,by decide,by decide,(budget_not_overspent hrun).2.1 "202608"⟩

end Lantunnel.Gateway
