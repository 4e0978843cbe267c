import Lantunnel.Lib.RustStd
import Lantunnel.Lib.Table

/-!
# The Relay budget of a Tunnel (tp-gateway/src/lib.rs:78-100, 367-563)

`RelayQuotaLimiter`: the budget the Platform grants for one period, what is left of it,
and the bytes relayed that are not yet in the usage log.
-/

namespace Lantunnel.Gateway
open Lib RustStd

/-- The fields behind the lock. What every method keeps: a budget belongs to a
period, and neither the Platform's last word nor what is left exceeds it. -/
structure RelayQuotaState where
  tunnelId : String
  period : String
  quotaBytes : UInt64
  remainingBytes : UInt64
  lastPlatformRemainingBytes : UInt64
  pendingUsageByPeriod : Table String UInt64
  exhaustionWarningEmitted : Bool
  periodOfQuota : quotaBytes ≠ 0 → period ≠ ""
  remaining_le : remainingBytes.toNat≤quotaBytes.toNat
  lastPlatformRemaining_le : lastPlatformRemainingBytes.toNat≤quotaBytes.toNat

structure RelayUsageSnapshot where
  tunnelId : String
  period : String
  bytes : UInt64
  deriving DecidableEq

namespace RelayQuotaState

/-- No budget: `RelayQuotaState::default()` with a Tunnel, a period and usage. -/
def unlimited (tunnelId period : String) (pending : Table String UInt64) : RelayQuotaState where
  tunnelId := tunnelId
  period := period
  quotaBytes := 0
  remainingBytes := 0
  lastPlatformRemainingBytes := 0
  pendingUsageByPeriod := pending
  exhaustionWarningEmitted := false
  periodOfQuota := fun h => absurd rfl h
  remaining_le := le_rfl
  lastPlatformRemaining_le := le_rfl

/-- `now`: the current period, `YYYYMM`. -/
def newUnlimitedUsageMeter (now tunnelId : String) : RelayQuotaState := unlimited tunnelId now .empty

variable (s : RelayQuotaState)

/-! ### Budgets of the Platform (lib.rs:381-436) -/

def syncedRemaining (quotaBytes platformRemaining : UInt64) : UInt64 :=
  let previousPlatformRemaining:=min s.lastPlatformRemainingBytes s.quotaBytes
  let quotaGrowth:=saturatingSub quotaBytes s.quotaBytes
  let nextRemaining :=
    if quotaBytes≥s.quotaBytes then saturatingAdd s.remainingBytes quotaGrowth
    else saturatingSub s.remainingBytes (saturatingSub s.quotaBytes quotaBytes)
  let expected:=saturatingAdd previousPlatformRemaining quotaGrowth
  let platformCorrection:=saturatingSub platformRemaining expected
  if platformCorrection>0 then min (saturatingAdd nextRemaining platformCorrection) platformRemaining
  else
    let platformDecrease:=saturatingSub expected platformRemaining
    saturatingSub nextRemaining platformDecrease

section Synced
variable {s} {quotaBytes platformRemaining : UInt64}

theorem syncedRemaining_of_le (hquota : s.quotaBytes.toNat≤quotaBytes.toNat)
    (hle : platformRemaining.toNat≤quotaBytes.toNat) :
    (s.syncedRemaining quotaBytes platformRemaining).toNat =
      if s.lastPlatformRemainingBytes.toNat+(quotaBytes.toNat-s.quotaBytes.toNat)
          < platformRemaining.toNat
      then min (s.remainingBytes.toNat+platformRemaining.toNat
        - s.lastPlatformRemainingBytes.toNat) platformRemaining.toNat
      else s.remainingBytes.toNat+platformRemaining.toNat - s.lastPlatformRemainingBytes.toNat := by
  have hlast:=s.lastPlatformRemaining_le
  have hremain:=s.remaining_le
  have hbd:=quotaBytes.toNat_lt
  simp only [syncedRemaining,gt_iff_lt,ge_iff_le,UInt64.lt_iff_toNat_lt,UInt64.le_iff_toNat_le,
    UInt64.toNat_zero,apply_ite UInt64.toNat,toNat_saturatingAdd,toNat_saturatingSub,toNat_min]
  split_ifs <;> omega

theorem syncedRemaining_of_lt (hquota : quotaBytes.toNat<s.quotaBytes.toNat)
    (hle : platformRemaining.toNat≤quotaBytes.toNat) :
    (s.syncedRemaining quotaBytes platformRemaining).toNat =
      if s.lastPlatformRemainingBytes.toNat<platformRemaining.toNat
      then min (s.remainingBytes.toNat-(s.quotaBytes.toNat-quotaBytes.toNat)
        + (platformRemaining.toNat-s.lastPlatformRemainingBytes.toNat)) platformRemaining.toNat
      else s.remainingBytes.toNat-(s.quotaBytes.toNat-quotaBytes.toNat)
        - (s.lastPlatformRemainingBytes.toNat-platformRemaining.toNat) := by
  have hlast:=s.lastPlatformRemaining_le
  have hbd:=s.quotaBytes.toNat_lt
  simp only [syncedRemaining,gt_iff_lt,ge_iff_le,UInt64.lt_iff_toNat_lt,UInt64.le_iff_toNat_le,
    UInt64.toNat_zero,apply_ite UInt64.toNat,toNat_saturatingAdd,toNat_saturatingSub,toNat_min]
  split_ifs <;> omega

theorem syncedRemaining_le (hle : platformRemaining.toNat≤quotaBytes.toNat) :
    (s.syncedRemaining quotaBytes platformRemaining).toNat≤quotaBytes.toNat := by
  have hremain:=s.remaining_le
  rcases Nat.lt_or_ge quotaBytes.toNat s.quotaBytes.toNat with hquota | hquota
  · rw [syncedRemaining_of_lt hquota hle]
    split_ifs <;> omega
  rw [syncedRemaining_of_le hquota hle]
  split_ifs <;> omega

end Synced

def update (tunnelId period : String) (quotaBytes remainingBytes : UInt64) : RelayQuotaState :=
  if h : period = "" ∨ quotaBytes=0 then unlimited tunnelId "" s.pendingUsageByPeriod
  else
    let platformRemaining:=min remainingBytes quotaBytes
    have hle : platformRemaining.toNat≤quotaBytes.toNat := by
      rw [toNat_min]
      exact min_le_right _ _
    if s.period ≠ period ∨ s.quotaBytes=0 then
      { tunnelId := tunnelId
        period := period
        quotaBytes := quotaBytes
        remainingBytes := platformRemaining
        lastPlatformRemainingBytes := platformRemaining
        pendingUsageByPeriod := s.pendingUsageByPeriod
        exhaustionWarningEmitted := false
        periodOfQuota := fun _ => (not_or.mp h).1
        remaining_le := hle
        lastPlatformRemaining_le := hle }
    else
      let remaining:=s.syncedRemaining quotaBytes platformRemaining
      { tunnelId := tunnelId
        period := period
        quotaBytes := quotaBytes
        remainingBytes := remaining
        lastPlatformRemainingBytes := platformRemaining
        pendingUsageByPeriod := s.pendingUsageByPeriod
        exhaustionWarningEmitted := if remaining>0 then false else s.exhaustionWarningEmitted
        periodOfQuota := fun _ => (not_or.mp h).1
        remaining_le := syncedRemaining_le hle
        lastPlatformRemaining_le := hle }

/-! ### Spending (lib.rs:438-495) -/

def tryConsume (bytes : UInt64) : Bool × RelayQuotaState :=
  if bytes=0 then (true,s)
  else if s.quotaBytes=0 then (true,s)
  else if s.remainingBytes<bytes then (false,{ s with exhaustionWarningEmitted := true })
  else
    (true,
      { s with
        remainingBytes := saturatingSub s.remainingBytes bytes
        remaining_le := by
          rw [toNat_saturatingSub]
          exact (Nat.sub_le _ _).trans s.remaining_le })

section Spent
variable {s} {bytes : UInt64} (hquota : s.quotaBytes ≠ 0) (hbytes : bytes ≠ 0)
include hquota hbytes

theorem tryConsume_fst : (s.tryConsume bytes).1=decide (bytes≤ s.remainingBytes) := by
  rw [tryConsume,if_neg hbytes,if_neg hquota]
  by_cases h : s.remainingBytes<bytes
  · rw [if_pos h,decide_eq_false (UInt64.not_le.mpr h)]
  · rw [if_neg h,decide_eq_true (UInt64.not_lt.mp h)]

theorem tryConsume_remaining (h : bytes≤ s.remainingBytes) :
    (s.tryConsume bytes).2.remainingBytes=saturatingSub s.remainingBytes bytes := by
  rw [tryConsume,if_neg hbytes,if_neg hquota,if_neg (UInt64.not_lt.mpr h)]

end Spent

def refund (bytes : UInt64) : RelayQuotaState :=
  if bytes=0 then s
  else if s.quotaBytes=0 then s
  else
    { s with
      remainingBytes := min (saturatingAdd s.remainingBytes bytes) s.quotaBytes
      remaining_le := by
        rw [toNat_min]
        exact min_le_right _ _ }

/-! ### Usage (lib.rs:468-546)

`+=` on the pending bytes wraps, as a release build does. -/

/-- Without a budget usage counts for the current period. -/
def metered (now : String) : RelayQuotaState :=
  if h : s.quotaBytes=0 then { s with period := now, periodOfQuota := fun hq => absurd h hq }
  else s

def commitUsage (now : String) (bytes : UInt64) : RelayQuotaState :=
  if bytes=0 then s
  else if s.tunnelId = "" then s
  else
    let metered:=s.metered now
    if metered.period = "" then metered
    else
      { metered with
        pendingUsageByPeriod := metered.pendingUsageByPeriod.insert metered.period
          ((metered.pendingUsageByPeriod.get metered.period).getD 0+bytes) }

def snapshotPendingUsage : List RelayUsageSnapshot :=
  (s.pendingUsageByPeriod.pairs.filter fun entry => entry.2>0).map fun entry =>
    ⟨s.tunnelId,entry.1,entry.2⟩

def subtractPendingUsage (period : String) (bytes : UInt64) : RelayQuotaState :=
  if bytes=0 then s
  else
    match s.pendingUsageByPeriod.get period with
    | none => s
    | some pending =>
      let left:=saturatingSub pending bytes
      { s with
        pendingUsageByPeriod := if left=0 then s.pendingUsageByPeriod.remove period
          else s.pendingUsageByPeriod.insert period left }

def hasPendingUsage : Bool := s.pendingUsageByPeriod.pairs.any fun entry => entry.2>0

/-! ### Reports (lib.rs:548-557) -/

def markUsageReported (period : String) (bytes : UInt64) : RelayQuotaState :=
  if bytes=0 then s
  else if s.period=period then
    { s with
      lastPlatformRemainingBytes := saturatingSub s.lastPlatformRemainingBytes bytes
      lastPlatformRemaining_le := by
        rw [toNat_saturatingSub]
        exact (Nat.sub_le _ _).trans s.lastPlatformRemaining_le }
  else s

/-! ### What is left follows the Platform's word

`u` bytes were spent and not yet reported. -/

section Synchronised
variable {s} {quotaBytes remainingBytes : UInt64} {u : ℕ}

theorem update_samePeriod (hquota : s.quotaBytes≠0) (hnew : quotaBytes≠0) (tunnelId : String) :
    (s.update tunnelId s.period quotaBytes remainingBytes).remainingBytes
      = s.syncedRemaining quotaBytes (min remainingBytes quotaBytes) := by
  have hval : ¬ (s.period = "" ∨ quotaBytes=0) := not_or.mpr ⟨s.periodOfQuota hquota,hnew⟩
  have hsame : ¬ (s.period≠s.period ∨ s.quotaBytes=0) :=
    not_or.mpr ⟨not_not.mpr rfl,hquota⟩
  rw [update,dif_neg hval]
  simp only [if_neg hsame]

/-- The budget is what the Platform grants less what it was not told, after every
update that does not shrink the quota. After one that does it is only where
nothing is left of the smaller of the Platform's two words. -/
theorem update_synchronised_iff (s : RelayQuotaState) (tunnelId : String)
    (quotaBytes remainingBytes : UInt64) (u : ℕ) (hquota : s.quotaBytes ≠ 0)
    (hnew : quotaBytes ≠ 0)
    (hsync : s.remainingBytes.toNat + u = s.lastPlatformRemainingBytes.toNat)
    (hu : u ≤ min remainingBytes.toNat quotaBytes.toNat) :
    (s.update tunnelId s.period quotaBytes remainingBytes).remainingBytes.toNat + u
        = min remainingBytes.toNat quotaBytes.toNat ↔
      s.quotaBytes ≤ quotaBytes ∨
        u = min s.lastPlatformRemainingBytes.toNat
          (min remainingBytes.toNat quotaBytes.toNat) := by
  have hle : (min remainingBytes quotaBytes).toNat≤quotaBytes.toNat := by
    rw [toNat_min]
    exact min_le_right _ _
  rw [update_samePeriod hquota hnew,UInt64.le_iff_toNat_le]
  rcases Nat.lt_or_ge quotaBytes.toNat s.quotaBytes.toNat with hshrink | hgrows
  · rw [syncedRemaining_of_lt hshrink hle,toNat_min]
    split_ifs <;> omega
  rw [syncedRemaining_of_le hgrows hle,toNat_min]
  split_ifs <;> omega

end Synchronised

def spentForty : RelayQuotaState where
  tunnelId := "tun"
  period := "202608"
  quotaBytes := 100
  remainingBytes := 60
  lastPlatformRemainingBytes := 100
  pendingUsageByPeriod := .empty
  exhaustionWarningEmitted := false
  periodOfQuota := fun _ => by decide
  remaining_le := by decide
  lastPlatformRemaining_le := by decide

theorem update_synchronised_grown :
    (spentForty.update "tun" "202608" 150 150).remainingBytes.toNat + 40 = min 150 150 :=
  (update_synchronised_iff spentForty "tun" 150 150 40 (by decide) (by decide) (by decide)
    (by decide)).mpr (.inl (by decide))

theorem shrinking_quota_counted_twice :
    spentForty.remainingBytes.toNat + 40 = spentForty.lastPlatformRemainingBytes.toNat ∧
      40 ≤ min (80 : UInt64).toNat (80 : UInt64).toNat ∧
      (spentForty.update "tun" spentForty.period 80 80).remainingBytes.toNat = 20 ∧
      20 + 40 ≠ min (80 : UInt64).toNat (80 : UInt64).toNat := by
  decide

end RelayQuotaState

end Lantunnel.Gateway
