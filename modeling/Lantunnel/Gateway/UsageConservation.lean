import Lantunnel.Gateway.RelayUsage
import Lantunnel.Gateway.WalJson

/-!
# No relayed byte is lost or counted twice (tp-gateway/src/lib.rs:381-546, 1140-1301)

For each Tunnel and period: the bytes committed are the bytes recorded in the usage log
and the bytes pending in the meter.
-/

namespace Lantunnel.Gateway
open Lib RustStd RelayQuotaState List Table RelayUsageItem

namespace RelayQuotaState

def pendingBytes (s : RelayQuotaState) (period : String) : ℕ :=
  ((s.pendingUsageByPeriod.get period).map UInt64.toNat).getD 0

section Pending
variable {s : RelayQuotaState} {period q : String} {bytes : UInt64}

theorem pendingBytes_lt (s : RelayQuotaState) (period : String) : s.pendingBytes period<2^64 := by
  rw [pendingBytes]
  cases s.pendingUsageByPeriod.get period with
  | none => exact Nat.two_pow_pos 64
  | some pending => exact pending.toNat_lt

theorem pendingBytes_congr {s s' : RelayQuotaState}
    (h : s'.pendingUsageByPeriod=s.pendingUsageByPeriod) (period : String) :
    s'.pendingBytes period=s.pendingBytes period := by
  rw [pendingBytes,pendingBytes,h]

theorem update_pending (tunnelId period : String) (quotaBytes remainingBytes : UInt64) :
    (s.update tunnelId period quotaBytes remainingBytes).pendingUsageByPeriod =
      s.pendingUsageByPeriod := by
  rw [update]
  split
  · rfl
  dsimp only
  split <;> rfl

theorem tryConsume_pending (bytes : UInt64) :
    (s.tryConsume bytes).2.pendingUsageByPeriod=s.pendingUsageByPeriod := by
  rw [tryConsume]
  split_ifs <;> rfl

theorem refund_pending (bytes : UInt64) :
    (s.refund bytes).pendingUsageByPeriod=s.pendingUsageByPeriod := by
  rw [refund]
  split_ifs <;> rfl

theorem markUsageReported_pending (period : String) (bytes : UInt64) :
    (s.markUsageReported period bytes).pendingUsageByPeriod=s.pendingUsageByPeriod := by
  rw [markUsageReported]
  split_ifs <;> rfl

theorem metered_pending (now : String) :
    (s.metered now).pendingUsageByPeriod=s.pendingUsageByPeriod := by
  rw [metered]
  split_ifs <;> rfl

theorem metered_period_ne {now : String} (hnow : now ≠ "") : (s.metered now).period ≠ "" := by
  rw [metered]
  split
  · exact hnow
  case isFalse hquota => exact s.periodOfQuota hquota

theorem commitUsage_pendingBytes (htun : s.tunnelId ≠ "") {now : String} (hnow : now ≠ "")
    (bytes : UInt64) (q : String) : (s.commitUsage now bytes).pendingBytes q =
      if q=(s.metered now).period then (s.pendingBytes q+bytes.toNat) % 2^64
      else s.pendingBytes q := by
  rw [commitUsage]
  by_cases hbs : bytes=0
  · rw [if_pos hbs,hbs,UInt64.toNat_zero,Nat.add_zero,Nat.mod_eq_of_lt (s.pendingBytes_lt q),
      ite_self]
  rw [if_neg hbs,if_neg htun]
  rw [if_neg (metered_period_ne hnow),pendingBytes,get_insert]
  split
  case isTrue hq =>
    subst hq
    rw [Option.map_some,Option.getD_some,UInt64.toNat_add,pendingBytes,metered_pending]
    cases s.pendingUsageByPeriod.get (s.metered now).period <;> rfl
  case isFalse =>
    rw [metered_pending]
    rfl

theorem subtractPendingUsage_pendingBytes (period : String) (bytes : UInt64) (q : String) :
    (s.subtractPendingUsage period bytes).pendingBytes q =
      if q=period then s.pendingBytes q-bytes.toNat else s.pendingBytes q := by
  rw [subtractPendingUsage]
  by_cases hbs : bytes=0
  · rw [if_pos hbs,hbs,UInt64.toNat_zero,Nat.sub_zero,ite_self]
  rw [if_neg hbs]
  cases hget : s.pendingUsageByPeriod.get period with
  | none =>
    dsimp only
    split
    case isTrue hq =>
      rw [hq,pendingBytes,hget]
      exact (Nat.zero_sub _).symm
    case isFalse => rfl
  | some pending =>
    dsimp only
    rw [pendingBytes,pendingBytes]
    by_cases hleft : saturatingSub pending bytes=0
    · rw [if_pos hleft,get_remove]
      split
      case isTrue hq =>
        have hle : pending.toNat-bytes.toNat=0 := by
          rw [← toNat_saturatingSub,hleft,UInt64.toNat_zero]
        rw [hq,hget]
        exact hle.symm
      case isFalse => rfl
    · rw [if_neg hleft,get_insert]
      split
      case isTrue hq =>
        rw [hq,hget]
        exact toNat_saturatingSub _ _
      case isFalse => rfl

theorem pendingBytes_of_hasPendingUsage (h : s.hasPendingUsage=false) (period : String) :
    s.pendingBytes period=0 := by
  rw [pendingBytes]
  cases hget : s.pendingUsageByPeriod.get period with
  | none => rfl
  | some =>
    have hzero:=any_eq_false.mp h _ (mem_pairs.mpr hget)
    simp_all

end Pending

end RelayQuotaState

def RelayUsageItem.Kept (item : RelayUsageItem) : Prop :=
  ¬ (item.bytes=0 ∨ item.tunnelId = "" ∨ item.periodYyyymm = "")

theorem prepare_items {items : List RelayUsageItem} (h : ∀ item∈items, item.Kept) (nextSeq : UInt64) :
    (prepare nextSeq items).1.map Prod.snd=items := by
  induction items generalizing nextSeq with
  | nil => rfl
  | cons item items ih =>
    simp only [prepare,if_neg (h item (.head _)),map_cons,
      ih (fun other hoth => h other (.tail _ hoth))]

def RelayUsageItem.bytesFor (tunnelId period : String) (item : RelayUsageItem) : ℕ :=
  if item.tunnelId=tunnelId ∧ item.periodYyyymm=period then item.bytes.toNat else 0

def usageFor (tunnelId period : String) (usage : List RelayUsageSnapshot) : ℕ :=
  (usage.map fun u => u.item.bytesFor tunnelId period).sum

def UsageOutput.committedFor (tunnelId period : String) : UsageOutput → ℕ
  | .committed q r bytes => (⟨q,r,bytes⟩ : RelayUsageItem).bytesFor tunnelId period
  | _ => 0

def UsageOutput.recordedFor (tunnelId period : String) : UsageOutput → ℕ
  | .recorded _ item => item.bytesFor tunnelId period
  | _ => 0

def committedBytes (tunnelId period : String) (tr : List UsageOutput) : ℕ :=
  (tr.map (UsageOutput.committedFor tunnelId period)).sum

def recordedBytes (tunnelId period : String) (tr : List UsageOutput) : ℕ :=
  (tr.map (UsageOutput.recordedFor tunnelId period)).sum

def FlushPhase.inFlight (tunnelId period : String) : FlushPhase → ℕ
  | .subtracting left => usageFor tunnelId period left
  | _ => 0

def FlushPhase.taken (tunnelId period : String) : FlushPhase → ℕ
  | .idle => 0
  | .collecting _ usage => usageFor tunnelId period usage
  | .subtracting left => usageFor tunnelId period left

def RelayAccounting.pending (g : RelayAccounting) (tunnelId period : String) : ℕ :=
  ((g.relayQuotas.get tunnelId).map fun meter => meter.limiter.pendingBytes period).getD 0

section Totals
variable {tunnelId period : String}

theorem committedBytes_append (tr out : List UsageOutput) :
    committedBytes tunnelId period (tr++out) =
      committedBytes tunnelId period tr+committedBytes tunnelId period out := by
  rw [committedBytes,map_append,sum_append]
  rfl

theorem recordedBytes_append (tr out : List UsageOutput) : recordedBytes tunnelId period (tr++out) =
      recordedBytes tunnelId period tr+recordedBytes tunnelId period out := by
  rw [recordedBytes,map_append,sum_append]
  rfl

theorem committedBytes_eq_zero {out : List UsageOutput}
    (h : ∀ o∈out, o.committedFor tunnelId period=0) : committedBytes tunnelId period out=0 := by
  refine sum_eq_zero ?_
  intro n hn
  obtain ⟨o,ho,rfl⟩:=mem_map.mp hn
  exact h o ho

theorem recordedBytes_eq_zero {out : List UsageOutput}
    (h : ∀ o∈out, o.recordedFor tunnelId period=0) : recordedBytes tunnelId period out=0 := by
  refine sum_eq_zero ?_
  intro n hn
  obtain ⟨o,ho,rfl⟩:=mem_map.mp hn
  exact h o ho

theorem usageFor_append (a b : List RelayUsageSnapshot) :
    usageFor tunnelId period (a++b)=usageFor tunnelId period a+usageFor tunnelId period b := by
  rw [usageFor,map_append,sum_append]
  rfl

theorem bytesFor_item (u : RelayUsageSnapshot) : u.item.bytesFor tunnelId period =
      if u.tunnelId=tunnelId ∧ u.period=period then u.bytes.toNat else 0 := rfl

theorem usageFor_perm {a b : List RelayUsageSnapshot} (h : a.Perm b) :
    usageFor tunnelId period a=usageFor tunnelId period b :=
  (h.map _).sum_eq

theorem usageFor_of_ne {usage : List RelayUsageSnapshot} (h : ∀ u∈usage, u.tunnelId≠tunnelId) :
    usageFor tunnelId period usage=0 := by
  refine sum_eq_zero ?_
  intro n hn
  obtain ⟨u,hu,rfl⟩:=mem_map.mp hn
  exact if_neg fun hsame => h u hu hsame.1

theorem usageFor_snapshotPendingUsage (s : RelayQuotaState) :
    usageFor s.tunnelId period s.snapshotPendingUsage=s.pendingBytes period := by
  rw [pendingBytes,← sum_pairs,usageFor,snapshotPendingUsage,map_map]
  induction s.pendingUsageByPeriod.pairs with
  | nil => rfl
  | cons entry pairs ih =>
    rw [map_cons,sum_cons,← ih]
    by_cases hpos : entry.2>0
    · rw [filter_cons,if_pos (decide_eq_true hpos),map_cons,sum_cons]
      simp [bytesFor,RelayUsageSnapshot.item]
    -- an entry of no bytes is left out and counts nothing
    have hzero : entry.2.toNat=0 := by
      rw [gt_iff_lt,UInt64.lt_iff_toNat_lt,UInt64.toNat_zero] at hpos
      omega
    rw [filter_cons,if_neg (by simpa using hpos),hzero,ite_self,Nat.zero_add]

theorem mem_snapshotPendingUsage {s : RelayQuotaState} {u : RelayUsageSnapshot}
    (h : u∈s.snapshotPendingUsage) :
    u.tunnelId=s.tunnelId ∧ s.pendingUsageByPeriod.get u.period=some u.bytes ∧ u.bytes≠0 := by
  obtain ⟨entry,hent,rfl⟩:=mem_map.mp h
  obtain ⟨hmem,hpos⟩:=mem_filter.mp hent
  refine ⟨rfl,mem_pairs.mp hmem,?_⟩
  rintro hzero
  rw [decide_eq_true_eq,show entry.2=0 from hzero] at hpos
  exact absurd hpos (by decide)

theorem recordedBytes_prepared {items : List RelayUsageItem} (h : ∀ item∈items, item.Kept)
    (nextSeq : UInt64) : recordedBytes tunnelId period
        ((prepare nextSeq items).1.map fun entry => .recorded entry.1 entry.2) =
      (items.map (bytesFor tunnelId period)).sum := by
  conv_rhs => rw [← prepare_items h nextSeq]
  rw [recordedBytes,map_map,map_map]
  rfl

end Totals

namespace RelayAccounting
variable {f : WalFormat} {g : RelayAccounting} {tr : List UsageOutput} {tunnelId period : String}

section Pending
variable {now q : String} {call : RelayQuotaState → RelayQuotaState}

theorem meter_pendingBytes (now tunnelId period : String) :
    (g.meter now tunnelId).limiter.pendingBytes period=g.pending tunnelId period := by
  rw [meter,pending]
  cases g.relayQuotas.get tunnelId <;> rfl

theorem withLimiter_flush : (g.withLimiter now q call).flush=g.flush := by
  rw [withLimiter]
  split <;> rfl

theorem onLimiter_flush : (g.onLimiter q call).flush=g.flush := by
  rw [onLimiter]
  split <;> rfl

theorem withLimiter_pending : (g.withLimiter now q call).pending tunnelId period =
      if q ≠ "" ∧ tunnelId=q then (call (g.meter now q).limiter).pendingBytes period
      else g.pending tunnelId period := by
  rw [pending,withLimiter_get]
  split <;> rfl

theorem onLimiter_pending : (g.onLimiter q call).pending tunnelId period =
      if tunnelId=q then
        ((g.relayQuotas.get tunnelId).map fun meter => (call meter.limiter).pendingBytes period).getD 0
      else g.pending tunnelId period := by
  rw [pending,onLimiter_get]
  split
  · rw [Option.map_map]
    rfl
  · rfl

theorem withLimiter_pending_of_kept
    (h : ∀ s, (call s).pendingUsageByPeriod=s.pendingUsageByPeriod) :
    (g.withLimiter now q call).pending tunnelId period=g.pending tunnelId period := by
  rw [withLimiter_pending]
  split
  case isTrue hq => rw [pendingBytes_congr (h _),meter_pendingBytes,hq.2]
  case isFalse => rfl

theorem onLimiter_pending_of_kept (h : ∀ s, (call s).pendingUsageByPeriod=s.pendingUsageByPeriod) :
    (g.onLimiter q call).pending tunnelId period=g.pending tunnelId period := by
  rw [onLimiter_pending]
  split
  · rw [pending]
    simp only [pendingBytes_congr (h _)]
  · rfl

theorem hold_pending (now q : String) :
    (g.relayQuotaLimiter now q).pending tunnelId period=g.pending tunnelId period := by
  rw [relayQuotaLimiter]
  split
  · rfl
  rw [pending,get_insert]
  split
  case isTrue hq =>
    subst hq
    exact meter_pendingBytes now tunnelId period
  case isFalse => rfl

theorem drop_pending (q : String) :
    (g.dropLimiter q).pending tunnelId period=g.pending tunnelId period := by
  rw [dropLimiter]
  split
  · rfl
  case h_2 meter hmeter =>
    rw [pending,pending,get_insert]
    split
    case isTrue hq =>
      subst hq
      rw [hmeter]
      rfl
    case isFalse => rfl

theorem prune_pending (q : String) :
    (g.pruneMeter q).pending tunnelId period=g.pending tunnelId period := by
  rw [pending,pending,pruneMeter,get_removeIf]
  split
  case isTrue hq =>
    subst hq
    cases g.relayQuotas.get tunnelId with
    | none => rfl
    | some meter =>
      rw [Option.filter_some]
      split
      · rfl
      case isFalse hgone =>
        have hflush : meter.limiter.hasPendingUsage=false := by
          simp only [Bool.not_eq_true',Bool.not_eq_false,Bool.and_eq_true] at hgone
          exact hgone.2
        exact (pendingBytes_of_hasPendingUsage hflush period).symm
  case isFalse => rfl

theorem mark_kept (items : List RelayUsageBatchItem) :
    (g.markRelayUsageReported items).1.pending tunnelId period=g.pending tunnelId period ∧
      (g.markRelayUsageReported items).1.flush=g.flush := by
  induction items generalizing g with
  | nil => exact ⟨rfl,rfl⟩
  | cons item items ih =>
    obtain ⟨hpend,hfl⟩:=ih (g := g.onLimiter item.tunnelId fun s =>
      s.markUsageReported item.periodYyyymm item.bytes)
    exact ⟨hpend.trans (onLimiter_pending_of_kept fun s => s.markUsageReported_pending _ _),
      hfl.trans onLimiter_flush⟩

end Pending

/-- A meter counts for its own Tunnel, and never for the empty period. -/
def Metered (tunnelId : String) (s : RelayQuotaState) : Prop :=
  tunnelId ≠ "" ∧ s.tunnelId=tunnelId ∧ s.pendingUsageByPeriod.get "" = none

theorem LimiterCall.no_empty_period {s s' : RelayQuotaState} (h : LimiterCall s s')
    (hs : s.pendingUsageByPeriod.get "" = none) : s'.pendingUsageByPeriod.get "" = none := by
  cases h with
  | tryConsume => rwa [tryConsume_pending]
  | refund => rwa [refund_pending]
  | markUsageReported => rwa [markUsageReported_pending]
  | commitUsage hnow =>
    rw [RelayQuotaState.commitUsage]
    split
    · exact hs
    split
    · exact hs
    rw [if_neg (metered_period_ne hnow),get_insert_ne _ _ (metered_period_ne hnow).symm,
      metered_pending]
    exact hs
  | subtractPendingUsage period =>
    rw [RelayQuotaState.subtractPendingUsage]
    split
    · exact hs
    split
    · exact hs
    case h_2 pending hpend =>
      have hne : "" ≠ period := by
        rintro rfl
        rw [hs] at hpend
        cases hpend
      dsimp only
      split
      · rwa [get_remove,if_neg hne]
      · rwa [get_insert_ne _ _ hne]

theorem Metered.step (h : Meters Metered g) (e : UsageEvent) (he : Enabled g e) :
    Meters Metered (step f g e).1 := by
  refine Meters.step ?_ (fun _ q hne => ⟨hne,rfl,rfl⟩) h e he ?_
  · rintro q s s' hcall ⟨hne,hown,hemp⟩
    exact ⟨hne,hcall.settings_eq.1.trans hown,hcall.no_empty_period hemp⟩
  rintro now q period quotaBytes remainingBytes-s ⟨hne,_,_⟩
  refine ⟨hne,?_,?_⟩
  · rw [update]
    split
    · rfl
    dsimp only
    split <;> rfl
  · rwa [update_pending]

def NoWrap (tunnelId period : String) (g : RelayAccounting) : UsageEvent → Prop
  | .commit now q bytes => q=tunnelId → ((g.meter now q).limiter.metered now).period=period →
      g.pending tunnelId period+bytes.toNat<2^64
  | _ => True

structure Balanced (tunnelId period : String) (g : RelayAccounting) (tr : List UsageOutput) : Prop where
  meters : Meters Metered g
  collected : ∀ visited usage, g.flush = .collecting visited usage →
    ∀ u ∈ usage, u.tunnelId ∈ visited ∧ u.item.Kept
  taken_le : g.flush.taken tunnelId period≤g.pending tunnelId period
  balance : committedBytes tunnelId period tr+g.flush.inFlight tunnelId period =
    recordedBytes tunnelId period tr+g.pending tunnelId period

theorem commit_pending (h : Meters Metered g) {now q : String} {bytes : UInt64} (hnow : now ≠ "")
    (hwrap : NoWrap tunnelId period g (.commit now q bytes)) :
    (g.commitRelayUsage now q bytes).pending tunnelId period =
      g.pending tunnelId period+committedBytes tunnelId period (step f g (.commit now q bytes)).2 := by
  rw [commitRelayUsage,withLimiter_pending,step]
  by_cases hemp : q = ""
  · rw [if_neg (fun hq => hq.1 hemp),if_pos hemp]
    rfl
  rw [if_neg hemp]
  obtain ⟨-,hown,-⟩:=h.meter (fun _ _ hne => ⟨hne,rfl,rfl⟩) now hemp
  have hout : committedBytes tunnelId period
      [.committed q ((g.meter now q).limiter.metered now).period bytes] =
      if q=tunnelId ∧ ((g.meter now q).limiter.metered now).period=period then bytes.toNat
      else 0 := Nat.add_zero _
  rw [hout]
  by_cases hq : tunnelId=q
  · subst hq
    rw [if_pos ⟨hemp,rfl⟩,commitUsage_pendingBytes (by rwa [hown]) hnow,
      meter_pendingBytes]
    by_cases hper : period=((g.meter now tunnelId).limiter.metered now).period
    · rw [if_pos hper,if_pos ⟨rfl,hper.symm⟩,Nat.mod_eq_of_lt (hwrap rfl hper.symm)]
    · rw [if_neg hper,if_neg fun hsame => hper hsame.2.symm,Nat.add_zero]
  · grind

theorem subtract_pending (u : RelayUsageSnapshot) :
    (g.onLimiter u.tunnelId fun s => s.subtractPendingUsage u.period u.bytes).pending tunnelId period =
      g.pending tunnelId period-u.item.bytesFor tunnelId period := by
  rw [onLimiter_pending,bytesFor_item]
  by_cases hq : tunnelId=u.tunnelId
  · rw [if_pos hq,pending]
    simp only [subtractPendingUsage_pendingBytes]
    by_cases hper : period=u.period
    · rw [if_pos ⟨hq.symm,hper.symm⟩]
      cases g.relayQuotas.get tunnelId with
      | none => exact (Nat.zero_sub _).symm
      | some => simp [hper]
    · grind
  · rw [if_neg hq,if_neg fun hsame => hq hsame.1.symm,Nat.sub_zero]

theorem balanced_new (scopes : ScopePartitions) (wal : RelayUsageWal) :
    Balanced tunnelId period (new scopes wal) [] where
  meters := by
    intro q meter hget
    cases hget
  collected := fun _ _ hfl => by cases hfl
  taken_le := Nat.zero_le _
  balance := by
    rfl

namespace Balanced

section
variable (h : Balanced tunnelId period g tr)
include h

theorem quiet {g' : RelayAccounting} (hmeters : Meters Metered g')
    (hfl : g'.flush=g.flush) (hpend : g'.pending tunnelId period=g.pending tunnelId period)
    {out : List UsageOutput} (hcommit : committedBytes tunnelId period out=0)
    (hnoted : recordedBytes tunnelId period out=0) :
    Balanced tunnelId period g' (tr++out) where
  meters := hmeters
  collected := hfl ▸ h.collected
  taken_le := by
    rw [hfl,hpend]
    exact h.taken_le
  balance := by
    rw [committedBytes_append,recordedBytes_append,hcommit,hnoted,hfl,hpend]
    exact h.balance

theorem commit {now q : String} {bytes : UInt64} (hnow : now ≠ "")
    (hwrap : NoWrap tunnelId period g (.commit now q bytes)) :
    Balanced tunnelId period (g.commitRelayUsage now q bytes)
      (tr++(RelayAccounting.step f g (.commit now q bytes)).2) := by
  have hfl : (g.commitRelayUsage now q bytes).flush=g.flush := withLimiter_flush
  have hpend:=commit_pending (f := f) h.meters hnow hwrap
  have hnoted : recordedBytes tunnelId period (RelayAccounting.step f g (.commit now q bytes)).2=0 := by
    rw [RelayAccounting.step]
    split <;> rfl
  have htk:=h.taken_le
  have hbal:=h.balance
  refine ⟨Metered.step (f := f) h.meters (.commit now q bytes) hnow,hfl ▸ h.collected,?_,?_⟩
  · rw [hfl,hpend]
    omega
  rw [committedBytes_append,recordedBytes_append,hfl,hpend,hnoted]
  omega

theorem visit {q : String} {visited : List String}
    {usage : List RelayUsageSnapshot} (hfl : g.flush = .collecting visited usage)
    (hfr : q∉visited) : Balanced tunnelId period (g.visitMeter q) tr := by
  rw [visitMeter,hfl]
  cases hmeter : g.relayQuotas.get q with
  | none => exact h
  | some meter =>
    obtain ⟨hne,hown,hemp⟩:=h.meters q meter hmeter
    have hcollect:=h.collected visited usage hfl
    refine ⟨h.meters,?_,?_,?_⟩
    · rintro _ _ ⟨⟩ u hu
      rcases mem_append.mp hu with hu | hu
      · simp_all
      obtain ⟨htun,hper,hbs⟩:=mem_snapshotPendingUsage hu
      rw [hown] at htun
      refine ⟨htun ▸ .head _,?_⟩
      rintro (hzero | hnone | hnone)
      · exact hbs hzero
      · exact hne (htun.symm.trans hnone)
      rw [show u.period = "" from hnone,hemp] at hper
      cases hper
    · show usageFor tunnelId period (usage++_)≤g.pending tunnelId period
      rw [usageFor_append]
      by_cases hq : tunnelId=q
      · -- nothing of this Tunnel was read before
        subst hq
        have hbef : usageFor tunnelId period usage=0 := by
          refine usageFor_of_ne ?_
          intro u hu hsame
          exact hfr (hsame ▸ (hcollect u hu).1)
        have hread : usageFor meter.limiter.tunnelId period meter.limiter.snapshotPendingUsage =
            meter.limiter.pendingBytes period := usageFor_snapshotPendingUsage meter.limiter
        rw [hown] at hread
        rw [hbef,hread,Nat.zero_add,pending,hmeter]
        exact le_rfl
      · have hoth : usageFor tunnelId period meter.limiter.snapshotPendingUsage=0 := by
          refine usageFor_of_ne ?_
          intro u hu hsame
          rw [(mem_snapshotPendingUsage hu).1,hown] at hsame
          exact hq hsame.symm
        have htk:=h.taken_le
        rw [hfl] at htk
        rw [hoth,Nat.add_zero]
        exact htk
    · have hbal:=h.balance
      rw [hfl] at hbal
      exact hbal

theorem record {visited : List String}
    {usage : List RelayUsageSnapshot} (hfl : g.flush = .collecting visited usage)
    (fault : WriteFault) :
    Balanced tunnelId period (g.recordUsage f fault).1 (tr++(g.recordUsage f fault).2) := by
  have hbal : committedBytes tunnelId period tr+0 =
      recordedBytes tunnelId period tr+g.pending tunnelId period := by
    have hbef:=h.balance
    rwa [hfl] at hbef
  have htk:=h.taken_le
  rw [hfl] at htk
  have hperm:=mergeSort_perm usage usageLe
  have hkept : ∀ item∈(usage.mergeSort usageLe).map RelayUsageSnapshot.item, item.Kept := by
    intro item hitem
    obtain ⟨u,hu,rfl⟩:=mem_map.mp hitem
    exact (h.collected visited usage hfl u (hperm.mem_iff.mp hu)).2
  -- the flush is over, or goes on with what it has recorded
  have hidle : ∀ wal, Balanced tunnelId period { g with flush := .idle, wal := wal } (tr++[]) := by
    intro wal
    rw [append_nil]
    exact ⟨h.meters,fun _ _ hidle => (by cases hidle),Nat.zero_le _,hbal⟩
  unfold recordUsage
  rw [hfl]
  dsimp only
  split
  · exact hidle g.wal
  split
  case h_1 wal _ => exact hidle wal
  case h_2 wal _ =>
    refine ⟨h.meters,fun _ _ hnot => (by cases hnot),?_,?_⟩
    · show usageFor tunnelId period (usage.mergeSort usageLe)≤g.pending tunnelId period
      rw [usageFor_perm hperm]
      exact htk
    have hits : (((usage.mergeSort usageLe).map RelayUsageSnapshot.item).map
        (bytesFor tunnelId period)).sum =
        usageFor tunnelId period (usage.mergeSort usageLe) := by
      rw [map_map]
      rfl
    have hcommit : ∀ entries : List (UInt64 × RelayUsageItem), committedBytes tunnelId period
        (entries.map fun entry => .recorded entry.1 entry.2)=0 := by
      refine fun entries => committedBytes_eq_zero fun o ho => ?_
      obtain ⟨_,-,rfl⟩:=mem_map.mp ho
      rfl
    rw [committedBytes_append,recordedBytes_append,recordedBytes_prepared hkept,hits,hcommit]
    show _+usageFor tunnelId period (usage.mergeSort usageLe)=_+g.pending tunnelId period
    omega

theorem subtract {left : List RelayUsageSnapshot}
    (hfl : g.flush = .subtracting left) (hmeters : Meters Metered g.subtractRecorded) :
    Balanced tunnelId period g.subtractRecorded tr := by
  have hbal:=h.balance
  have htk:=h.taken_le
  rw [subtractRecorded] at *
  rw [hfl] at *
  cases left with
  | nil => exact ⟨hmeters,fun _ _ hidle => (by cases hidle),Nat.zero_le _,hbal⟩
  | cons u left =>
    have hpend : (g.onLimiter u.tunnelId fun s =>
        s.subtractPendingUsage u.period u.bytes).pending tunnelId period =
          g.pending tunnelId period-u.item.bytesFor tunnelId period := subtract_pending u
    have hspl : usageFor tunnelId period (u::left) =
        u.item.bytesFor tunnelId period+usageFor tunnelId period left := sum_cons
    simp only [FlushPhase.inFlight,FlushPhase.taken,hspl] at hbal htk
    refine ⟨hmeters,fun _ _ hnot => (by cases hnot),?_,?_⟩
    · show usageFor tunnelId period left≤(g.onLimiter _ _).pending tunnelId period
      omega
    show _+usageFor tunnelId period left=_+(g.onLimiter _ _).pending tunnelId period
    omega

theorem usageAck (throughSeq : UInt64) (fault : WriteFault)
    (compacting : CompactFault)
    (hmeters : Meters Metered (g.applyUsageAck f throughSeq fault compacting).1) :
    Balanced tunnelId period (g.applyUsageAck f throughSeq fault compacting).1
      (tr++(g.applyUsageAck f throughSeq fault compacting).2) := by
  have hkept : (g.applyUsageAck f throughSeq fault compacting).1.flush=g.flush ∧
      (g.applyUsageAck f throughSeq fault compacting).1.pending tunnelId period =
        g.pending tunnelId period := by
    rw [applyUsageAck]
    split
    · exact ⟨rfl,rfl⟩
    · exact (mark_kept _).symm
  refine h.quiet hmeters hkept.1 hkept.2 (committedBytes_eq_zero ?_) (recordedBytes_eq_zero ?_)
  all_goals
    intro o ho
    obtain ⟨_,_,rfl⟩:=reported_of_mem_usageAck ho
    rfl

theorem step (e : UsageEvent) (he : Enabled g e)
    (hwrap : NoWrap tunnelId period g e) :
    Balanced tunnelId period (RelayAccounting.step f g e).1 (tr++(RelayAccounting.step f g e).2) := by
  have hmeters:=Metered.step (f := f) h.meters e he
  have hbal:=h.balance
  cases e with
  | hold now q =>
    have hfl : (g.relayQuotaLimiter now q).flush=g.flush := by
      rw [relayQuotaLimiter]
      split <;> rfl
    exact h.quiet hmeters hfl (hold_pending now q) rfl rfl
  | drop q =>
    have hfl : (g.dropLimiter q).flush=g.flush := by
      rw [dropLimiter]
      split <;> rfl
    exact h.quiet hmeters hfl (drop_pending q) rfl rfl
  | tryConsume now q bytes =>
    exact h.quiet hmeters withLimiter_flush
      (withLimiter_pending_of_kept fun s => s.tryConsume_pending bytes) rfl rfl
  | commit => exact h.commit he hwrap
  | refund q bytes =>
    exact h.quiet hmeters onLimiter_flush
      (onLimiter_pending_of_kept fun s => s.refund_pending bytes) rfl rfl
  | applyQuota now q newPeriod quotaBytes remainingBytes =>
    exact h.quiet hmeters withLimiter_flush
      (withLimiter_pending_of_kept fun s => s.update_pending q newPeriod quotaBytes remainingBytes)
      rfl rfl
  | prune q => exact h.quiet hmeters rfl (prune_pending q) rfl rfl
  | flush =>
    have hidle : g.flush = .idle := he
    rw [hidle] at hbal
    refine ⟨hmeters,?_,Nat.zero_le _,?_⟩
    · rintro visited usage ⟨⟩ u hu
      cases hu
    rw [RelayAccounting.step,append_nil]
    exact hbal
  | visit =>
    obtain ⟨_,_,hfl,hfr⟩:=he
    rw [RelayAccounting.step,append_nil]
    exact h.visit hfl hfr
  | record fault =>
    obtain ⟨_,_,hfl⟩:=he
    exact h.record hfl fault
  | subtract =>
    obtain ⟨_,hfl⟩:=he
    rw [RelayAccounting.step,append_nil]
    exact h.subtract hfl hmeters
  | sendUsage =>
    refine h.quiet hmeters rfl rfl (committedBytes_eq_zero ?_) (recordedBytes_eq_zero ?_)
    all_goals
      intro o ho
      obtain ⟨_,-,rfl⟩:=Option.map_eq_some_iff.mp (Option.mem_toList.mp ho)
      rfl
  | usageAck throughSeq fault compacting => exact h.usageAck throughSeq fault compacting hmeters
  | replaceScopes | attach | disconnect => exact h.quiet hmeters rfl rfl rfl rfl

end

end Balanced

/-- In every interleaving: what was committed, and what a flush has between
recording and subtracting, is what was recorded and what is pending. Nothing is
recorded that was not committed, and pruning takes no pending byte away. -/
theorem usage_conserved (f : WalFormat) (scopes : ScopePartitions) (wal : RelayUsageWal)
    (tunnelId period : String) (g : RelayAccounting) (tr : List UsageOutput)
    (h : ((machine f (new scopes wal)).restrict (NoWrap tunnelId period)).Run g tr) :
    committedBytes tunnelId period tr + g.flush.inFlight tunnelId period =
        recordedBytes tunnelId period tr + g.pending tunnelId period ∧
      recordedBytes tunnelId period tr ≤ committedBytes tunnelId period tr ∧
      ∀ q, (g.pruneMeter q).pending tunnelId period = g.pending tunnelId period := by
  have hbalance : Balanced tunnelId period g tr := by
    refine h.invariant (Balanced tunnelId period) (balanced_new scopes wal) ?_
    intro s tr e hs he
    exact hs.step e he.1 he.2
  have hbal:=hbalance.balance
  have htk:=hbalance.taken_le
  have hinFlight : g.flush.inFlight tunnelId period≤g.flush.taken tunnelId period := by
    cases g.flush with
    | idle => exact le_rfl
    | collecting => exact Nat.zero_le _
    | subtracting => exact le_rfl
  exact ⟨hbal,by omega,fun q => prune_pending q⟩

/-! Five bytes on their way to the log: counted, read by a flush, recorded. -/

def countedFive : RelayAccounting :=
  ((new .empty emptyWal).step serdeJson (.commit "202608" "tun" 5)).1

def flushingFive : RelayAccounting :=
  ((countedFive.step serdeJson .flush).1.step serdeJson (.visit "tun")).1

def recordedFive : RelayAccounting := (flushingFive.step serdeJson (.record none)).1

def fiveOutputs : List UsageOutput :=
  [.committed "tun" "202608" 5,.recorded 1 ⟨"tun","202608",5⟩]

theorem recordedFive_run :
    ((machine serdeJson (new .empty emptyWal)).restrict (NoWrap "tun" "202608")).Run recordedFive
      fiveOutputs := by
  have hnew:=Machine.Run.init
    (M := (machine serdeJson (new .empty emptyWal)).restrict (NoWrap "tun" "202608"))
  have hwrap : NoWrap "tun" "202608" (new .empty emptyWal) (.commit "202608" "tun" 5) :=
    fun _ _ => by decide
  have hnow : "202608" ≠ "" := by decide
  have hcount:=hnew.next (.commit "202608" "tun" 5) ⟨hnow,hwrap⟩
    [.committed "tun" "202608" 5] (by decide)
  have hidle : countedFive.flush = .idle := by decide
  have hstart:=hcount.next (s := countedFive) .flush ⟨hidle,trivial⟩ [] rfl
  have hvisit:=hstart.next (.visit "tun") ⟨⟨[],[],rfl,not_mem_nil⟩,trivial⟩ [] rfl
  have hcollect : ∃ visited usage, flushingFive.flush = .collecting visited usage :=
    ⟨["tun"],[⟨"tun","202608",5⟩],by decide⟩
  exact hvisit.next (s := flushingFive) (.record none) ⟨hcollect,trivial⟩
    [.recorded 1 ⟨"tun","202608",5⟩] (by decide +kernel)

theorem usage_conserved_five :
    committedBytes "tun" "202608" fiveOutputs + recordedFive.flush.inFlight "tun" "202608" =
        recordedBytes "tun" "202608" fiveOutputs + recordedFive.pending "tun" "202608" ∧
      recordedBytes "tun" "202608" fiveOutputs ≤ committedBytes "tun" "202608" fiveOutputs ∧
      ∀ q, (recordedFive.pruneMeter q).pending "tun" "202608" = recordedFive.pending "tun" "202608" :=
  usage_conserved serdeJson .empty emptyWal "tun" "202608" recordedFive fiveOutputs recordedFive_run

theorem recorded_and_pending :
    ∃ g tr, (machine serdeJson (new .empty emptyWal)).Run g tr ∧
      committedBytes "tun" "202608" tr = 5 ∧ recordedBytes "tun" "202608" tr = 5 ∧
      g.pending "tun" "202608" = 5 :=
  ⟨recordedFive,fiveOutputs,recordedFive_run.of_restrict,by decide,by decide,
    by decide +kernel⟩

end RelayAccounting

end Lantunnel.Gateway
