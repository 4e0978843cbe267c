import Lantunnel.Gateway.ControlSafety
import Lantunnel.Gateway.RelayUsage
import Lantunnel.Gateway.WalJson

/-!
# Ceilings across Scope snapshots (gateway_control.rs:215-236, 655-682, tp-gateway/src/lib.rs:1169-1204)

A snapshot that lists a Tunnel without a budget means that the Tunnel has no ceiling.
-/

namespace Lantunnel.Gateway
open Lib RustStd Core RelayQuotaState

theorem quotasOf_ne {scopes : List ScopeSnapshotItem}
    (hsort : scopes.Pairwise fun a b => strLt a.tunnelId b.tunnelId=true)
    {item : ScopeSnapshotItem} (hmem : item∈scopes) (hnone : item.relayQuota=none)
    {entry : String × RelayQuotaSnapshot} (hent : entry∈quotasOf scopes) :
    entry.1≠item.tunnelId := by
  obtain ⟨_,hoth,hquota⟩:=List.mem_filterMap.mp hent
  obtain ⟨_,hsome,rfl⟩:=Option.map_eq_some_iff.mp hquota
  intro hsame
  have hdist : (scopes.map ScopeSnapshotItem.tunnelId).Nodup := by
    refine List.pairwise_map.mpr (hsort.imp ?_)
    intro a b hlt heq
    rw [heq,strLt_irrefl] at hlt
    cases hlt
  obtain rfl := List.inj_on_of_nodup_map hdist hoth hmem hsame
  rw [hnone] at hsome
  cases hsome

theorem ControlState.handleText_relayQuotas {f : ControlFormats} {p : Primitives} {c c' : ControlState}
    {text digest : String} {version : UInt8} {scopes : List ScopeSnapshotItem}
    {applied : AppliedSnapshot}
    (hfrm : f.parseFrame text=some (.scopeSnapshot version digest scopes))
    (h : c.handleText f p text=(.ok ⟨none,some applied,none⟩,c')) :
    scopes.Pairwise (fun a b => strLt a.tunnelId b.tunnelId=true) ∧
      applied.relayQuotas=quotasOf scopes := by
  unfold handleText at h
  rw [hfrm] at h
  split at h
  · cases h
  simp only [handleScopeSnapshot] at h
  cases hcheck : c.checkSnapshot f p version digest scopes with
  | error =>
    rw [hcheck] at h
    cases h
  | ok =>
    rw [hcheck] at h
    obtain ⟨⟨⟩,-,hchk⟩:=bind_eq_ok.mp hcheck
    obtain ⟨-,hchk⟩:=ite_error_eq_ok.mp hchk
    obtain ⟨⟨⟩,-,hchk⟩:=bind_eq_ok.mp hchk
    obtain ⟨hsort,-,hquota,-⟩:=validateScopeSnapshot_eq_ok hchk
    refine ⟨hsort,?_⟩
    dsimp only at h
    split at h
    · cases h
    cases h
    exact hquota

namespace RelayAccounting
variable {wf : WalFormat} {g : RelayAccounting} {tunnelId : String}

theorem prepareAppliedSnapshot_get {applied : AppliedSnapshot}
    (h : ∀ entry∈applied.relayQuotas, entry.1≠tunnelId) (now : String) :
    (g.prepareAppliedSnapshot now applied).relayQuotas.get tunnelId=g.relayQuotas.get tunnelId := by
  have hrem : ∀ (removed : List String) (g : RelayAccounting),
      (removed.foldl disconnectTunnelClients g).relayQuotas=g.relayQuotas := by
    intro removed
    induction removed with
    | nil => exact fun _ => rfl
    | cons q removed ih => exact fun g => ih _
  rw [prepareAppliedSnapshot,← hrem applied.removedTunnelIds g]
  generalize applied.removedTunnelIds.foldl disconnectTunnelClients g=g at *
  generalize applied.relayQuotas=quotas at *
  induction quotas generalizing g with
  | nil => rfl
  | cons entry quotas ih =>
    have hne : ¬ (entry.1 ≠ "" ∧ tunnelId=entry.1) :=
      fun hent => h entry (.head _) hent.2.symm
    rw [List.foldl_cons,ih _ fun other hoth => h other (.tail _ hoth),applyRelayQuota,
      withLimiter_get,if_neg hne]

abbrev NoCeiling (tunnelId : String) : RelayAccounting → Prop :=
  Meters fun q s => q=tunnelId → s.quotaBytes=0

/-- The step brings no budget for the Tunnel. -/
def NoBudget (tunnelId : String) (_ : RelayAccounting) : UsageEvent → Prop
  | .applyQuota _ q _ _ _ => q ≠ tunnelId
  | _ => True

theorem NoCeiling.tryConsume (h : NoCeiling tunnelId g) (now : String) (bytes : UInt64) :
    (g.tryConsumeRelayQuota now tunnelId bytes).1=true := by
  rw [tryConsumeRelayQuota]
  split
  · rfl
  case isFalse hne =>
    have hzero:=h.meter (fun _ _ _ _ => rfl) now hne rfl
    rw [RelayQuotaState.tryConsume,if_pos hzero]
    split <;> rfl

theorem NoCeiling.step (h : NoCeiling tunnelId g) (e : UsageEvent)
    (he : ((machine wf g).restrict (NoBudget tunnelId)).enabled g e) :
    NoCeiling tunnelId (step wf g e).1 := by
  refine Meters.step ?_ (fun _ _ _ _ => rfl) h e he.1 ?_
  · intro q s s' hcall hs hq
    rw [hcall.settings_eq.2]
    exact hs hq
  intro now q period quotaBytes remainingBytes heq s hs hq
  subst heq
  exact absurd hq he.2

theorem NoCeiling.of_run (h : NoCeiling tunnelId g) {g' : RelayAccounting} {tr : List UsageOutput}
    (hrun : ((machine wf g).restrict (NoBudget tunnelId)).Run g' tr) :
    NoCeiling tunnelId g' ∧ ∀ bytes ok, .consumed tunnelId bytes ok∈tr → ok=true := by
  refine hrun.invariant (fun g' tr => NoCeiling tunnelId g' ∧
    ∀ bytes ok, .consumed tunnelId bytes ok∈tr → ok=true) ⟨h,fun _ _ hmem => by cases hmem⟩ ?_
  rintro s tr e ⟨hs,htr⟩ he
  refine ⟨hs.step e he,?_⟩
  intro bytes ok hmem
  rcases List.mem_append.mp hmem with hmem | hmem
  · exact htr bytes ok hmem
  obtain ⟨now,-,rfl⟩:=consumed_of_mem_step hmem
  exact hs.tryConsume now bytes

theorem tryConsume_used_up {s : RelayQuotaState} (hquota : s.quotaBytes≠0)
    (hfst : (s.tryConsume (-1)).1=true) : ((s.tryConsume (-1)).2.tryConsume 1).1=false := by
  rw [tryConsume_fst hquota (by decide),decide_eq_true_eq] at hfst
  have hbd:=s.remainingBytes.toNat_lt
  have hall : s.remainingBytes.toNat=2^64-1 := by
    rw [UInt64.le_iff_toNat_le] at hfst
    have hmax : (-1 : UInt64).toNat=2^64-1 := by decide
    omega
  have hkept : (s.tryConsume (-1)).2.quotaBytes≠0 := by
    rw [(LimiterCall.tryConsume (s := s) (-1)).settings_eq.2]
    exact hquota
  rw [tryConsume_fst hkept (by decide),
    tryConsume_remaining hquota (by decide) hfst,decide_eq_false_iff_not,
    UInt64.le_iff_toNat_le,toNat_saturatingSub,hall]
  decide

theorem refused_of_ceiling (hne : tunnelId ≠ "") {meter : RelayMeter}
    (hmeter : g.relayQuotas.get tunnelId=some meter) (hquota : meter.limiter.quotaBytes≠0)
    (now : String) : ∃ g' tr, ((machine wf g).restrict (NoBudget tunnelId)).Run g' tr ∧
      ∃ bytes, .consumed tunnelId bytes false∈tr := by
  have hget : ∀ now, g.meter now tunnelId=meter := by
    intro now
    rw [RelayAccounting.meter,hmeter]
    rfl
  have hfst:=(Machine.Run.init (M := (machine wf g).restrict (NoBudget tunnelId))).step
    (.tryConsume now tunnelId (-1)) ⟨trivial,trivial⟩
  have hsnd:=hfst.step (.tryConsume now tunnelId 1) ⟨trivial,trivial⟩
  cases hok : (meter.limiter.tryConsume (-1)).1 with
  | false =>
    refine ⟨_,_,hfst,-1,List.mem_append_right _ (List.mem_singleton.mpr ?_)⟩
    have href : (g.tryConsumeRelayQuota now tunnelId (-1)).1=false := by
      rw [tryConsumeRelayQuota,if_neg hne,hget,hok]
    exact (congrArg (UsageOutput.consumed tunnelId (-1)) href).symm
  | true =>
    refine ⟨_,_,hsnd,1,List.mem_append_right _ (List.mem_singleton.mpr ?_)⟩
    have haft : ((g.tryConsumeRelayQuota now tunnelId (-1)).2.meter now tunnelId).limiter =
        (meter.limiter.tryConsume (-1)).2 := by
      rw [RelayAccounting.meter,tryConsumeRelayQuota,withLimiter_get,if_pos ⟨hne,rfl⟩,hget]
      rfl
    have href:=tryConsume_used_up hquota hok
    rw [← haft] at href
    have hnext : ((g.tryConsumeRelayQuota now tunnelId (-1)).2.tryConsumeRelayQuota now tunnelId 1).1 =
        false := by
      rw [tryConsumeRelayQuota,if_neg hne]
      exact href
    exact (congrArg (UsageOutput.consumed tunnelId 1) hnext).symm

theorem tunnelId_ne_of_run {scopes : ScopePartitions} {wal : RelayUsageWal} {tr : List UsageOutput}
    (h : (machine wf (new scopes wal)).Run g tr) : Meters (fun q _ => q ≠ "") g := by
  refine h.invariant (fun g _ => Meters (fun q _ => q ≠ "") g) ?_ ?_
  · intro q meter hget
    cases hget
  · intro g tr e hg he
    exact hg.step (fun _ _ _ _ hne => hne) (fun _ _ hne => hne) e he fun _ _ _ _ _ _ _ hne => hne

/-- After a snapshot that lists a Tunnel without a budget nothing is refused
until a budget comes, exactly if no earlier budget stands. -/
theorem listed_without_quota_iff (f : ControlFormats) (p : Primitives) (wf : WalFormat)
    (scopes : ScopePartitions) (wal : RelayUsageWal) (g : RelayAccounting) (past : List UsageOutput)
    (hg : (machine wf (new scopes wal)).Run g past) (c c' : ControlState) (text digest : String)
    (version : UInt8) (items : List ScopeSnapshotItem) (applied : AppliedSnapshot)
    (hframe : f.parseFrame text = some (.scopeSnapshot version digest items))
    (happlied : c.handleText f p text = (.ok ⟨none, some applied, none⟩, c'))
    (item : ScopeSnapshotItem) (hitem : item ∈ items) (hnone : item.relayQuota = none)
    (now : String) :
    (∀ g' tr, ((machine wf ({ g with scopes := c'.scopes }.prepareAppliedSnapshot now applied)).restrict
        (NoBudget item.tunnelId)).Run g' tr →
      ∀ bytes ok, .consumed item.tunnelId bytes ok ∈ tr → ok = true) ↔
      ∀ meter, g.relayQuotas.get item.tunnelId = some meter → meter.limiter.quotaBytes = 0 := by
  obtain ⟨hsort,hlisted⟩:=ControlState.handleText_relayQuotas hframe happlied
  have hkept : ({ g with scopes := c'.scopes }.prepareAppliedSnapshot now applied).relayQuotas.get
      item.tunnelId=g.relayQuotas.get item.tunnelId := by
    refine prepareAppliedSnapshot_get (g := { g with scopes := c'.scopes }) ?_ now
    rw [hlisted]
    exact fun entry hent => quotasOf_ne hsort hitem hnone hent
  rw [← hkept]
  constructor
  · intro hopen meter hmeter
    by_contra hquota
    have hne : item.tunnelId ≠ "" := tunnelId_ne_of_run hg _ meter (hkept ▸ hmeter)
    have hceil : ∃ g' tr, ((machine wf _).restrict (NoBudget item.tunnelId)).Run g' tr ∧
        ∃ bytes, .consumed item.tunnelId bytes false∈tr :=
      refused_of_ceiling hne hmeter hquota now
    obtain ⟨g',tr,hrun,bytes,href⟩:=hceil
    cases hopen g' tr hrun bytes false href
  · intro hzero g' tr hrun
    have hopen : NoCeiling item.tunnelId
        ({ g with scopes := c'.scopes }.prepareAppliedSnapshot now applied) := by
      rintro q meter hget rfl
      exact hzero meter hget
    exact (hopen.of_run hrun).2

end RelayAccounting

/-! The snapshot of the sample session with a budget of 10 bytes, and the one
without. -/

namespace RelayAccounting
open ControlState

def byogBudgetSnapshot : String :=
  "\x7b\"type\":\"scope_snapshot\",\"version\":2,\"digest\":\"" ++ byogDigest
    ++ "\",\"scopes\":[\x7b\"tunnel_id\":\"" ++ byogTunnelId
    ++ "\",\"tunnel_signing_public_key\":\"" ++ byogTunnelKey
    ++ "\",\"relay_quota\":\x7b\"period_yyyymm\":\"202608\",\"quota_bytes\":10"
    ++ ",\"remaining_bytes\":10\x7d\x7d]\x7d"

def budgetFormats : ControlFormats :=
  { byogFormats with
    parseFrame := fun text =>
      if text=byogBudgetSnapshot then
        some (.scopeSnapshot 2 byogDigest [⟨byogTunnelId,byogTunnelKey,some ⟨"202608",10,10⟩⟩])
      else byogFormats.parseFrame text }

def challenged : ControlState :=
  ((ControlState.new byogIdentity .empty).handleText budgetFormats byogPrimitives byogChallenge).2

def budgeted : ControlState := (challenged.handleText budgetFormats byogPrimitives byogBudgetSnapshot).2

def firstListed : ControlState := (challenged.handleText budgetFormats byogPrimitives byogSnapshot).2

def listedAgain : ControlState := (budgeted.handleText budgetFormats byogPrimitives byogSnapshot).2

def byogApplied (quotas : List (String × RelayQuotaSnapshot)) : AppliedSnapshot :=
  ⟨.gatewayState 2 byogIdentity.bootId false byogDigest,[],quotas⟩

theorem listed_without_quota_first :
    (challenged.handleText budgetFormats byogPrimitives byogSnapshot).1 =
        .ok ⟨none, some (byogApplied []), none⟩ ∧
      ∀ g' tr, ((machine serdeJson ({ new .empty emptyWal with
            scopes := firstListed.scopes }.prepareAppliedSnapshot "202608" (byogApplied []))).restrict
          (NoBudget byogTunnelId)).Run g' tr →
        ∀ bytes ok, .consumed byogTunnelId bytes ok ∈ tr → ok = true := by
  have hfrm : budgetFormats.parseFrame byogSnapshot =
      some (.scopeSnapshot 2 byogDigest [⟨byogTunnelId,byogTunnelKey,none⟩]) := by
    decide +kernel
  have happ : (challenged.handleText budgetFormats byogPrimitives byogSnapshot).1 =
      .ok ⟨none,some (byogApplied []),none⟩ := by
    decide +kernel
  have hlist : challenged.handleText budgetFormats byogPrimitives byogSnapshot =
      (.ok ⟨none,some (byogApplied []),none⟩,firstListed) := by
    rw [← happ,firstListed]
  refine ⟨happ,?_⟩
  refine (listed_without_quota_iff budgetFormats byogPrimitives serdeJson .empty emptyWal
    (new .empty emptyWal) [] .init challenged firstListed byogSnapshot byogDigest 2 _ (byogApplied [])
    hfrm hlist ⟨byogTunnelId,byogTunnelKey,none⟩ (.head _) rfl "202608").mpr ?_
  intro meter hmeter
  cases hmeter

theorem earlier_budget_stands :
    (challenged.handleText budgetFormats byogPrimitives byogBudgetSnapshot).1 =
        .ok ⟨none, some (byogApplied [(byogTunnelId, ⟨"202608", 10, 10⟩)]), none⟩ ∧
      (budgeted.handleText budgetFormats byogPrimitives byogSnapshot).1 =
        .ok ⟨none, some (byogApplied []), none⟩ ∧
      (({ { new .empty emptyWal with scopes := budgeted.scopes }.prepareAppliedSnapshot "202608"
          (byogApplied [(byogTunnelId, ⟨"202608", 10, 10⟩)]) with
          scopes := listedAgain.scopes }.prepareAppliedSnapshot "202608"
            (byogApplied [])).tryConsumeRelayQuota "202608" byogTunnelId 11).1 = false := by
  decide +kernel

end RelayAccounting

end Lantunnel.Gateway
