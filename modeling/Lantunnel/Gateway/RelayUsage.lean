import Lantunnel.Gateway.RelayQuota
import Lantunnel.Gateway.RelayUsageWal
import Lantunnel.Gateway.Control

/-!
# Relayed bytes on their way to the Platform (tp-gateway/src/lib.rs:1125-1301, lantunnel-gateway/src/gateway_control.rs:655-745)

Relays count what they pass in the meter of their Tunnel. A flush moves the pending
bytes of every meter to the usage log, the control session sends the log to the Platform
and takes its acknowledgements and budgets.
-/

namespace Lantunnel.Gateway
open Lib RustStd

def MAX_USAGE_ITEMS : ℕ := 256

/-- An entry of `relay_quotas`; `handles` counts the clones beside the map's. -/
structure RelayMeter where
  limiter : RelayQuotaState
  handles : ℕ

/-- How far the holder of `relay_usage_flush_lock` is. -/
inductive FlushPhase
  | idle
  | collecting (visited : List String) (usage : List RelayUsageSnapshot)
  -- recorded, to be subtracted
  | subtracting (left : List RelayUsageSnapshot)
  deriving DecidableEq

structure RelayAccounting where
  relayQuotas : Table String RelayMeter
  scopes : ScopePartitions
  -- the Tunnels with attachments
  clients : List String
  flush : FlushPhase
  wal : RelayUsageWal

inductive UsageOutput
  | consumed (tunnelId : String) (bytes : UInt64) (ok : Bool)
  | committed (tunnelId period : String) (bytes : UInt64)
  -- one item of a `record_items` that returned `Ok`
  | recorded (seq : UInt64) (item : RelayUsageItem)
  | sent (frame : GatewayFrame)
  -- an item told to its limiter, if there is one: the limiter's period, and the
  -- Platform's remaining bytes before and after
  | reported (item : RelayUsageBatchItem) (change : Option (String × UInt64 × UInt64))
  deriving DecidableEq

def RelayUsageSnapshot.item (usage : RelayUsageSnapshot) : RelayUsageItem :=
  ⟨usage.tunnelId,usage.period,usage.bytes⟩

def usageLe (a b : RelayUsageSnapshot) : Bool :=
  strLt a.tunnelId b.tunnelId || (decide (a.tunnelId=b.tunnelId) && strLe a.period b.period)

namespace RelayAccounting

def new (scopes : ScopePartitions) (wal : RelayUsageWal) : RelayAccounting :=
  ⟨.empty,scopes,[],.idle,wal⟩

def emptyWal : RelayUsageWal := ⟨[],true,(replay []).state⟩

variable (g : RelayAccounting)

/-! ### Meters (lib.rs:1125-1138, 1174-1216)

`now` is the current period. -/

def meter (now tunnelId : String) : RelayMeter :=
  (g.relayQuotas.get tunnelId).getD ⟨.newUnlimitedUsageMeter now tunnelId,0⟩

/-- A call on the limiter that `relay_quota_limiter` gives. -/
def withLimiter (now tunnelId : String) (call : RelayQuotaState → RelayQuotaState) :
    RelayAccounting :=
  if tunnelId = "" then g
  else
    let meter:=g.meter now tunnelId
    { g with
      relayQuotas := g.relayQuotas.insert tunnelId { meter with limiter := call meter.limiter } }

def onLimiter (tunnelId : String) (call : RelayQuotaState → RelayQuotaState) : RelayAccounting :=
  match g.relayQuotas.get tunnelId with
  | none => g
  | some meter =>
    { g with
      relayQuotas := g.relayQuotas.insert tunnelId { meter with limiter := call meter.limiter } }

def relayQuotaLimiter (now tunnelId : String) : RelayAccounting :=
  if tunnelId = "" then g
  else
    let meter:=g.meter now tunnelId
    { g with
      relayQuotas := g.relayQuotas.insert tunnelId { meter with handles := meter.handles+1 } }

def dropLimiter (tunnelId : String) : RelayAccounting :=
  match g.relayQuotas.get tunnelId with
  | none => g
  | some meter =>
    { g with
      relayQuotas := g.relayQuotas.insert tunnelId { meter with handles := meter.handles-1 } }

def applyRelayQuota (now tunnelId period : String) (quotaBytes remainingBytes : UInt64) :
    RelayAccounting :=
  g.withLimiter now tunnelId fun s => s.update tunnelId period quotaBytes remainingBytes

def tryConsumeRelayQuota (now tunnelId : String) (bytes : UInt64) : Bool × RelayAccounting :=
  (if tunnelId = "" then true else ((g.meter now tunnelId).limiter.tryConsume bytes).1,
    g.withLimiter now tunnelId fun s => (s.tryConsume bytes).2)

def commitRelayUsage (now tunnelId : String) (bytes : UInt64) : RelayAccounting :=
  g.withLimiter now tunnelId fun s => s.commitUsage now bytes

def refundRelayQuota (tunnelId : String) (bytes : UInt64) : RelayAccounting :=
  g.onLimiter tunnelId fun s => s.refund bytes

/-! ### Removal (lib.rs:1260-1301) -/

/-- `remove_if` for one candidate of `prune_flushed_relay_usage_meters`. -/
def pruneMeter (tunnelId : String) : RelayAccounting :=
  { g with
    relayQuotas := g.relayQuotas.removeIf tunnelId fun meter =>
      !g.scopes.contains tunnelId && !g.clients.contains tunnelId && decide (meter.handles=0)
        && !meter.limiter.hasPendingUsage }

def disconnectTunnelClients (tunnelId : String) : RelayAccounting :=
  { g with clients := g.clients.filter fun client => client ≠ tunnelId }

/-! ### A flush (lib.rs:1140-1152, 1218-1247) -/

def visitMeter (tunnelId : String) : RelayAccounting :=
  match g.flush, g.relayQuotas.get tunnelId with
  | .collecting visited usage, some meter =>
    { g with
      flush := .collecting (tunnelId::visited) (usage++meter.limiter.snapshotPendingUsage) }
  | _, _ => g

def recordUsage (f : WalFormat) (fault : WriteFault) : RelayAccounting × List UsageOutput :=
  match g.flush with
  | .collecting _ usage =>
    let usage:=usage.mergeSort usageLe
    if usage=[] then ({ g with flush := .idle },[])
    else
      match g.wal.recordItems f (usage.map RelayUsageSnapshot.item) fault with
      | (false,wal) => ({ g with flush := .idle, wal := wal },[])
      | (true,wal) =>
        ({ g with flush := .subtracting usage, wal := wal },
          (prepare g.wal.state.nextSeq (usage.map RelayUsageSnapshot.item)).1.map fun entry =>
            .recorded entry.1 entry.2)
  | _ => (g,[])

def subtractRecorded : RelayAccounting :=
  match g.flush with
  | .subtracting [] => { g with flush := .idle }
  | .subtracting (usage::left) =>
    { g.onLimiter usage.tunnelId fun s => s.subtractPendingUsage usage.period usage.bytes with
      flush := .subtracting left }
  | _ => g

/-! ### The control session (lib.rs:1249-1258, gateway_control.rs:655-745) -/

/-- The budgets and removals of an applied snapshot. -/
def prepareAppliedSnapshot (now : String) (applied : AppliedSnapshot) : RelayAccounting :=
  applied.relayQuotas.foldl
    (fun g entry =>
      g.applyRelayQuota now entry.1 entry.2.periodYyyymm entry.2.quotaBytes entry.2.remainingBytes)
    (applied.removedTunnelIds.foldl disconnectTunnelClients g)

def usageSnapshot : Option GatewayFrame :=
  let batch:=g.wal.state.snapshot MAX_USAGE_ITEMS
  if batch.items=[] then none
  else
    some (.usageSnapshot CONTROL_VERSION batch.throughSeq (batch.items.map fun item =>
      ⟨item.seq,
        toString item.seq.toNat ++ ":" ++ item.periodYyyymm ++ ":" ++ item.tunnelId,
        item.tunnelId,item.periodYyyymm,item.bytes⟩))

def markRelayUsageReported (g : RelayAccounting) :
    List RelayUsageBatchItem → RelayAccounting × List UsageOutput
  | [] => (g,[])
  | item::items =>
    let mark:=fun s : RelayQuotaState => s.markUsageReported item.periodYyyymm item.bytes
    let change:=(g.relayQuotas.get item.tunnelId).map fun meter =>
      (meter.limiter.period,meter.limiter.lastPlatformRemainingBytes,
        (mark meter.limiter).lastPlatformRemainingBytes)
    let rest:=markRelayUsageReported (g.onLimiter item.tunnelId mark) items
    (rest.1,.reported item change::rest.2)

def applyUsageAck (f : WalFormat) (throughSeq : UInt64) (fault : WriteFault)
    (compacting : CompactFault) : RelayAccounting × List UsageOutput :=
  let batch:=g.wal.state.snapshot MAX_USAGE_ITEMS
  if throughSeq>batch.throughSeq then (g,[])
  else
    let acked:=batch.items.filter fun item => item.seq≤throughSeq
    let marked:=g.markRelayUsageReported acked
    ({ marked.1 with wal := (marked.1.wal.ack f throughSeq fault compacting).2 },marked.2)

end RelayAccounting

inductive UsageEvent
  | hold (now tunnelId : String)
  | drop (tunnelId : String)
  | tryConsume (now tunnelId : String) (bytes : UInt64)
  | commit (now tunnelId : String) (bytes : UInt64)
  | refund (tunnelId : String) (bytes : UInt64)
  | applyQuota (now tunnelId period : String) (quotaBytes remainingBytes : UInt64)
  -- a Scope snapshot or a static reload
  | replaceScopes (scopes : ScopePartitions)
  | attach (tunnelId : String)
  -- all attachments, or the last one
  | disconnect (tunnelId : String)
  | prune (tunnelId : String)
  | flush
  | visit (tunnelId : String)
  | record (fault : WriteFault)
  | subtract
  | sendUsage
  | usageAck (throughSeq : UInt64) (fault : WriteFault) (compacting : CompactFault)

namespace RelayAccounting

/-- A period is never empty, a clone is dropped by who holds it, the lock lets
one flush in, and an iteration meets each key once. -/
def Enabled (g : RelayAccounting) : UsageEvent → Prop
  | .commit now _ _ => now ≠ ""
  | .drop tunnelId => ∃ meter, g.relayQuotas.get tunnelId=some meter ∧ 0< meter.handles
  | .flush => g.flush = .idle
  | .visit tunnelId => ∃ visited usage, g.flush = .collecting visited usage ∧ tunnelId ∉ visited
  | .record _ => ∃ visited usage, g.flush = .collecting visited usage
  | .subtract => ∃ left, g.flush = .subtracting left
  | _ => True

def step (f : WalFormat) (g : RelayAccounting) : UsageEvent → RelayAccounting × List UsageOutput
  | .hold now tunnelId => (g.relayQuotaLimiter now tunnelId,[])
  | .drop tunnelId => (g.dropLimiter tunnelId,[])
  | .tryConsume now tunnelId bytes =>
    let (ok,next):=g.tryConsumeRelayQuota now tunnelId bytes
    (next,[.consumed tunnelId bytes ok])
  | .commit now tunnelId bytes =>
    (g.commitRelayUsage now tunnelId bytes,
      if tunnelId = "" then []
      else [.committed tunnelId ((g.meter now tunnelId).limiter.metered now).period bytes])
  | .refund tunnelId bytes => (g.refundRelayQuota tunnelId bytes,[])
  | .applyQuota now tunnelId period quotaBytes remainingBytes =>
    (g.applyRelayQuota now tunnelId period quotaBytes remainingBytes,[])
  | .replaceScopes scopes => ({ g with scopes := scopes },[])
  | .attach tunnelId => ({ g with clients := tunnelId::g.clients },[])
  | .disconnect tunnelId => (g.disconnectTunnelClients tunnelId,[])
  | .prune tunnelId => (g.pruneMeter tunnelId,[])
  | .flush => ({ g with flush := .collecting [] [] },[])
  | .visit tunnelId => (g.visitMeter tunnelId,[])
  | .record fault => g.recordUsage f fault
  | .subtract => (g.subtractRecorded,[])
  | .sendUsage => (g,(g.usageSnapshot.map UsageOutput.sent).toList)
  | .usageAck throughSeq fault compacting => g.applyUsageAck f throughSeq fault compacting

def machine (f : WalFormat) (init : RelayAccounting) :
    Machine RelayAccounting UsageEvent UsageOutput where
  init := init
  enabled := Enabled
  step := step f

/-- The calls a limiter takes, budgets apart. -/
inductive LimiterCall (s : RelayQuotaState) : RelayQuotaState → Prop
  | tryConsume (bytes : UInt64) : LimiterCall s (s.tryConsume bytes).2
  | commitUsage {now : String} (hnow : now ≠ "") (bytes : UInt64) :
    LimiterCall s (s.commitUsage now bytes)
  | refund (bytes : UInt64) : LimiterCall s (s.refund bytes)
  | subtractPendingUsage (period : String) (bytes : UInt64) :
    LimiterCall s (s.subtractPendingUsage period bytes)
  | markUsageReported (period : String) (bytes : UInt64) :
    LimiterCall s (s.markUsageReported period bytes)

theorem LimiterCall.settings_eq {s s' : RelayQuotaState} (h : LimiterCall s s') :
    s'.tunnelId=s.tunnelId ∧ s'.quotaBytes=s.quotaBytes := by
  cases h with
  | tryConsume =>
    rw [RelayQuotaState.tryConsume]
    split_ifs <;> exact ⟨rfl,rfl⟩
  | commitUsage =>
    dsimp only [RelayQuotaState.commitUsage,RelayQuotaState.metered]
    split_ifs <;> exact ⟨rfl,rfl⟩
  | refund =>
    rw [RelayQuotaState.refund]
    split_ifs <;> exact ⟨rfl,rfl⟩
  | subtractPendingUsage =>
    rw [RelayQuotaState.subtractPendingUsage]
    split
    · exact ⟨rfl,rfl⟩
    · split <;> exact ⟨rfl,rfl⟩
  | markUsageReported =>
    rw [RelayQuotaState.markUsageReported]
    split_ifs <;> exact ⟨rfl,rfl⟩

def Meters (P : String → RelayQuotaState → Prop) (g : RelayAccounting) : Prop :=
  ∀ tunnelId meter, g.relayQuotas.get tunnelId=some meter → P tunnelId meter.limiter

section Meters
variable {P : String → RelayQuotaState → Prop} {g : RelayAccounting} {f : WalFormat}
  {now tunnelId : String} {call : RelayQuotaState → RelayQuotaState}

theorem visitMeter_relayQuotas (tunnelId : String) :
    (g.visitMeter tunnelId).relayQuotas=g.relayQuotas := by
  rw [visitMeter]
  split <;> rfl

theorem recordUsage_relayQuotas (fault : WriteFault) :
    (g.recordUsage f fault).1.relayQuotas=g.relayQuotas := by
  unfold recordUsage
  split
  · dsimp only
    split
    · rfl
    · split <;> rfl
  · rfl

theorem withLimiter_get (q : String) : (g.withLimiter now tunnelId call).relayQuotas.get q =
      if tunnelId ≠ "" ∧ q=tunnelId then
        some { g.meter now tunnelId with limiter := call (g.meter now tunnelId).limiter }
      else g.relayQuotas.get q := by
  rw [withLimiter]
  by_cases hemp : tunnelId = ""
  · rw [if_pos hemp,if_neg (fun h => h.1 hemp)]
  rw [if_neg hemp]
  rw [Table.get_insert]
  by_cases hq : q=tunnelId
  · rw [if_pos hq,if_pos ⟨hemp,hq⟩]
  · rw [if_neg hq,if_neg (fun h => hq h.2)]

theorem onLimiter_get (q : String) : (g.onLimiter tunnelId call).relayQuotas.get q =
      if q=tunnelId then
        (g.relayQuotas.get q).map fun meter => { meter with limiter := call meter.limiter }
      else g.relayQuotas.get q := by
  rw [onLimiter]
  split
  case h_1 hget => simp_all
  case h_2 meter hget =>
    rw [Table.get_insert]
    split
    · rw [‹q=tunnelId›,hget]
      rfl
    · rfl

theorem pruneMeter_get {meter : RelayMeter} {q : String}
    (h : (g.pruneMeter tunnelId).relayQuotas.get q=some meter) :
    g.relayQuotas.get q=some meter := by
  rw [pruneMeter,Table.get_removeIf] at h
  split at h
  · simp_all
  · exact h

theorem Meters.of_relayQuotas (h : Meters P g) {g' : RelayAccounting}
    (heq : g'.relayQuotas=g.relayQuotas) : Meters P g' := by
  intro q meter hget
  rw [heq] at hget
  exact h q meter hget

theorem Meters.onLimiter (h : Meters P g) (hcall : ∀ s, P tunnelId s → P tunnelId (call s)) :
    Meters P (g.onLimiter tunnelId call) := by
  intro q meter hget
  rw [onLimiter_get] at hget
  split at hget
  · obtain ⟨before,hbef,rfl⟩:=Option.map_eq_some_iff.mp hget
    subst q
    exact hcall _ (h _ before hbef)
  · exact h q meter hget

section Created
variable (hnew : ∀ now tunnelId, tunnelId ≠ "" → P tunnelId (.newUnlimitedUsageMeter now tunnelId))
include hnew

theorem Meters.meter (h : Meters P g) (now : String) (hne : tunnelId ≠ "") :
    P tunnelId (g.meter now tunnelId).limiter := by
  rw [RelayAccounting.meter]
  cases hget : g.relayQuotas.get tunnelId with
  | none => exact hnew now tunnelId hne
  | some meter => exact h tunnelId meter hget

theorem Meters.withLimiter (h : Meters P g) (now : String)
    (hcall : ∀ s, P tunnelId s → P tunnelId (call s)) :
    Meters P (g.withLimiter now tunnelId call) := by
  intro q meter hget
  rw [withLimiter_get] at hget
  split at hget
  case isTrue hq =>
    obtain ⟨hne,rfl⟩:=hq
    cases hget
    exact hcall _ (h.meter hnew now hne)
  case isFalse => exact h q meter hget

theorem Meters.hold (h : Meters P g) (now tunnelId : String) :
    Meters P (g.relayQuotaLimiter now tunnelId) := by
  intro q meter hget
  rw [relayQuotaLimiter] at hget
  split at hget
  · exact h q meter hget
  case isFalse hne =>
    rcases Table.get_of_get_insert hget with hget | ⟨rfl,rfl⟩
    · exact h q meter hget
    · exact h.meter hnew now hne

end Created

theorem Meters.drop (h : Meters P g) (tunnelId : String) : Meters P (g.dropLimiter tunnelId) := by
  intro q meter hget
  rw [dropLimiter] at hget
  split at hget
  · exact h q meter hget
  case h_2 before hbef =>
    rcases Table.get_of_get_insert hget with hget | ⟨rfl,rfl⟩
    · exact h q meter hget
    · exact h q before hbef

section Calls
variable (hcall : ∀ tunnelId s s', LimiterCall s s' → P tunnelId s → P tunnelId s')
include hcall

theorem Meters.mark (h : Meters P g) (items : List RelayUsageBatchItem) :
    Meters P (g.markRelayUsageReported items).1 := by
  induction items generalizing g with
  | nil => exact h
  | cons item items ih => exact ih (h.onLimiter fun s => hcall _ _ _ (.markUsageReported ..))

theorem Meters.subtract (h : Meters P g) : Meters P g.subtractRecorded := by
  rw [subtractRecorded]
  split
  · exact h
  · exact (h.onLimiter fun s => hcall _ _ _ (.subtractPendingUsage ..)).of_relayQuotas rfl
  · exact h

theorem Meters.usageAck (h : Meters P g) (throughSeq : UInt64) (fault : WriteFault)
    (compacting : CompactFault) : Meters P (g.applyUsageAck f throughSeq fault compacting).1 := by
  rw [applyUsageAck]
  split
  · exact h
  · exact (h.mark hcall _).of_relayQuotas rfl

theorem Meters.step (hnew : ∀ now tunnelId, tunnelId ≠ "" →
      P tunnelId (.newUnlimitedUsageMeter now tunnelId))
    (h : Meters P g) (e : UsageEvent) (he : Enabled g e)
    (hquota : ∀ now tunnelId period quotaBytes remainingBytes,
      e = .applyQuota now tunnelId period quotaBytes remainingBytes →
      ∀ s, P tunnelId s → P tunnelId (s.update tunnelId period quotaBytes remainingBytes)) :
    Meters P (step f g e).1 := by
  cases e with
  | hold now tunnelId => exact h.hold hnew now tunnelId
  | drop tunnelId => exact h.drop tunnelId
  | tryConsume now tunnelId bytes =>
    exact h.withLimiter hnew now fun s => hcall _ _ _ (.tryConsume bytes)
  | commit now tunnelId bytes =>
    exact h.withLimiter hnew now fun s => hcall _ _ _ (.commitUsage he bytes)
  | refund tunnelId bytes => exact h.onLimiter fun s => hcall _ _ _ (.refund bytes)
  | applyQuota now =>
    exact h.withLimiter hnew now (hquota _ _ _ _ _ rfl)
  | prune => exact fun q meter hget => h q meter (pruneMeter_get hget)
  | visit tunnelId => exact h.of_relayQuotas (visitMeter_relayQuotas tunnelId)
  | record fault => exact h.of_relayQuotas (recordUsage_relayQuotas fault)
  | subtract => exact h.subtract hcall
  | usageAck throughSeq fault compacting => exact h.usageAck hcall throughSeq fault compacting
  | replaceScopes | attach | disconnect | flush | sendUsage => exact h

end Calls

end Meters

section Outputs
variable {f : WalFormat} {g : RelayAccounting} {o : UsageOutput}

theorem recorded_of_mem_recordUsage {fault : WriteFault} (h : o∈(g.recordUsage f fault).2) :
    ∃ seq item, o = .recorded seq item := by
  unfold recordUsage at h
  split at h
  · grind
  · cases h

theorem reported_of_mem_mark {items : List RelayUsageBatchItem}
    (h : o∈(g.markRelayUsageReported items).2) : ∃ item change, o = .reported item change := by
  induction items generalizing g with
  | nil => cases h
  | cons item items ih =>
    rcases List.mem_cons.mp h with rfl | h
    · exact ⟨item,_,rfl⟩
    · exact ih h

theorem reported_of_mem_usageAck {throughSeq : UInt64} {fault : WriteFault}
    {compacting : CompactFault} (h : o∈(g.applyUsageAck f throughSeq fault compacting).2) :
    ∃ item change, o = .reported item change := by
  unfold applyUsageAck at h
  dsimp only at h
  split at h
  · cases h
  · exact reported_of_mem_mark h

theorem consumed_of_mem_step {e : UsageEvent} {tunnelId : String} {bytes : UInt64} {ok : Bool}
    (h : .consumed tunnelId bytes ok∈(step f g e).2) :
    ∃ now, e = .tryConsume now tunnelId bytes ∧ ok=(g.tryConsumeRelayQuota now tunnelId bytes).1 := by
  cases e with
  | tryConsume now =>
    cases List.mem_singleton.mp h
    exact ⟨now,rfl,rfl⟩
  | commit =>
    simp only [step] at h
    split at h
    · cases h
    · cases List.mem_singleton.mp h
  | record =>
    obtain ⟨_,_,ho⟩:=recorded_of_mem_recordUsage h
    cases ho
  | usageAck =>
    obtain ⟨_,_,ho⟩:=reported_of_mem_usageAck h
    cases ho
  | sendUsage =>
    obtain ⟨_,-,ho⟩:=Option.map_eq_some_iff.mp (Option.mem_toList.mp h)
    cases ho
  | hold | drop | refund | applyQuota | replaceScopes | attach | disconnect | prune | flush | visit
  | subtract => cases h

end Outputs

end RelayAccounting

end Lantunnel.Gateway
