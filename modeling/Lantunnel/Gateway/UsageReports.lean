import Lantunnel.Gateway.RelayUsage
import Lantunnel.Gateway.WalRefinement

/-!
# Acknowledged usage is told to the limiter once (tp-gateway/src/lib.rs:304-355, 548-557, 1249-1258, gateway_control.rs:722-745)

`apply_usage_ack` tells the limiters first and the log second. The two agree as
long as the log takes every acknowledgement that it is given.
-/

namespace Lantunnel.Gateway
open Lib RustStd LineLog List

theorem Scan.chunks_replay {f : WalFormat} {s scan : Scan} {chunks : List (List Char)}
    (h : Scan.chunks f s chunks = .ok scan) :
    ∃ records : List RelayUsageWalRecord, scan.replay=records.foldl Replay.record s.replay := by
  induction chunks generalizing s with
  | nil =>
    obtain rfl := Except.ok.inj h
    exact ⟨[],rfl⟩
  | cons chunk rest ih =>
    rw [Scan.chunks] at h
    split at h
    · grind
    split at h
    case h_1 record _ =>
      obtain ⟨records,hrecs⟩:=ih h
      exact ⟨record::records,hrecs⟩
    · split at h
      · obtain rfl := Except.ok.inj h
        exact ⟨[],rfl⟩
      · cases h

theorem openWal_replay {f : WalFormat} {disk repaired : FieldCodec.Bytes} {state : RelayUsageWalState}
    (h : openWal f disk = .ok (state,repaired)) : ∃ records, state=(replay records).state := by
  obtain ⟨_,-,h⟩:=bind_eq_ok.mp h
  obtain ⟨_,hscan,h⟩:=bind_eq_ok.mp h
  obtain ⟨records,hrecs⟩:=Scan.chunks_replay hscan
  obtain ⟨rfl,-⟩:=Prod.mk.inj (Except.ok.inj h)
  exact ⟨records,by rw [hrecs]; rfl⟩

def reportsOf (item : RelayUsageBatchItem) (tr : List UsageOutput) : ℕ :=
  tr.countP fun o => match o with
    | .reported other _ => other=item
    | _ => false

section Reports
variable {item : RelayUsageBatchItem}

theorem reportsOf_append (tr out : List UsageOutput) :
    reportsOf item (tr++out)=reportsOf item tr+reportsOf item out :=
  countP_append

theorem reportsOf_eq_zero {out : List UsageOutput} (h : ∀ o∈out, ∀ change, o ≠ .reported item change) :
    reportsOf item out=0 := by
  refine countP_eq_zero.mpr ?_
  intro o ho
  cases o with
  | reported => grind
  | consumed | committed | recorded | sent => exact Bool.false_ne_true

theorem reportsOf_mark (g : RelayAccounting) (items : List RelayUsageBatchItem) :
    reportsOf item (g.markRelayUsageReported items).2=items.count item := by
  induction items generalizing g with
  | nil => rfl
  | cons other items ih =>
    rw [RelayAccounting.markRelayUsageReported,reportsOf,countP_cons,count_cons]
    congr 1
    exact ih _

end Reports

namespace RelayUsageWal
variable {f : WalFormat} {w : RelayUsageWal}

theorem append_state (bytes : FieldCodec.Bytes) (fault : WriteFault) :
    (w.append bytes fault).2.state=w.state := by
  cases fault with
  | none =>
    rw [append]
    split <;> rfl
  | some =>
    rw [append]
    split <;> rfl

theorem recordItems_state (items : List RelayUsageItem) (fault : WriteFault) :
    (w.recordItems f items fault).1=true ∧ (w.recordItems f items fault).2.state =
          w.state.recorded (prepare w.state.nextSeq items).1 (prepare w.state.nextSeq items).2 ∨
      (w.recordItems f items fault).2.state=w.state ∧
        ((w.recordItems f items fault).1=true → (prepare w.state.nextSeq items).1=[]) := by
  by_cases hnone : (prepare w.state.nextSeq items).1=[]
  · rw [recordItems_nil hnone]
    exact .inr ⟨rfl,fun _ => hnone⟩
  rw [recordItems]
  simp only [if_neg hnone]
  have hst:=w.append_state (utf8 (f.text ((prepare w.state.nextSeq items).1.map fun entry =>
    .usage entry.1 entry.2))) fault
  cases fault with
  | none => grind
  | some =>
    exact .inr ⟨hst,fun h => by cases h⟩

theorem compact_state (fault : CompactFault) : (w.compact f fault).2.state=w.state := by
  cases fault <;> rfl

theorem ack_state_of_written {throughSeq : UInt64} (h : ¬ throughSeq≤w.state.ackThrough)
    (compacting : CompactFault) :
    (w.ack f throughSeq none compacting).2.state=w.state.acked throughSeq := by
  have hst:=w.append_state (utf8 (f.text [.ack throughSeq])) none
  rw [ack,if_neg h]
  rw [append] at hst ⊢
  rw [compact_state,hst]

end RelayUsageWal

namespace RelayAccounting
variable {f : WalFormat} {g : RelayAccounting}

theorem onLimiter_wal (tunnelId : String) (call : RelayQuotaState → RelayQuotaState) :
    (g.onLimiter tunnelId call).wal=g.wal := by
  rw [onLimiter]
  split <;> rfl

theorem withLimiter_wal (now tunnelId : String) (call : RelayQuotaState → RelayQuotaState) :
    (g.withLimiter now tunnelId call).wal=g.wal := by
  rw [withLimiter]
  split <;> rfl

theorem mark_wal (items : List RelayUsageBatchItem) : (g.markRelayUsageReported items).1.wal=g.wal := by
  induction items generalizing g with
  | nil => rfl
  | cons item items ih => exact ih.trans (onLimiter_wal _ _)

section Acked
variable {state : RelayUsageWalState} {throughSeq : UInt64}

abbrev ackedItems (state : RelayUsageWalState) (throughSeq : UInt64) : List RelayUsageBatchItem :=
  (state.snapshot MAX_USAGE_ITEMS).items.filter fun item => item.seq≤throughSeq

theorem snapshot_nodup (state : RelayUsageWalState) (maxItems : ℕ) :
    (state.snapshot maxItems).items.Nodup := by
  have hsort:=(BTreeMap.toList_pairwise (m := state.unacked)).sublist (take_sublist maxItems _)
  refine pairwise_map.mpr (hsort.imp ?_)
  intro a b hlt heq
  rw [show a.1=b.1 from congrArg RelayUsageBatchItem.seq heq] at hlt
  exact lt_irrefl _ hlt

theorem throughSeq_cases (state : RelayUsageWalState) (maxItems : ℕ) :
    (state.snapshot maxItems).throughSeq=state.ackThrough ∨
      ∃ i, state.unacked[(state.snapshot maxItems).throughSeq]?=some i := by
  rw [RelayUsageWalState.snapshot]
  rw [getLast?_map]
  cases hlast : (state.unacked.toList.take maxItems).getLast? with
  | none => exact .inl rfl
  | some last =>
    have hmem:=mem_of_mem_take (mem_of_getLast? hlast)
    exact .inr ⟨last.2,BTreeMap.mem_toList.mp hmem⟩

theorem mem_ackedItems (hopen : ∀ (q : UInt64) (i : RelayUsageItem), state.unacked[q]?=some i →
      state.ackThrough.toNat<q.toNat)
    (hthr : ¬ throughSeq>(state.snapshot MAX_USAGE_ITEMS).throughSeq) {q : UInt64}
    {i : RelayUsageItem} : i.inBatch q∈ackedItems state throughSeq ↔
      state.unacked[q]?=some i ∧ q.toNat≤throughSeq.toNat := by
  rw [mem_filter,decide_eq_true_eq]
  have hseq : (i.inBatch q).seq=q := rfl
  constructor
  · rintro ⟨hmem,hle⟩
    exact ⟨BTreeMap.mem_toList.mp (mem_of_mem_take (mem_snapshot.mp hmem)),hle⟩
  rintro ⟨hget,hle⟩
  refine ⟨(mem_snapshot_iff hget (hopen q i hget) _).mpr ?_,hle⟩
  rw [gt_iff_lt,UInt64.lt_iff_toNat_lt] at hthr
  omega

end Acked

/-- The log takes the acknowledgement, if it is one; recording does not use up
the sequence numbers. -/
def AckTaken (g : RelayAccounting) : UsageEvent → Prop
  | .usageAck throughSeq fault _ => fault=none ∨ throughSeq≤g.wal.state.ackThrough ∨
      throughSeq>(g.wal.state.snapshot MAX_USAGE_ITEMS).throughSeq
  | .record _ => ∀ visited usage, g.flush = .collecting visited usage →
      g.wal.state.nextSeq.toNat+(prepare g.wal.state.nextSeq
        ((usage.mergeSort usageLe).map RelayUsageSnapshot.item)).1.length<2^64
  | _ => True

def Logged (found : BTreeMap RelayUsageItem) (tr : List UsageOutput) (q : UInt64) (i : RelayUsageItem) :
    Prop :=
  found[q]?=some i ∨ .recorded q i ∈ tr

structure Reported (found : BTreeMap RelayUsageItem) (g : RelayAccounting) (tr : List UsageOutput) :
    Prop where
  unacked : ∀ (q : UInt64) (i : RelayUsageItem), g.wal.state.unacked[q]?=some i ↔
    Logged found tr q i ∧ g.wal.state.ackThrough.toNat<q.toNat
  done : ∀ q i, Logged found tr q i → q.toNat≤g.wal.state.ackThrough.toNat →
    reportsOf (i.inBatch q) tr=1
  waiting : ∀ q i, (Logged found tr q i → g.wal.state.ackThrough.toNat<q.toNat) →
    reportsOf (i.inBatch q) tr=0
  numbers : g.wal.state.nextSeq.toNat<2^64-1 →
    g.wal.state.ackThrough.toNat<g.wal.state.nextSeq.toNat ∧
      ∀ q i, Logged found tr q i → q.toNat<g.wal.state.nextSeq.toNat

namespace Reported
variable {found : BTreeMap RelayUsageItem} {tr : List UsageOutput}

theorem start (records : List RelayUsageWalRecord) (scopes : ScopePartitions) (disk : FieldCodec.Bytes) :
    Reported (replay records).state.unacked
      (RelayAccounting.new scopes ⟨disk,true,(replay records).state⟩) [] := by
  have hlog : ∀ q i, Logged (replay records).state.unacked [] q i →
      (replay records).ackThrough.toNat<q.toNat ∧ (replay records).replayed[q]?=some i := by
    rintro q i (hget | hnone)
    · exact state_unacked.mp hget
    · cases hnone
  refine ⟨?_,?_,fun _ _ _ => rfl,?_⟩
  · intro q i
    constructor
    · intro hget
      exact ⟨.inl hget,(state_unacked.mp hget).1⟩
    rintro ⟨hget | hnone,-⟩
    · exact hget
    · cases hnone
  · intro q i hq hle
    exact absurd (hlog q i hq).1 (Nat.not_lt.mpr hle)
  · intro hleft
    have hone : (1 : UInt64).toNat=1 := rfl
    have hnext : (replay records).state.nextSeq.toNat =
        max (min (max (replay records).maxSeq.toNat (replay records).ackThrough.toNat+1)
          (2^64-1)) 1 := by
      rw [Replay.state,toNat_max,toNat_saturatingAdd,toNat_max,hone]
    have hack : (replay records).state.ackThrough=(replay records).ackThrough := rfl
    dsimp only [RelayAccounting.new] at hleft ⊢
    rw [hack]
    refine ⟨by omega,?_⟩
    intro q i hq
    have hseen:=replayed_le_maxSeq (hlog q i hq).2
    omega

section
variable (h : Reported found g tr)
include h

theorem quiet {g' : RelayAccounting} (hwal : g'.wal.state=g.wal.state)
    {out : List UsageOutput} (hnoted : ∀ q i, .recorded q i∉out)
    (hreport : ∀ item change, .reported item change∉out) : Reported found g' (tr++out) := by
  have hlogs : ∀ q i, Logged found (tr++out) q i ↔ Logged found tr q i := by
    intro q i
    rw [Logged,Logged,mem_append,or_iff_left (hnoted q i)]
  have hreps : ∀ item, reportsOf item (tr++out)=reportsOf item tr := by
    intro item
    have hnone : reportsOf item out=0 := by
      refine reportsOf_eq_zero ?_
      rintro o ho change rfl
      exact hreport item change ho
    rw [reportsOf_append,hnone,Nat.add_zero]
  refine ⟨?_,?_,?_,?_⟩
  · intro q i
    rw [hwal,hlogs]
    exact h.unacked q i
  · intro q i hq hle
    rw [hreps]
    rw [hwal] at hle
    exact h.done q i ((hlogs q i).mp hq) hle
  · intro q i hq
    rw [hreps]
    rw [hwal] at hq
    exact h.waiting q i fun hlog => hq ((hlogs q i).mpr hlog)
  · rw [hwal]
    intro hleft
    obtain ⟨hack,hlt⟩:=h.numbers hleft
    exact ⟨hack,fun q i hq => hlt q i ((hlogs q i).mp hq)⟩

theorem record {g' : RelayAccounting} {entries : List (UInt64 × RelayUsageItem)} {next : UInt64}
    (hnum : Numbered g.wal.state.nextSeq entries next)
    (hst : g'.wal.state=g.wal.state.recorded entries next) :
    Reported found g' (tr++entries.map fun entry => .recorded entry.1 entry.2) := by
  have hlogs : ∀ q i, Logged found (tr++entries.map fun entry => .recorded entry.1 entry.2) q i ↔
      Logged found tr q i ∨ (q,i)∈entries := by
    intro q i
    rw [Logged,Logged,mem_append,or_assoc]
    refine or_congr_right (or_congr_right ?_)
    constructor
    · simp
    · exact fun hmem => mem_map.mpr ⟨(q,i),hmem,rfl⟩
  have hreps : ∀ item, reportsOf item (tr++entries.map fun entry => .recorded entry.1 entry.2) =
      reportsOf item tr := by
    intro item
    have hnone : reportsOf item (entries.map fun entry => .recorded entry.1 entry.2)=0 := by
      refine reportsOf_eq_zero ?_
      rintro o ho change rfl
      obtain ⟨entry,-,heq⟩:=mem_map.mp ho
      cases heq
    rw [reportsOf_append,hnone,Nat.add_zero]
  -- a new number is past every number in use
  have hfr : ∀ q i, (q,i)∈entries → g.wal.state.ackThrough.toNat<q.toNat ∧
      ∀ j, ¬ Logged found tr q j := by
    intro q i hmem
    obtain ⟨hge,hlt⟩:=hnum.bounds hmem
    have hmax:=hnum.lt_max hmem
    obtain ⟨hack,hused⟩:=h.numbers (hge.trans_lt hmax)
    exact ⟨by omega,fun j hj => absurd (hused q j hj) (Nat.not_lt.mpr hge)⟩
  have hack : g'.wal.state.ackThrough=g.wal.state.ackThrough := by
    rw [hst]
    rfl
  refine ⟨?_,?_,?_,?_⟩
  · intro q i
    rw [hack,hlogs,hst]
    constructor
    · intro hget
      rcases get_insertAll_cases hget with hmem | ⟨hold,-⟩
      · exact ⟨.inr hmem,(hfr q i hmem).1⟩
      obtain ⟨hlog,hq⟩:=(h.unacked q i).mp hold
      exact ⟨.inl hlog,hq⟩
    · rintro ⟨hlog | hmem,hq⟩
      · have hoth : ∀ entry∈entries, entry.1≠q := by
          rintro ⟨r,j⟩ hent rfl
          exact (hfr _ j hent).2 i hlog
        exact (get_insertAll_of_not_mem hoth).trans ((h.unacked q i).mpr ⟨hlog,hq⟩)
      · exact get_insertAll_of_mem hnum.pairwise hmem
  · intro q i hq hle
    rw [hack] at hle
    rw [hreps]
    rcases (hlogs q i).mp hq with hlog | hmem
    · exact h.done q i hlog hle
    · exact absurd (hfr q i hmem).1 (Nat.not_lt.mpr hle)
  · intro q i hq
    rw [hack] at hq
    rw [hreps]
    exact h.waiting q i fun hlog => hq ((hlogs q i).mpr (.inl hlog))
  · have hseq : g'.wal.state.nextSeq=next := by
      rw [hst]
      rfl
    rw [hseq,hack]
    intro hbelow
    obtain ⟨hlt,hused⟩:=h.numbers (hnum.le.trans_lt hbelow)
    refine ⟨hlt.trans_le hnum.le,?_⟩
    intro q i hq
    rcases (hlogs q i).mp hq with hlog | hmem
    · exact (hused q i hlog).trans_le hnum.le
    · exact (hnum.bounds hmem).2

theorem acked {g' : RelayAccounting} {throughSeq : UInt64}
    {out : List UsageOutput} (hnew : ¬ throughSeq≤g.wal.state.ackThrough)
    (hthr : ¬ throughSeq>(g.wal.state.snapshot MAX_USAGE_ITEMS).throughSeq)
    (hst : g'.wal.state=g.wal.state.acked throughSeq) (hnoted : ∀ q i, .recorded q i∉out)
    (hout : ∀ item, reportsOf item out=(ackedItems g.wal.state throughSeq).count item) :
    Reported found g' (tr++out) := by
  have hnewer : g.wal.state.ackThrough.toNat<throughSeq.toNat :=
    UInt64.lt_iff_toNat_lt.mp (UInt64.not_le.mp hnew)
  have hlogs : ∀ q i, Logged found (tr++out) q i ↔ Logged found tr q i := by
    intro q i
    rw [Logged,Logged,mem_append,or_iff_left (hnoted q i)]
  have hmem : ∀ q i, i.inBatch q∈ackedItems g.wal.state throughSeq ↔
      (Logged found tr q i ∧ g.wal.state.ackThrough.toNat<q.toNat) ∧ q.toNat≤throughSeq.toNat := by
    intro q i
    rw [mem_ackedItems (fun q i hget => ((h.unacked q i).mp hget).2) hthr,h.unacked]
  have hnd : (ackedItems g.wal.state throughSeq).Nodup := (snapshot_nodup _ _).filter _
  have hack : g'.wal.state.ackThrough=throughSeq := by
    rw [hst]
    rfl
  refine ⟨?_,?_,?_,?_⟩
  · intro q i
    rw [hlogs,hack,hst,acked_unacked,h.unacked]
    constructor
    · rintro ⟨hq,hlog,-⟩
      exact ⟨hlog,hq⟩
    · grind
  · intro q i hq hle
    rw [hack] at hle
    rw [reportsOf_append,hout]
    have hlog:=(hlogs q i).mp hq
    by_cases hold : q.toNat≤g.wal.state.ackThrough.toNat
    · have hnot : i.inBatch q∉ackedItems g.wal.state throughSeq := by
        intro hmark
        exact absurd ((hmem q i).mp hmark).1.2 (Nat.not_lt.mpr hold)
      rw [h.done q i hlog hold,count_eq_zero.mpr hnot]
    · have hmark:=(hmem q i).mpr ⟨⟨hlog,Nat.lt_of_not_le hold⟩,hle⟩
      rw [h.waiting q i fun _ => Nat.lt_of_not_le hold,count_eq_one_of_mem hnd hmark]
  · intro q i hq
    rw [hack] at hq
    have hnot : i.inBatch q∉ackedItems g.wal.state throughSeq := by
      intro hmark
      obtain ⟨⟨hlog,-⟩,hle⟩:=(hmem q i).mp hmark
      exact absurd (hq ((hlogs q i).mpr hlog)) (Nat.not_lt.mpr hle)
    have hbef:=h.waiting q i fun hlog => hnewer.trans (hq ((hlogs q i).mpr hlog))
    rw [reportsOf_append,hout,hbef,count_eq_zero.mpr hnot]
  · have hseq : g'.wal.state.nextSeq=g.wal.state.nextSeq := by
      rw [hst]
      rfl
    rw [hseq,hack]
    intro hbelow
    obtain ⟨_,hused⟩:=h.numbers hbelow
    refine ⟨?_,fun q i hq => hused q i ((hlogs q i).mp hq)⟩
    rw [gt_iff_lt,UInt64.lt_iff_toNat_lt] at hthr
    rcases throughSeq_cases g.wal.state MAX_USAGE_ITEMS with hsame | ⟨i,hget⟩
    · rw [hsame] at hthr
      omega
    have hlast:=hused _ i ((h.unacked _ i).mp hget).1
    omega

theorem record_step {visited : List String}
    {usage : List RelayUsageSnapshot} (hfl : g.flush = .collecting visited usage)
    (fault : WriteFault) (hleft : g.wal.state.nextSeq.toNat+(prepare g.wal.state.nextSeq
      ((usage.mergeSort usageLe).map RelayUsageSnapshot.item)).1.length<2^64) :
    Reported found (g.recordUsage f fault).1 (tr++(g.recordUsage f fault).2) := by
  unfold recordUsage
  rw [hfl]
  dsimp only
  split
  · exact h.quiet (by rfl) (fun _ _ => not_mem_nil) fun _ _ => not_mem_nil
  have hst:=g.wal.recordItems_state (f := f)
    ((usage.mergeSort usageLe).map RelayUsageSnapshot.item) fault
  split
  case h_1 wal hres =>
    rw [hres] at hst
    rcases hst with ⟨hok,-⟩ | ⟨hsame,-⟩
    · cases hok
    · exact h.quiet hsame (fun _ _ => not_mem_nil) fun _ _ => not_mem_nil
  case h_2 wal hres =>
    rw [hres] at hst
    rcases hst with ⟨-,hnoted⟩ | ⟨hsame,hnone⟩
    · exact h.record (prepare_numbered hleft) hnoted
    rw [hnone rfl]
    exact h.quiet hsame (fun _ _ => not_mem_nil) fun _ _ => not_mem_nil

theorem ack_step (throughSeq : UInt64) (fault : WriteFault)
    (compacting : CompactFault) (htk : AckTaken g (.usageAck throughSeq fault compacting)) :
    Reported found (g.applyUsageAck f throughSeq fault compacting).1
      (tr++(g.applyUsageAck f throughSeq fault compacting).2) := by
  have hnoted : ∀ q i, .recorded q i∉(g.applyUsageAck f throughSeq fault compacting).2 := by
    intro q i hmem
    obtain ⟨item,_,heq⟩:=reported_of_mem_usageAck hmem
    cases heq
  rw [applyUsageAck] at *
  dsimp only at *
  split
  · exact h.quiet (by rfl) (fun _ _ => not_mem_nil) fun _ _ => not_mem_nil
  case isFalse hthr =>
    rw [if_neg hthr] at hnoted
    have hwal:=g.mark_wal (ackedItems g.wal.state throughSeq)
    by_cases hold : throughSeq≤g.wal.state.ackThrough
    · -- nothing of the batch is covered
      have hnone : ackedItems g.wal.state throughSeq=[] := by
        refine eq_nil_iff_forall_not_mem.mpr ?_
        rintro ⟨q,tunnelId,period,bytes⟩ hmem
        have hcover:=(mem_ackedItems (fun q i hget => ((h.unacked q i).mp hget).2) hthr
          (q := q) (i := ⟨tunnelId,period,bytes⟩)).mp hmem
        have hopen:=((h.unacked _ _).mp hcover.1).2
        rw [UInt64.le_iff_toNat_le] at hold
        omega
      rw [ackedItems] at hnone
      rw [hnone]
      refine h.quiet ?_ (fun _ _ => not_mem_nil) fun _ _ => not_mem_nil
      rw [markRelayUsageReported,RelayUsageWal.ack_old hold]
    · have hwr : fault=none :=
        htk.resolve_right (not_or.mpr ⟨hold,hthr⟩)
      subst hwr
      refine h.acked hold hthr ?_ hnoted fun item => reportsOf_mark g _
      rw [hwal]
      exact RelayUsageWal.ack_state_of_written hold compacting

theorem step (e : UsageEvent) (he : Enabled g e) (htk : AckTaken g e) :
    Reported found (RelayAccounting.step f g e).1 (tr++(RelayAccounting.step f g e).2) := by
  have hnil : ∀ {o : UsageOutput}, o∉([] : List UsageOutput) := not_mem_nil
  cases e with
  | hold now q =>
    have hwal : (g.relayQuotaLimiter now q).wal=g.wal := by
      rw [relayQuotaLimiter]
      split <;> rfl
    exact h.quiet (by rw [RelayAccounting.step,hwal]) (fun _ _ => hnil) fun _ _ => hnil
  | drop q =>
    have hwal : (g.dropLimiter q).wal=g.wal := by
      rw [dropLimiter]
      split <;> rfl
    exact h.quiet (by rw [RelayAccounting.step,hwal]) (fun _ _ => hnil) fun _ _ => hnil
  | tryConsume =>
    refine h.quiet (by exact congrArg _ (withLimiter_wal ..)) ?_ ?_
    · exact fun _ _ hmem => (by cases mem_singleton.mp hmem)
    · exact fun _ _ hmem => (by cases mem_singleton.mp hmem)
  | commit =>
    refine h.quiet (by exact congrArg _ (withLimiter_wal ..)) ?_ ?_
    all_goals
      intro _ _ hmem
      rw [RelayAccounting.step] at hmem
      split at hmem
      · exact hnil hmem
      · cases mem_singleton.mp hmem
  | refund =>
    exact h.quiet (by exact congrArg _ (onLimiter_wal ..)) (fun _ _ => hnil) fun _ _ => hnil
  | applyQuota =>
    exact h.quiet (by exact congrArg _ (withLimiter_wal ..)) (fun _ _ => hnil)
      fun _ _ => hnil
  | visit q =>
    have hwal : (g.visitMeter q).wal=g.wal := by
      rw [visitMeter]
      split <;> rfl
    exact h.quiet (by rw [RelayAccounting.step,hwal]) (fun _ _ => hnil) fun _ _ => hnil
  | record fault =>
    obtain ⟨visited,usage,hfl⟩:=he
    exact h.record_step hfl fault (htk visited usage hfl)
  | subtract =>
    have hwal : g.subtractRecorded.wal=g.wal := by
      rw [subtractRecorded]
      split
      · rfl
      · exact onLimiter_wal ..
      · rfl
    exact h.quiet (by rw [RelayAccounting.step,hwal]) (fun _ _ => hnil) fun _ _ => hnil
  | sendUsage =>
    refine h.quiet (by rfl) ?_ ?_
    all_goals
      intro _ _ hmem
      obtain ⟨_,-,heq⟩:=Option.map_eq_some_iff.mp (Option.mem_toList.mp hmem)
      cases heq
  | usageAck throughSeq fault compacting => exact h.ack_step throughSeq fault compacting htk
  | prune | replaceScopes | attach | disconnect | flush =>
    exact h.quiet (by rfl) (fun _ _ => hnil) fun _ _ => hnil

end

end Reported

/-- A report takes its bytes off the Platform's remaining bytes of its period, and
leaves those of another period alone. -/
def Subtracts (item : RelayUsageBatchItem) : Option (String × UInt64 × UInt64) → Prop
  | none => True
  | some (period,before,after) =>
    if period=item.periodYyyymm then item.bytes≤before → after.toNat+item.bytes.toNat=before.toNat
    else after=before

theorem markUsageReported_subtracts (item : RelayUsageBatchItem) (s : RelayQuotaState) :
    Subtracts item (some (s.period,s.lastPlatformRemainingBytes,
      (s.markUsageReported item.periodYyyymm item.bytes).lastPlatformRemainingBytes)) := by
  rw [Subtracts,RelayQuotaState.markUsageReported]
  by_cases hper : s.period=item.periodYyyymm
  · rw [if_pos hper,if_pos hper]
    intro hle
    rw [UInt64.le_iff_toNat_le] at hle
    by_cases hzero : item.bytes=0
    · rw [if_pos hzero,hzero]
      exact Nat.add_zero _
    rw [if_neg hzero,toNat_saturatingSub]
    omega
  · rw [if_neg hper,if_neg hper,ite_self]

theorem mark_subtracts (items : List RelayUsageBatchItem) {item : RelayUsageBatchItem}
    {change : Option (String × UInt64 × UInt64)}
    (h : .reported item change∈(g.markRelayUsageReported items).2) : Subtracts item change := by
  induction items generalizing g with
  | nil => cases h
  | cons other items ih =>
    rcases mem_cons.mp h with heq | h
    · obtain ⟨rfl,rfl⟩:=UsageOutput.reported.inj heq
      cases g.relayQuotas.get item.tunnelId with
      | none => exact trivial
      | some meter => exact markUsageReported_subtracts item meter.limiter
    · exact ih h

theorem step_subtracts {e : UsageEvent} {item : RelayUsageBatchItem}
    {change : Option (String × UInt64 × UInt64)}
    (h : .reported item change∈(RelayAccounting.step f g e).2) : Subtracts item change := by
  cases e with
  | tryConsume => cases mem_singleton.mp h
  | commit =>
    rw [step] at h
    split at h
    · cases h
    · cases mem_singleton.mp h
  | record =>
    obtain ⟨_,_,heq⟩:=recorded_of_mem_recordUsage h
    cases heq
  | sendUsage =>
    obtain ⟨_,-,heq⟩:=Option.map_eq_some_iff.mp (Option.mem_toList.mp h)
    cases heq
  | usageAck =>
    rw [step,applyUsageAck] at h
    split at h
    · cases h
    · exact mark_subtracts _ h
  | hold | drop | refund | applyQuota | replaceScopes | attach | disconnect | prune | flush | visit
  | subtract => cases h

/-- While the log takes every acknowledgement: an item of the log is told to its
limiter once if it is acknowledged and not at all if it is not, and each time the
limiter subtracts its bytes if it counts for the same period. -/
theorem reported_once (f : WalFormat) (disk repaired : FieldCodec.Bytes) (state : RelayUsageWalState)
    (hopen : openWal f disk = .ok (state, repaired)) (scopes : ScopePartitions)
    (g : RelayAccounting) (tr : List UsageOutput)
    (h : ((machine f (new scopes ⟨repaired, true, state⟩)).restrict AckTaken).Run g tr) :
    (∀ q i, Logged state.unacked tr q i →
        reportsOf (i.inBatch q) tr = if q ≤ g.wal.state.ackThrough then 1 else 0) ∧
      ∀ item change, .reported item change ∈ tr → Subtracts item change := by
  obtain ⟨records,rfl⟩:=openWal_replay hopen
  have hreport : Reported (replay records).state.unacked g tr := by
    refine h.invariant (Reported (replay records).state.unacked) (.start records scopes repaired) ?_
    intro s tr e hs he
    exact hs.step e he.1 he.2
  have hminus : ∀ item change, .reported item change∈tr → Subtracts item change := by
    refine h.invariant (fun _ tr => ∀ item change, .reported item change∈tr → Subtracts item change)
      (fun _ _ hmem => by cases hmem) ?_
    intro s tr e htr _ item change hmem
    rcases mem_append.mp hmem with hmem | hmem
    · exact htr item change hmem
    · exact step_subtracts hmem
  refine ⟨?_,hminus⟩
  intro q i hq
  by_cases hle : q≤g.wal.state.ackThrough
  · rw [if_pos hle]
    exact hreport.done q i hq (UInt64.le_iff_toNat_le.mp hle)
  rw [if_neg hle]
  exact hreport.waiting q i fun _ => UInt64.lt_iff_toNat_lt.mp (UInt64.not_le.mp hle)

/-! Five bytes of a budget of 100, recorded and acknowledged. -/

def budgetedTun : RelayAccounting :=
  ((new .empty emptyWal).step serdeJson (.applyQuota "202608" "tun" "202608" 100 100)).1

def spentTun : RelayAccounting := (budgetedTun.step serdeJson (.commit "202608" "tun" 5)).1

def collectedTun : RelayAccounting :=
  ((spentTun.step serdeJson .flush).1.step serdeJson (.visit "tun")).1

def recordedTun : RelayAccounting := (collectedTun.step serdeJson (.record none)).1

def ackedTun : RelayAccounting := (recordedTun.step serdeJson (.usageAck 1 none .none)).1

def unwrittenTun : RelayAccounting := (recordedTun.step serdeJson (.usageAck 1 (some 0) .none)).1

def retriedTun : RelayAccounting := (unwrittenTun.step serdeJson (.usageAck 1 none .none)).1

def tunItem : RelayUsageItem := ⟨"tun","202608",5⟩

def recordedOutputs : List UsageOutput := [.committed "tun" "202608" 5,.recorded 1 tunItem]

theorem recordedTun_run :
    ((machine serdeJson (new .empty emptyWal)).restrict AckTaken).Run recordedTun recordedOutputs := by
  have hnew:=Machine.Run.init (M := (machine serdeJson (new .empty emptyWal)).restrict AckTaken)
  have hbudget:=hnew.next (.applyQuota "202608" "tun" "202608" 100 100) ⟨trivial,trivial⟩ [] rfl
  have hnow : "202608" ≠ "" := by decide
  have hspent:=hbudget.next (s := budgetedTun) (.commit "202608" "tun" 5) ⟨hnow,trivial⟩
    [.committed "tun" "202608" 5] (by decide)
  have hidle : spentTun.flush = .idle := by decide
  have hstart:=hspent.next (s := spentTun) .flush ⟨hidle,trivial⟩ [] rfl
  have hvisit:=hstart.next (.visit "tun") ⟨⟨[],[],rfl,not_mem_nil⟩,trivial⟩ [] rfl
  have hcollect : collectedTun.flush = .collecting ["tun"] [⟨"tun","202608",5⟩] := by
    decide
  have hleft : AckTaken collectedTun (.record none) := by
    intro visited usage hfl
    obtain ⟨-,rfl⟩:=FlushPhase.collecting.inj hfl
    decide +kernel
  exact hvisit.next (s := collectedTun) (.record none) ⟨⟨_,_,hcollect⟩,hleft⟩
    [.recorded 1 tunItem] (by decide +kernel)

theorem reported_once_acked :
    reportsOf (tunItem.inBatch 1)
      (recordedOutputs ++ [.reported (tunItem.inBatch 1) (some ("202608", 100, 95))]) = 1 := by
  have hopen : openWal serdeJson [] = .ok ((replay []).state,[]) := by
    have hlines:=openWal_onDisk serdeJson_lawful (OnDisk.lines [])
    rwa [show serdeJson.text []=[] from rfl,utf8_nil] at hlines
  have hrun:=recordedTun_run.next (.usageAck 1 none .none) ⟨trivial,.inl rfl⟩
    [.reported (tunItem.inBatch 1) (some ("202608",100,95))] (by decide +kernel)
  have hacked : (1 : UInt64)≤ackedTun.wal.state.ackThrough := by decide +kernel
  have honce:=(reported_once serdeJson [] [] (replay []).state hopen .empty ackedTun _ hrun).1 1 tunItem
    (.inr (by decide))
  rwa [if_pos hacked] at honce

theorem retried_ack_reports_twice :
    ∃ g tr, (machine serdeJson (new .empty emptyWal)).Run g tr ∧ .recorded 1 tunItem ∈ tr ∧
      g.wal.state.ackThrough = 1 ∧ reportsOf (tunItem.inBatch 1) tr = 2 ∧
      .reported (tunItem.inBatch 1) (some ("202608", 100, 95)) ∈ tr ∧
      .reported (tunItem.inBatch 1) (some ("202608", 95, 90)) ∈ tr := by
  have hunwritten:=recordedTun_run.of_restrict.next (.usageAck 1 (some 0) .none) trivial
    [.reported (tunItem.inBatch 1) (some ("202608",100,95))] (by decide +kernel)
  have hretry:=hunwritten.next (s := unwrittenTun) (.usageAck 1 none .none) trivial
    [.reported (tunItem.inBatch 1) (some ("202608",95,90))] (by decide +kernel)
  have hacked : retriedTun.wal.state.ackThrough=1 := by decide +kernel
  exact ⟨retriedTun,_,hretry,by decide,hacked,by decide,by decide,by decide⟩

end RelayAccounting

end Lantunnel.Gateway
