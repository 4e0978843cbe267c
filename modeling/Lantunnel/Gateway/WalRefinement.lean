import Lantunnel.Gateway.WalRecovery

/-!
# The usage log and the memory of its process (tp-gateway/src/lib.rs:151-355)

Without faults the file and the memory are one state: opening the file at any moment
gives exactly what the process remembers.
-/

namespace Lantunnel.Gateway
open Lib RustStd LineLog List WalRun WalOutput RelayUsageWal BTreeMap

def NoFaults : WalEvent → Prop
  | .record _ fault => fault=none
  | .ack _ fault compacting => fault=none ∧ compacting = .none
  | .snapshot _ | .reopen => True

/-- The items of a call do not use up the sequence numbers. -/
def NumbersLeft (s : WalRun) : WalEvent → Prop
  | .record items _ =>
    s.wal.state.nextSeq.toNat+(prepare s.wal.state.nextSeq items).1.length<2^64
  | _ => True

def WalOutput.recordedSeq : WalOutput → Option UInt64
  | .recorded seq _ => some seq
  | _ => none

def RelayUsageItem.inBatch (item : RelayUsageItem) (seq : UInt64) : RelayUsageBatchItem :=
  ⟨seq,item.tunnelId,item.periodYyyymm,item.bytes⟩

section Snapshot
variable {state : RelayUsageWalState}

theorem mem_snapshot {maxItems : ℕ} {seq : UInt64} {item : RelayUsageItem} :
    item.inBatch seq∈(state.snapshot maxItems).items ↔
      (seq,item)∈state.unacked.toList.take maxItems := by
  constructor
  · intro h
    obtain ⟨entry,hent,heq⟩:=mem_map.mp h
    obtain ⟨_,_,_,_⟩:=RelayUsageBatchItem.mk.inj heq
    have hsame : entry=(seq,item) := by
      obtain ⟨_,_,_,_⟩:=entry
      simp_all
    exact hsame ▸ hent
  · intro h
    exact mem_map.mpr ⟨(seq,item),h,rfl⟩

theorem mem_take_iff_le_last {l : List (UInt64 × RelayUsageItem)}
    (hsort : l.Pairwise fun a b => a.1.toNat<b.1.toNat) {n : ℕ}
    {last entry : UInt64 × RelayUsageItem} (hlast : (l.take n).getLast?=some last)
    (hent : entry∈l) : entry∈l.take n ↔ entry.1.toNat≤last.1.toNat := by
  obtain ⟨front,hfront⟩:=getLast?_eq_some_iff.mp hlast
  have hspl:=take_append_drop n l
  rw [← hspl,hfront] at hsort
  obtain ⟨hbef,-,hbehind⟩:=pairwise_append.mp hsort
  constructor
  · intro hmem
    rw [hfront] at hmem
    rcases mem_append.mp hmem with hmem | hmem
    · exact ((pairwise_append.mp hbef).2.2 entry hmem last (mem_singleton.mpr rfl)).le
    · rw [mem_singleton.mp hmem]
  · intro hle
    rw [← hspl] at hent
    rcases mem_append.mp hent with hmem | hmem
    · exact hmem
    have hlt:=hbehind last (mem_append_right front (mem_singleton.mpr rfl)) entry hmem
    omega

theorem mem_snapshot_iff {seq : UInt64} {item : RelayUsageItem} (hget : state.unacked[seq]?=some item)
    (hack : state.ackThrough.toNat<seq.toNat) (maxItems : ℕ) :
    item.inBatch seq∈(state.snapshot maxItems).items ↔
      seq.toNat≤(state.snapshot maxItems).throughSeq.toNat := by
  have hmem : (seq,item)∈state.unacked.toList := mem_toList.mpr hget
  have hthr : (state.snapshot maxItems).throughSeq =
      ((state.unacked.toList.take maxItems).getLast?.map Prod.fst).getD state.ackThrough := by
    simp only [RelayUsageWalState.snapshot,getLast?_map,Option.map_map]
    rfl
  rw [mem_snapshot,hthr]
  cases hlast : (state.unacked.toList.take maxItems).getLast? with
  | none => grind
  | some => exact mem_take_iff_le_last toList_pairwise hlast hmem

end Snapshot

/-- `Recoverable`, with nothing on disk that memory does not know, and what was
shown and acknowledged so far. -/
structure Mirrored (f : WalFormat) (records : List RelayUsageWalRecord) (s : WalRun)
    (tr : List WalOutput) : Prop where
  recoverable : Recoverable f records s tr
  attached : s.wal.attached=true
  disk : s.wal.disk=utf8 (f.text records)
  ackThrough_eq : (replay records).ackThrough=s.wal.state.ackThrough
  maxSeq_lt : (replay records).maxSeq.toNat<s.wal.state.nextSeq.toNat
  unacked_gt : ∀ (q : UInt64) (i : RelayUsageItem), s.wal.state.unacked[q]?=some i →
    s.wal.state.ackThrough.toNat<q.toNat
  recorded_lt : ∀ (q : UInt64) (i : RelayUsageItem), .recorded q i ∈ tr →
    q.toNat<s.wal.state.nextSeq.toNat
  ok : ∀ q i, .unrecorded q i ∉ tr
  ordered : (tr.filterMap WalOutput.recordedSeq).Pairwise fun a b => a.toNat<b.toNat
  batches : ∀ batch, .returned batch ∈ tr →
    batch.throughSeq.toNat<s.wal.state.nextSeq.toNat ∧
      (∀ item ∈ batch.items, item.seq.toNat<s.wal.state.nextSeq.toNat) ∧
      ∀ (q : UInt64) (i : RelayUsageItem), s.wal.state.unacked[q]?=some i →
        (i.inBatch q ∈ batch.items ↔ q.toNat≤batch.throughSeq.toNat)
  acked_le : ∀ q : UInt64, .acked q ∈ tr → q.toNat≤ s.wal.state.ackThrough.toNat
  ackThrough_acked : s.wal.state.ackThrough=0 ∨ .acked s.wal.state.ackThrough ∈ tr

namespace Mirrored
variable {f : WalFormat} {records : List RelayUsageWalRecord} {s : WalRun} {tr : List WalOutput}

theorem start (f : WalFormat) : Mirrored f [] WalRun.start [] where
  recoverable := .start f
  attached := rfl
  disk := utf8_nil.symm
  ackThrough_eq := rfl
  maxSeq_lt := by
    exact Nat.one_pos
  unacked_gt := by
    intro q i h
    simp [WalRun.start,replay,Replay.empty,Replay.state] at h
  recorded_lt := nofun
  ok := nofun
  ordered := .nil
  batches := nofun
  acked_le := nofun
  ackThrough_acked := .inl rfl

theorem state_eq (h : Mirrored f records s tr) : (replay records).state=s.wal.state := by
  obtain ⟨_,_⟩:=h.recoverable.nextSeq_replay
  have hlt:=h.recoverable.ackThrough_lt
  have hmax:=h.maxSeq_lt
  have hack:=h.ackThrough_eq
  have hseq : (replay records).state.nextSeq=s.wal.state.nextSeq := by
    apply UInt64.toNat_inj.mp
    omega
  have hunacked : (replay records).state.unacked=s.wal.state.unacked := by
    apply Std.ExtTreeMap.ext_getElem?
    intro q
    apply Option.ext
    intro i
    rw [state_unacked]
    constructor
    · rintro ⟨hq,hget⟩
      exact (h.recoverable.found q i hq hget).resolve_right (h.ok q i)
    intro hget
    have hq : (replay records).ackThrough.toNat<q.toNat := by
      rw [hack]
      exact h.unacked_gt q i hget
    exact ⟨hq,h.recoverable.stored q i hq hget⟩
  have hackState : (replay records).state.ackThrough=s.wal.state.ackThrough := hack
  cases hst : (replay records).state
  cases hwal : s.wal.state
  simp only [hst,hwal] at hseq hunacked hackState
  rw [hseq,hunacked,hackState]

theorem snapshot (h : Mirrored f records s tr) (maxItems : ℕ) :
    Mirrored f records (s.step f (.snapshot maxItems)).1
      (tr++(s.step f (.snapshot maxItems)).2) := by
  have hnext:=h.recoverable.snapshot maxItems
  refine
    { recoverable := hnext, attached := h.attached, disk := h.disk, ackThrough_eq := h.ackThrough_eq
      maxSeq_lt := h.maxSeq_lt
      unacked_gt := h.unacked_gt
      recorded_lt := ?_
      ok := ?_
      ordered := ?_
      batches := ?_
      acked_le := ?_
      ackThrough_acked := h.ackThrough_acked.imp_right (mem_append_left _) }
  · exact fun q i hmem => h.recorded_lt q i (mem_before hmem (by simp [WalRun.step]))
  · exact fun q i hmem => h.ok q i (mem_before hmem (by simp [WalRun.step]))
  · have hnone : (s.step f (.snapshot maxItems)).2.filterMap recordedSeq=[] := rfl
    rw [filterMap_append,hnone,append_nil]
    exact h.ordered
  · intro batch hmem
    rcases mem_append.mp hmem with hmem | hmem
    · exact h.batches batch hmem
    obtain rfl := returned.inj (mem_singleton.mp hmem)
    refine ⟨hnext.returned_lt _ (mem_cons_self ..),?_,?_⟩
    · intro item hitem
      obtain ⟨entry,hent,rfl⟩:=mem_map.mp hitem
      exact h.recoverable.unacked_lt entry.1 entry.2
        (mem_toList.mp (mem_of_mem_take hent))
    · intro q i hget
      exact mem_snapshot_iff hget (h.unacked_gt q i hget) maxItems
  · exact fun q hmem => h.acked_le q (mem_before hmem (by simp [WalRun.step]))

theorem reopen (hf : f.Lawful) (h : Mirrored f records s tr) : s.step f .reopen=(s,[]) := by
  have hopen:=openWal_onDisk hf h.recoverable.disk
  rw [h.state_eq,← h.disk] at hopen
  simp only [WalRun.step,hopen,← h.attached]

theorem recordedSeq_prepared (prepared : List (UInt64 × RelayUsageItem)) :
    (prepared.map fun entry => recorded entry.1 entry.2).filterMap recordedSeq =
      prepared.map Prod.fst := by
  rw [filterMap_map]
  show prepared.filterMap (some ∘ Prod.fst)=_
  rw [filterMap_eq_map]

section
variable (h : Mirrored f records s tr)
include h

theorem record (items : List RelayUsageItem) (hleft : NumbersLeft s (.record items none)) :
    ∃ records', Mirrored f records' (s.step f (.record items none)).1
      (tr++(s.step f (.record items none)).2) := by
  by_cases hnone : (prepare s.wal.state.nextSeq items).1=[]
  · refine ⟨records,?_⟩
    simp only [WalRun.step,recordItems_nil hnone]
    rw [hnone,map_nil,append_nil]
    exact h
  · have hnum:=prepare_numbered hleft
    refine ⟨records++usages (prepare s.wal.state.nextSeq items).1,?_⟩
    simp only [WalRun.step,recordItems_ok h.attached hnone,if_true]
    generalize (prepare s.wal.state.nextSeq items).1=prepared at *
    generalize (prepare s.wal.state.nextSeq items).2=nextSeq at *
    have honDisk:=OnDisk.append (f := f) records (usages prepared)
    rw [← h.disk] at honDisk
    have hreply:=replay_usages records prepared
    have hack:=h.recoverable.ackThrough_lt
    rw [h.ackThrough_eq] at hack
    have hnew : ∀ o∈prepared.map (fun entry => recorded entry.1 entry.2),
        ∃ entry∈prepared, o = .recorded entry.1 entry.2 := by
      intro o ho
      obtain ⟨entry,hent,rfl⟩:=mem_map.mp ho
      exact ⟨entry,hent,rfl⟩
    refine
      { recoverable := h.recoverable.record_ok hnone hnum honDisk, attached := h.attached, disk := ?_
        ackThrough_eq := by rw [hreply]; exact h.ackThrough_eq
        maxSeq_lt := ?_
        unacked_gt := ?_
        recorded_lt := ?_
        ok := ?_
        ordered := ?_
        batches := ?_
        acked_le := ?_
        ackThrough_acked := h.ackThrough_acked.imp_right (mem_append_left _) }
    · rw [WalFormat.text_append,utf8_append,h.disk]
    · rw [hreply]
      exact foldl_max_le (h.maxSeq_lt.trans_le hnum.le) fun entry hent => (hnum.bounds hent).2
    · intro q i hget
      rcases get_insertAll_cases hget with hmem | ⟨hget,-⟩
      · exact hack.trans_le (hnum.bounds hmem).1
      · exact h.unacked_gt q i hget
    · intro q i hmem
      rcases mem_append.mp hmem with hmem | hmem
      · exact (h.recorded_lt q i hmem).trans_le hnum.le
      obtain ⟨entry,hent,heq⟩:=hnew _ hmem
      cases heq
      exact (hnum.bounds hent).2
    · intro q i hmem
      rcases mem_append.mp hmem with hmem | hmem
      · exact h.ok q i hmem
      obtain ⟨entry,-,heq⟩:=hnew _ hmem
      cases heq
    · rw [filterMap_append,recordedSeq_prepared]
      refine pairwise_append.mpr ⟨h.ordered,pairwise_map.mpr hnum.pairwise,?_⟩
      intro a ha b hb
      obtain ⟨o,ho,hseq⟩:=mem_filterMap.mp ha
      obtain ⟨_,hent,rfl⟩:=mem_map.mp hb
      cases o with
      | recorded seq item =>
        obtain rfl := Option.some.inj hseq
        exact (h.recorded_lt seq item ho).trans_le (hnum.bounds hent).1
      | _ => cases hseq
    · intro batch hmem
      rcases mem_append.mp hmem with hmem | hmem
      · obtain ⟨hthr,hits,hshown⟩:=h.batches batch hmem
        refine ⟨hthr.trans_le hnum.le,fun item hitem => (hits item hitem).trans_le hnum.le,?_⟩
        intro q i hget
        rcases get_insertAll_cases hget with hent | ⟨hget,-⟩
        · have hle:=(hnum.bounds hent).1
          constructor
          · intro hitem
            have hold : q.toNat<_ := hits _ hitem
            omega
          · intro hq
            omega
        · exact hshown q i hget
      · obtain ⟨_,-,heq⟩:=hnew _ hmem
        cases heq
    · intro q hmem
      rcases mem_append.mp hmem with hmem | hmem
      · exact h.acked_le q hmem
      obtain ⟨_,-,heq⟩:=hnew _ hmem
      cases heq

theorem ack_old {throughSeq : UInt64} (hold : throughSeq≤ s.wal.state.ackThrough) :
    Mirrored f records s (tr++[.acked throughSeq]) := by
  have hnone : [acked throughSeq].filterMap recordedSeq=[] := rfl
  refine
    { h with
      recoverable := h.recoverable.emit _ (by simp)
      recorded_lt := ?_
      ok := ?_
      ordered := by rw [filterMap_append,hnone,append_nil]; exact h.ordered
      batches := ?_
      acked_le := ?_
      ackThrough_acked := h.ackThrough_acked.imp_right (mem_append_left _) }
  · exact fun q i hmem => h.recorded_lt q i (mem_before hmem (by simp))
  · exact fun q i hmem => h.ok q i (mem_before hmem (by simp))
  · exact fun batch hmem => h.batches batch (mem_before hmem (by simp))
  intro q hmem
  rcases mem_append.mp hmem with hmem | hmem
  · exact h.acked_le q hmem
  cases mem_singleton.mp hmem
  exact UInt64.le_iff_toNat_le.mp hold

theorem ack_new {throughSeq : UInt64}
    (hnew : ¬ throughSeq≤ s.wal.state.ackThrough) (hgave : throughSeq∈s.returned) :
    Mirrored f (s.wal.state.acked throughSeq).compacted { s with
            wal := { s.wal with
            disk := utf8 (f.text (s.wal.state.acked throughSeq).compacted), attached := true
            state := s.wal.state.acked throughSeq } }
      (tr++[.reached throughSeq,.acked throughSeq]) := by
  have hlt : s.wal.state.ackThrough.toNat<throughSeq.toNat :=
    UInt64.lt_iff_toNat_lt.mp (UInt64.not_le.mp hnew)
  have hlast : (replay records).ackThrough.toNat≤throughSeq.toNat := by
    rw [h.ackThrough_eq]
    exact hlt.le
  have honDisk:=OnDisk.append (f := f) records [.ack throughSeq]
  obtain ⟨hack,hmemo⟩:=h.recoverable.ack_recorded hlast hgave honDisk
  have hrecord:=(hmemo.compacted hack true).emit [.acked throughSeq] (by simp)
  rw [append_assoc] at hrecord
  obtain ⟨hackThrough,-,hbd⟩:=Recoverable.replay_compacted (s.wal.state.acked throughSeq)
  have hnone : [reached throughSeq,.acked throughSeq].filterMap recordedSeq=[] :=
    rfl
  refine
    { recoverable := hrecord, attached := rfl, disk := rfl, ackThrough_eq := hackThrough
      maxSeq_lt := ?_
      unacked_gt := fun q i hget => (acked_unacked.mp hget).1
      recorded_lt := ?_
      ok := ?_
      ordered := by rw [filterMap_append,hnone,append_nil]; exact h.ordered
      batches := ?_
      acked_le := ?_
      ackThrough_acked := .inr (by simp [RelayUsageWalState.acked]) }
  · have hpos:=h.recoverable.ackThrough_lt
    refine hbd _ (by show 0<s.wal.state.nextSeq.toNat; omega) ?_
    intro q i hget
    exact h.recoverable.unacked_lt q i (acked_unacked.mp hget).2
  · exact fun q i hmem => h.recorded_lt q i (mem_before hmem (by simp))
  · exact fun q i hmem => h.ok q i (mem_before hmem (by simp))
  · intro batch hmem
    rcases mem_append.mp hmem with hmem | hmem
    · obtain ⟨hthr,hits,hshown⟩:=h.batches batch hmem
      exact ⟨hthr,hits,fun q i hget => hshown q i (acked_unacked.mp hget).2⟩
    · simp at hmem
  · intro q hmem
    rcases mem_append.mp hmem with hmem | hmem
    · exact (h.acked_le q hmem).trans hlt.le
    simp only [mem_cons,not_mem_nil,or_false,reduceCtorEq,false_or] at hmem
    cases hmem
    exact le_rfl

theorem ack {throughSeq : UInt64} (hgave : throughSeq∈s.returned) :
    ∃ records', Mirrored f records' (s.step f (.ack throughSeq none .none)).1
      (tr++(s.step f (.ack throughSeq none .none)).2) := by
  by_cases hold : throughSeq≤ s.wal.state.ackThrough
  · have hreach : ackReaches f s.wal throughSeq none=false := by
      simp [ackReaches,UInt64.not_lt.mpr hold]
    refine ⟨records,?_⟩
    simp only [WalRun.step,RelayUsageWal.ack_old hold,hreach,Bool.false_eq_true,if_false,if_true,
      nil_append]
    exact h.ack_old hold
  · have hreach : ackReaches f s.wal throughSeq none=true := by
      simp [ackReaches,UInt64.not_le.mp hold,h.attached]
    refine ⟨(s.wal.state.acked throughSeq).compacted,?_⟩
    simp only [WalRun.step,RelayUsageWal.ack_written h.attached hold,hreach,if_true]
    exact h.ack_new hold hgave

end

theorem step (hf : f.Lawful) (h : Mirrored f records s tr) (e : WalEvent)
    (he : ((machine f).restrict fun s e => NoFaults e ∧ NumbersLeft s e).enabled s e) :
    ∃ records', Mirrored f records' (s.step f e).1 (tr++(s.step f e).2) := by
  obtain ⟨hen,hfault,hleft⟩:=he
  cases e with
  | record items fault =>
    obtain rfl : fault=none := hfault
    exact h.record items hleft
  | snapshot maxItems => exact ⟨records,h.snapshot maxItems⟩
  | ack throughSeq fault compacting =>
    obtain ⟨rfl,rfl⟩ : fault=none ∧ compacting = .none := hfault
    exact h.ack hen
  | reopen =>
    rw [h.reopen hf,append_nil]
    exact ⟨records,h⟩

theorem of_run (hf : f.Lawful)
    (h : ((machine f).restrict fun s e => NoFaults e ∧ NumbersLeft s e).Run s tr) :
    ∃ records, Mirrored f records s tr :=
  h.invariant (fun s tr => ∃ records, Mirrored f records s tr) ⟨[],start f⟩
    fun _ _ e ⟨_,hinv⟩ he => hinv.step hf e he

/-- A snapshot can show a record exactly until it is acknowledged. -/
theorem shown_iff (h : Mirrored f records s tr) {q : UInt64} {i : RelayUsageItem}
    (hnoted : .recorded q i∈tr) :
    (∃ maxItems, i.inBatch q∈(s.wal.state.snapshot maxItems).items) ↔
      ∀ throughSeq, .acked throughSeq∈tr → throughSeq<q := by
  constructor
  · rintro ⟨_,hmem⟩ throughSeq hacked
    have hget:=mem_toList.mp (mem_of_mem_take (mem_snapshot.mp hmem))
    have hle:=h.acked_le throughSeq hacked
    exact UInt64.lt_iff_toNat_lt.mpr (hle.trans_lt (h.unacked_gt q i hget))
  · intro hall
    have hq : (replay records).ackThrough.toNat<q.toNat := by
      rw [h.ackThrough_eq]
      rcases h.ackThrough_acked with hzero | hacked
      · rw [hzero]
        exact h.recoverable.recorded_pos q i hnoted
      · exact UInt64.lt_iff_toNat_lt.mp (hall _ hacked)
    have hget:=h.recoverable.kept q i hnoted hq
    refine ⟨s.wal.state.unacked.toList.length,mem_snapshot.mpr ?_⟩
    rw [take_length]
    exact mem_toList.mpr hget

theorem acked_iff (h : Mirrored f records s tr) {batch : RelayUsageBatch}
    (hgave : .returned batch∈tr) (q : UInt64) (i : RelayUsageItem) :
    (s.wal.ack f batch.throughSeq none .none).2.state.unacked[q]?=some i ↔
      s.wal.state.unacked[q]?=some i ∧ i.inBatch q∉batch.items := by
  have hshown:=(h.batches batch hgave).2.2 q i
  by_cases hold : batch.throughSeq≤ s.wal.state.ackThrough
  · rw [RelayUsageWal.ack_old hold]
    constructor
    · intro hget
      have hgt:=h.unacked_gt q i hget
      have hle:=UInt64.le_iff_toNat_le.mp hold
      exact ⟨hget,fun hmem => absurd ((hshown hget).mp hmem) (by omega)⟩
    · exact And.left
  · rw [ack_written h.attached hold]
    show (s.wal.state.acked batch.throughSeq).unacked[q]?=some i ↔ _
    rw [acked_unacked]
    constructor
    · simp_all
    · simp_all

end Mirrored

theorem wal_refines_memory (f : WalFormat) (hf : f.Lawful) (s : WalRun) (tr : List WalOutput)
    (h : ((WalRun.machine f).restrict fun s e => NoFaults e ∧ NumbersLeft s e).Run s tr) :
    openWal f s.wal.disk = .ok (s.wal.state, s.wal.disk) ∧
      (∀ q i, .recorded q i ∈ tr → q < s.wal.state.nextSeq) ∧
      (tr.filterMap WalOutput.recordedSeq).Nodup ∧
      (∀ batch, .returned batch ∈ tr → ∀ (q : UInt64) (i : RelayUsageItem),
        ((s.wal.ack f batch.throughSeq none .none).2.state.unacked[q]? = some i ↔
          s.wal.state.unacked[q]? = some i ∧ i.inBatch q ∉ batch.items)) ∧
      ∀ q i, .recorded q i ∈ tr →
        ((∃ maxItems, i.inBatch q ∈ (s.wal.state.snapshot maxItems).items) ↔
          ∀ throughSeq, .acked throughSeq ∈ tr → throughSeq < q) := by
  obtain ⟨_,hmirror⟩:=Mirrored.of_run hf h
  have hopen:=openWal_onDisk hf hmirror.recoverable.disk
  rw [hmirror.state_eq,← hmirror.disk] at hopen
  refine ⟨hopen,?_,?_,?_,?_⟩
  · intro q i hnoted
    exact UInt64.lt_iff_toNat_lt.mpr (hmirror.recorded_lt q i hnoted)
  · refine hmirror.ordered.imp ?_
    rintro a b hlt rfl
    exact lt_irrefl _ hlt
  · intro batch hgave q i
    exact hmirror.acked_iff hgave q i
  · intro q i hnoted
    exact hmirror.shown_iff hnoted

/-! Two records, of which the first is shown and acknowledged. -/

def recordedTwice : WalRun :=
  (WalRun.start.step serdeJson (.record [relayed 1,relayed 2] none)).1

def shownOnce : WalRun := (recordedTwice.step serdeJson (.snapshot 1)).1

def ackedOnce : WalRun := (shownOnce.step serdeJson (.ack 1 none .none)).1

def ackedOnceOutputs : List WalOutput :=
  [.recorded 1 (relayed 1),.recorded 2 (relayed 2),.returned ⟨1,[(relayed 1).inBatch 1]⟩,
    .reached 1,.acked 1]

theorem ackedOnce_run :
    ((machine serdeJson).restrict fun s e => NoFaults e ∧ NumbersLeft s e).Run ackedOnce
      ackedOnceOutputs := by
  have hrun:=Machine.Run.init
    (M := (machine serdeJson).restrict fun s e => NoFaults e ∧ NumbersLeft s e)
  have hleft : start.wal.state.nextSeq.toNat
      + (prepare start.wal.state.nextSeq [relayed 1,relayed 2]).1.length<2^64 := by
    decide
  have hrec:=hrun.next (.record [relayed 1,relayed 2] none)
    ⟨trivial,rfl,hleft⟩ [.recorded 1 (relayed 1),.recorded 2 (relayed 2)]
    (by decide)
  have hsnap:=Machine.Run.next (s := recordedTwice) hrec (.snapshot 1)
    ⟨trivial,trivial,trivial⟩ [.returned ⟨1,[(relayed 1).inBatch 1]⟩] (by decide)
  have hgave : (1 : UInt64)∈shownOnce.returned := by decide
  exact Machine.Run.next (s := shownOnce) hsnap (.ack 1 none .none)
    ⟨hgave,⟨rfl,rfl⟩,trivial⟩ [.reached 1,.acked 1] (by decide)

theorem wal_refines_memory_ackedOnce :
    openWal serdeJson ackedOnce.wal.disk = .ok (ackedOnce.wal.state, ackedOnce.wal.disk) ∧
      (∃ maxItems, (relayed 2).inBatch 2 ∈ (ackedOnce.wal.state.snapshot maxItems).items) ∧
      ¬ ∃ maxItems, (relayed 1).inBatch 1 ∈ (ackedOnce.wal.state.snapshot maxItems).items := by
  obtain ⟨hopen,-,-,-,hshown⟩ :=
    wal_refines_memory serdeJson serdeJson_lawful ackedOnce ackedOnceOutputs ackedOnce_run
  refine ⟨hopen,(hshown 2 (relayed 2) (by decide)).mpr ?_,?_⟩
  · intro throughSeq hacked
    simp only [ackedOnceOutputs,mem_cons,not_mem_nil,or_false,reduceCtorEq,false_or,
      acked.injEq] at hacked
    subst hacked
    decide
  · intro hmem
    have hlt:=(hshown 1 (relayed 1) (by decide)).mp hmem 1 (by decide)
    exact absurd hlt (by decide)

/-- One record a call, and at most one that waits for its acknowledgement. -/
def OneAtATime (s : WalRun) (e : WalEvent) : Prop :=
  s.wal.state.unacked.toList.length≤1 ∧ ∀ items fault, e = .record items fault → items.length≤1

abbrev oneAtATime : Machine WalRun WalEvent WalOutput :=
  (machine serdeJson).restrict fun s e => NoFaults e ∧ OneAtATime s e

section Rounds
variable {s : WalRun} {tr : List WalOutput} {n : ℕ}

/-- A number is given out, and what went before is acknowledged. -/
structure Settled (n : ℕ) (s : WalRun) : Prop where
  attached : s.wal.attached=true
  state : s.wal.state=⟨seqAt (n+1),seqAt n,∅⟩

theorem Settled.enabled (h : Settled n s) :
    oneAtATime.enabled s (.record [relayed 1] none) := by
  refine ⟨trivial,rfl,?_,?_⟩
  · rw [h.state]
    exact Nat.zero_le 1
  · rintro items fault heq
    cases heq
    exact le_rfl

theorem Settled.record (h : Settled n s) : ∃ disk,
    s.step serdeJson (.record [relayed 1] none) =
      (⟨⟨disk,true,seqAt (n+2),seqAt n,(∅ : BTreeMap RelayUsageItem).insert (seqAt (n+1)) (relayed 1)⟩,
          s.returned⟩,[.recorded (seqAt (n+1)) (relayed 1)]) := by
  have hprep : prepare s.wal.state.nextSeq [relayed 1]=([(seqAt (n+1),relayed 1)],seqAt (n+2)) := by
    rw [h.state,← seqAt_succ (n+1)]
    rfl
  have hcall:=recordItems_ok (f := serdeJson) h.attached
    (show (prepare s.wal.state.nextSeq [relayed 1]).1≠[] by rw [hprep]; simp)
  rw [WalRun.step,hcall,hprep,h.state,h.attached]
  exact ⟨_,rfl⟩

theorem Settled.round (h : Settled n s) (hrun : oneAtATime.Run s tr) (hleft : n+1<2^64) :
    ∃ s' tr', oneAtATime.Run s' tr' ∧ Settled (n+1) s' ∧
      .recorded (seqAt (n+1)) (relayed 1) ∈ tr' := by
  obtain ⟨_,hstep⟩:=h.record
  have hnew : ¬ seqAt (n+1)≤ seqAt n := by
    rw [UInt64.le_iff_toNat_le,toNat_seqAt,toNat_seqAt]
    omega
  have hrec:=hrun.step _ h.enabled
  rw [show oneAtATime.step s (.record [relayed 1] none)=_ from hstep] at hrec
  have hshow:=hrec.step (.snapshot 1) ⟨trivial,trivial,le_rfl,by simp⟩
  have hack:=hshow.step (.ack (seqAt (n+1)) none .none)
    ⟨mem_cons_self ..,⟨rfl,rfl⟩,le_rfl,by simp⟩
  refine ⟨_,_,hack,?_,by simp⟩
  constructor
  · show ((RelayUsageWal.ack ..).2).attached=true
    rw [RelayUsageWal.ack_written rfl hnew]
    rfl
  · show ((RelayUsageWal.ack ..).2).state=_
    rw [RelayUsageWal.ack_written rfl hnew]
    refine congrArg _ (Std.ExtTreeMap.ext_getElem? ?_)
    intro q
    show (((∅ : BTreeMap RelayUsageItem).insert (seqAt (n+1)) (relayed 1)).filter
      fun seq _ => seq>seqAt (n+1))[q]?=_
    rw [get_filter,get_insert]
    by_cases hq : seqAt (n+1)=q
    · subst hq
      simp
    · simp [hq]

end Rounds

theorem last_sequence_number_reused :
    ∃ s tr, ((WalRun.machine serdeJson).restrict fun s e => NoFaults e ∧ OneAtATime s e).Run s tr ∧
      ¬ (tr.filterMap WalOutput.recordedSeq).Nodup := by
  have hsettled : ∀ n<2^64, ∃ s tr, oneAtATime.Run s tr ∧ Settled n s ∧
      (0<n → .recorded (seqAt n) (relayed 1) ∈ tr) := by
    intro n
    induction n with
    | zero => exact fun _ => ⟨_,_,.init,⟨rfl,rfl⟩,fun h => absurd h (lt_irrefl 0)⟩
    | succ n ih =>
      intro hn
      obtain ⟨_,_,hrun,hset,-⟩:=ih (by omega)
      obtain ⟨s',tr',hrun',hset',hmem⟩:=hset.round hrun hn
      exact ⟨s',tr',hrun',hset',fun _ => hmem⟩
  obtain ⟨_,_,hrun,hset,hmem⟩:=hsettled (2^64-1) (by omega)
  obtain ⟨_,hstep⟩:=hset.record
  have hagain:=hrun.next _ hset.enabled _ (congrArg Prod.snd hstep)
  refine ⟨_,_,hagain,?_⟩
  rw [filterMap_append,nodup_append]
  intro hnd
  refine hnd.2.2 (seqAt (2^64-1)) (mem_filterMap.mpr ⟨_,hmem (by omega),rfl⟩) _ (mem_singleton.mpr rfl) ?_
  rfl

end Lantunnel.Gateway
