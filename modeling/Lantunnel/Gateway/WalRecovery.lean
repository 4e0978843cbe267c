import Lantunnel.Lib.Machine
import Lantunnel.Gateway.WalJson

/-!
# What the usage log keeps over faults (tp-gateway/src/lib.rs:151-355)

Runs of calls with any faults, and reopenings between them. `Recoverable` relates the
records on disk to the memory of the process, unless somebody appends behind a torn line
or to a file that was replaced.
-/

namespace Lantunnel.Gateway
open Lib FieldCodec RustStd LineLog List RelayUsageWal BTreeMap WalFormat

/-- The log of a process, with the `through_seq` of every snapshot it returned. -/
structure WalRun where
  wal : RelayUsageWal
  returned : List UInt64

inductive WalEvent
  | record (items : List RelayUsageItem) (fault : WriteFault)
  | snapshot (maxItems : ℕ)
  | ack (throughSeq : UInt64) (fault : WriteFault) (compacting : CompactFault)
  -- the process ends and another one opens the file
  | reopen

inductive WalOutput
  -- a record of a call that returned `Ok`, and of one that did not
  | recorded (seq : UInt64) (item : RelayUsageItem)
  | unrecorded (seq : UInt64) (item : RelayUsageItem)
  | returned (batch : RelayUsageBatch)
  -- an `ack` that returned `Ok`, and one whose record is in the file
  | acked (throughSeq : UInt64)
  | reached (throughSeq : UInt64)
  deriving DecidableEq

namespace WalRun
variable (f : WalFormat)

def start : WalRun := ⟨⟨[],true,(replay []).state⟩,[]⟩

def ackReaches (w : RelayUsageWal) (throughSeq : UInt64) (fault : WriteFault) : Bool :=
  w.state.ackThrough<throughSeq && w.attached &&
    fault.all fun written => (utf8 (f.line (.ack throughSeq))).length≤written

def step (s : WalRun) : WalEvent → WalRun × List WalOutput
  | .record items fault =>
    let result:=s.wal.recordItems f items fault
    ({ s with wal := result.2 },
      (prepare s.wal.state.nextSeq items).1.map fun entry =>
        if result.1 then .recorded entry.1 entry.2 else .unrecorded entry.1 entry.2)
  | .snapshot maxItems =>
    let batch:=s.wal.state.snapshot maxItems
    ({ s with returned := batch.throughSeq::s.returned },[.returned batch])
  | .ack throughSeq fault compacting =>
    let result:=s.wal.ack f throughSeq fault compacting
    ({ s with wal := result.2 },
      (if ackReaches f s.wal throughSeq fault then [.reached throughSeq] else [])
        ++ if result.1 then [.acked throughSeq] else [])
  | .reopen =>
    match openWal f s.wal.disk with
    | .ok (state,disk) => ({ s with wal := ⟨disk,true,state⟩ },[])
    | .error _ => (s,[])

/-- Every `ack` is of a sequence number that a snapshot returned. -/
def machine : Machine WalRun WalEvent WalOutput where
  init := start
  enabled := fun s e =>
    match e with
    | .ack throughSeq _ _ => throughSeq ∈ s.returned
    | _ => True
  step := step f

end WalRun

/-- The file ends with a newline, or is empty. -/
def AtLineStart (disk : Bytes) : Prop :=
  ∃ text, disk=utf8 text ∧ (text=[] ∨ text.getLast?=some '\n')

/-- Nothing, or not the middle of a character, is where the write of a text stops. -/
def StopsBetweenChars (text : List Char) (fault : WriteFault) : Prop :=
  ∀ written, fault=some written → ∃ chars, (utf8 text).take written=utf8 (text.take chars)

/-- A call appends at the start of a line of the file at the path, its write stops
between two characters, sequence numbers are left, and the file holds no later
acknowledgement than the one appended. -/
def Careful (f : WalFormat) (s : WalRun) : WalEvent → Prop
  | .record items fault =>
    (prepare s.wal.state.nextSeq items).1=[] ∨
      s.wal.attached=true ∧ AtLineStart s.wal.disk ∧
      s.wal.state.nextSeq.toNat+(prepare s.wal.state.nextSeq items).1.length<2^64 ∧
      StopsBetweenChars
        (f.text ((prepare s.wal.state.nextSeq items).1.map fun entry => .usage entry.1 entry.2)) fault
  | .ack throughSeq fault _ =>
    throughSeq≤ s.wal.state.ackThrough ∨
      s.wal.attached=true ∧ AtLineStart s.wal.disk ∧
      (∀ opened, openWal f s.wal.disk = .ok opened → opened.1.ackThrough≤throughSeq) ∧
      StopsBetweenChars (f.text [.ack throughSeq]) fault
  | .snapshot _ | .reopen => True

section Prepare
variable {first next : UInt64} {prepared : List (UInt64 × RelayUsageItem)}

/-- The entries have the numbers from `first` up to `next`, in order. -/
structure Numbered (first : UInt64) (prepared : List (UInt64 × RelayUsageItem)) (next : UInt64) :
    Prop where
  le : first.toNat≤next.toNat
  bounds : ∀ {q i}, (q,i) ∈ prepared → first.toNat≤q.toNat ∧ q.toNat<next.toNat
  pairwise : prepared.Pairwise fun a b => a.1.toNat<b.1.toNat
  last : prepared=[] ∧ next=first ∨ ∃ q i, (q,i) ∈ prepared ∧ next.toNat=q.toNat+1

theorem Numbered.not_mem (h : Numbered first prepared next) {q : UInt64} (hq : q.toNat<first.toNat) :
    ∀ entry∈prepared, entry.1≠q := by
  rintro entry hent rfl
  have hle:=(h.bounds hent).1
  omega

theorem Numbered.lt_max (h : Numbered first prepared next) {entry : UInt64 × RelayUsageItem}
    (hent : entry∈prepared) : entry.1.toNat<2^64-1 := by
  have hlt:=(h.bounds hent).2
  have hmax:=next.toNat_lt
  omega

theorem prepare_numbered {items : List RelayUsageItem}
    (h : first.toNat+(prepare first items).1.length<2^64) :
    Numbered first (prepare first items).1 (prepare first items).2 := by
  induction items generalizing first with
  | nil => exact ⟨le_rfl,nofun,.nil,.inl ⟨rfl,rfl⟩⟩
  | cons item items ih =>
    by_cases hskip : item.bytes=0 ∨ item.tunnelId = "" ∨ item.periodYyyymm = ""
    · simp only [prepare,if_pos hskip] at h ⊢
      exact ih h
    simp only [prepare,if_neg hskip,length_cons] at h ⊢
    have hone : (1 : UInt64).toNat=1 := rfl
    have hnext : (saturatingAdd first 1).toNat=first.toNat+1 := by
      rw [toNat_saturatingAdd,hone]
      omega
    obtain ⟨_,_,hsort,_⟩:=@ih (saturatingAdd first 1) (by omega)
    refine ⟨by omega,?_,pairwise_cons.mpr ⟨?_,hsort⟩,.inr ?_⟩
    · grind
    · grind
    · grind

def RelayUsageItem.kept (item : RelayUsageItem) : Bool :=
  ¬ (item.bytes=0 ∨ item.tunnelId = "" ∨ item.periodYyyymm = "")

/-- The number `n`, or the last one there is. -/
def seqAt (n : ℕ) : UInt64 := UInt64.ofNat (min n (2^64-1))

theorem seqAt_toNat (q : UInt64) : seqAt q.toNat=q := by
  have hbd:=q.toNat_lt
  rw [seqAt,min_eq_left (by omega),UInt64.ofNat_toNat]

theorem toNat_seqAt (n : ℕ) : (seqAt n).toNat=min n (2^64-1) :=
  UInt64.toNat_ofNat_of_lt' (show min n (2^64-1)<2^64 by omega)

theorem seqAt_succ (n : ℕ) : saturatingAdd (seqAt n) 1=seqAt (n+1) := by
  have hone : (1 : UInt64).toNat=1 := rfl
  apply UInt64.toNat_inj.mp
  rw [toNat_saturatingAdd,toNat_seqAt,toNat_seqAt,hone]
  omega

theorem prepare_seqAt (n : ℕ) (items : List RelayUsageItem) : (prepare (seqAt n) items).1 =
    ((items.filter (·.kept)).zipIdx n).map fun entry => (seqAt entry.2,entry.1) := by
  induction items generalizing n with
  | nil => rfl
  | cons item items ih =>
    by_cases hskip : item.bytes=0 ∨ item.tunnelId = "" ∨ item.periodYyyymm = ""
    · rw [filter_cons_of_neg (by simp [RelayUsageItem.kept,hskip]),← ih]
      simp only [prepare,if_pos hskip]
    · rw [filter_cons_of_pos (by simpa [RelayUsageItem.kept] using hskip),zipIdx_cons,map_cons,← ih]
      simp only [prepare,if_neg hskip,seqAt_succ]

/-- What a call reports: its items without the empty ones, under the next numbers. -/
theorem WalRun.record_outputs (f : WalFormat) (s : WalRun) (items : List RelayUsageItem)
    (fault : WriteFault) : (s.step f (.record items fault)).2 =
      ((items.filter (·.kept)).zipIdx s.wal.state.nextSeq.toNat).map fun entry =>
        if (s.wal.recordItems f items fault).1 then .recorded (seqAt entry.2) entry.1
        else .unrecorded (seqAt entry.2) entry.1 := by
  have hprep:=prepare_seqAt s.wal.state.nextSeq.toNat items
  rw [seqAt_toNat] at hprep
  rw [WalRun.step,hprep]
  exact map_map

end Prepare

abbrev usages (entries : List (UInt64 × RelayUsageItem)) : List RelayUsageWalRecord :=
  entries.map fun entry => .usage entry.1 entry.2

section InsertAll
variable {m : BTreeMap RelayUsageItem} {entries : List (UInt64 × RelayUsageItem)} {q : UInt64}
  {i : RelayUsageItem}

theorem get_insertAll_of_not_mem (h : ∀ entry∈entries, entry.1≠q) :
    (entries.foldl (fun m entry => m.insert entry.1 entry.2) m)[q]?=m[q]? := by
  induction entries generalizing m with
  | nil => rfl
  | cons entry entries ih =>
    have hrest : ∀ e∈entries, e.1≠q := fun e he => h e (mem_cons_of_mem entry he)
    rw [foldl_cons,ih hrest,get_insert,if_neg (h entry (mem_cons_self ..))]

theorem get_insertAll_of_mem (hsort : entries.Pairwise fun a b => a.1.toNat<b.1.toNat)
    (h : (q,i)∈entries) :
    (entries.foldl (fun m entry => m.insert entry.1 entry.2) m)[q]?=some i := by
  induction entries generalizing m with
  | nil => cases h
  | cons entry entries ih =>
    obtain ⟨hfst,hsort⟩:=pairwise_cons.mp hsort
    rcases mem_cons.mp h with rfl | h
    · have hlater : ∀ e∈entries, e.1≠q := by
        intro e he heq
        have hlt:=hfst e he
        rw [heq] at hlt
        exact lt_irrefl _ hlt
      rw [foldl_cons,get_insertAll_of_not_mem hlater,get_insert,if_pos rfl]
    · exact ih hsort h

theorem get_insertAll_cases
    (h : (entries.foldl (fun m entry => m.insert entry.1 entry.2) m)[q]?=some i) :
    (q,i)∈entries ∨ m[q]?=some i ∧ ∀ entry∈entries, entry.1≠q := by
  induction entries generalizing m with
  | nil => exact .inr ⟨h,nofun⟩
  | cons entry entries ih =>
    rcases ih h with hmem | ⟨hget,hnone⟩
    · exact .inl (mem_cons_of_mem _ hmem)
    rw [get_insert] at hget
    split at hget
    · rename_i heq
      obtain rfl := Option.some.inj hget
      subst heq
      exact .inl (mem_cons_self ..)
    · rename_i hne
      refine .inr ⟨hget,?_⟩
      intro e he
      rcases mem_cons.mp he with rfl | he
      · exact hne
      · exact hnone e he

theorem get_filter_gt {throughSeq : UInt64} :
    (m.filter fun seq _ => seq>throughSeq)[q]?=some i ↔
      throughSeq.toNat<q.toNat ∧ m[q]?=some i := by
  rw [get_filter]
  by_cases hq : throughSeq<q
  · simp [hq,UInt64.lt_iff_toNat_lt.mp hq]
  · simp [hq,mt UInt64.lt_iff_toNat_lt.mpr hq]

theorem acked_unacked {state : RelayUsageWalState} {throughSeq : UInt64} :
    (state.acked throughSeq).unacked[q]?=some i ↔
      throughSeq.toNat<q.toNat ∧ state.unacked[q]?=some i :=
  get_filter_gt

theorem state_unacked {r : Replay} :
    r.state.unacked[q]?=some i ↔ r.ackThrough.toNat<q.toNat ∧ r.replayed[q]?=some i :=
  get_filter_gt

end InsertAll

section Replay
variable {records : List RelayUsageWalRecord}

theorem replay_append (records more : List RelayUsageWalRecord) :
    replay (records++more)=more.foldl Replay.record (replay records) :=
  foldl_append

theorem foldl_usage (r : Replay) (entries : List (UInt64 × RelayUsageItem)) :
    (usages entries).foldl Replay.record r =
      { ackThrough := r.ackThrough
        maxSeq := entries.foldl (fun seq entry => max seq entry.1) r.maxSeq
        replayed := entries.foldl (fun m entry => m.insert entry.1 entry.2) r.replayed } := by
  induction entries generalizing r with
  | nil => rfl
  | cons entry entries ih =>
    exact ih _

theorem replay_usages (records : List RelayUsageWalRecord)
    (entries : List (UInt64 × RelayUsageItem)) : replay (records++usages entries) =
      { ackThrough := (replay records).ackThrough
        maxSeq := entries.foldl (fun seq entry => max seq entry.1) (replay records).maxSeq
        replayed := entries.foldl (fun m entry => m.insert entry.1 entry.2)
          (replay records).replayed } := by
  rw [replay_append,foldl_usage]

theorem replay_ack (records : List RelayUsageWalRecord) (throughSeq : UInt64) :
    replay (records++[.ack throughSeq]) =
      { replay records with ackThrough := max (replay records).ackThrough throughSeq } := by
  rw [replay_append]
  rfl

theorem foldl_max_le {bound : ℕ} {seq : UInt64} {entries : List (UInt64 × RelayUsageItem)}
    (hseq : seq.toNat<bound) (h : ∀ entry∈entries, entry.1.toNat<bound) :
    (entries.foldl (fun seq entry => max seq entry.1) seq).toNat<bound := by
  induction entries generalizing seq with
  | nil => exact hseq
  | cons entry entries ih =>
    have hent:=h entry (mem_cons_self ..)
    refine ih ?_ fun e he => h e (mem_cons_of_mem entry he)
    rw [toNat_max]
    exact max_lt hseq hent

theorem replayed_le_maxSeq {q : UInt64} {i : RelayUsageItem}
    (h : (replay records).replayed[q]?=some i) : q.toNat≤(replay records).maxSeq.toNat := by
  induction records using reverseRecOn with
  | nil => simp [replay,Replay.empty] at h
  | append_singleton records record ih =>
    rw [replay_append] at h ⊢
    cases record with
    | ack => exact ih h
    | usage =>
      simp only [foldl_cons,foldl_nil,Replay.record,get_insert,toNat_max] at h ⊢
      split at h
      · simp_all
      · exact (ih h).trans (le_max_left _ _)

theorem maxSeq_replayed (records : List RelayUsageWalRecord) :
    (replay records).maxSeq=0 ∨ ∃ i, (replay records).replayed[(replay records).maxSeq]?=some i := by
  induction records using reverseRecOn with
  | nil => exact .inl rfl
  | append_singleton records record ih =>
    rw [replay_append]
    cases record with
    | ack => exact ih
    | usage seq item =>
      simp only [foldl_cons,foldl_nil,Replay.record]
      have hmax : max (replay records).maxSeq seq =
        if (replay records).maxSeq≤ seq then seq else (replay records).maxSeq := rfl
      rw [hmax]
      split
      · exact .inr ⟨item,by rw [get_insert,if_pos rfl]⟩
      rename_i hlt
      rcases ih with _ | ⟨i,hi⟩
      · simp_all
      refine .inr ⟨i,?_⟩
      rw [get_insert,if_neg,hi]
      rintro rfl
      exact hlt (UInt64.le_refl _)

end Replay

section Append
variable {f : WalFormat} {disk : Bytes} {records : List RelayUsageWalRecord}

theorem OnDisk.eq_of_atLineStart (hf : f.Lawful) (h : OnDisk f disk records)
    (hsta : AtLineStart disk) : disk=utf8 (f.text records) := by
  obtain ⟨text,htext,hlast⟩:=hsta
  -- a last line without its newline is not empty and does not end with one
  have hbad : ∀ before tail, utf8 text=utf8 (before++tail) → tail≠[] → '\n'∉tail → False := by
    intro before tail heq hne hnl
    obtain rfl := utf8_inj heq
    rcases hlast with hnil | hlast
    · exact hne (append_eq_nil_iff.mp hnil).2
    rw [getLast?_append_of_ne_nil _ hne] at hlast
    exact hnl (mem_of_getLast? hlast)
  cases h with
  | lines => rfl
  | torn _ record tail hne hpre =>
    exact (hbad _ _ htext.symm hne (hf.trimmed hne hpre).2.1).elim
  | unended records record =>
    exact (hbad _ _ htext.symm (hf.line_ne_nil record) (hf.escaped record).1).elim

theorem OnDisk.append (records more : List RelayUsageWalRecord) :
    OnDisk f (utf8 (f.text records)++utf8 (f.text more)) (records++more) := by
  rw [← utf8_append,← text_append]
  exact .lines _

theorem OnDisk.append_stopped {more : List RelayUsageWalRecord} {written : ℕ}
    (records : List RelayUsageWalRecord)
    (hstop : ∃ chars, (utf8 (f.text more)).take written=utf8 ((f.text more).take chars)) :
    ∃ kept lost, more=kept++lost ∧
      OnDisk f (utf8 (f.text records)++(utf8 (f.text more)).take written) (records++kept) := by
  obtain ⟨chars,hchs⟩:=hstop
  have hpref : (f.text more).take chars <+: render (more.map f.line) := take_prefix chars _
  obtain ⟨_,tail,_,htext,hlines,htail⟩:=prefix_render hpref
  obtain ⟨kept,lost,rfl,rfl,rfl⟩:=map_eq_append_iff.mp hlines
  have hwr : utf8 (f.text records)++(utf8 (f.text (kept++lost))).take written =
      utf8 (f.text (records++kept)++tail) := by
    rw [hchs,htext,← utf8_append,text_append,append_assoc]
    rfl
  rw [hwr]
  by_cases hnil : tail=[]
  · refine ⟨kept,lost,rfl,?_⟩
    rw [hnil,append_nil]
    exact .lines _
  obtain ⟨_,hline,hpre⟩:=htail.resolve_left hnil
  cases lost with
  | nil => cases hline
  | cons record lost =>
    obtain rfl := Option.some.inj hline
    by_cases hcut : tail=f.line record
    · refine ⟨kept++[record],lost,by simp,?_⟩
      rw [hcut,← append_assoc]
      exact .unended _ record
    · exact ⟨kept,record::lost,rfl,.torn _ record tail hnil hpre hcut⟩

theorem OnDisk.append_one_stopped {record : RelayUsageWalRecord} {written : ℕ}
    (records : List RelayUsageWalRecord)
    (hstop : ∃ chars, (utf8 (f.text [record])).take written=utf8 ((f.text [record]).take chars)) :
    OnDisk f (utf8 (f.text records)++(utf8 (f.text [record])).take written)
      (if (utf8 (f.line record)).length≤written then records++[record] else records) := by
  obtain ⟨chars,hchs⟩:=hstop
  rw [hchs,← utf8_append]
  have hlen:=congrArg length hchs
  rw [length_take,text_singleton] at hlen
  have htot : (utf8 (f.line record++['\n'])).length=(utf8 (f.line record)).length+1 := by
    rw [utf8_append,length_append]
    rfl
  rw [text_singleton]
  rcases prefix_concat_iff.mp ( take_prefix chars (f.line record++['\n'])) with hall | hpre
  · -- the newline was written too
    rw [hall] at hlen ⊢
    rw [if_pos (by omega),← text_singleton,← text_append]
    exact .lines _
  · generalize (f.line record++['\n']).take chars=tail at hlen hpre ⊢
    by_cases hcut : tail=f.line record
    · rw [hcut] at hlen ⊢
      rw [if_pos (by omega)]
      exact .unended _ record
    have hlt:=utf8_length_lt hpre hcut
    rw [if_neg (by omega)]
    by_cases hnil : tail=[]
    · rw [hnil,append_nil]
      exact .lines _
    · exact .torn _ record tail hnil hpre hcut

end Append

theorem start_nextSeq : WalRun.start.wal.state.nextSeq.toNat=1 := rfl

theorem mem_before {o : WalOutput} {tr out : List WalOutput} (h : o∈tr++out) (hout : o∉out) :
    o∈tr :=
  (mem_append.mp h).resolve_right hout

/-- `records` are on disk. Beyond the last acknowledgement on disk, memory knows
what the calls recorded and the disk has what memory knows; anything else on disk
is of a call that failed. -/
structure Recoverable (f : WalFormat) (records : List RelayUsageWalRecord) (s : WalRun)
    (tr : List WalOutput) : Prop where
  disk : OnDisk f s.wal.disk records
  -- numbers
  ackThrough_le : s.wal.state.ackThrough.toNat≤(replay records).ackThrough.toNat
  ackThrough_lt : (replay records).ackThrough.toNat<s.wal.state.nextSeq.toNat
  maxSeq_lt : (replay records).maxSeq.toNat<2^64-1
  unacked_lt : ∀ (q : UInt64) (i : RelayUsageItem), s.wal.state.unacked[q]?=some i → q.toNat<s.wal.state.nextSeq.toNat
  returned_lt : ∀ q ∈ s.returned, q.toNat<s.wal.state.nextSeq.toNat
  nextSeq_le : s.wal.state.nextSeq.toNat≤ s.wal.state.ackThrough.toNat+1 ∨
    ∃ (q : UInt64) (i : RelayUsageItem), s.wal.state.unacked[q]?=some i ∧ s.wal.state.nextSeq.toNat=q.toNat+1
  recorded_pos : ∀ (q : UInt64) (i : RelayUsageItem), .recorded q i ∈ tr → 0<q.toNat
  -- acknowledgements
  reached_le : ∀ q : UInt64, .reached q ∈ tr → q.toNat≤(replay records).ackThrough.toNat
  ackThrough_reached : (replay records).ackThrough=0 ∨ .reached (replay records).ackThrough ∈ tr
  -- records
  stored : ∀ (q : UInt64) (i : RelayUsageItem), (replay records).ackThrough.toNat<q.toNat →
    s.wal.state.unacked[q]?=some i → (replay records).replayed[q]?=some i
  found : ∀ (q : UInt64) (i : RelayUsageItem), (replay records).ackThrough.toNat<q.toNat →
    (replay records).replayed[q]?=some i →
      s.wal.state.unacked[q]?=some i ∨ .unrecorded q i ∈ tr
  kept : ∀ (q : UInt64) (i : RelayUsageItem), .recorded q i ∈ tr → (replay records).ackThrough.toNat<q.toNat →
    s.wal.state.unacked[q]?=some i
  known : ∀ (q : UInt64) (i : RelayUsageItem), s.wal.state.unacked[q]?=some i → .recorded q i ∈ tr ∨ .unrecorded q i ∈ tr

namespace Recoverable
variable {f : WalFormat} {records : List RelayUsageWalRecord} {s : WalRun} {tr : List WalOutput}

theorem start (f : WalFormat) : Recoverable f [] WalRun.start [] := by
  have hnone : ∀ (q : UInt64) (i : RelayUsageItem), WalRun.start.wal.state.unacked[q]?≠some i := by
    intro q i h
    simp [WalRun.start,replay,Replay.empty,Replay.state] at h
  have hnext:=start_nextSeq
  have hack : WalRun.start.wal.state.ackThrough=0 := rfl
  refine
    { disk := .lines [], ackThrough_le := le_rfl, ackThrough_lt := by rw [hnext]; exact Nat.one_pos
      maxSeq_lt := by decide
      unacked_lt := fun q i h => absurd h (hnone q i)
      returned_lt := by simp [WalRun.start]
      nextSeq_le := .inl (by rw [hnext,hack]; rfl)
      recorded_pos := by simp
      reached_le := by simp
      ackThrough_reached := .inl rfl
      stored := fun q i _ h => absurd h (hnone q i)
      found := ?_
      kept := by simp
      known := fun q i h => absurd h (hnone q i) }
  intro q i _ h
  simp [replay,Replay.empty] at h

section
variable (h : Recoverable f records s tr)
include h

theorem emit (out : List WalOutput)
    (hout : ∀ o∈out, (∀ q i, o ≠ .recorded q i) ∧ ∀ q, o ≠ .reached q) :
    Recoverable f records s (tr++out) where
  __:=h
  recorded_pos := by
    intro q i hmem
    rcases mem_append.mp hmem with hmem | hmem
    · exact h.recorded_pos q i hmem
    · exact absurd rfl ((hout _ hmem).1 q i)
  reached_le := by
    intro q hmem
    rcases mem_append.mp hmem with hmem | hmem
    · exact h.reached_le q hmem
    · exact absurd rfl ((hout _ hmem).2 q)
  ackThrough_reached := h.ackThrough_reached.imp_right (mem_append_left out)
  found := fun q i hq hget => (h.found q i hq hget).imp_right (mem_append_left out)
  kept := by
    intro q i hmem hq
    rcases mem_append.mp hmem with hmem | hmem
    · exact h.kept q i hmem hq
    · exact absurd rfl ((hout _ hmem).1 q i)
  known := fun q i hget =>
    (h.known q i hget).imp (mem_append_left out) (mem_append_left out)

theorem snapshot (maxItems : ℕ) :
    Recoverable f records (s.step f (.snapshot maxItems)).1
      (tr++(s.step f (.snapshot maxItems)).2) := by
  have hthr : (s.wal.state.snapshot maxItems).throughSeq.toNat<s.wal.state.nextSeq.toNat := by
    have hack:=h.ackThrough_le
    have hlt:=h.ackThrough_lt
    simp only [RelayUsageWalState.snapshot,getLast?_map,Option.map_map]
    cases hlast : (s.wal.state.unacked.toList.take maxItems).getLast? with
    | none =>
      show s.wal.state.ackThrough.toNat<_
      omega
    | some entry =>
      exact h.unacked_lt entry.1 entry.2
        (mem_toList.mp (mem_of_mem_take (mem_of_getLast? hlast)))
  have hemit:=h.emit [.returned (s.wal.state.snapshot maxItems)] (by simp)
  refine { hemit with returned_lt := ?_ }
  intro q hq
  rcases mem_cons.mp hq with rfl | hq
  · exact hthr
  · exact h.returned_lt q hq

theorem record_failed {prepared onDisk lost : List (UInt64 × RelayUsageItem)} {next : UInt64}
    {disk : Bytes} (hnum : Numbered s.wal.state.nextSeq prepared next)
    (hspl : prepared=onDisk++lost) (hdisk : OnDisk f disk (records++usages onDisk)) :
    Recoverable f (records++usages onDisk) { s with wal := { s.wal with disk := disk } }
      (tr++prepared.map fun entry => .unrecorded entry.1 entry.2) := by
  have hin : ∀ entry∈onDisk, entry∈prepared := fun entry hent => hspl ▸ mem_append_left lost hent
  have hemit:=h.emit (prepared.map fun entry => .unrecorded entry.1 entry.2) (by
      grind)
  have hreply:=replay_usages records onDisk
  refine
    { hemit with
      disk := hdisk
      ackThrough_le := by rw [hreply]; exact h.ackThrough_le
      ackThrough_lt := by rw [hreply]; exact h.ackThrough_lt
      maxSeq_lt := ?_
      reached_le := by rw [hreply]; exact hemit.reached_le
      ackThrough_reached := by rw [hreply]; exact hemit.ackThrough_reached
      stored := ?_
      found := ?_
      kept := by rw [hreply]; exact hemit.kept }
  · rw [hreply]
    exact foldl_max_le h.maxSeq_lt fun entry hent => hnum.lt_max (hin entry hent)
  · intro q i hq hget
    rw [hreply] at hq ⊢
    rw [get_insertAll_of_not_mem fun entry hent =>
      hnum.not_mem (h.unacked_lt q i hget) entry (hin entry hent)]
    exact h.stored q i hq hget
  · intro q i hq hget
    rw [hreply] at hq hget
    rcases get_insertAll_cases hget with hmem | ⟨hget,-⟩
    · exact .inr (mem_append_right tr (mem_map.mpr ⟨(q,i),hin _ hmem,rfl⟩))
    · exact hemit.found q i hq hget

theorem record_ok {prepared : List (UInt64 × RelayUsageItem)} {next : UInt64} {disk : Bytes}
    (hne : prepared≠[]) (hnum : Numbered s.wal.state.nextSeq prepared next)
    (hdisk : OnDisk f disk (records++usages prepared)) :
    Recoverable f (records++usages prepared)
      { s with
            wal := { s.wal with
            disk := disk,
            state := s.wal.state.recorded prepared next } }
      (tr++prepared.map fun entry => .recorded entry.1 entry.2) := by
  have hreply:=replay_usages records prepared
  have hnew : ∀ q i, .recorded q i∈prepared.map (fun entry => WalOutput.recorded entry.1 entry.2) →
      (q,i)∈prepared := by
    intro q i hmem
    obtain ⟨_,hent,heq⟩:=mem_map.mp hmem
    cases heq
    exact hent
  refine
    { disk := hdisk, ackThrough_le := by rw [hreply]; exact h.ackThrough_le
      ackThrough_lt := by rw [hreply]; exact h.ackThrough_lt.trans_le hnum.le
      maxSeq_lt := by rw [hreply]; exact foldl_max_le h.maxSeq_lt fun _ => hnum.lt_max
      unacked_lt := ?_
      returned_lt := fun q hq => (h.returned_lt q hq).trans_le hnum.le
      nextSeq_le := ?_
      recorded_pos := ?_
      reached_le := ?_
      ackThrough_reached := ?_
      stored := ?_
      found := ?_
      kept := ?_
      known := ?_ }
  · intro q i hget
    rcases get_insertAll_cases hget with hmem | ⟨hget,-⟩
    · exact (hnum.bounds hmem).2
    · exact (h.unacked_lt q i hget).trans_le hnum.le
  · -- the last of the new records
    obtain ⟨hnil,-⟩ | ⟨q,i,hmem,hlast⟩:=hnum.last
    · exact absurd hnil hne
    · exact .inr ⟨q,i,get_insertAll_of_mem hnum.pairwise hmem,hlast⟩
  · intro q i hmem
    rcases mem_append.mp hmem with hmem | hmem
    · exact h.recorded_pos q i hmem
    have hack:=h.ackThrough_lt
    have hle:=(hnum.bounds (hnew q i hmem)).1
    omega
  · intro q hmem
    rw [hreply]
    rcases mem_append.mp hmem with hmem | hmem
    · exact h.reached_le q hmem
    · simp at hmem
  · rw [hreply]
    exact h.ackThrough_reached.imp_right (mem_append_left _)
  · intro q i hq hget
    rw [hreply] at hq ⊢
    rcases get_insertAll_cases hget with hmem | ⟨hget,hnone⟩
    · exact get_insertAll_of_mem hnum.pairwise hmem
    rw [get_insertAll_of_not_mem hnone]
    exact h.stored q i hq hget
  · intro q i hq hget
    rw [hreply] at hq hget
    rcases get_insertAll_cases hget with hmem | ⟨hget,hnone⟩
    · exact .inl (get_insertAll_of_mem hnum.pairwise hmem)
    rcases h.found q i hq hget with hfnd | hfnd
    · refine .inl ?_
      show (prepared.foldl _ _)[q]?=_
      rw [get_insertAll_of_not_mem hnone]
      exact hfnd
    · exact .inr (mem_append_left _ hfnd)
  · intro q i hmem hq
    rw [hreply] at hq
    rcases mem_append.mp hmem with hmem | hmem
    · have hget:=h.kept q i hmem hq
      show (prepared.foldl _ _)[q]?=_
      rw [get_insertAll_of_not_mem (hnum.not_mem (h.unacked_lt q i hget))]
      exact hget
    · exact get_insertAll_of_mem hnum.pairwise (hnew q i hmem)
  · intro q i hget
    rcases get_insertAll_cases hget with hmem | ⟨hget,-⟩
    · exact .inl (mem_append_right tr (mem_map.mpr ⟨(q,i),hmem,rfl⟩))
    · exact (h.known q i hget).imp (mem_append_left _) (mem_append_left _)

theorem ack_written {throughSeq : UInt64} {disk : Bytes}
    (hlast : (replay records).ackThrough.toNat≤throughSeq.toNat)
    (hgave : throughSeq∈s.returned) (hdisk : OnDisk f disk (records++[.ack throughSeq])) :
    Recoverable f (records++[.ack throughSeq]) { s with wal := { s.wal with disk := disk } }
      (tr++[.reached throughSeq]) := by
  have hreply:=replay_ack records throughSeq
  rw [max_eq_right_of_toNat_le hlast] at hreply
  have hle:=h.ackThrough_le
  have hlt:=h.returned_lt throughSeq hgave
  refine
    { h with
      disk := hdisk, ackThrough_le := by rw [hreply]; exact hle.trans hlast
      ackThrough_lt := by rw [hreply]; exact hlt
      maxSeq_lt := by rw [hreply]; exact h.maxSeq_lt
      recorded_pos := ?_
      reached_le := ?_
      ackThrough_reached := ?_
      stored := ?_
      found := ?_
      kept := ?_
      known := fun q i hget =>
        (h.known q i hget).imp (mem_append_left _) (mem_append_left _) }
  · exact fun q i hmem => h.recorded_pos q i (mem_before hmem (by simp))
  · intro q hmem
    rw [hreply]
    rcases mem_append.mp hmem with hmem | hmem
    · exact (h.reached_le q hmem).trans hlast
    cases mem_singleton.mp hmem
    exact le_rfl
  · simp_all
  · intro q i hq hget
    rw [hreply] at hq ⊢
    exact h.stored q i (hlast.trans_lt hq) hget
  · intro q i hq hget
    rw [hreply] at hq hget
    exact (h.found q i (hlast.trans_lt hq) hget).imp_right (mem_append_left _)
  · intro q i hmem hq
    rw [hreply] at hq
    rcases mem_append.mp hmem with hmem | hmem
    · exact h.kept q i hmem (hlast.trans_lt hq)
    · cases mem_singleton.mp hmem

theorem ack_memory {throughSeq : UInt64}
    (hack : (replay records).ackThrough=throughSeq) : Recoverable f records
      { s with wal := { s.wal with state := s.wal.state.acked throughSeq } } tr := by
  have hle:=h.ackThrough_le
  rw [hack] at hle
  refine
    { h with
      ackThrough_le := by rw [hack]; exact le_rfl
      unacked_lt := fun q i hget => h.unacked_lt q i (acked_unacked.mp hget).2
      nextSeq_le := ?_
      stored := fun q i hq hget => h.stored q i hq (acked_unacked.mp hget).2
      found := ?_
      kept := ?_
      known := fun q i hget => h.known q i (acked_unacked.mp hget).2 }
  · show s.wal.state.nextSeq.toNat≤throughSeq.toNat+1 ∨ _
    rcases h.nextSeq_le with hnext | ⟨q,i,hget,hnext⟩
    · exact .inl (by omega)
    by_cases hq : throughSeq.toNat<q.toNat
    · exact .inr ⟨q,i,acked_unacked.mpr ⟨hq,hget⟩,hnext⟩
    · exact .inl (by omega)
  · intro q i hq hget
    refine (h.found q i hq hget).imp_left fun hfnd => ?_
    rw [hack] at hq
    exact acked_unacked.mpr ⟨hq,hfnd⟩
  · intro q i hmem hq
    have hget:=h.kept q i hmem hq
    rw [hack] at hq
    exact acked_unacked.mpr ⟨hq,hget⟩

theorem ack_recorded {throughSeq : UInt64} {disk : Bytes}
    (hlast : (replay records).ackThrough.toNat≤throughSeq.toNat)
    (hgave : throughSeq∈s.returned) (hdisk : OnDisk f disk (records++[.ack throughSeq])) :
    (replay (records++[.ack throughSeq])).ackThrough=throughSeq ∧
      Recoverable f (records++[.ack throughSeq]) { s with
              wal := { s.wal with
              disk := disk,
              state := s.wal.state.acked throughSeq } } (tr++[.reached throughSeq]) := by
  have hack : (replay (records++[.ack throughSeq])).ackThrough=throughSeq := by
    rw [replay_ack]
    exact max_eq_right_of_toNat_le hlast
  exact ⟨hack,(h.ack_written hlast hgave hdisk).ack_memory hack⟩

end

theorem replay_compacted (state : RelayUsageWalState) :
    (replay state.compacted).ackThrough=state.ackThrough ∧
      (replay state.compacted).replayed=state.unacked ∧
      ∀ bound, 0<bound → (∀ (q : UInt64) (i : RelayUsageItem), state.unacked[q]?=some i →
        q.toNat<bound) → (replay state.compacted).maxSeq.toNat<bound := by
  have hreply : replay state.compacted =
      { ackThrough := max 0 state.ackThrough
        maxSeq := state.unacked.toList.foldl (fun seq entry => max seq entry.1) 0
        replayed := state.unacked.toList.foldl (fun m entry => m.insert entry.1 entry.2) ∅ } := by
    rw [RelayUsageWalState.compacted,replay,foldl_cons,foldl_usage]
    rfl
  rw [hreply]
  refine ⟨max_eq_right_of_toNat_le (Nat.zero_le _),?_,?_⟩
  · apply Std.ExtTreeMap.ext_getElem?
    intro q
    apply Option.ext
    intro i
    constructor
    · intro hget
      rcases get_insertAll_cases hget with hmem | ⟨hget,-⟩
      · exact mem_toList.mp hmem
      · simp at hget
    · intro hget
      exact get_insertAll_of_mem toList_pairwise (mem_toList.mpr hget)
  · intro bound hbd hkeys
    refine foldl_max_le hbd ?_
    intro entry hent
    exact hkeys entry.1 entry.2 (mem_toList.mp hent)

theorem compacted (h : Recoverable f records s tr)
    (hack : (replay records).ackThrough=s.wal.state.ackThrough) (attached : Bool) :
    Recoverable f s.wal.state.compacted { s with
            wal := { s.wal with
            disk := utf8 (f.text s.wal.state.compacted), attached := attached } } tr := by
  obtain ⟨hackThrough,hreplay,hbd⟩:=replay_compacted s.wal.state
  rw [← hack] at hackThrough
  have hnext:=s.wal.state.nextSeq.toNat_lt
  refine
    { h with
      disk := .lines _, ackThrough_le := by rw [hackThrough]; exact h.ackThrough_le
      ackThrough_lt := by rw [hackThrough]; exact h.ackThrough_lt
      maxSeq_lt := ?_
      reached_le := by rw [hackThrough]; exact h.reached_le
      ackThrough_reached := by rw [hackThrough]; exact h.ackThrough_reached
      stored := by rw [hreplay]; exact fun q i _ hget => hget
      found := by rw [hreplay]; exact fun q i _ hget => .inl hget
      kept := by rw [hackThrough]; exact h.kept }
  refine hbd _ (by omega) ?_
  intro q i hget
  have hq:=h.unacked_lt q i hget
  omega

theorem state_nextSeq {r : Replay} (hmax : r.maxSeq.toNat<2^64-1)
    (hack : r.ackThrough.toNat<2^64-1) :
    r.state.nextSeq.toNat=max r.maxSeq.toNat r.ackThrough.toNat+1 := by
  have hone : (1 : UInt64).toNat=1 := rfl
  rw [Replay.state,toNat_max,toNat_saturatingAdd,toNat_max,hone]
  omega

theorem nextSeq_replay (h : Recoverable f records s tr) : (replay records).state.nextSeq.toNat =
        max (replay records).maxSeq.toNat (replay records).ackThrough.toNat+1 ∧
      s.wal.state.nextSeq.toNat≤(replay records).state.nextSeq.toNat := by
  have hbelow:=s.wal.state.nextSeq.toNat_lt
  have hlt:=h.ackThrough_lt
  have hle:=h.ackThrough_le
  have hnext:=state_nextSeq h.maxSeq_lt (show (replay records).ackThrough.toNat<2^64-1 by omega)
  rcases h.nextSeq_le with _ | ⟨q,i,hget,_⟩
  · omega
  by_cases hq : (replay records).ackThrough.toNat<q.toNat
  · have hseen:=replayed_le_maxSeq (h.stored q i hq hget)
    omega
  · omega

theorem reopen (h : Recoverable f records s tr) : Recoverable f records
      { s with wal := ⟨utf8 (f.text records),true,(replay records).state⟩ } tr := by
  obtain ⟨hnext,hgrows⟩:=h.nextSeq_replay
  refine
    { h with
      disk := .lines _, ackThrough_le := le_rfl, ackThrough_lt := by rw [hnext]; omega
      unacked_lt := ?_
      returned_lt := fun q hq => (h.returned_lt q hq).trans_le hgrows
      nextSeq_le := ?_
      stored := fun q i _ hget => (state_unacked.mp hget).2
      found := fun q i hq hget => .inl (state_unacked.mpr ⟨hq,hget⟩)
      kept := fun q i hmem hq => state_unacked.mpr ⟨hq,h.stored q i hq (h.kept q i hmem hq)⟩
      known := ?_ }
  · intro q i hget
    have hseen:=replayed_le_maxSeq (state_unacked.mp hget).2
    show q.toNat<(replay records).state.nextSeq.toNat
    omega
  · show (replay records).state.nextSeq.toNat≤(replay records).ackThrough.toNat+1 ∨ _
    by_cases hmaxSeq : (replay records).maxSeq.toNat≤(replay records).ackThrough.toNat
    · exact .inl (by omega)
    rcases maxSeq_replayed records with _ | ⟨i,hi⟩
    · simp_all
    refine .inr ⟨_,i,state_unacked.mpr ⟨by omega,hi⟩,?_⟩
    show (replay records).state.nextSeq.toNat=_
    omega
  · intro q i hget
    obtain ⟨hq,hreplay⟩:=state_unacked.mp hget
    rcases h.found q i hq hreplay with hfnd | hfnd
    · exact h.known q i hfnd
    · exact .inr hfnd

variable (hf : f.Lawful)
include hf

theorem record_step (h : Recoverable f records s tr) (items : List RelayUsageItem)
    (fault : WriteFault) (hcare : Careful f s (.record items fault)) :
    ∃ records', Recoverable f records' (s.step f (.record items fault)).1
      (tr++(s.step f (.record items fault)).2) := by
  by_cases hnone : (prepare s.wal.state.nextSeq items).1=[]
  · refine ⟨records,?_⟩
    simp only [WalRun.step,recordItems_nil hnone]
    rw [hnone,map_nil,append_nil]
    exact h
  · obtain ⟨hatt,hsta,hroom,hstop⟩:=hcare.resolve_left hnone
    have hdisk:=h.disk.eq_of_atLineStart hf hsta
    cases fault with
    | none =>
      refine ⟨records++usages (prepare s.wal.state.nextSeq items).1,?_⟩
      simp only [WalRun.step,recordItems_ok hatt hnone,if_true]
      refine h.record_ok hnone (prepare_numbered hroom) ?_
      rw [hdisk]
      exact OnDisk.append _ _
    | some written =>
      obtain ⟨kept,_,hspl,honDisk⟩:=OnDisk.append_stopped records (hstop written rfl)
      obtain ⟨kept,_,hprep,rfl,rfl⟩:=map_eq_append_iff.mp hspl
      refine ⟨records++usages kept,?_⟩
      simp only [WalRun.step,recordItems_stopped hatt hnone,Bool.false_eq_true,if_false]
      refine h.record_failed (prepare_numbered hroom) hprep ?_
      rw [hdisk]
      exact honDisk

theorem ack_step (h : Recoverable f records s tr) (throughSeq : UInt64) (fault : WriteFault)
    (compacting : CompactFault) (hgave : throughSeq∈s.returned)
    (hcare : Careful f s (.ack throughSeq fault compacting)) :
    ∃ records', Recoverable f records' (s.step f (.ack throughSeq fault compacting)).1
      (tr++(s.step f (.ack throughSeq fault compacting)).2) := by
  by_cases hold : throughSeq≤ s.wal.state.ackThrough
  · -- acknowledged before
    refine ⟨records,?_⟩
    have hreach : WalRun.ackReaches f s.wal throughSeq fault=false := by
      simp [WalRun.ackReaches,UInt64.not_lt.mpr hold]
    simp only [WalRun.step,RelayUsageWal.ack_old hold,hreach,Bool.false_eq_true,if_false,if_true,
      nil_append]
    exact h.emit _ (by simp)
  · obtain ⟨hatt,hsta,hlast,hstop⟩:=hcare.resolve_left hold
    have hnew : s.wal.state.ackThrough<throughSeq := UInt64.not_le.mp hold
    have hdisk:=h.disk.eq_of_atLineStart hf hsta
    have hlast : (replay records).ackThrough.toNat≤throughSeq.toNat :=
      UInt64.le_iff_toNat_le.mp (hlast _ (openWal_onDisk hf h.disk))
    cases fault with
    | some written =>
      have honDisk:=OnDisk.append_one_stopped records (hstop written rfl)
      rw [← hdisk] at honDisk
      have hreach : WalRun.ackReaches f s.wal throughSeq (some written) =
          decide ((utf8 (f.line (.ack throughSeq))).length≤written) := by
        simp [WalRun.ackReaches,hnew,hatt]
      simp only [WalRun.step,RelayUsageWal.ack_stopped hatt hold,hreach,decide_eq_true_eq,
        Bool.false_eq_true,if_false,append_nil]
      by_cases hwhole : (utf8 (f.line (.ack throughSeq))).length≤written
      · rw [if_pos hwhole] at honDisk ⊢
        exact ⟨_,h.ack_written hlast hgave honDisk⟩
      rw [if_neg hwhole] at honDisk ⊢
      rw [append_nil]
      exact ⟨records,{ h with disk := honDisk }⟩
    | none =>
      have honDisk:=OnDisk.append (f := f) records [.ack throughSeq]
      rw [← hdisk] at honDisk
      obtain ⟨hack,hmemo⟩:=h.ack_recorded hlast hgave honDisk
      have hreach : WalRun.ackReaches f s.wal throughSeq none=true := by
        simp [WalRun.ackReaches,hnew,hatt]
      simp only [WalRun.step,RelayUsageWal.ack_written hatt hold,hreach,if_true]
      cases compacting with
      | none =>
        have hcompact:=(hmemo.compacted hack true).emit [.acked throughSeq] (by simp)
        rw [append_assoc] at hcompact
        exact ⟨_,hcompact⟩
      | beforeRename =>
        refine ⟨records++[.ack throughSeq],?_⟩
        simp only [RelayUsageWal.compact,Bool.false_eq_true,if_false,append_nil]
        exact hmemo
      | afterRename =>
        have hcompact:=hmemo.compacted hack false
        refine ⟨(s.wal.state.acked throughSeq).compacted,?_⟩
        simp only [RelayUsageWal.compact,Bool.false_eq_true,if_false,append_nil]
        exact hcompact

theorem step (h : Recoverable f records s tr) (e : WalEvent)
    (he : ((WalRun.machine f).restrict (Careful f)).enabled s e) :
    ∃ records', Recoverable f records' (s.step f e).1 (tr++(s.step f e).2) := by
  obtain ⟨hen,hcare⟩:=he
  cases e with
  | record items fault => exact h.record_step hf items fault hcare
  | snapshot maxItems => exact ⟨records,h.snapshot maxItems⟩
  | ack throughSeq fault compacting =>
    exact h.ack_step hf throughSeq fault compacting hen hcare
  | reopen =>
    refine ⟨records,?_⟩
    simp only [WalRun.step,openWal_onDisk hf h.disk,append_nil]
    exact h.reopen

theorem of_run {s : WalRun} {tr : List WalOutput}
    (h : ((WalRun.machine f).restrict (Careful f)).Run s tr) : ∃ records, Recoverable f records s tr :=
  h.invariant (fun s tr => ∃ records, Recoverable f records s tr) ⟨[],start f⟩
    fun _ _ e ⟨_,hinv⟩ he => hinv.step hf e he

end Recoverable

/-- Opening the file succeeds, and gives the records of the calls that returned
`Ok` and are not acknowledged in the file, with at most records of calls that
failed. -/
def Recovers (f : WalFormat) (s : WalRun) (tr : List WalOutput) : Prop :=
  ∃ state disk, openWal f s.wal.disk = .ok (state,disk) ∧
    (∀ q i, .recorded q i ∈ tr → (∀ throughSeq, .reached throughSeq ∈ tr → throughSeq<q) →
      state.unacked[q]?=some i) ∧
    ∀ (q : UInt64) (i : RelayUsageItem), state.unacked[q]?=some i →
      (∀ throughSeq, .reached throughSeq ∈ tr → throughSeq<q) ∧
        (.recorded q i ∈ tr ∨ .unrecorded q i ∈ tr)

theorem Recoverable.recovers {f : WalFormat} {records : List RelayUsageWalRecord} {s : WalRun}
    {tr : List WalOutput} (hf : f.Lawful) (h : Recoverable f records s tr) : Recovers f s tr := by
  refine ⟨_,_,openWal_onDisk hf h.disk,?_,?_⟩
  · intro q i hmem hacks
    have hq : (replay records).ackThrough.toNat<q.toNat := by
      rcases h.ackThrough_reached with hzero | hreach
      · rw [hzero]
        exact h.recorded_pos q i hmem
      · exact UInt64.lt_iff_toNat_lt.mp (hacks _ hreach)
    exact state_unacked.mpr ⟨hq,h.stored q i hq (h.kept q i hmem hq)⟩
  · intro q i hget
    obtain ⟨hq,hreplay⟩:=state_unacked.mp hget
    refine ⟨fun throughSeq hreach => ?_,?_⟩
    · exact UInt64.lt_iff_toNat_lt.mpr ((h.reached_le throughSeq hreach).trans_lt hq)
    rcases h.found q i hq hreplay with hfnd | hfnd
    · exact h.known q i hfnd
    · exact .inr hfnd

/-- In every run whose calls append with care, every fault is survived. -/
theorem wal_recovers_of_careful (f : WalFormat) (hf : f.Lawful) (s : WalRun) (tr : List WalOutput)
    (h : ((WalRun.machine f).restrict (Careful f)).Run s tr) : Recovers f s tr := by
  obtain ⟨_,hrecord⟩:=Recoverable.of_run hf h
  exact hrecord.recovers hf

def relayed (bytes : UInt64) : RelayUsageItem := ⟨"tun","202608",bytes⟩

def recordedOnce : WalRun := (WalRun.start.step serdeJson (.record [relayed 1] none)).1

def tornOnce : WalRun := (recordedOnce.step serdeJson (.record [relayed 2] (some 1))).1

def recordedBehind : WalRun := (tornOnce.step serdeJson (.record [relayed 3] none)).1

theorem recordedOnce_wal : recordedOnce.wal.attached=true ∧
    prepare recordedOnce.wal.state.nextSeq [relayed 2]=([(2,relayed 2)],3) ∧
    recordedOnce.wal.disk=utf8 (serdeJson.text [.usage 1 (relayed 1)]) := by
  have hprep : (prepare WalRun.start.wal.state.nextSeq [relayed 1]).1=[(1,relayed 1)] := by
    decide
  have hcall:=recordItems_ok (f := serdeJson) (w := WalRun.start.wal) rfl
    (hprep ▸ cons_ne_nil _ _)
  refine ⟨by decide,by decide,?_⟩
  simp only [recordedOnce,WalRun.step,hcall,hprep,map_cons,map_nil]
  rfl

theorem tornOnce_wal : tornOnce.wal.attached=true ∧
    prepare tornOnce.wal.state.nextSeq [relayed 3]=([(2,relayed 3)],3) ∧
    tornOnce.wal.disk=utf8 (serdeJson.text [.usage 1 (relayed 1)]++['{']) := by
  obtain ⟨hatt,hprep,hdisk⟩ := recordedOnce_wal
  have hnone : (prepare recordedOnce.wal.state.nextSeq [relayed 2]).1≠[] := by
    exact cons_ne_nil _ _
  have hcall:=RelayUsageWal.recordItems_stopped (f := serdeJson) hatt hnone 1
  refine ⟨by decide,by decide,?_⟩
  have hfst : (utf8 (serdeJson.text [.usage 2 (relayed 2)])).take 1=utf8 ['{'] :=
    serdeJson_take_one _ _
  simp only [tornOnce,WalRun.step,hcall,hprep,map_cons,map_nil]
  rw [hfst,hdisk,← utf8_append]

theorem tornOnce_run : ((WalRun.machine serdeJson).restrict (Careful serdeJson)).Run tornOnce
      [.recorded 1 (relayed 1),.unrecorded 2 (relayed 2)] := by
  obtain ⟨hatt,_,hdisk⟩:=recordedOnce_wal
  have hfst : Careful serdeJson WalRun.start (.record [relayed 1] none) :=
    .inr ⟨rfl,⟨[],by decide,.inl rfl⟩,by decide,nofun⟩
  have hsnd : Careful serdeJson recordedOnce (.record [relayed 2] (some 1)) := by
    refine .inr ⟨hatt,⟨_,hdisk,.inr ?_⟩,by decide,?_⟩
    · rw [text_singleton,getLast?_concat]
    intro written hwr
    obtain rfl := Option.some.inj hwr
    exact ⟨1,serdeJson_take_one _ _⟩
  have hrun:=Machine.Run.init (M := (WalRun.machine serdeJson).restrict (Careful serdeJson))
  have hone:=hrun.next (.record [relayed 1] none) ⟨trivial,hfst⟩ [.recorded 1 (relayed 1)]
    (by decide)
  exact Machine.Run.next (s := recordedOnce) hone (.record [relayed 2] (some 1)) ⟨trivial,hsnd⟩
    [.unrecorded 2 (relayed 2)] (by decide)

theorem wal_recovers_torn_once :
    Recovers serdeJson tornOnce [.recorded 1 (relayed 1), .unrecorded 2 (relayed 2)] :=
  wal_recovers_of_careful serdeJson serdeJson_lawful _ _ tornOnce_run

theorem record_behind_torn_line_lost :
    (WalRun.machine serdeJson).Run recordedBehind
        [.recorded 1 (relayed 1), .unrecorded 2 (relayed 2), .recorded 2 (relayed 3)] ∧
      openWal serdeJson recordedBehind.wal.disk = .error .malformed ∧
      ¬ Recovers serdeJson recordedBehind
        [.recorded 1 (relayed 1), .unrecorded 2 (relayed 2), .recorded 2 (relayed 3)] := by
  obtain ⟨hatt,hprep,htorn⟩:=tornOnce_wal
  have hdisk : recordedBehind.wal.disk =
      utf8 (serdeJson.text [.usage 1 (relayed 1)]++('{'::serdeJson.text [.usage 2 (relayed 3)])) := by
    have hnone : (prepare tornOnce.wal.state.nextSeq [relayed 3]).1≠[] := by
      exact cons_ne_nil _ _
    have hcall:=RelayUsageWal.recordItems_ok (f := serdeJson) hatt hnone
    simp only [recordedBehind,WalRun.step,hcall,hprep,map_cons,map_nil]
    rw [htorn,← utf8_append,append_assoc,singleton_append]
  have hopen : openWal serdeJson recordedBehind.wal.disk = .error .malformed := by
    rw [hdisk]
    exact openWal_merged_line _ _
  refine ⟨?_,hopen,?_⟩
  · exact Machine.Run.next (s := tornOnce) tornOnce_run.of_restrict (.record [relayed 3] none) trivial
      [.recorded 2 (relayed 3)] (by decide)
  rintro ⟨_,_,hok,-⟩
  rw [hopen] at hok
  cases hok

end Lantunnel.Gateway
