import Lantunnel.Lib.LineLog

/-!
# The usage log of a Gateway (tp-gateway/src/lib.rs:102-366)

`RelayUsageWal`: relayed bytes wait in a file of JSON lines until the Platform
has acknowledged them. The model holds the bytes of the file, what the process
remembers of it, and whether its open handle is still the file at the path. Every
write may stop after some bytes and every later step of a call may fail: a call
takes its faults as an argument.

`serde_json` is external; `WalFormat.Lawful` says what is used of it.
-/

namespace Lantunnel.Gateway
open Lib FieldCodec RustStd LineLog List

/-! ### Records (lib.rs:102-149) -/

structure RelayUsageItem where
  tunnelId : String
  periodYyyymm : String
  bytes : UInt64
  deriving DecidableEq

structure RelayUsageBatchItem where
  seq : UInt64
  tunnelId : String
  periodYyyymm : String
  bytes : UInt64
  deriving DecidableEq

structure RelayUsageBatch where
  throughSeq : UInt64
  items : List RelayUsageBatchItem
  deriving DecidableEq

inductive RelayUsageWalRecord
  | usage (seq : UInt64) (item : RelayUsageItem)
  | ack (throughSeq : UInt64)

structure WalFormat where
  -- `serde_json::to_string` and `to_writer`, `serde_json::from_str`
  toJson : RelayUsageWalRecord → String
  fromJson : String → Option RelayUsageWalRecord

namespace WalFormat

def line (f : WalFormat) (record : RelayUsageWalRecord) : List Char := (f.toJson record).toList

structure Lawful (f : WalFormat) : Prop where
  roundTrip : ∀ record, f.fromJson (f.toJson record)=some record
  -- an object, with every control character escaped
  braced : ∀ record, ∃ body, f.line record = '{' :: body
  escaped : ∀ record, '\n' ∉ f.line record ∧ '\r' ∉ f.line record
  -- no object ends before its last brace
  unfinished : ∀ record text, text <+: f.line record → text ≠ f.line record →
    f.fromJson (String.ofList text)=none

def text (f : WalFormat) (records : List RelayUsageWalRecord) : List Char :=
  render (records.map f.line)

end WalFormat

/-- `RelayUsageWalState` without its file. -/
structure RelayUsageWalState where
  nextSeq : UInt64
  ackThrough : UInt64
  unacked : BTreeMap RelayUsageItem

/-! ### Opening (lib.rs:151-234) -/

inductive WalError
  | notUtf8
  | malformed

structure Replay where
  ackThrough : UInt64
  maxSeq : UInt64
  replayed : BTreeMap RelayUsageItem

namespace Replay

def empty : Replay := ⟨0,0,∅⟩

def record (r : Replay) : RelayUsageWalRecord → Replay
  | .usage seq item =>
    { r with
      maxSeq := max r.maxSeq seq
      replayed := r.replayed.insert seq item }
  | .ack throughSeq => { r with ackThrough := max r.ackThrough throughSeq }

def state (r : Replay) : RelayUsageWalState where
  nextSeq := max (saturatingAdd (max r.maxSeq r.ackThrough) 1) 1
  ackThrough := r.ackThrough
  unacked := r.replayed.filter fun seq _ => seq>r.ackThrough

end Replay

structure Scan where
  replay : Replay
  validEnd : ℕ
  repairTrailingRecord : Bool
  appendMissingNewline : Bool

def Scan.chunks (f : WalFormat) (s : Scan) : List (List Char) → Except WalError Scan
  | [] => .ok s
  | chunk::rest =>
    let hasNewline:=chunk.getLast?=some '\n'
    let line:=trimEndMatches '\r' (trimEndMatches '\n' (String.ofList chunk))
    let validEnd:=s.validEnd+(utf8 chunk).length
    if trim line = "" then Scan.chunks f { s with validEnd := validEnd } rest
    else
      match f.fromJson line with
      | some record =>
        Scan.chunks f
          { s with
            replay := s.replay.record record
            validEnd := validEnd
            appendMissingNewline := !hasNewline } rest
      | none =>
        -- a partial trailing record
        if ¬ hasNewline ∧ rest=[] then .ok { s with repairTrailingRecord := true }
        else .error .malformed

def Scan.repaired (s : Scan) (disk : Bytes) : Bytes :=
  if s.repairTrailingRecord || s.appendMissingNewline then
    disk.take s.validEnd++if s.appendMissingNewline then [0x0a] else []
  else disk

/-- The state of a file, and the file after its repair. A missing file is an
empty one. -/
def openWal (f : WalFormat) (disk : Bytes) : Except WalError (RelayUsageWalState × Bytes) := do
  let contents ← okOr .notUtf8 (fromUtf8 disk)
  let scan ← Scan.chunks f ⟨.empty,0,false,false⟩ (splitInclusive contents.toList)
  .ok (scan.replay.state,scan.repaired disk)

/-! ### Calls (lib.rs:236-355) -/

structure RelayUsageWal where
  -- the file at the path
  disk : Bytes
  -- `state.file` is that file
  attached : Bool
  state : RelayUsageWalState

/-- Where appending stops: nowhere, or after some bytes with an error. A number
past the end stands for a failing `flush` or `sync_data`. -/
abbrev WriteFault := Option ℕ

inductive CompactFault
  | none
  -- the temporary file or the `rename`
  | beforeRename
  -- `sync_parent_dir` or opening the new file
  | afterRename

/-- The numbers given to the items that are kept, and the next one. -/
def prepare (nextSeq : UInt64) : List RelayUsageItem → List (UInt64 × RelayUsageItem) × UInt64
  | [] => ([],nextSeq)
  | item::items =>
    if item.bytes=0 ∨ item.tunnelId = "" ∨ item.periodYyyymm = "" then prepare nextSeq items
    else
      let rest:=prepare (saturatingAdd nextSeq 1) items
      ((nextSeq,item)::rest.1,rest.2)

namespace RelayUsageWalState
variable (s : RelayUsageWalState)

def recorded (prepared : List (UInt64 × RelayUsageItem)) (nextSeq : UInt64) : RelayUsageWalState :=
  { s with
    nextSeq := nextSeq
    unacked := prepared.foldl (fun unacked entry => unacked.insert entry.1 entry.2) s.unacked }

def snapshot (maxItems : ℕ) : RelayUsageBatch :=
  let items:=(s.unacked.toList.take maxItems).map fun entry =>
    (⟨entry.1,entry.2.tunnelId,entry.2.periodYyyymm,entry.2.bytes⟩ : RelayUsageBatchItem)
  ⟨(items.getLast?.map RelayUsageBatchItem.seq).getD s.ackThrough,items⟩

def acked (throughSeq : UInt64) : RelayUsageWalState :=
  { s with
    ackThrough := throughSeq
    unacked := s.unacked.filter fun seq _ => seq>throughSeq }

def compacted : List RelayUsageWalRecord :=
  .ack s.ackThrough::s.unacked.toList.map fun entry => .usage entry.1 entry.2

end RelayUsageWalState

namespace RelayUsageWal
variable (f : WalFormat) (w : RelayUsageWal)

/-- `write_all`, `flush` and `sync_data` on the open handle. -/
def append (bytes : Bytes) : WriteFault → Bool × RelayUsageWal
  | none => (true,if w.attached then { w with disk := w.disk++bytes } else w)
  | some written =>
    (false,if w.attached then { w with disk := w.disk++bytes.take written } else w)

def recordItems (items : List RelayUsageItem) (fault : WriteFault) : Bool × RelayUsageWal :=
  let prepared:=(prepare w.state.nextSeq items).1
  if prepared=[] then (true,w)
  else
    match w.append (utf8 (f.text (prepared.map fun entry => .usage entry.1 entry.2))) fault with
    | (false,w) => (false,w)
    | (true,w) =>
      (true,{ w with state := w.state.recorded prepared (prepare w.state.nextSeq items).2 })

def compact : CompactFault → Bool × RelayUsageWal
  | .none => (true,{ w with disk := utf8 (f.text w.state.compacted), attached := true })
  | .beforeRename => (false,w)
  | .afterRename => (false,{ w with disk := utf8 (f.text w.state.compacted), attached := false })

def ack (throughSeq : UInt64) (fault : WriteFault) (compacting : CompactFault) :
    Bool × RelayUsageWal :=
  if throughSeq≤w.state.ackThrough then (true,w)
  else
    match w.append (utf8 (f.text [.ack throughSeq])) fault with
    | (false,w) => (false,w)
    | (true,w) => compact f { w with state := w.state.acked throughSeq } compacting

/-! What the calls come to, fault by fault. -/

section Calls
variable {f w} {items : List RelayUsageItem} {throughSeq : UInt64}

theorem recordItems_nil (h : (prepare w.state.nextSeq items).1=[]) (fault : WriteFault) :
    w.recordItems f items fault=(true,w) := by
  exact if_pos h

theorem recordItems_ok (hatt : w.attached=true) (h : (prepare w.state.nextSeq items).1≠[]) :
    w.recordItems f items none=(true,{ w with
          disk := w.disk++utf8 (f.text
            ((prepare w.state.nextSeq items).1.map fun entry => .usage entry.1 entry.2)),
          state := w.state.recorded (prepare w.state.nextSeq items).1
            (prepare w.state.nextSeq items).2 }) := by
  simp only [recordItems,if_neg h,append,if_pos hatt]

theorem recordItems_stopped (hatt : w.attached=true)
    (h : (prepare w.state.nextSeq items).1≠[]) (written : ℕ) :
    w.recordItems f items (some written)=(false,{ w with
            disk := w.disk++(utf8 (f.text
            ((prepare w.state.nextSeq items).1.map fun entry => .usage entry.1 entry.2))).take
              written }) := by
  simp only [recordItems,if_neg h,append,if_pos hatt]

theorem ack_old (h : throughSeq≤w.state.ackThrough) (fault : WriteFault)
    (compacting : CompactFault) : w.ack f throughSeq fault compacting=(true,w) := by
  rw [ack,if_pos h]

theorem ack_stopped (hatt : w.attached=true) (h : ¬ throughSeq≤w.state.ackThrough)
    (written : ℕ) (compacting : CompactFault) : w.ack f throughSeq (some written) compacting =
      (false,{ w with disk := w.disk++(utf8 (f.text [.ack throughSeq])).take written }) := by
  simp only [ack,if_neg h,append,if_pos hatt]

theorem ack_written (hatt : w.attached=true) (h : ¬ throughSeq≤w.state.ackThrough)
    (compacting : CompactFault) : w.ack f throughSeq none compacting=compact f { w with
          disk := w.disk++utf8 (f.text [.ack throughSeq])
          state := w.state.acked throughSeq } compacting := by
  simp only [ack,if_neg h,append,if_pos hatt]

end Calls

end RelayUsageWal

/-! ### What is read back

The records of a file are its whole lines, and a last line that only lacks its
newline. -/

def replay (records : List RelayUsageWalRecord) : Replay := records.foldl Replay.record .empty

inductive OnDisk (f : WalFormat) : Bytes → List RelayUsageWalRecord → Prop
  | lines (records : List RelayUsageWalRecord) : OnDisk f (utf8 (f.text records)) records
  | torn (records : List RelayUsageWalRecord) (record : RelayUsageWalRecord) (tail : List Char)
      (hne : tail ≠ []) (hpre : tail <+: f.line record) (hcut : tail ≠ f.line record) :
    OnDisk f (utf8 (f.text records++tail)) records
  | unended (records : List RelayUsageWalRecord) (record : RelayUsageWalRecord) :
    OnDisk f (utf8 (f.text records++f.line record)) (records++[record])

section Format
variable {f : WalFormat}

theorem WalFormat.text_append (a b : List RelayUsageWalRecord) :
    f.text (a++b)=f.text a++f.text b := by
  rw [WalFormat.text,map_append,render_append]
  rfl

theorem WalFormat.text_singleton (record : RelayUsageWalRecord) :
    f.text [record]=f.line record++['\n'] := by
  simp [WalFormat.text]

variable (hf : f.Lawful)
include hf

theorem WalFormat.Lawful.trimmed {record : RelayUsageWalRecord} {tail : List Char}
    (hne : tail≠[]) (hpre : tail <+: f.line record) :
    trim (String.ofList tail) ≠ "" ∧ '\n'∉tail ∧ '\r'∉tail := by
  obtain ⟨_,hbody⟩:=hf.braced record
  obtain ⟨hnl,hret⟩:=hf.escaped record
  refine ⟨?_,fun h => hnl (hpre.subset h),fun h => hret (hpre.subset h)⟩
  cases tail with
  | nil => exact absurd rfl hne
  | cons c tail =>
    rw [hbody] at hpre
    obtain ⟨rfl,-⟩:=cons_prefix_cons.mp hpre
    exact trim_ne_empty (by decide) tail

theorem WalFormat.Lawful.line_ne_nil (record : RelayUsageWalRecord) : f.line record≠[] := by
  obtain ⟨_,hbody⟩:=hf.braced record
  rw [hbody]
  exact cons_ne_nil _ _

theorem Scan.chunks_line (s : Scan) (record : RelayUsageWalRecord) (rest : List (List Char)) :
    Scan.chunks f s ((f.line record++['\n'])::rest)=Scan.chunks f { s with
          replay := s.replay.record record
          validEnd := s.validEnd+(utf8 (f.line record++['\n'])).length
          appendMissingNewline := false } rest := by
  obtain ⟨hblk,hnl,hret⟩:=hf.trimmed (hf.line_ne_nil record) prefix_rfl
  have hread : f.fromJson (String.ofList (f.line record))=some record := by
    rw [WalFormat.line,String.ofList_toList]
    exact hf.roundTrip record
  rw [Scan.chunks,trimEndMatches_concat hnl,trimEndMatches_of_not_mem hret,if_neg hblk,
    hread]
  simp

theorem Scan.chunks_lines (s : Scan) (records : List RelayUsageWalRecord) (rest : List (List Char))
    (hs : s.appendMissingNewline=false) :
    Scan.chunks f s ((records.map f.line).map (·++['\n'])++rest)=Scan.chunks f { s with
          replay := records.foldl Replay.record s.replay
          validEnd := s.validEnd+(utf8 (f.text records)).length } rest := by
  induction records generalizing s with
  | nil => simp [WalFormat.text]
  | cons record records ih =>
    have htext : f.text (record::records)=(f.line record++['\n'])++f.text records := by
      rw [← singleton_append,WalFormat.text_append,WalFormat.text_singleton]
    rw [map_cons,map_cons,cons_append,Scan.chunks_line hf,ih _ rfl,htext,
      utf8_append (f.line record++['\n']),length_append,Nat.add_assoc,hs]
    rfl

theorem Scan.chunks_torn (s : Scan) {record : RelayUsageWalRecord} {tail : List Char}
    (hne : tail≠[]) (hpre : tail <+: f.line record) (hcut : tail≠f.line record) :
    Scan.chunks f s [tail] = .ok { s with repairTrailingRecord := true } := by
  obtain ⟨hblk,hnl,hret⟩:=hf.trimmed hne hpre
  have hlast : tail.getLast?≠some '\n' := fun h => hnl (mem_of_getLast? h)
  rw [Scan.chunks,trimEndMatches_of_not_mem hnl,trimEndMatches_of_not_mem hret,
    if_neg hblk,hf.unfinished record tail hpre hcut]
  simp [hlast]

theorem Scan.chunks_unended (s : Scan) (record : RelayUsageWalRecord) :
    Scan.chunks f s [f.line record] = .ok { s with
        replay := s.replay.record record,
        validEnd := s.validEnd+(utf8 (f.line record)).length, appendMissingNewline := true } := by
  obtain ⟨hblk,hnl,hret⟩:=hf.trimmed (hf.line_ne_nil record) prefix_rfl
  have hlast : (f.line record).getLast?≠some '\n' := fun h => hnl (mem_of_getLast? h)
  have hread : f.fromJson (String.ofList (f.line record))=some record := by
    rw [WalFormat.line,String.ofList_toList]
    exact hf.roundTrip record
  rw [Scan.chunks,trimEndMatches_of_not_mem hnl,trimEndMatches_of_not_mem hret,
    if_neg hblk,hread]
  simp [hlast,Scan.chunks]

theorem splitInclusive_text (records : List RelayUsageWalRecord) (rest : List Char) :
    splitInclusive (f.text records++rest) =
      (records.map f.line).map (·++['\n'])++splitInclusive rest := by
  refine splitInclusive_render ?_ rest
  intro line hline
  obtain ⟨record,-,rfl⟩:=mem_map.mp hline
  exact (hf.escaped record).1

theorem openWal_onDisk {disk : Bytes} {records : List RelayUsageWalRecord}
    (h : OnDisk f disk records) :
    openWal f disk = .ok ((replay records).state,utf8 (f.text records)) := by
  have hopen : ∀ text scan, Scan.chunks f ⟨.empty,0,false,false⟩ (splitInclusive text) = .ok scan →
      openWal f (utf8 text) = .ok (scan.replay.state,scan.repaired (utf8 text)) := by
    intro text scan hscan
    rw [← String.toList_ofList (l := text)] at hscan
    rw [openWal,fromUtf8_utf8]
    exact bind_eq_ok.mpr ⟨_,rfl,bind_eq_ok.mpr ⟨scan,hscan,rfl⟩⟩
  cases h with
  | lines =>
    have hchunk:=splitInclusive_text hf records []
    rw [append_nil] at hchunk
    have hscan:=Scan.chunks_lines hf ⟨.empty,0,false,false⟩ records [] rfl
    rw [hopen _ _ (hchunk ▸ hscan)]
    rfl
  | torn _ record tail hne hpre hcut =>
    have hscan:=Scan.chunks_lines hf ⟨.empty,0,false,false⟩ records [tail] rfl
    rw [Scan.chunks_torn hf _ hne hpre hcut,← splitInclusive_tail (hf.trimmed hne hpre).2.1 hne,
      ← splitInclusive_text hf] at hscan
    rw [hopen _ _ hscan]
    simp [Scan.repaired,utf8_append,replay]
  | unended records record =>
    have hbyte : utf8 ['\n']=[0x0a] := by decide
    have hscan:=Scan.chunks_lines hf ⟨.empty,0,false,false⟩ records [f.line record] rfl
    rw [Scan.chunks_unended hf,← splitInclusive_tail (hf.escaped record).1 (hf.line_ne_nil record),
      ← splitInclusive_text hf] at hscan
    rw [hopen _ _ hscan]
    have hwhole : utf8 (f.text records++f.line record)++[0x0a] =
        utf8 (f.text (records++[record])) := by
      rw [← hbyte,← utf8_append,append_assoc,WalFormat.text_append,WalFormat.text_singleton]
    have hlen : (utf8 (f.text records)).length+(utf8 (f.line record)).length =
        (utf8 (f.text records++f.line record)).length := by
      rw [utf8_append,length_append]
    rw [← hwhole]
    simp [Scan.repaired,hlen,replay]

end Format

end Lantunnel.Gateway
