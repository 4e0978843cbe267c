import Lantunnel.Lib.Machine

/-!
# Writes and flushes of a `ProxyTunnelConn` (tp-client/src/proxy_tunnel.rs)

The write half of a framed or sealed connection and the single steps of its writer task
(90-168, 227-267, 345-395, 452-571).
-/

namespace Lantunnel.Client
open Lib

def maxTcpWriteChunk : ℕ := 64*1024

inductive ProxyTunnelWrite
  | data
  | close
  deriving DecidableEq

/-- Where the writer task stands. `sent ok` and `discarding`: before `fetch_sub`.
`drained`: its last `try_recv` found nothing, its receiver is not dropped yet. -/
inductive WriterPhase
  | receiving
  | sending
  | sent (ok : Bool)
  | closing
  | draining
  | discarding
  | drained
  | ended
  deriving DecidableEq

structure TunnelWriter where
  isSealed : Bool
  queue : List ProxyTunnelWrite := []
  pendingWrites : ℕ := 0
  phase : WriterPhase := .receiving
  closed : Bool := false
  writeClosed : Bool := false
  /-- `close_once` found the channel full and spawned a task to send `Close`. -/
  spawnedClose : Bool := false
  accepted : ℕ := 0
  handed : ℕ := 0
  discarded : ℕ := 0
  failed : Bool := false
  /-- Writes accepted by a writer that had drained. -/
  late : ℕ := 0

inductive PollOutcome
  | ready
  | pending
  | wrote (n : ℕ)
  | brokenPipe
  deriving DecidableEq

namespace TunnelWriter

/-- A sealed writer without associated data for its records never receives. -/
def new (isSealed aadOk : Bool) : TunnelWriter :=
  if isSealed && !aadOk then { isSealed := isSealed, phase := .draining, failed := true }
  else { isSealed := isSealed }

variable (s : TunnelWriter)

/-- `poll_reserve` of a channel of 64 commands: `none` once the receiver is gone. -/
def pollReserve : Option Bool := if s.phase = .ended then none else some (s.queue.length<64)

def pollWrite (len : ℕ) : TunnelWriter × PollOutcome :=
  if s.closed || s.writeClosed then (s,.brokenPipe)
  else if len=0 then (s,.wrote 0)
  else
    match s.pollReserve with
    | some false => (s,.pending)
    | none => (s,.brokenPipe)
    | some true =>
      ({ s with
          pendingWrites := s.pendingWrites+1
          queue := s.queue++[.data]
          accepted := s.accepted+1
          late := if s.phase = .drained then s.late+1 else s.late },
        .wrote (min len maxTcpWriteChunk))

def pollFlush : PollOutcome := if s.pendingWrites=0 then .ready else .pending

def sendClose : TunnelWriter := { s with queue := s.queue++[.close], writeClosed := true }

def pollShutdown : TunnelWriter × PollOutcome :=
  if s.isSealed then ({ s with writeClosed := true },.ready)
  else if s.closed || s.writeClosed then (s,.ready)
  else
    match s.pollReserve with
    | some false => (s,.pending)
    | none => ({ s with writeClosed := true },.ready)
    | some true => (s.sendClose,.ready)

def drop : TunnelWriter :=
  if s.closed then s
  else if s.isSealed then { s with closed := true }
  else if s.writeClosed then { s with closed := true }
  else
    match s.pollReserve with
    | some true => { s.sendClose with closed := true }
    | some false => { s with closed := true, writeClosed := true, spawnedClose := true }
    | none => { s with closed := true, writeClosed := true }

def sendSpawned : TunnelWriter :=
  match s.spawnedClose, s.pollReserve with
  | true, some true => { s.sendClose with spawnedClose := false }
  | true, none => { s with spawnedClose := false }
  | _, _ => s

def hasSender : Bool :=
  if s.isSealed then !(s.closed || s.writeClosed) else !s.closed || s.spawnedClose

/-- One step of the writer task; `ok` is the outcome of the send it ends, if any. -/
def writerStep (ok : Bool) : TunnelWriter :=
  match s.phase, s.queue with
  | .receiving, .data::rest => { s with phase := .sending, queue := rest }
  | .receiving, .close::rest => { s with phase := .closing, queue := rest }
  | .receiving, [] => if s.hasSender then s else { s with phase := .draining }
  | .sending, _ =>
    if ok then { s with phase := .sent true, handed := s.handed+1 }
    else { s with phase := .sent false, discarded := s.discarded+1, failed := true }
  | .sent ok, _ =>
    { s with
      phase := if ok then .receiving else .draining
      pendingWrites := s.pendingWrites-1 }
  | .closing, _ => { s with phase := .draining }
  | .draining, .data::rest =>
    { s with phase := .discarding, queue := rest, discarded := s.discarded+1 }
  | .draining, .close::rest => { s with queue := rest }
  | .draining, [] => { s with phase := .drained }
  | .discarding, _ => { s with phase := .draining, pendingWrites := s.pendingWrites-1 }
  | .drained, _ => { s with phase := .ended }
  | .ended, _ => s

end TunnelWriter

inductive TunnelWriterEvent
  | pollWrite (len : ℕ)
  | pollFlush
  | pollShutdown
  | drop
  | sendSpawned
  | writer (ok : Bool)

def TunnelWriter.step (s : TunnelWriter) : TunnelWriterEvent → TunnelWriter × List PollOutcome
  | .pollWrite len => ((s.pollWrite len).1,[(s.pollWrite len).2])
  | .pollFlush => (s,[s.pollFlush])
  | .pollShutdown => (s.pollShutdown.1,[s.pollShutdown.2])
  | .drop => (s.drop,[])
  | .sendSpawned => (s.sendSpawned,[])
  | .writer ok => (s.writerStep ok,[])

def tunnelWriterMachine (isSealed aadOk : Bool) :
    Machine TunnelWriter TunnelWriterEvent PollOutcome where
  init := .new isSealed aadOk
  enabled := fun s e => s.closed=false ∨ e = .sendSpawned ∨ ∃ ok, e = .writer ok
  step := TunnelWriter.step

def WriterPhase.busy : WriterPhase → ℕ
  | .sending | .sent _ | .discarding => 1
  | _ => 0

def WriterPhase.leaving : WriterPhase → Bool
  | .receiving | .sending | .sent true => false
  | _ => true

def WriterPhase.over : WriterPhase → Bool
  | .drained | .ended => true
  | _ => false

def Ordered : List ProxyTunnelWrite → Prop
  | [] => True
  | .data::rest => Ordered rest
  | .close::rest => rest.count .data=0

variable {q : List ProxyTunnelWrite}

theorem ordered_concat_close (h : Ordered q) : Ordered (q++[.close]) := by
  induction q with
  | nil => rfl
  | cons c q ih =>
    cases c with
    | data => exact ih h
    | close => simpa [Ordered] using h

theorem ordered_concat_data (h : .close∉q) : Ordered (q++[.data]) := by
  induction q with
  | nil => trivial
  | cons c q ih =>
    cases c with
    | data => exact ih (List.not_mem_of_not_mem_cons h)
    | close => exact absurd (List.mem_cons_self ..) h

theorem ordered_of_count_eq_zero (h : q.count .data=0) : Ordered q := by
  cases q with
  | nil => trivial
  | cons c =>
    cases c with
    | data => simp at h
    | close => simpa [Ordered] using h

namespace TunnelWriter

structure Valid (s : TunnelWriter) : Prop where
  pending_eq : s.pendingWrites=s.queue.count .data+s.phase.busy
  accepted_eq : s.accepted =
    s.handed+s.discarded+s.queue.count .data+if s.phase = .sending then 1 else 0
  late_eq : s.late=if s.phase.over then s.queue.count .data else 0
  ordered : Ordered s.queue
  close_mem : .close ∈ s.queue ∨ s.spawnedClose=true → s.writeClosed=true
  failed_of : s.failed=false → s.discarded=0 ∧
    (s.phase.leaving=true →
      s.queue.count .data=0 ∧ (s.closed=true ∨ s.writeClosed=true))

variable {s : TunnelWriter} (hs : s.Valid)
include hs

theorem Valid.sendClose : s.sendClose.Valid := by
  obtain ⟨hpend,hacc,hlate,horder,_⟩:=hs
  have hcnt : (s.queue++[ProxyTunnelWrite.close]).count .data=s.queue.count .data := by simp
  refine ⟨?_,?_,?_,ordered_concat_close horder,fun _ => rfl,?_⟩
  all_goals rw [TunnelWriter.sendClose,hcnt]
  · exact hpend
  · exact hacc
  · exact hlate
  · simp_all

theorem Valid.pollWrite (len : ℕ) : (s.pollWrite len).1.Valid := by
  unfold TunnelWriter.pollWrite
  by_cases hopen : (s.closed || s.writeClosed)=true
  · rwa [if_pos hopen]
  rw [if_neg hopen]
  by_cases hlen : len=0
  · rwa [if_pos hlen]
  rw [if_neg hlen]
  obtain ⟨_,hwrite⟩ : s.closed=false ∧ s.writeClosed=false := by simpa using hopen
  have hclose : .close∉s.queue := fun h => by simpa [hwrite] using hs.close_mem (.inl h)
  split
  · exact hs
  · exact hs
  obtain ⟨_,_,_,-,hmem,_⟩:=hs
  refine ⟨?_,?_,?_,ordered_concat_data hclose,?_,?_⟩
  · grind
  · grind
  · cases hph : s.phase <;> simp_all [pollReserve,WriterPhase.over]
  · simpa using hmem
  · simp_all

/-- What the task takes off the channel moves into its phase, and from there into
one of the counts. -/
theorem Valid.writerStep (ok : Bool) : (s.writerStep ok).Valid := by
  have hgone (h : s.hasSender≠true) : s.closed=true ∨ s.writeClosed=true := by
    cases hcls : s.closed <;> simp_all [hasSender]
  obtain ⟨_,_,_,horder,_⟩:=hs
  unfold TunnelWriter.writerStep
  split
  case' h_3 => split
  case' h_4 => split
  case' h_5 ok _ => cases ok
  all_goals
    refine ⟨?_,?_,?_,?_,?_,?_⟩ <;>
      simp_all [WriterPhase.busy,WriterPhase.leaving,WriterPhase.over,Ordered]
  all_goals first | omega | exact ordered_of_count_eq_zero horder

omit hs in
theorem Valid.frame {t : TunnelWriter} (ht : t.Valid) (hs : s={ t with
    closed := s.closed, writeClosed := s.writeClosed, spawnedClose := s.spawnedClose })
    (hcls : t.closed=true → s.closed=true)
    (hwrite : t.writeClosed=true ∨ s.spawnedClose=true → s.writeClosed=true) : s.Valid := by
  obtain ⟨hpend,hacc,hlate,horder,_,hfail⟩:=ht
  rw [hs]
  refine ⟨hpend,hacc,hlate,horder,?_,?_⟩
  · grind
  intro hok
  obtain ⟨hnone,hleave⟩:=hfail hok
  refine ⟨hnone,fun h => ⟨(hleave h).1,?_⟩⟩
  rcases (hleave h).2 with h | h
  · exact .inl (hcls h)
  · exact .inr (hwrite (.inl h))

theorem Valid.step (e : TunnelWriterEvent) : (s.step e).1.Valid := by
  cases e with
  | pollWrite len => exact hs.pollWrite len
  | pollFlush => exact hs
  | pollShutdown =>
    rw [TunnelWriter.step,TunnelWriter.pollShutdown]
    split
    · exact hs.frame rfl id fun _ => rfl
    split
    · exact hs
    split
    · exact hs
    · exact hs.frame rfl id fun _ => rfl
    · exact hs.sendClose
  | drop =>
    rw [TunnelWriter.step,TunnelWriter.drop]
    split
    · exact hs
    split
    · exact hs.frame rfl (fun _ => rfl) fun h => h.elim id fun h => hs.close_mem (.inr h)
    split
    · rename_i hwrite
      exact hs.frame rfl (fun _ => rfl) fun _ => hwrite
    split
    · exact hs.sendClose.frame rfl (fun _ => rfl) fun _ => rfl
    · exact hs.frame rfl (fun _ => rfl) fun _ => rfl
    · exact hs.frame rfl (fun _ => rfl) fun _ => rfl
  | sendSpawned =>
    rw [TunnelWriter.step,TunnelWriter.sendSpawned]
    split
    · exact hs.sendClose.frame rfl id fun _ => rfl
    · exact hs.frame rfl id fun h => h.elim id nofun
    · exact hs
  | writer ok => exact hs.writerStep ok

end TunnelWriter

theorem tunnelWriter_valid {isSealed aadOk : Bool} {s : TunnelWriter} {tr : List PollOutcome}
    (h : (tunnelWriterMachine isSealed aadOk).Run s tr) : s.Valid := by
  refine h.invariant (fun s _ => s.Valid) ?_ fun _ _ e hs _ => hs.step e
  simp only [tunnelWriterMachine,TunnelWriter.new]
  split <;> exact ⟨rfl,rfl,rfl,trivial,by simp,by simp [WriterPhase.leaving]⟩

/-- A flush is ready only after every accepted write was handed to the transport
or discarded after a failed send. Once the writer task has ended it is ready
unless a write was accepted between the task's last look at the channel and its
end. -/
theorem flush_ready {isSealed aadOk : Bool} {s : TunnelWriter} {tr : List PollOutcome}
    (h : (tunnelWriterMachine isSealed aadOk).Run s tr) :
    (s.pollFlush = .ready → s.accepted = s.handed + s.discarded ∧
      (s.discarded ≠ 0 → s.failed = true)) ∧
      (s.phase = .ended → (s.pollFlush = .ready ↔ s.late = 0)) := by
  obtain ⟨hpend,hacc,hlate,-,-,_⟩:=tunnelWriter_valid h
  have hrdy : s.pollFlush = .ready ↔ s.pendingWrites=0 := by simp [TunnelWriter.pollFlush]
  rw [hrdy]
  constructor
  · intro hzero
    refine ⟨?_,fun hdiscard => ?_⟩
    · have hidle : s.phase ≠ .sending := by
        intro hph
        simp [hph,WriterPhase.busy] at hpend
        omega
      rw [if_neg hidle] at hacc
      omega
    · grind
  · intro hended
    simp only [hended,WriterPhase.busy,WriterPhase.over] at hpend hlate
    rw [hpend,hlate,if_pos trivial,Nat.add_zero]

def lateWrite : List TunnelWriterEvent :=
  [.pollWrite 1,.writer true,.writer false,.writer true,.writer true,.pollWrite 1,.writer true]

theorem late_write_never_flushed :
    (∃ s tr, (tunnelWriterMachine false true).Run s tr ∧ s.phase = .ended ∧
      s.pollFlush = .pending) ∧
    ∃ s tr, (tunnelWriterMachine true true).Run s tr ∧ s.phase = .ended ∧
      s.pollFlush = .pending :=
  ⟨⟨_,_,Machine.Run.exec .init lateWrite
      ⟨.inl rfl,.inl rfl,.inl rfl,.inl rfl,.inl rfl,.inl rfl,.inl rfl,trivial⟩,
      by decide,by decide⟩,
    _,_,Machine.Run.exec .init lateWrite
      ⟨.inl rfl,.inl rfl,.inl rfl,.inl rfl,.inl rfl,.inl rfl,.inl rfl,trivial⟩,
      by decide,by decide⟩

theorem flush_ready_ended : ∃ s tr, (tunnelWriterMachine false true).Run s tr ∧
    s.phase = .ended ∧ s.pollFlush = .ready := by
  have hrun:=Machine.Run.exec (.init (M := tunnelWriterMachine false true))
    [.pollWrite 1,.pollShutdown,.writer true,.writer true,.writer true,.writer true,
      .writer true,.writer true,.writer true]
    ⟨.inl rfl,.inl rfl,.inl rfl,.inl rfl,.inl rfl,.inl rfl,.inl rfl,.inl rfl,.inl rfl,trivial⟩
  exact ⟨_,_,hrun,by decide,((flush_ready hrun).2 (by decide)).mpr (by decide)⟩

end Lantunnel.Client
