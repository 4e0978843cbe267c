import Lantunnel.Lib.FieldCodec
import Lantunnel.Lib.Machine

/-!
# Metered streams of the Gateway

`TunneledConn` over a framed target or a TCP flow stream (tp-gateway/src/tunneled.rs)
and `MeteredTcpFlowStream` (lib.rs:886-994).
-/

namespace Lantunnel.Gateway
open Lib FieldCodec

def BANDWIDTH_CHUNK : ℕ := 64*1024

inductive StreamKind
  | framed
  | tcpFlow
  | meteredTcpFlow
  deriving DecidableEq

inductive Polled (α : Type)
  | pending
  | failed
  | ready (result : α)
  deriving DecidableEq

structure PollAnswers (α : Type) where
  permit : Bool
  admits : Bool
  inner : Polled α

structure TunneledConn where
  kind : StreamKind
  leftover : Option Bytes := none
  closed : Bool := false
  readClosed : Bool := false
  writeClosed : Bool := false
  reservedWriteQuota : ℕ := 0
  /-- What the inner stream returned. -/
  inner : Bytes := []
  delivered : Bytes := []
  /-- Bytes accepted by metered writes. -/
  accepted : ℕ := 0
  consumed : ℕ := 0
  committed : ℕ := 0
  refunded : ℕ := 0

namespace TunneledConn
variable (s : TunneledConn)

/-! ### Reading (tunneled.rs:236-324, lib.rs:944-990) -/

/-- The chunk to read from, or the poll's result without one. An inner stream at
its end returns `none`. -/
def nextChunk (room : ℕ) (inner : Polled (Option Bytes)) :
    TunneledConn × Except (Polled Bytes) Bytes :=
  match s.leftover with
  | some chunk => ({ s with leftover := none },.ok chunk)
  | none =>
    if s.closed || s.readClosed then (s,.error (.ready []))
    else if room=0 ∧ s.kind ≠ .framed then (s,.error (.ready []))
    else
      match inner with
      | .pending => (s,.error .pending)
      | .failed => (s,.error .failed)
      | .ready none => ({ s with readClosed := s.kind ≠ .meteredTcpFlow },.error (.ready []))
      | .ready (some chunk) => ({ s with inner := s.inner++chunk },.ok chunk)

def keep (chunk : Bytes) : TunneledConn :=
  { s with leftover := if chunk=[] then none else some chunk }

def chargeRead (chunk : Bytes) (room : ℕ) (permit admits : Bool) : TunneledConn × Polled Bytes :=
  let n:=min chunk.length room
  let front:={ s with delivered := s.delivered++chunk.take n }
  if s.kind = .framed then (front.keep (chunk.drop n),.ready (chunk.take n))
  else if n ≠ 0 ∧ permit=false then ({ s with leftover := some chunk },.pending)
  else if n ≠ 0 ∧ admits=false then (s,.failed)
  else
    ({ front.keep (chunk.drop n) with consumed := s.consumed+n, committed := s.committed+n },
      .ready (chunk.take n))

def pollRead (room : ℕ) (answers : PollAnswers (Option Bytes)) : TunneledConn × Polled Bytes :=
  match s.nextChunk room answers.inner with
  | (s,.error outcome) => (s,outcome)
  | (s,.ok chunk) => s.chargeRead chunk room answers.permit answers.admits

/-! ### Writing (tunneled.rs:189-235, 326-420) -/

def reserveWriteQuota (want : ℕ) (admits : Bool) : TunneledConn × Bool :=
  let s :=
    if want<s.reservedWriteQuota then
      { s with
        refunded := s.refunded+(s.reservedWriteQuota-want)
        reservedWriteQuota := want }
    else s
  if want≤ s.reservedWriteQuota then (s,true)
  else if admits=false then (s,false)
  else
    ({ s with
        consumed := s.consumed+(want-s.reservedWriteQuota)
        reservedWriteQuota := want },true)

def settleWriteQuota (written : ℕ) : TunneledConn :=
  { s with
    committed := s.committed+written
    accepted := s.accepted+written
    refunded := s.refunded+(s.reservedWriteQuota-written)
    reservedWriteQuota := 0 }

def refundPendingWriteQuota : TunneledConn :=
  { s with refunded := s.refunded+s.reservedWriteQuota, reservedWriteQuota := 0 }

/-- `slot`: the answer of `poll_reserve`, asked for a framed target only, whose
`send_item` writes all or fails. -/
def pollWrite (len : ℕ) (slot : Polled Unit) (answers : PollAnswers ℕ) :
    TunneledConn × Polled ℕ :=
  if s.kind = .meteredTcpFlow then (s,answers.inner)
  else if s.closed || s.writeClosed then (s,.failed)
  else if len=0 then (s,.ready 0)
  else if answers.permit=false then (s,.pending)
  else
    let want:=min len BANDWIDTH_CHUNK
    match s.kind, slot with
    | .framed, .pending => (s,.pending)
    | .framed, .failed => (s,.failed)
    | kind, _ =>
      match s.reserveWriteQuota want answers.admits with
      | (s,false) => (s,.failed)
      | (s,true) =>
        match answers.inner with
        | .pending => (s,.pending)
        | .failed => (s.refundPendingWriteQuota,.failed)
        | .ready n =>
          let written:=if kind = .framed then want else n
          (s.settleWriteQuota written,.ready written)

def drop : TunneledConn := { s.refundPendingWriteQuota with closed := true }

end TunneledConn

inductive StreamEvent
  | pollRead (room : ℕ) (answers : PollAnswers (Option Bytes))
  | pollWrite (len : ℕ) (slot : Polled Unit) (answers : PollAnswers ℕ)
  | pollShutdown (done : Bool)
  | drop

namespace TunneledConn
variable (s : TunneledConn)

def step : StreamEvent → TunneledConn
  | .pollRead room answers => (s.pollRead room answers).1
  | .pollWrite len slot answers => (s.pollWrite len slot answers).1
  | .pollShutdown done => { s with writeClosed := s.writeClosed || done }
  | .drop => s.drop

/-- No poll after the drop, and an inner stream writes no more than it is given. -/
def Enabled (e : StreamEvent) : Prop :=
  s.closed=false ∧ ∀ len slot answers n, e = .pollWrite len slot answers →
    answers.inner = .ready n → n≤ min len BANDWIDTH_CHUNK

def meteredReads : ℕ := if s.kind = .framed then 0 else s.delivered.length

/-- The quota refuses bytes the stream took from its inner stream. -/
def Refuses : StreamEvent → Prop
  | .pollRead room answers => ∃ t chunk, s.nextChunk room answers.inner=(t,.ok chunk) ∧
    s.kind ≠ .framed ∧ min chunk.length room ≠ 0 ∧ answers.permit=true ∧ answers.admits=false
  | _ => False

/-- The bytes read and the ones kept are what the inner stream returned. -/
def Whole : Prop := s.inner=s.delivered++s.leftover.getD []

structure Balanced : Prop where
  consumed_eq : s.consumed=s.committed+s.refunded+s.reservedWriteQuota
  committed_eq : s.committed=s.meteredReads+s.accepted
  closed_settled : s.closed=true → s.reservedWriteQuota=0

end TunneledConn

def streamMachine (kind : StreamKind) : Machine TunneledConn StreamEvent Unit where
  init := { kind := kind }
  enabled := TunneledConn.Enabled
  step := fun s e => (s.step e,[])

namespace TunneledConn
variable {s : TunneledConn}

theorem keep_leftover (chunk : Bytes) : (s.keep chunk).leftover.getD []=chunk := by
  unfold keep
  split_ifs with h
  · exact h.symm
  · rfl

theorem nextChunk_frame (room : ℕ) (inner : Polled (Option Bytes)) :
    ∃ leftover readClosed bytes, (s.nextChunk room inner).1 =
      { s with leftover := leftover, readClosed := readClosed, inner := bytes } := by
  unfold nextChunk
  split
  · exact ⟨_,_,_,rfl⟩
  split_ifs
  · exact ⟨_,_,_,rfl⟩
  · exact ⟨_,_,_,rfl⟩
  split <;> exact ⟨_,_,_,rfl⟩

theorem Whole.nextChunk (hs : s.Whole) {t : TunneledConn} {room : ℕ}
    {inner : Polled (Option Bytes)} {result : Except (Polled Bytes) Bytes}
    (h : s.nextChunk room inner=(t,result)) :
    t.leftover=none ∧ t.inner=t.delivered++result.toOption.getD [] := by
  unfold Whole at hs
  unfold TunneledConn.nextChunk at h
  split at h
  · next chunk hleft =>
    cases h
    rw [hleft] at hs
    exact ⟨rfl,hs⟩
  next hleft =>
  rw [hleft] at hs
  split_ifs at h
  · cases h
    exact ⟨hleft,hs⟩
  · cases h
    exact ⟨hleft,hs⟩
  split at h <;> cases h
  · exact ⟨hleft,hs⟩
  · exact ⟨hleft,hs⟩
  · exact ⟨hleft,hs⟩
  refine ⟨hleft,?_⟩
  rw [hs]
  simp [Except.toOption]

theorem chargeRead_whole_iff {chunk : Bytes} {room : ℕ} {permit admits : Bool}
    (hleft : s.leftover=none) (hinner : s.inner=s.delivered++chunk) :
    (s.chargeRead chunk room permit admits).1.Whole ↔ ¬ (s.kind ≠ .framed ∧
      min chunk.length room≠0 ∧ permit=true ∧ admits=false) := by
  have hkept : ({ s with delivered := s.delivered++chunk.take (min chunk.length room) }.keep
      (chunk.drop (min chunk.length room))).Whole := by
    rw [Whole,keep_leftover]
    change s.inner=(s.delivered++_)++_
    rw [hinner,List.append_assoc,List.take_append_drop]
  unfold chargeRead
  dsimp only
  split_ifs with hframe hpermit hadmit
  · simpa [hframe] using hkept
  · simp [Whole,hinner,hpermit]
  · simp_all [Whole]
  · simp only [Whole] at hkept ⊢
    simp_all

theorem pollRead_whole_iff (hs : s.Whole) (room : ℕ) (answers : PollAnswers (Option Bytes)) :
    (s.pollRead room answers).1.Whole ↔ ¬ s.Refuses (.pollRead room answers) := by
  obtain ⟨_,_,_,hfrm⟩:=s.nextChunk_frame room answers.inner
  rcases hnext : s.nextChunk room answers.inner with ⟨t,_ | chunk⟩
  all_goals
    obtain ⟨hleft,hinner⟩:=hs.nextChunk hnext
    simp only [pollRead,Refuses,hnext,Prod.mk.injEq]
  · simpa [Whole,hleft,Except.toOption] using hinner
  · have hkind : t.kind=s.kind := by
      have hkind:=congrArg TunneledConn.kind hfrm
      rwa [hnext] at hkind
    have hbs : t.inner=t.delivered++chunk := hinner
    rw [chargeRead_whole_iff hleft hbs,hkind]
    simp

theorem Balanced.pollRead (hs : s.Balanced) (room : ℕ) (answers : PollAnswers (Option Bytes)) :
    (s.pollRead room answers).1.Balanced := by
  obtain ⟨_,_,_,hfrm⟩:=s.nextChunk_frame room answers.inner
  rcases hnext : s.nextChunk room answers.inner with ⟨t,_ | _⟩
  all_goals
    obtain rfl : t=_ := (congrArg Prod.fst hnext).symm.trans hfrm
    simp only [TunneledConn.pollRead,hnext]
  · exact ⟨hs.1,hs.2,hs.3⟩
  · obtain ⟨hcons,hcommit,hcls⟩:=hs
    unfold chargeRead
    dsimp only
    split_ifs with hframe hpermit hadmit
    · refine ⟨hcons,?_,hcls⟩
      simpa [keep,meteredReads,hframe] using hcommit
    · exact ⟨hcons,hcommit,hcls⟩
    · exact ⟨hcons,hcommit,hcls⟩
    · simp only [meteredReads,if_neg hframe] at hcommit
      refine ⟨?_,?_,hcls⟩
      · simp only [keep]
        omega
      simp only [keep,meteredReads,if_neg hframe,List.length_append,List.length_take]
      omega

theorem reserveWriteQuota_frame (s : TunneledConn) (want : ℕ) (admits : Bool) :
    ∃ consumed refunded reserved, (s.reserveWriteQuota want admits).1 =
        { s with consumed := consumed, refunded := refunded, reservedWriteQuota := reserved } ∧
      consumed+s.refunded+s.reservedWriteQuota=s.consumed+refunded+reserved ∧
      ((s.reserveWriteQuota want admits).2=true → reserved=want) := by
  unfold reserveWriteQuota
  by_cases hlt : want<s.reservedWriteQuota
  · simp only [if_pos hlt,le_refl,if_true]
    exact ⟨_,_,_,rfl,by omega,fun _ => rfl⟩
  simp only [if_neg hlt]
  split_ifs with hle hadmit
  · exact ⟨_,_,_,rfl,rfl,fun _ => by omega⟩
  · exact ⟨_,_,_,rfl,rfl,nofun⟩
  · exact ⟨_,_,_,rfl,by omega,fun _ => rfl⟩

theorem Balanced.pollWrite (hs : s.Balanced) {len : ℕ} {slot : Polled Unit}
    {answers : PollAnswers ℕ} (he : s.Enabled (.pollWrite len slot answers)) :
    (s.pollWrite len slot answers).1.Balanced ∧
      (s.Whole → (s.pollWrite len slot answers).1.Whole) := by
  obtain ⟨hopen,hwr⟩:=he
  obtain ⟨consumed,refunded,reserved,hfrm,_,hwant⟩ :=
    s.reserveWriteQuota_frame (min len BANDWIDTH_CHUNK) answers.admits
  have hledger:=hs.consumed_eq
  unfold TunneledConn.pollWrite
  split_ifs with hmeter hcls hlen hpermit
  · exact ⟨hs,id⟩
  · exact ⟨hs,id⟩
  · exact ⟨hs,id⟩
  · exact ⟨hs,id⟩
  dsimp only
  split
  · exact ⟨hs,id⟩
  · exact ⟨hs,id⟩
  rcases hreserved : s.reserveWriteQuota (min len BANDWIDTH_CHUNK) answers.admits with ⟨t,granted⟩
  rw [hreserved] at hfrm hwant
  obtain rfl : t=_ := hfrm
  have hpart : consumed=s.committed+refunded+reserved := by omega
  have hreserve : s.closed=true → reserved=0 := fun h => absurd h (by simp [hopen])
  cases granted with
  | false => exact ⟨⟨hpart,hs.committed_eq,hreserve⟩,id⟩
  | true =>
    obtain rfl := hwant rfl
    dsimp only
    split
    · exact ⟨⟨hpart,hs.committed_eq,hreserve⟩,id⟩
    · exact ⟨⟨hpart.trans (Nat.add_assoc ..),hs.committed_eq,fun _ => rfl⟩,id⟩
    next n hn =>
    have hle:=hwr _ _ _ n rfl hn
    refine ⟨⟨?_,?_,fun _ => rfl⟩,id⟩
    · simp only [settleWriteQuota]
      split_ifs <;> omega
    change s.committed+_=s.meteredReads+(s.accepted+_)
    rw [hs.committed_eq,Nat.add_assoc]

theorem Balanced.step (hs : s.Balanced) {e : StreamEvent} (he : s.Enabled e) :
    (s.step e).Balanced := by
  cases e with
  | pollRead room answers => exact hs.pollRead room answers
  | pollWrite => exact (hs.pollWrite he).1
  | pollShutdown => exact ⟨hs.1,hs.2,hs.3⟩
  | drop =>
    have hledger:=hs.consumed_eq
    refine ⟨?_,hs.committed_eq,fun _ => rfl⟩
    simp only [TunneledConn.step,TunneledConn.drop,refundPendingWriteQuota]
    omega

end TunneledConn

/-- In every run what is charged is what was moved. In a run whose reads the quota never
refuses the bytes read are the first of the inner stream's, and a read loses none exactly
when it is not refused. -/
theorem metered_stream_charges {kind : StreamKind} {s : TunneledConn} {tr : List Unit}
    (h : (streamMachine kind).Run s tr) :
    s.meteredReads + s.accepted + s.refunded ≤ s.consumed ∧
      s.committed = s.meteredReads + s.accepted ∧
      (s.closed = true → s.consumed = s.committed + s.refunded) ∧
      (((streamMachine kind).restrict fun s e => ¬ s.Refuses e).Run s tr →
        s.delivered <+: s.inner ∧ ∀ room answers,
          (s.pollRead room answers).1.Whole ↔ ¬ s.Refuses (.pollRead room answers)) := by
  have hstart : TunneledConn.Balanced { kind := kind } :=
    ⟨rfl,by cases kind <;> rfl,by simp⟩
  obtain ⟨hcons,hcommit,hcls⟩ : s.Balanced :=
    h.invariant (fun s _ => s.Balanced) hstart fun s _ e hs he => hs.step he
  refine ⟨by omega,hcommit,fun hdrop => ?_,fun hkept => ?_⟩
  · rw [hcons,hcls hdrop]
    rfl
  have hwhole : s.Balanced ∧ s.Whole := by
    refine hkept.invariant (fun s _ => s.Balanced ∧ s.Whole) ⟨hstart,rfl⟩ ?_
    rintro s tr e ⟨hs,hwhole⟩ ⟨he,hcond⟩
    refine ⟨hs.step he,?_⟩
    cases e with
    | pollRead room answers => exact (TunneledConn.pollRead_whole_iff hwhole room answers).mpr hcond
    | pollWrite => exact (hs.pollWrite he).2 hwhole
    | pollShutdown done | drop => exact hwhole
  exact ⟨⟨_,hwhole.2.symm⟩,TunneledConn.pollRead_whole_iff hwhole.2⟩

theorem refused_bytes_skipped : ∃ s tr, (streamMachine .tcpFlow).Run s tr ∧
    s.inner = [1, 2, 3] ∧ s.delivered = [3] :=
  ⟨_,_,Machine.Run.exec (.init (M := streamMachine .tcpFlow))
    [.pollRead 8 ⟨true,false,.ready (some [1,2])⟩,.pollRead 8 ⟨true,true,.ready (some [3])⟩]
    ⟨⟨rfl,nofun⟩,⟨rfl,nofun⟩,trivial⟩,by decide,by decide⟩

theorem metered_stream_charges_dropped : ∃ s tr,
    ((streamMachine .tcpFlow).restrict fun s e => ¬ s.Refuses e).Run s tr ∧
      s.delivered = [1] ∧ s.delivered <+: s.inner ∧ s.closed = true ∧
      s.consumed = s.committed + s.refunded := by
  have hrun:=Machine.Run.exec
    (.init (M := (streamMachine .tcpFlow).restrict fun s e => ¬ s.Refuses e))
    [.pollRead 1 ⟨true,true,.ready (some [1,2])⟩,.pollWrite 5 (.ready ()) ⟨true,true,.pending⟩,.drop]
    ⟨⟨⟨rfl,nofun⟩,by simp [TunneledConn.Refuses]⟩,
      ⟨⟨rfl,by rintro _ _ _ n ⟨⟩ ⟨⟩⟩,id⟩,⟨⟨rfl,nofun⟩,id⟩,trivial⟩
  have hall:=metered_stream_charges hrun.of_restrict
  exact ⟨_,_,hrun,by decide,(hall.2.2.2 hrun).1,by decide,hall.2.2.1 (by decide)⟩

/-! ### Bandwidth tokens (tunneled.rs:143-173, 326-428) -/

structure WritePoll where
  len : ℕ
  slot : Polled Unit
  answers : PollAnswers ℕ

def Polled.written : Polled ℕ → ℕ
  | ready n => n
  | _ => 0

namespace TunneledConn
variable (s : TunneledConn)

def poll (p : WritePoll) : TunneledConn × Polled ℕ := s.pollWrite p.len p.slot p.answers

/-- What `poll_bandwidth_permit` takes from a limiter with a rate, before the slot, the
quota and the inner stream are asked. -/
def takenTokens (p : WritePoll) : ℕ :=
  if s.closed || s.writeClosed || !p.answers.permit then 0 else min p.len BANDWIDTH_CHUNK

def pollAll : TunneledConn → List WritePoll → ℕ × ℕ
  | _, [] => (0,0)
  | s, p::polls =>
    let (taken,accepted):=pollAll (s.poll p).1 polls
    (s.takenTokens p+taken,(s.poll p).2.written+accepted)

/-- A framed target has a slot free, the quota grants what is not reserved of the chunk yet,
and the target takes the whole chunk. -/
structure TakesChunk (p : WritePoll) : Prop where
  slot : s.kind = .framed → p.slot = .ready ()
  quota : min p.len BANDWIDTH_CHUNK≤ s.reservedWriteQuota ∨ p.answers.admits=true
  whole : ∃ n, p.answers.inner = .ready n ∧ (s.kind = .framed ∨ n=min p.len BANDWIDTH_CHUNK)

/-- Whoever has tokens for a chunk finds it taken. -/
def TakesChunks : TunneledConn → List WritePoll → Prop
  | _, [] => True
  | s, p::polls => (s.takenTokens p=0 ∨ s.TakesChunk p) ∧ TakesChunks (s.poll p).1 polls

variable {s}

theorem reserveWriteQuota_kind (want : ℕ) (admits : Bool) :
    (s.reserveWriteQuota want admits).1.kind=s.kind := by
  obtain ⟨_,_,_,hfrm,-⟩:=s.reserveWriteQuota_frame want admits
  rw [hfrm]

theorem reserveWriteQuota_granted {want : ℕ} {admits : Bool} :
    (s.reserveWriteQuota want admits).2=true ↔ want≤ s.reservedWriteQuota ∨ admits=true := by
  unfold reserveWriteQuota
  by_cases hlt : want<s.reservedWriteQuota
  · simp [hlt,hlt.le]
  · grind

theorem poll_spec (hkind : s.kind ≠ .meteredTcpFlow) {p : WritePoll}
    (hinner : ∀ n, p.answers.inner=.ready n → n≤ min p.len BANDWIDTH_CHUNK) :
    (s.poll p).1.kind=s.kind ∧ (s.poll p).2.written≤ s.takenTokens p ∧
      ((s.poll p).2.written=s.takenTokens p ↔ s.takenTokens p=0 ∨ s.TakesChunk p) := by
  have hsame:=s.reserveWriteQuota_kind (min p.len BANDWIDTH_CHUNK) p.answers.admits
  have hquota:=@reserveWriteQuota_granted s (min p.len BANDWIDTH_CHUNK) p.answers.admits
  unfold poll pollWrite takenTokens
  rw [if_neg hkind]
  by_cases hcls : (s.closed || s.writeClosed)=true
  · simp [hcls,Polled.written]
  by_cases hlen : p.len=0
  · simp [hcls,hlen,Polled.written]
  by_cases hpermit : p.answers.permit=false
  · simp [hcls,hlen,hpermit,Polled.written]
  rw [if_neg hcls,if_neg hlen,if_neg hpermit,if_neg (by simp_all)]
  have hpos : min p.len BANDWIDTH_CHUNK≠0 := by
    unfold BANDWIDTH_CHUNK
    omega
  -- the answers that write nothing are those of a chunk not taken
  have hnothing : ¬ s.TakesChunk p → 0≤ min p.len BANDWIDTH_CHUNK ∧
      (0=min p.len BANDWIDTH_CHUNK ↔ min p.len BANDWIDTH_CHUNK=0 ∨ s.TakesChunk p) := by
    intro hnot
    simp [hnot,hpos,hpos.symm]
  dsimp only
  split
  · next hk hslot =>
    exact ⟨rfl,hnothing fun h => by cases hslot.symm.trans (h.slot hk)⟩
  · next hk hslot =>
    exact ⟨rfl,hnothing fun h => by cases hslot.symm.trans (h.slot hk)⟩
  next hpending hfailed =>
  split
  · next t hgranted =>
    rw [hgranted] at hsame hquota
    exact ⟨hsame,hnothing fun h => by cases hquota.mpr h.quota⟩
  next t hgranted =>
  rw [hgranted] at hsame hquota
  split
  · next hn => exact ⟨hsame,hnothing fun h => by simpa [hn] using h.whole⟩
  · next hn => exact ⟨hsame,hnothing fun h => by simpa [hn] using h.whole⟩
  next n hn =>
  have hslot : s.kind = .framed → p.slot = .ready () := by
    intro hk
    cases hs : p.slot with
    | pending => exact absurd hs (hpending hk)
    | failed => exact absurd hs (hfailed hk)
    | ready => rfl
  have htakes : s.TakesChunk p ↔ s.kind = .framed ∨ n=min p.len BANDWIDTH_CHUNK := by
    refine ⟨fun h => ?_,fun h => ⟨hslot,hquota.mp rfl,n,hn,h⟩⟩
    obtain ⟨m,hm,hwhole⟩:=h.whole
    cases hn.symm.trans hm
    exact hwhole
  refine ⟨hsame,?_⟩
  change (if s.kind=.framed then _ else n)≤_ ∧ ((if s.kind=.framed then _ else n)=_ ↔ _)
  rw [htakes]
  split_ifs with hk
  · simp [hk]
  · simp [hk,hpos,hinner n hn]

end TunneledConn

/-- A stream takes at least the tokens of the bytes it accepts, and no more exactly
when every chunk it has tokens for is taken. -/
theorem bandwidth_tokens_charged_iff {s : TunneledConn} (hkind : s.kind ≠ .meteredTcpFlow)
    {polls : List WritePoll} (hinner : ∀ p ∈ polls, ∀ n, p.answers.inner = .ready n →
      n ≤ min p.len BANDWIDTH_CHUNK) :
    (s.pollAll polls).2 ≤ (s.pollAll polls).1 ∧
      ((s.pollAll polls).1 = (s.pollAll polls).2 ↔ s.TakesChunks polls) := by
  induction polls generalizing s with
  | nil => exact ⟨le_rfl,fun _ => trivial,fun _ => rfl⟩
  | cons p polls ih =>
    obtain ⟨hsame,_,hiff⟩:=TunneledConn.poll_spec hkind (hinner p (List.mem_cons_self ..))
    obtain ⟨_,hfull⟩:=ih (hsame ▸ hkind) fun q hq => hinner q (List.mem_cons_of_mem _ hq)
    simp only [TunneledConn.pollAll,TunneledConn.TakesChunks,← hiff,← hfull]
    omega

theorem bandwidth_tokens_taken_twice : TunneledConn.pollAll { kind := .framed }
    [⟨5, .pending, true, true, .ready 5⟩, ⟨5, .ready (), true, true, .ready 5⟩] = (10, 5) := by
  decide

theorem bandwidth_tokens_charged_iff_once :
    (TunneledConn.pollAll { kind := .tcpFlow } [⟨5, .pending, true, true, .ready 5⟩]).1 = 5 :=
  (@bandwidth_tokens_charged_iff { kind := .tcpFlow } nofun [⟨5,.pending,true,true,.ready 5⟩]
    (by simp [BANDWIDTH_CHUNK])).2.mpr
      ⟨.inr ⟨by simp,.inr rfl,5,rfl,.inr (by decide)⟩,trivial⟩

end Lantunnel.Gateway
