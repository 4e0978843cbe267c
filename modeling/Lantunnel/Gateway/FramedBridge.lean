import Lantunnel.Gateway.TunneledConn

/-!
# A TCP flow bridged to a framed target

The target's read loop (tp-gateway/src/client_conn.rs:602-688) and the opener task of
`open_framed_with_conn_id` (client_conn.rs:1062-1151) on one `conn_id`.
-/

namespace Lantunnel.Gateway
open Lib FieldCodec TunneledConn

structure FramedBridge where
  pending : Bool := true
  /-- The opener was sent the answer. -/
  answered : Bool := false
  /-- `inbound` has the sender of the channel. -/
  registered : Bool := false
  conn : Option TunneledConn := none
  channel : List Bytes := []
  /-- The payloads of the frames handled after the answer. -/
  handled : List Bytes := []

inductive BridgeEvent
  | connectResponse
  | data (payload : Bytes) (quotaOk : Bool)
  | openerRuns
  | pollRead (room : ℕ)

def Polled.chunk : Polled (Option Bytes) → Bytes
  | .ready (some chunk) => chunk
  | _ => []

/-- The poll of a framed connection asks its channel. -/
def TunneledConn.asks (conn : TunneledConn) : Bool :=
  conn.leftover.isNone && !(conn.closed || conn.readClosed)

namespace FramedBridge
variable (s : FramedBridge)

def pollRecv : Polled (Option Bytes) :=
  match s.channel with
  | chunk::_ => .ready (some chunk)
  | [] => if s.registered then .pending else .ready none

/-- Without a channel the frame goes to `forward_client_relay`, not to the bridge. -/
def step : BridgeEvent → FramedBridge
  | .connectResponse => { s with pending := false, answered := s.answered || s.pending }
  | .data payload quotaOk =>
    let s:={ s with handled := s.handled++[payload] }
    if s.registered=false then s
    else if quotaOk then { s with channel := s.channel++[payload] }
    else { s with registered := false }
  | .openerRuns => { s with registered := true, conn := some { kind := .framed } }
  | .pollRead room =>
    match s.conn with
    | none => s
    | some conn =>
      { s with
        conn := some (conn.pollRead room ⟨true,true,s.pollRecv⟩).1
        channel := if conn.asks then s.channel.tail else s.channel }

/-- Data follows the answer and waits for room in the channel of 64; the opener runs
once, after the answer. -/
def Enabled : BridgeEvent → Prop
  | .data _ _ => s.answered=true ∧ s.channel.length<64
  | .openerRuns => s.answered=true ∧ s.conn=none
  | _ => True

def delivered : Bytes := (s.conn.map (·.delivered)).getD []

def Lossless : Prop :=
  (s.conn.map (·.inner)).getD []++s.channel.flatten=s.handled.flatten ∧
    ∀ conn, s.conn=some conn → conn.Whole ∧ conn.kind = .framed

/-- The frame finds the channel and the quota admits it, or it is empty. -/
def Reaches : BridgeEvent → Prop
  | .data payload quotaOk => (s.registered=true ∧ quotaOk=true) ∨ payload=[]
  | _ => True

end FramedBridge

def bridgeMachine : Machine FramedBridge BridgeEvent Unit where
  init := {}
  enabled := FramedBridge.Enabled
  step := fun s e => (s.step e,[])

namespace FramedBridge
variable {s : FramedBridge}

theorem pollRead_framed {conn : TunneledConn} (hkind : conn.kind = .framed) (room : ℕ)
    (recv : Polled (Option Bytes)) : (conn.pollRead room ⟨true,true,recv⟩).1.kind = .framed ∧
      (conn.pollRead room ⟨true,true,recv⟩).1.inner =
        conn.inner++if conn.asks then recv.chunk else [] := by
  unfold pollRead nextChunk asks
  cases hleft : conn.leftover with
  | some => simp [chargeRead,keep,hkind]
  | none =>
    by_cases hopen : (conn.closed || conn.readClosed)=true
    · simp [hopen,hkind]
    rcases recv with - | - | (- | chunk) <;>
      simp [hopen,hkind,chargeRead,keep,Polled.chunk]

theorem pollRecv_append : s.pollRecv.chunk++s.channel.tail.flatten=s.channel.flatten := by
  unfold pollRecv
  cases s.channel with
  | cons => rfl
  | nil => cases s.registered <;> rfl

theorem Lossless.data_iff (hs : s.Lossless) (payload : Bytes) (quotaOk : Bool) :
    (s.step (.data payload quotaOk)).Lossless ↔ s.Reaches (.data payload quotaOk) := by
  obtain ⟨hbs,hconn⟩:=hs
  have hrest : ∀ t : FramedBridge, t.conn=s.conn → (t.Lossless ↔
      (s.conn.map (·.inner)).getD []++t.channel.flatten=t.handled.flatten) := by
    intro t ht
    rw [Lossless,ht,and_iff_left hconn]
  cases hreg : s.registered <;> cases quotaOk <;>
    simp [step,hrest,Reaches,hreg,← hbs]

theorem Lossless.step (hs : s.Lossless) {e : BridgeEvent} (hen : s.Enabled e)
    (he : s.Reaches e) : (s.step e).Lossless := by
  cases e with
  | connectResponse => exact hs
  | data payload quotaOk => exact (hs.data_iff payload quotaOk).mpr he
  | openerRuns =>
    obtain ⟨hbs,-⟩:=hs
    refine ⟨?_,?_⟩
    · rw [hen.2] at hbs
      exact hbs
    rintro conn ⟨⟩
    exact ⟨rfl,rfl⟩
  | pollRead room =>
    rw [FramedBridge.step]
    cases hconn : s.conn with
    | none => exact hs
    | some conn =>
      obtain ⟨hbs,hframe⟩:=hs
      obtain ⟨hwhole,hkind⟩:=hframe conn hconn
      obtain ⟨hkind',hinner⟩:=pollRead_framed hkind room s.pollRecv
      refine ⟨?_,?_⟩
      · rw [hconn] at hbs
        simp only [Option.map_some,Option.getD_some,hinner] at hbs ⊢
        cases conn.asks with
        | false => simpa using hbs
        | true => simpa [pollRecv_append] using hbs
      · rintro next ⟨⟩
        exact ⟨(conn.pollRead_whole_iff hwhole room _).mpr (by simp [TunneledConn.Refuses,hkind]),hkind'⟩

end FramedBridge

end Lantunnel.Gateway
