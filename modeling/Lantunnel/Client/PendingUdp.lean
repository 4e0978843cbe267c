import Lantunnel.Client.Engine

/-!
# Buffers for early UDP datagrams

The UDP flows of one `MultiSession` (tp-client/src/engine.rs:608-619, 7077-7355,
7415-7487, p2p/session.rs:320-355, proxy_tunnel.rs:696-745).
-/

namespace Lantunnel.Client
open Lib FieldCodec EngineState

structure UdpFlows where
  udpInbound : Finset String := ∅
  pendingUdpInbound : Table String (List Bytes) := .empty
  /-- Inbound opens that did not register a channel yet. -/
  opening : List String := []
  /-- Close graces that did not expire yet. -/
  graces : List String := []

inductive UdpFlowEvent
  | openBegins (connId : String)
  | opened (connId : String)
  /-- The open returns before its task starts: the network is not supported, the target not
  authorized, the conn_id in use or the host forbidden. -/
  | openRefused (connId : String)
  /-- No socket for the target. -/
  | openFailed (connId : String)
  /-- `ConnectResponse` could not be sent. -/
  | responseFailed (connId : String)
  /-- A flow opened by this client. -/
  | openedLocally (connId : String)
  | udpData (connId : String) (payload : Bytes)
  | close (connId : String)
  | graceExpired (connId : String)
  /-- `close_once`, or the end of `pipe_udp`. -/
  | closedLocally (connId : String)

namespace UdpFlows
variable (s : UdpFlows)

def bufferPending (connId : String) (payload : Bytes) : UdpFlows :=
  match s.pendingUdpInbound.get connId with
  | none =>
    if PENDING_UDP_INBOUND_CONN_CAP≤ s.pendingUdpInbound.pairs.length then s
    else { s with pendingUdpInbound := s.pendingUdpInbound.insert connId [payload] }
  | some pending =>
    let kept:=if PENDING_UDP_INBOUND_PER_CONN_CAP≤pending.length then pending.tail else pending
    { s with pendingUdpInbound := s.pendingUdpInbound.insert connId (kept++[payload]) }

def step : UdpFlowEvent → UdpFlows
  | .openBegins connId => { s with opening := connId::s.opening }
  | .opened connId =>
    { s with
      udpInbound := insert connId s.udpInbound
      pendingUdpInbound := s.pendingUdpInbound.remove connId
      opening := s.opening.erase connId }
  | .openRefused connId => { s with opening := s.opening.erase connId }
  | .openFailed connId =>
    { s with
      pendingUdpInbound := s.pendingUdpInbound.remove connId
      opening := s.opening.erase connId }
  | .responseFailed connId =>
    { s with
      udpInbound := s.udpInbound.erase connId
      pendingUdpInbound := s.pendingUdpInbound.remove connId }
  | .openedLocally connId => { s with udpInbound := insert connId s.udpInbound }
  | .udpData connId payload => if connId ∈ s.udpInbound then s else s.bufferPending connId payload
  | .close connId =>
    if connId ∈ s.udpInbound then { s with graces := connId::s.graces }
    else { s with pendingUdpInbound := s.pendingUdpInbound.remove connId }
  | .graceExpired connId =>
    { s with
      udpInbound := s.udpInbound.erase connId
      pendingUdpInbound := s.pendingUdpInbound.remove connId
      graces := s.graces.erase connId }
  | .closedLocally connId => { s with udpInbound := s.udpInbound.erase connId }

def Enabled : UdpFlowEvent → Prop
  | .opened connId | .openRefused connId | .openFailed connId => connId ∈ s.opening
  | .graceExpired connId => connId ∈ s.graces
  | _ => True

def Awaited (connId : String) : Prop := connId ∈ s.opening ∨ connId ∈ s.graces

def Justified : Prop := ∀ connId, s.pendingUdpInbound.contains connId=true → s.Awaited connId

/-- A datagram without a channel finds its flow awaited, or no free slot. An open that is
refused leaves no buffer, or its conn_id is awaited still. -/
def Expected : UdpFlowEvent → Prop
  | .udpData connId _ =>
    connId ∈ s.udpInbound ∨ s.Awaited connId ∨
      PENDING_UDP_INBOUND_CONN_CAP≤ s.pendingUdpInbound.pairs.length
  | .openRefused connId => s.pendingUdpInbound.contains connId=false ∨
    connId ∈ s.opening.erase connId ∨ connId ∈ s.graces
  | _ => True

end UdpFlows

def udpFlowMachine : Machine UdpFlows UdpFlowEvent Unit where
  init := {}
  enabled := UdpFlows.Enabled
  step := fun s e => (s.step e,[])

namespace UdpFlows
variable {s : UdpFlows} {connId : String}

theorem contains_insert {t : Table String (List Bytes)} {other : String}
    {datagrams : List Bytes} : (t.insert connId datagrams).contains other=true ↔
      other=connId ∨ t.contains other=true := by
  rw [Table.contains,Table.get_insert]
  split_ifs with h <;> simp [h,Table.contains]

theorem contains_bufferPending {other : String} {payload : Bytes} :
    (s.bufferPending connId payload).pendingUdpInbound.contains other=true ↔
      s.pendingUdpInbound.contains other=true ∨ other=connId ∧
        s.pendingUdpInbound.pairs.length<PENDING_UDP_INBOUND_CONN_CAP := by
  unfold bufferPending
  cases hget : s.pendingUdpInbound.get connId with
  | none =>
    split_ifs with hfull
    · simp [Nat.not_lt.mpr hfull]
    · rw [contains_insert,or_comm,and_iff_left (Nat.lt_of_not_le hfull)]
  | some =>
    have hheld : s.pendingUdpInbound.contains connId=true := by simp [Table.contains,hget]
    rw [contains_insert]
    constructor
    · grind
    rintro (h | ⟨rfl,-⟩)
    · exact .inr h
    · exact .inl rfl

section
variable (hs : s.Justified)
include hs

theorem Justified.of_remove {t : UdpFlows}
    (hpend : t.pendingUdpInbound=s.pendingUdpInbound.remove connId)
    (hkept : ∀ other≠connId, s.Awaited other → t.Awaited other) : t.Justified := by
  intro other hoth
  rw [hpend,Table.contains,Table.get_remove] at hoth
  split_ifs at hoth with hne
  · cases hoth
  · exact hkept other hne (hs other hoth)

theorem Justified.udpData_iff {payload : Bytes} :
    (s.step (.udpData connId payload)).Justified ↔ s.Expected (.udpData connId payload) := by
  simp only [UdpFlows.step,Expected]
  split_ifs with hchan
  · simp [hchan,hs]
  have hsame : ∀ other, (s.bufferPending connId payload).Awaited other ↔ s.Awaited other := by
    intro other
    unfold bufferPending
    split
    · split_ifs <;> rfl
    · rfl
  simp only [Justified,contains_bufferPending,hsame,hchan,false_or]
  constructor
  · grind
  · rintro h other (hheld | ⟨rfl,hfree⟩)
    · exact hs other hheld
    · exact h.resolve_right (Nat.not_le.mpr hfree)

theorem Justified.openRefused_iff :
    (s.step (.openRefused connId)).Justified ↔ s.Expected (.openRefused connId) := by
  simp only [UdpFlows.step,Expected,Justified,Awaited]
  constructor
  · grind
  · intro h other hheld
    by_cases hoth : other=connId
    · subst hoth
      exact h.resolve_left (by simp [hheld])
    · exact (hs other hheld).imp_left (List.mem_erase_of_ne hoth).mpr

theorem Justified.step {e : UdpFlowEvent} (he : s.Expected e) : (s.step e).Justified := by
  have herase : ∀ {l : List String} {other connId : String}, other≠connId → other∈l →
      other∈l.erase connId := fun hne h => (List.mem_erase_of_ne hne).mpr h
  cases e with
  | openBegins => exact fun other h => (hs other h).imp_left (List.mem_cons_of_mem _)
  | openRefused => exact hs.openRefused_iff.mpr he
  | opened connId | openFailed connId =>
    exact hs.of_remove rfl fun other hne h => h.imp_left (herase hne)
  | responseFailed => exact hs.of_remove rfl fun _ _ h => h
  | openedLocally => exact hs
  | udpData => exact hs.udpData_iff.mpr he
  | close =>
    simp only [UdpFlows.step]
    split_ifs
    · exact fun other h => (hs other h).imp_right (List.mem_cons_of_mem _)
    · exact hs.of_remove rfl fun _ _ h => h
  | graceExpired => exact hs.of_remove rfl fun other hne h => h.imp_right (herase hne)
  | closedLocally => exact hs

theorem Justified.step_iff (e : UdpFlowEvent) : (s.step e).Justified ↔ s.Expected e := by
  refine ⟨fun h => ?_,hs.step⟩
  cases e with
  | udpData => exact hs.udpData_iff.mp h
  | openRefused => exact hs.openRefused_iff.mp h
  | _ => trivial

theorem Justified.kept {payload : Bytes}
    (hflows : (s.opening++s.graces).toFinset.card≤PENDING_UDP_INBOUND_CONN_CAP)
    (hopening : connId∈s.opening) (hchan : connId∉s.udpInbound) :
    (s.step (.udpData connId payload)).pendingUdpInbound.contains connId=true := by
  rw [UdpFlows.step,if_neg hchan,contains_bufferPending]
  by_contra hdrop
  obtain ⟨hnone,hfull⟩:=not_or.mp hdrop
  have hkeys : ∀ key, key∈(s.pendingUdpInbound.pairs.map Prod.fst).toFinset ↔
      s.pendingUdpInbound.contains key=true := by
    simp [Table.mem_pairs,Table.contains,Option.isSome_iff_exists]
  have hsub : insert connId (s.pendingUdpInbound.pairs.map Prod.fst).toFinset ⊆
      (s.opening++s.graces).toFinset := by
    intro key hkey
    rw [List.mem_toFinset,List.mem_append]
    rcases Finset.mem_insert.mp hkey with rfl | hkey
    · exact .inl hopening
    · exact hs key ((hkeys key).mp hkey)
  have hcard:=Finset.card_le_card hsub
  rw [Finset.card_insert_of_notMem (mt (hkeys connId).mp hnone),
    List.toFinset_card_of_nodup s.pendingUdpInbound.pairs_nodup,List.length_map] at hcard
  exact hfull ⟨rfl,by omega⟩

end

end UdpFlows

/-- In every run whose datagrams and refused opens are expected a buffer exists only for a
flow whose open is being handled or whose close grace runs, and the slots hold the early
datagrams of new flows. An event leaves a buffer that outlives its flow exactly when it is
not expected. -/
theorem pending_udp_awaited {s : UdpFlows} {tr : List Unit}
    (h : (udpFlowMachine.restrict UdpFlows.Expected).Run s tr) :
    (∀ connId, s.pendingUdpInbound.contains connId = true →
      connId ∈ s.opening ∨ connId ∈ s.graces) ∧
    (∀ connId payload, connId ∈ s.opening → connId ∉ s.udpInbound →
      (s.opening ++ s.graces).toFinset.card ≤ PENDING_UDP_INBOUND_CONN_CAP →
      (s.step (.udpData connId payload)).pendingUdpInbound.contains connId = true) ∧
    ∀ e, (s.step e).Justified ↔ s.Expected e := by
  have hs : s.Justified := by
    refine h.invariant (fun s _ => s.Justified) (fun _ h => by cases h) ?_
    intro s tr e hs he
    exact hs.step he.2
  exact ⟨hs,fun _ _ hopening hchan hflows => hs.kept hflows hopening hchan,hs.step_iff⟩

/-- A datagram after a local close, and one before an open that is refused. -/
theorem late_datagram_keeps_slot : ∃ s tr, udpFlowMachine.Run s tr ∧
    s.pendingUdpInbound.contains "a" = true ∧ s.pendingUdpInbound.contains "b" = true ∧
      s.opening = [] ∧ s.graces = [] :=
  ⟨_,_,Machine.Run.exec (.init (M := udpFlowMachine))
    [.openedLocally "a",.closedLocally "a",.udpData "a" [1],.openBegins "b",.udpData "b" [2],
      .openRefused "b"]
    ⟨trivial,trivial,trivial,trivial,trivial,List.mem_cons_self ..,trivial⟩,
    by decide,by decide,by decide,by decide⟩

theorem pending_udp_awaited_opening : ∃ s tr,
    (udpFlowMachine.restrict UdpFlows.Expected).Run s tr ∧
      s.pendingUdpInbound.contains "a" = true ∧ ("a" ∈ s.opening ∨ "a" ∈ s.graces) := by
  have hrun:=Machine.Run.exec (.init (M := udpFlowMachine.restrict UdpFlows.Expected))
    [.openBegins "a",.udpData "a" [1]]
    ⟨⟨trivial,trivial⟩,⟨trivial,.inr (.inl (.inl (by decide)))⟩,trivial⟩
  exact ⟨_,_,hrun,by decide,(pending_udp_awaited hrun).1 "a" (by decide)⟩

end Lantunnel.Client
