import Lantunnel.Core.TcpFlowOpen
import Lantunnel.Client.EngineInvariant
import Lantunnel.Gateway.Relay

/-!
# One route key for one flow

The twelve bytes of a `conn_id` are written and read by functions of four files: the
frame codec (protocol.rs:1119-1140), the route parser of a flow's stream
(protocol.rs:195-218), the Client's sealed control (engine.rs:136-158,
multi_sender.rs:192-204) and the Gateway's (tp-gateway/src/lib.rs:1047-1058).
-/

namespace Lantunnel.Client
open Lib RustStd FrameCursor
open Core Core.Wire

def RelayConnId (connId : String) : Prop :=
  asBytes connId ≠ [] ∧ (asBytes connId).length≤12 ∧ (∀ b ∈ asBytes connId, b<0x80) ∧
    0 ∉ asBytes connId

theorem RelayConnId.fits {connId : String} (h : RelayConnId connId) : ConnIdFits connId :=
  ⟨h.2.1,h.2.2.2⟩

theorem relayConnId_iff {connId : String} :
    RelayConnId connId ↔ ∃ wire, relayConnIdToWireV2 connId=some wire := by
  constructor
  · intro h
    obtain ⟨hne,hlen,hascii,hnul⟩:=h
    exact ⟨_,relayConnIdToWireV2_eq_some.mpr ⟨hne,hlen,hascii,hnul,wire_toList _ hlen⟩⟩
  intro h
  obtain ⟨_,hwire⟩:=h
  obtain ⟨hne,hlen,hascii,hnul,-⟩:=relayConnIdToWireV2_eq_some.mp hwire
  exact ⟨hne,hlen,hascii,hnul⟩

theorem writeConnId_eq_wire {connId : String} {wire : WireConnId}
    (h : relayConnIdToWireV2 connId=some wire) : writeConnId connId=wire.toList := by
  obtain ⟨-,hlen,-,-,hwire⟩:=relayConnIdToWireV2_eq_some.mp h
  rw [writeConnId_of_fits hlen,hwire]
  rfl

theorem relayConnIdFromWire_eq (wire : WireConnId) :
    Gateway.relayConnIdFromWire wire=relayConnIdFromWireV2 wire := by
  have hrest : wire.toList.drop (wire.toList.takeWhile (· ≠ 0)).length =
      wire.toList.dropWhile (· ≠ 0) := by
    have hspl:=List.takeWhile_append_dropWhile (p := (· ≠ 0)) (l := wire.toList)
    exact (congrArg (List.drop _) hspl.symm).trans List.drop_left
  unfold Gateway.relayConnIdFromWire relayConnIdFromWireV2
  dsimp only
  rw [hrest]
  simp

/-- Every encoder and decoder of a flow's `conn_id` uses the same twelve bytes. -/
theorem one_route_key :
    (∀ frame preface, unpackTcpFlowStreamPreface frame = .ok preface →
      tcpFlowOpenRoute frame = .ok (TCP_FLOW_STREAM_PREFACE_VERSION, preface.connId)) ∧
    (∀ frame flowOpen, unpackTcpFlowOpenV2 frame = .ok flowOpen →
      tcpFlowOpenRoute frame = .ok (TCP_FLOW_OPEN_V2_VERSION, flowOpen.connId)) ∧
    (∀ preface : TcpFlowStreamPreface, ConnIdFits preface.connId → U16Fits preface.network →
      U16Fits preface.address →
      unpackTcpFlowStreamPreface (packTcpFlowStreamPreface preface) = .ok preface) ∧
    (∀ flowOpen : TcpFlowOpenV2, ConnIdFits flowOpen.connId →
      unpackTcpFlowOpenV2 (packTcpFlowOpenV2 flowOpen) = .ok flowOpen) ∧
    ∀ connId, RelayConnId connId → ∃ wire,
      writeConnId connId = wire.toList ∧ connIdWire connId = .ok wire ∧
      relayConnIdToWireV2 connId = some wire ∧
      (∀ pre rest, readConnIdAt (pre ++ (wire.toList ++ rest)) pre.length =
        .ok (connId, pre.length + 12)) ∧
      (∀ version rest, version = TCP_FLOW_STREAM_PREFACE_VERSION ∨
        version = TCP_FLOW_OPEN_V2_VERSION →
        tcpFlowOpenRoute ([version] ++ wire.toList ++ rest) = .ok (version, connId)) ∧
      relayConnIdFromWireV2 wire = some connId ∧
      Gateway.relayConnIdFromWire wire = some connId := by
  refine ⟨fun _ _ h => tcpFlowOpenRoute_of_preface h,fun _ _ h => tcpFlowOpenRoute_of_open h,
    fun _ hid hnet haddr => unpack_packTcpFlowStreamPreface hid hnet haddr,
    fun _ hid => unpack_packTcpFlowOpenV2 hid,?_⟩
  intro connId h
  obtain ⟨wire,hwire⟩:=relayConnId_iff.mp h
  have hbs:=writeConnId_eq_wire hwire
  have hread:=relayConnIdFromWireV2_toWire hwire
  refine ⟨wire,hbs,?_,hwire,?_,?_,hread,?_⟩
  · exact okOr_eq_ok.mpr hwire
  · intro pre rest
    have hdec:=readConnIdAt_codec.decodes h.fits pre rest
    rwa [hbs,List.length_append,Vector.length_toList] at hdec
  · intro version rest hkn
    have hdec:=readTcpFlowOpenRoute_decodes hkn h.fits [] rest
    rw [hbs,List.nil_append] at hdec
    exact decode_eq_ok.mpr ⟨_,hdec⟩
  · rw [relayConnIdFromWire_eq,hread]

end Lantunnel.Client
