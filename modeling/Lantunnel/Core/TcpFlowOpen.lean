import Lantunnel.Core.WireRoundTrip

/-!
# Opening a TCP flow on a stream of its own (tp-core/src/protocol.rs:135-233)

The two versions of the first frame on a flow's stream, and the narrow parser a Gateway
routes them by.
-/

namespace Lantunnel.Core.Wire
open Lib.FieldCodec Lib.FrameCursor

def TCP_FLOW_STREAM_PREFACE_VERSION : UInt8 := 1
def TCP_FLOW_OPEN_V2_VERSION : UInt8 := 2

structure TcpFlowStreamPreface where
  connId : String
  network : String
  address : String

structure TcpFlowOpenV2 where
  connId : String
  peerlinkSessionId : Vector UInt8 16
  sealedOpen : Bytes

def packTcpFlowStreamPreface (preface : TcpFlowStreamPreface) : Bytes :=
  [TCP_FLOW_STREAM_PREFACE_VERSION]++writeConnId preface.connId ++
    writeU16String preface.network++writeU16String preface.address

def readTcpFlowStreamPreface : Read TcpFlowStreamPreface := do
  let version ← readU8At
  if version ≠ TCP_FLOW_STREAM_PREFACE_VERSION then fail (.badVersion version)
  else
    let connId ← readConnIdAt
    let network ← readU16StringAt
    let address ← readU16StringAt
    let ended ← atEnd
    if ended then pure ⟨connId,network,address⟩ else fail .badLength

def unpackTcpFlowStreamPreface (frame : Bytes) :
    Except (Fault ProtoError) TcpFlowStreamPreface :=
  decode readTcpFlowStreamPreface frame

def packTcpFlowOpenV2 (flowOpen : TcpFlowOpenV2) : Bytes :=
  [TCP_FLOW_OPEN_V2_VERSION]++writeConnId flowOpen.connId ++
    flowOpen.peerlinkSessionId.toList++flowOpen.sealedOpen

def readTcpFlowOpenRoute : Read (UInt8 × String) := do
  let version ← readU8At
  if version ≠ TCP_FLOW_STREAM_PREFACE_VERSION ∧ version ≠ TCP_FLOW_OPEN_V2_VERSION then
    fail (.badVersion version)
  else
    let rawConnId ← takeChecked .tooShort CONN_ID_SIZE
    -- the length when there is no NUL
    let stop:=rawConnId.findIdx (·=0)
    let connId ← stringFromUtf8 (rawConnId.take stop)
    pure (version,connId)

def tcpFlowOpenRoute (frame : Bytes) : Except (Fault ProtoError) (UInt8 × String) :=
  decode readTcpFlowOpenRoute frame

def readTcpFlowOpenV2 : Read TcpFlowOpenV2 := do
  let (version,connId) ← readTcpFlowOpenRoute
  if version ≠ TCP_FLOW_OPEN_V2_VERSION then fail (.badVersion version)
  else
    let peerlinkSessionId ← readFixedBytesAt 16
    let sealedOpen ← takeRest
    pure ⟨connId,peerlinkSessionId,sealedOpen⟩

def unpackTcpFlowOpenV2 (frame : Bytes) : Except (Fault ProtoError) TcpFlowOpenV2 :=
  decode readTcpFlowOpenV2 frame

theorem readTcpFlowOpenRoute_eq : readTcpFlowOpenRoute=(do
    let version ← readU8At
    if version≠TCP_FLOW_STREAM_PREFACE_VERSION ∧ version≠TCP_FLOW_OPEN_V2_VERSION then
      fail (.badVersion version)
    else
      let connId ← readConnIdAt
      pure (version,connId)) := by
  have hstop : ∀ raw : Bytes, raw.take (raw.findIdx (·=0))=raw.takeWhile (· ≠ 0) := by
    intro raw
    rw [List.takeWhile_eq_take_findIdx_not]
    simp
  unfold readTcpFlowOpenRoute readConnIdAt
  simp only [hstop,bind_assoc]

theorem tcpFlowOpenRoute_eq_ok {frame : Bytes} {version : UInt8} {connId : String} {mid pos : ℕ}
    (hver : readU8At frame 0 = .ok (version,mid))
    (hkn : version=TCP_FLOW_STREAM_PREFACE_VERSION ∨ version=TCP_FLOW_OPEN_V2_VERSION)
    (hid : readConnIdAt frame mid = .ok (connId,pos)) :
    tcpFlowOpenRoute frame = .ok (version,connId) := by
  refine decode_eq_ok.mpr ⟨pos,?_⟩
  rw [readTcpFlowOpenRoute_eq,bind_apply_ok hver,if_neg (by tauto),bind_apply_ok hid]
  rfl

theorem tcpFlowOpenRoute_of_preface {frame : Bytes} {preface : TcpFlowStreamPreface}
    (h : unpackTcpFlowStreamPreface frame = .ok preface) :
    tcpFlowOpenRoute frame = .ok (TCP_FLOW_STREAM_PREFACE_VERSION,preface.connId) := by
  obtain ⟨_,hread⟩:=decode_eq_ok.mp h
  obtain ⟨_,_,hver,hread⟩:=bind_apply_eq_ok.mp hread
  split at hread
  · cases hread
  rename_i hkn
  have hkn:=not_not.mp hkn
  subst hkn
  obtain ⟨_,_,hid,hread⟩:=bind_apply_eq_ok.mp hread
  obtain ⟨_,_,-,hread⟩:=bind_apply_eq_ok.mp hread
  obtain ⟨_,_,-,hread⟩:=bind_apply_eq_ok.mp hread
  obtain ⟨_,_,-,hread⟩:=bind_apply_eq_ok.mp hread
  split at hread
  · obtain ⟨rfl,-⟩:=Prod.mk.inj (Except.ok.inj hread)
    exact tcpFlowOpenRoute_eq_ok hver (.inl rfl) hid
  · cases hread

theorem tcpFlowOpenRoute_of_open {frame : Bytes} {flowOpen : TcpFlowOpenV2}
    (h : unpackTcpFlowOpenV2 frame = .ok flowOpen) :
    tcpFlowOpenRoute frame = .ok (TCP_FLOW_OPEN_V2_VERSION,flowOpen.connId) := by
  obtain ⟨_,hread⟩:=decode_eq_ok.mp h
  obtain ⟨⟨_,_⟩,mid,hrt,hread⟩:=bind_apply_eq_ok.mp hread
  dsimp only at hread
  split at hread
  · cases hread
  rename_i hkn
  have hkn:=not_not.mp hkn
  subst hkn
  obtain ⟨_,_,-,hread⟩:=bind_apply_eq_ok.mp hread
  obtain ⟨_,_,-,hread⟩:=bind_apply_eq_ok.mp hread
  obtain ⟨rfl,-⟩:=Prod.mk.inj (Except.ok.inj hread)
  exact decode_eq_ok.mpr ⟨mid,hrt⟩

theorem readTcpFlowOpenRoute_decodes {version : UInt8} {connId : String}
    (hkn : version=TCP_FLOW_STREAM_PREFACE_VERSION ∨ version=TCP_FLOW_OPEN_V2_VERSION)
    (hid : ConnIdFits connId) :
    Decodes readTcpFlowOpenRoute (version,connId) ([version]++writeConnId connId) := by
  rw [readTcpFlowOpenRoute_eq]
  refine (readU8At_codec.decodes trivial).bind ?_
  rw [if_neg (by tauto)]
  exact (readConnIdAt_codec.decodes hid).last _

theorem unpack_packTcpFlowStreamPreface {preface : TcpFlowStreamPreface}
    (hid : ConnIdFits preface.connId) (hnet : U16Fits preface.network)
    (haddr : U16Fits preface.address) :
    unpackTcpFlowStreamPreface (packTcpFlowStreamPreface preface) = .ok preface := by
  refine DecodesRest.decode ?_
  rw [packTcpFlowStreamPreface,List.append_assoc,List.append_assoc]
  refine (readU8At_codec.decodes trivial).bindRest ?_
  refine (readConnIdAt_codec.decodes hid).bindRest
    ((readU16StringAt_codec.decodes hnet).bindRest ?_)
  rw [← List.append_nil (writeU16String preface.address)]
  exact (readU16StringAt_codec.decodes haddr).bindRest (.atEnd (Decodes.pure preface).rest)

theorem unpack_packTcpFlowOpenV2 {flowOpen : TcpFlowOpenV2} (hid : ConnIdFits flowOpen.connId) :
    unpackTcpFlowOpenV2 (packTcpFlowOpenV2 flowOpen) = .ok flowOpen := by
  refine DecodesRest.decode ?_
  rw [packTcpFlowOpenV2,List.append_assoc]
  refine (readTcpFlowOpenRoute_decodes (.inr rfl) hid).bindRest ?_
  dsimp only
  exact ((readFixedBytesAt_codec 16).decodes trivial).bindRest ((DecodesRest.takeRest _).last _)

end Lantunnel.Core.Wire
