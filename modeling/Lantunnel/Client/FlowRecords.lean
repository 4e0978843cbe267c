import Lantunnel.Client.RelayAnswers
import Lantunnel.Client.RelayBinding
import Lantunnel.Client.RelayRoundTrip

/-!
# Framed records between two Clients (engine.rs:802-880)
-/

namespace Lantunnel.Client.EngineState
open Lib FieldCodec RustStd Option

section
variable {params : EngineParams} {s : EngineState} {tr : List EngineOutput} {connId connId' : String}
  {flow flow' : V2RelayFlowCryptoContext} {kind kind' : RelayFramedKindV2} {aad : Bytes}
  (hrun : (machine params).Run s tr) (hflow : s.v2RelayFlows.get connId = some flow)
  (haad : flow.inboundAad kind = some aad)
include hrun hflow haad

/-- Whatever a router hands the Relay for a payload, the Client that holds the flow in the
other direction opens to that payload. -/
theorem framed_record_crosses {router : MultiSenderRouter} {ctx : V2RelaySealContext}
    (hseal : router.v2RelaySeal = some ctx) (hctx : ctx.record = flow.recordContext ctx.connId false)
    (hkeys : flow.cipher.receive = ctx.cipher.send) (hcorrect : params.aead.Correct)
    (env : SendEnv TransportError) (payload : Bytes) :
    ∀ a ∈ attempts (router.sendPreparedData params.aead env connId kind
        (List.replicate NONCE_SIZE 0 ++ payload)).effects, a.session = .relay →
      ∃ sealed, a.frame = preparedBinaryMessage connId kind sealed ∧
        s.openFramed params kind connId sealed = some (.ok payload) := by
  intro a ha hrelay
  have hcarry:=sendPreparedData_handed connId kind payload env a ha ctx hseal
  rw [hrelay] at hcarry
  have hwire : connIdWire connId = .ok ctx.connId := by cases kind <;> exact hcarry.1
  obtain ⟨_,hfrom,hmade⟩:=((run_engineInv hrun).flows hflow).2 kind aad haad
  rw [← relayConnIdToWireV2_unique hfrom (okOr_eq_ok.mp hwire),← hctx] at hmade
  obtain ⟨sealed,⟨hle,_,_,_,henc,rfl⟩,hframe⟩ : ∃ sealed,
      SealedRecord params.aead ctx.cipher.send aad payload sealed ∧
      a.frame=preparedBinaryMessage connId kind sealed := by
    obtain ⟨-,hform⟩:=hcarry
    generalize a.frame=frame at hform
    cases kind <;> cases hform <;> rename_i hmade' hsealed <;> cases hmade.symm.trans hmade' <;>
      exact ⟨_,hsealed,rfl⟩
  have hopen:=openInPlace_append hle (hcorrect.decrypts henc)
  rw [← hkeys] at hopen
  exact ⟨_,hframe,bind_eq_some_iff.mpr ⟨flow,hflow,
    bind_eq_some_iff.mpr ⟨aad,haad,congrArg some hopen⟩⟩⟩

end

def lanPing : AeadRecord := answerRecords.getLast (by decide)

def pingParams : EngineParams := { lanParams [] with aead := .around lanPing }

def lanOpened : Handled := (machine pingParams).exec .start lanOpen

theorem lanOpened_run : (machine pingParams).Run lanOpened.1 lanOpened.2 :=
  Machine.Run.init.exec lanOpen
    ⟨⟨by decide,show "peer-b" ≠ "peer-a" by decide⟩,Table.get_empty "conn-1",trivial,trivial⟩

theorem lanOpened_flow : ∃ flow aad, lanOpened.1.v2RelayFlows.get "conn-1"=some flow ∧
    flow.inboundAad .data=some aad ∧ flow.cipher.receive=lanLink.cipher.receive ∧
    lanContext=flow.recordContext lanWire false := ⟨_,_,rfl,rfl,rfl,rfl⟩

/-- The router of the Peer at the other end. -/
def pingRouter : MultiSenderRouter :=
  ⟨.relayOnly,(V2RelaySealContext.new "lan1" lanLink.sessionId "peer-b" "peer-a" lanWire
    ⟨lanLink.cipher.receive,lanLink.cipher.send⟩).toOption⟩

theorem framed_record_crosses_ping :
    attempts (pingRouter.sendPreparedData pingParams.aead lanEnv.send "conn-1" .data
        (List.replicate NONCE_SIZE 0 ++ asBytes "ping")).effects =
      [⟨.relay, .data "conn-1" (AeadRecord.bytes lanPing), .ok ()⟩] ∧
    lanOpened.1.openFramed pingParams .data "conn-1" (AeadRecord.bytes lanPing) =
      some (.ok (asBytes "ping")) := by
  obtain ⟨_,_,hflow,haad,hkeys,hctx⟩:=lanOpened_flow
  have hcross:=@framed_record_crosses _ _ _ _ _ _ _ lanOpened_run hflow haad pingRouter _ rfl hctx
    hkeys (Aead.around_correct (by decide)) lanEnv.send (asBytes "ping")
  obtain ⟨sealed,hframe,hopen⟩:=hcross _ (List.mem_cons_self ..) rfl
  obtain rfl : AeadRecord.bytes lanPing=sealed := by injection hframe
  exact ⟨by decide,hopen⟩

end Lantunnel.Client.EngineState
