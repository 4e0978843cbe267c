import Lantunnel.Client.EngineInvariant

/-!
# What a step of a Client may emit

`Emits` lists every output a step can have, each with what the step has seen before it:
the record that opened, the task that ran, the entry of a table.
-/

namespace Lantunnel.Client
open Lib FieldCodec RustStd Core List MultiSenderRouter

/-- A router with a seal context hands `session` only what it may see of `msg`. -/
def HandedBy (aead : Aead) (router : MultiSenderRouter) (msg : BinaryMessage)
    (session : SessionHandle) (frame : BinaryMessage) : Prop :=
  ∀ ctx, router.v2RelaySeal=some ctx → Carries aead ctx msg session frame

section Handed
variable {aead : Aead} {router : MultiSenderRouter}

theorem send_handed {msg : BinaryMessage} (hflow : IsFlowMessage msg) (env : SendEnv TransportError) :
    ∀ a∈attempts (router.send aead env msg).effects, HandedBy aead router msg a.session a.frame := by
  intro a ha ctx hseal
  exact (sendWithPathAndSession_handover (messageForPath_carries hseal hflow) env).carried a ha

theorem drop_reserved (payload : Bytes) :
    (List.replicate NONCE_SIZE (0 : UInt8)++payload).drop NONCE_SIZE=payload := by
  simp

section
variable (connId : String) (kind : RelayFramedKindV2) (payload : Bytes)

theorem sendPreparedData_handed
    (env : SendEnv TransportError) : ∀ a∈attempts (router.sendPreparedData aead env connId kind
        (List.replicate NONCE_SIZE 0++payload)).effects,
      HandedBy aead router (preparedBinaryMessage connId kind payload) a.session a.frame := by
  intro a ha ctx hseal
  have hcarry:=(sendPreparedData_handover (preparedMessageForInitialPath_carries hseal)
    (preparedMessageFromPlaintext_carries hseal) env).carried a ha
  rwa [drop_reserved] at hcarry

theorem trySendPreparedData_handed
    (env : SendEnv TrySendKind) : ∀ a∈attempts (router.trySendPreparedData aead env connId kind
        (List.replicate NONCE_SIZE 0++payload)).effects,
      HandedBy aead router (preparedBinaryMessage connId kind payload) a.session a.frame := by
  intro a ha ctx hseal
  have hcarry:=(trySendPreparedData_handover (preparedMessageForInitialPath_carries hseal)
    (preparedMessageFromPlaintext_carries hseal) env).carried a ha
  rwa [drop_reserved] at hcarry

end

end Handed

def StreamRecord (aead : Aead) (flow : V2RelayFlowCryptoContext) (wire : WireConnId) (bytes : Bytes) :
    Prop :=
  ∃ kind aad plaintext, flowAad (flow.recordContext wire true) kind = .ok aad ∧
    SealedRecord aead flow.cipher.send aad plaintext bytes

namespace EngineState
variable {params : EngineParams} {s : EngineState} {env : EngineEnv}

inductive SendsFor (params : EngineParams) (s : EngineState) :
    EngineEvent → String → MultiSenderRouter → Prop
  | connect {env connId network address} :
      SendsFor params s (.message env (.connect connId network address)) connId (s.inboundRouter connId)
  | sealedOpen {env remotePeerId sessionId wire sealed flow network address connId stored}
      (hopened : s.openSealedControl params remotePeerId sessionId wire false sealed =
        some (flow,.openFlow network address))
      (hconn : relayConnIdFromWireV2 wire=some connId)
      (hstored : flow.withInboundFramedAad wire=some stored) :
      SendsFor params s
        (.message env (.encryptedPeerControlV2 remotePeerId sessionId wire false sealed)) connId
        ⟨.relayOnly,stored.sealContext connId⟩
  | ofTask {e id task protocol router} (htask : s.tasks.get id=some task)
      (hkind : task.kind = .framed protocol router) : SendsFor params s e task.connId router

inductive WritesOn (params : EngineParams) (s : EngineState) :
    EngineEvent → String → WireConnId → V2RelayFlowCryptoContext → Prop
  | refused {env connId sessionId sealed wire flow address}
      (hopened : s.openSealedStream params connId sessionId sealed=some (wire,flow,address)) :
      WritesOn params s (.sealedTcpFlow env connId sessionId sealed) connId wire flow
  | ofTask {e id task wire flow} (htask : s.tasks.get id=some task)
      (hkind : task.kind = .sealedStream wire flow) : WritesOn params s e task.connId wire flow

def answerResult (success : Bool) (error : String) : Except String Unit :=
  if success then .ok () else .error error

inductive Emits (params : EngineParams) (s : EngineState) : EngineEvent → EngineOutput → Prop
  | dial {e connId protocol target kind} (h : Opens params s e connId protocol target kind) :
      Emits params s e (.dial connId protocol target)
  | send {e connId router msg session frame} (h : SendsFor params s e connId router)
      (hmsg : IsFlowMessage msg) (hhanded : HandedBy params.aead router msg session frame) :
      Emits params s e (.inboundSend msg session frame)
  | plainRefusal {env connId address write} :
      Emits params s (.tcpFlow env connId address) (.flowWrite connId write)
  | plainWrite {e id task write} (htask : s.tasks.get id=some task)
      (hkind : task.kind = .plainStream) : Emits params s e (.flowWrite task.connId write)
  | sealedWrite {e connId wire flow bytes} (h : WritesOn params s e connId wire flow)
      (hrecord : StreamRecord params.aead flow wire bytes) :
      Emits params s e (.flowWrite connId (.frame bytes))
  | plainDelivery {e id task payload} (htask : s.tasks.get id=some task)
      (hkind : task.kind = .plainStream) : Emits params s e (.targetWrite task.connId payload)
  | sealedDelivery {id task wire flow bytes aad payload} (htask : s.tasks.get id=some task)
      (hkind : task.kind = .sealedStream wire flow)
      (haad : flowAad (flow.recordContext wire false) .data = .ok aad)
      (hopened : flow.cipher.openPrecomputed params.aead aad bytes = .ok payload) :
      Emits params s (.flowData id bytes) (.targetWrite task.connId payload)
  | put {env kind connId sealed channel payload}
      (h : s.openFramed params kind connId sealed=some (.ok payload)) :
      Emits params s (.message env (preparedBinaryMessage connId kind sealed))
        (.put kind connId channel payload)
  | drained {e connId datagrams channel payload}
      (hpending : s.pendingUdpInbound.get connId=some datagrams) (hmem : payload ∈ datagrams) :
      Emits params s e (.put .udpData connId channel payload)
  | buffered {env connId sealed payload}
      (h : s.openFramed params .udpData connId sealed=some (.ok payload)) :
      Emits params s (.message env (.udpData connId sealed)) (.buffered connId payload)
  | plainAnswer {env connId success error peer} (hpending : s.proxyPending.get connId=some peer) :
      Emits params s (.message env (.connectResponse connId success error))
        (.reported connId peer (answerResult success error))
  | sealedAnswer {env remotePeerId sessionId wire sealed flow success error connId peer}
      (hopened : s.openSealedControl params remotePeerId sessionId wire false sealed =
        some (flow,.openResponse success error))
      (hconn : relayConnIdFromWireV2 wire=some connId)
      (hown : success=true → ∃ ownWire, relayConnIdToWireV2 connId=some ownWire)
      (hpending : s.proxyPending.get connId=some peer) :
      Emits params s (.message env (.encryptedPeerControlV2 remotePeerId sessionId wire false sealed))
        (.reported connId peer (answerResult success error))
  | streamAnswer {id response connId ctx}
      (hopening : s.openingStreams.get id=some (connId,ctx)) :
      Emits params s (.streamResponse id response)
        (.reported connId ctx.remotePeerId (streamResult params connId ctx response))
  | routeBindAck {e connId success error} : Emits params s e (.routeBindAck connId success error)
  | gossip {e remotePeerId payload} : Emits params s e (.gossip remotePeerId payload)
  | linkInstalled {remotePeerId link} :
      Emits params s (.linkInstalled remotePeerId link) (.linkInstalled remotePeerId link)

variable {e : EngineEvent}

theorem sendInbound_emits {connId : String} {router : MultiSenderRouter}
    (h : SendsFor params s e connId router) (env : EngineEnv) (success : Bool) (error : String) :
    ∀ o∈(sendInbound params router env (.connectResponse connId success error)).1,
      Emits params s e o := by
  have hflow : IsFlowMessage (.connectResponse connId success error) := trivial
  intro o ho
  obtain ⟨a,ha,rfl⟩:=mem_map.mp ho
  exact .send h hflow (send_handed hflow env.send a ha)

theorem handleConnect_emits {t : EngineState} {connId network address : String}
    (hsends : SendsFor params s e connId (t.inboundRouter connId))
    (hopens : ∀ protocol target, parseNetwork network=some protocol →
      resolveInboundDialTarget env.inbound (t.delivery connId) protocol address = .ok target →
      (t.inbound.contains connId || t.udpInbound.contains connId)=false →
      Opens params s e connId protocol target.address (.framed protocol (t.inboundRouter connId))) :
    ∀ o∈(t.handleConnect params env connId network address).2, Emits params s e o := by
  rcases t.handleConnect_cases params env connId network address with
    ⟨protocol,target,hnet,htgt,hidle,heq⟩ | ⟨t',success,error,-,heq⟩
  · rw [heq]
    intro o ho
    obtain rfl := mem_singleton.mp ho
    exact .dial (hopens protocol target hnet htgt hidle)
  · rw [heq]
    exact sendInbound_emits hsends env success error

theorem handleProxyConnectResponse_reports {t : EngineState} {connId : String} {success : Bool}
    {error : String} {o : EngineOutput}
    (h : o∈(t.handleProxyConnectResponse connId success error).2) :
    ∃ peer, t.proxyPending.get connId=some peer ∧
      o = .reported connId peer (answerResult success error) := by
  unfold handleProxyConnectResponse at h
  split at h
  · next peer hpeer => exact ⟨peer,hpeer,mem_singleton.mp h⟩
  · cases h

theorem handleEncryptedPeerControl_emits (remotePeerId : String) (sessionId : SessionId)
    (wire : WireConnId) (routeAbort : Bool) (sealed : Bytes) :
    ∀ o∈(s.handleEncryptedPeerControl params env remotePeerId sessionId wire routeAbort sealed).2,
      Emits params s
        (.message env (.encryptedPeerControlV2 remotePeerId sessionId wire routeAbort sealed)) o := by
  have hhand:=s.handleEncryptedPeerControl_handled params env remotePeerId sessionId wire
    routeAbort sealed
  generalize s.handleEncryptedPeerControl params env remotePeerId sessionId wire routeAbort sealed =
    handled at hhand
  intro o ho
  cases hhand with
  | dropped | aborted => cases ho
  | gossips =>
    obtain rfl := mem_singleton.mp ho
    exact .gossip
  | @opens flow network address hopd =>
    rcases s.handleSealedOpen_cases params env flow wire network address with
      heq | ⟨connId,heq⟩ | ⟨connId,stored,hconn,hput,heq⟩
    · rw [heq] at ho
      cases ho
    · rw [heq] at ho
      cases ho
    · rw [heq] at ho
      refine handleConnect_emits ?_ ?_ o ho
      · rw [inboundRouter_storeFlow]
        exact .sealedOpen hopd hconn hput
      intro protocol target hnet htgt _
      exact opens_of_storeFlow hopd hconn hput protocol target hnet htgt
  | @answers flow success error hopd =>
    rcases s.handleSealedOpenResponse_cases flow wire success error with
      heq | ⟨connId,rfl,hconn,heq⟩ | ⟨connId,ownWire,stored,rfl,hconn,hown,-,heq⟩
    · rw [heq] at ho
      cases ho
    · rw [heq] at ho
      obtain ⟨_,hpeer,rfl⟩:=handleProxyConnectResponse_reports ho
      exact .sealedAnswer hopd hconn (fun h => nomatch h) hpeer
    · rw [heq] at ho
      obtain ⟨_,hpeer,rfl⟩:=handleProxyConnectResponse_reports ho
      exact .sealedAnswer hopd hconn (fun _ => ⟨ownWire,hown⟩) hpeer

theorem handleMsg_emits (msg : BinaryMessage) :
    ∀ o∈(s.handleMsg params env msg).2, Emits params s (.message env msg) o := by
  intro o ho
  cases msg with
  | encryptedPeerControlV2 remotePeerId sessionId wire routeAbort sealed =>
    exact handleEncryptedPeerControl_emits remotePeerId sessionId wire routeAbort sealed o ho
  | relayRouteBind =>
    dsimp only [handleMsg,handleRelayRouteBind] at ho
    split at ho
    · obtain rfl := mem_singleton.mp ho
      exact .routeBindAck
    obtain rfl := mem_singleton.mp ho
    exact .routeBindAck
  | connect =>
    refine handleConnect_emits .connect ?_ o ho
    intro protocol target hnet htgt hidle
    exact .connect hnet htgt hidle
  | data connId payload =>
    dsimp only [handleMsg,handleData] at ho
    split at ho
    · cases ho
    · cases ho
    next opened hopd =>
    split at ho
    · next channel hchan =>
      split at ho
      · obtain rfl := mem_singleton.mp ho
        exact Emits.put (show s.openFramed params .data connId payload=_ from hopd)
      · cases ho
    · cases ho
  | udpData connId payload =>
    dsimp only [handleMsg,handleUdpData] at ho
    split at ho
    · cases ho
    · cases ho
    next opened hopd =>
    split at ho
    · next channel hchan =>
      split at ho
      · obtain rfl := mem_singleton.mp ho
        exact Emits.put (show s.openFramed params .udpData connId payload=_ from hopd)
      · cases ho
    · unfold bufferPendingUdpInbound at ho
      split at ho
      · split at ho
        · cases ho
        obtain rfl := mem_singleton.mp ho
        exact .buffered hopd
      · obtain rfl := mem_singleton.mp ho
        exact .buffered hopd
  | connectResponse =>
    obtain ⟨_,hpeer,rfl⟩:=handleProxyConnectResponse_reports ho
    exact .plainAnswer hpeer
  | _ => cases ho

theorem sealFlow_streamRecord {flow : V2RelayFlowCryptoContext} {wire : WireConnId}
    {kind : RelayFlowKindV2} {plaintext bytes : Bytes} {nonce : Nonce}
    (h : flow.cipher.sealFlow params.aead (flow.recordContext wire true) kind plaintext nonce =
      .ok bytes) : StreamRecord params.aead flow wire bytes := by
  obtain ⟨aad,haad,h⟩:=bind_eq_ok.mp h
  exact ⟨kind,aad,plaintext,haad,sealVec_sealed h⟩

theorem writeSealedResponse_emits {connId : String} {wire : WireConnId}
    {flow : V2RelayFlowCryptoContext} (h : WritesOn params s e connId wire flow) (success : Bool)
    (error : String) (nonce : Nonce) :
    ∀ o∈writeSealedResponse params connId flow wire success error nonce, Emits params s e o := by
  intro o ho
  unfold writeSealedResponse at ho
  split at ho
  · next sealed hsealed =>
    obtain rfl := mem_singleton.mp ho
    obtain ⟨_,-,hsealed⟩:=Option.bind_eq_some_iff.mp hsealed
    exact .sealedWrite h (sealFlow_streamRecord (toOption_eq_some.mp hsealed))
  · cases ho

theorem handleTcpFlowStream_emits (connId address : String) :
    ∀ o∈(s.handleTcpFlowStream env connId address).2,
      Emits params s (.tcpFlow env connId address) o := by
  intro o ho
  unfold handleTcpFlowStream at ho
  split at ho
  · obtain rfl := mem_singleton.mp ho
    exact .plainRefusal
  next target htgt =>
  obtain rfl := mem_singleton.mp ho
  exact .dial (.tcpFlow htgt)

theorem handleV2RelayTcpFlowStream_emits (connId : String) (sessionId : SessionId)
    (sealedOpen : Bytes) :
    ∀ o∈(s.handleV2RelayTcpFlowStream params env connId sessionId sealedOpen).2,
      Emits params s (.sealedTcpFlow env connId sessionId sealedOpen) o := by
  intro o ho
  unfold handleV2RelayTcpFlowStream at ho
  split at ho
  · cases ho
  next wire flow address hopd =>
  split at ho
  · cases ho
  dsimp only at ho
  split at ho
  · exact writeSealedResponse_emits (.refused hopd) _ _ _ o ho
  next target htgt =>
  obtain rfl := mem_singleton.mp ho
  have hdeliver:=delivery_storeFlow (s := s) connId flow
  rw [storeFlow] at hdeliver
  rw [hdeliver] at htgt
  exact .dial (.sealedTcpFlow hopd htgt)

theorem dialedFramed_emits {id : ℕ} {task : InboundTask} {protocol : Protocol}
    {router : MultiSenderRouter} (htask : s.tasks.get id=some task)
    (hkind : task.kind = .framed protocol router) (result : Except String Unit) :
    ∀ o∈(s.dialedFramed params env id task protocol router result).2,
      Emits params s (.dialed env id result) o := by
  intro o ho
  have hsends : SendsFor params s (.dialed env id result) task.connId router := .ofTask htask hkind
  cases result with
  | error error => exact sendInbound_emits hsends env false error o ho
  | ok =>
    have hans:=sendInbound_emits hsends env true "" o
    cases protocol with
    | tcp =>
      dsimp only [dialedFramed] at ho
      split at ho <;> exact hans ho
    | udp =>
      have hputs : o∈(if env.accepts then ((s.pendingUdpInbound.get task.connId).getD []).map
            (EngineOutput.put .udpData task.connId s.fresh) else []) ++
          (sendInbound params router env (.connectResponse task.connId true "")).1 := by
        dsimp only [dialedFramed] at ho
        split at ho <;> exact ho
      rcases mem_append.mp hputs with hput | hsend
      · split at hput
        · obtain ⟨_,hmem,rfl⟩:=mem_map.mp hput
          rcases hpend : s.pendingUdpInbound.get task.connId with _ | datagrams
          · rw [hpend] at hmem
            cases hmem
          rw [hpend] at hmem
          exact .drained hpend hmem
        · cases hput
      · exact hans hsend

theorem dialedStream_outputs {id : ℕ} {task : InboundTask} {result : Except String Unit}
    {response : List EngineOutput} : (s.dialedStream env id task result response).2=response := by
  cases result with
  | error => rfl
  | ok =>
    dsimp only [dialedStream]
    split <;> rfl

theorem handleDialed_emits (id : ℕ) (result : Except String Unit) :
    ∀ o∈(s.handleDialed params env id result).2, Emits params s (.dialed env id result) o := by
  intro o ho
  unfold handleDialed at ho
  split at ho
  · next task htask =>
    split at ho
    · cases ho
    dsimp only at ho
    split at ho
    · next protocol router hkind => exact dialedFramed_emits htask hkind result o ho
    · next hkind =>
      rw [dialedStream_outputs] at ho
      obtain rfl := mem_singleton.mp ho
      exact .plainWrite htask hkind
    · next wire flow hkind =>
      rw [dialedStream_outputs] at ho
      exact writeSealedResponse_emits (.ofTask htask hkind) _ _ _ o ho
  · cases ho

theorem targetOutputs_emits {id : ℕ} {task : InboundTask}
    (htask : s.tasks.get id=some task) (payload : Bytes) :
    ∀ o∈targetOutputs params env task payload, Emits params s e o := by
  intro o ho
  unfold targetOutputs at ho
  split at ho
  · next router hkind =>
    obtain ⟨a,ha,rfl⟩:=mem_map.mp ho
    exact .send (.ofTask htask hkind) trivial
      (sendPreparedData_handed task.connId .data payload env.send a ha)
  · next router hkind =>
    obtain ⟨a,ha,rfl⟩:=mem_map.mp ho
    exact .send (.ofTask htask hkind) trivial
      (trySendPreparedData_handed task.connId .udpData payload env.trySend a ha)
  · next hkind =>
    obtain rfl := mem_singleton.mp ho
    exact .plainWrite htask hkind
  · next wire flow hkind =>
    split at ho
    · cases ho
    next aad haad =>
    split at ho
    · cases ho
    next sealed hsealed =>
    obtain rfl := mem_singleton.mp ho
    exact .sealedWrite (.ofTask htask hkind)
      ⟨.data,aad,payload,haad,sealPreparedWithNonce_sealed (by simp) hsealed⟩

theorem handleStreamResponse_emits (id : ℕ) (response : Bytes) :
    ∀ o∈(s.handleStreamResponse params id response).2,
      Emits params s (.streamResponse id response) o := by
  intro o ho
  unfold handleStreamResponse at ho
  split at ho
  · cases ho
  next connId ctx hopening =>
  have hreport : Emits params s (.streamResponse id response)
      (.reported connId ctx.remotePeerId (streamResult params connId ctx response)) :=
    .streamAnswer hopening
  split at ho
  · simp_all
  next error hres => simp_all

theorem handleFlowData_emits (id : ℕ) (bytes : Bytes) :
    ∀ o∈(s.handleFlowData params id bytes).2, Emits params s (.flowData id bytes) o := by
  intro o ho
  unfold handleFlowData at ho
  split at ho
  · next task htask =>
    split at ho
    · cases ho
    split at ho
    · cases ho
    · next hkind =>
      obtain rfl := mem_singleton.mp ho
      exact .plainDelivery htask hkind
    · next wire flow hkind =>
      split at ho
      · next payload hopd =>
        obtain rfl := mem_singleton.mp ho
        obtain ⟨_,haad,hopd⟩:=bind_eq_ok.mp hopd
        exact .sealedDelivery htask hkind haad hopd
      · cases ho
  · cases ho

theorem step_emits (params : EngineParams) (s : EngineState) (e : EngineEvent) :
    ∀ o∈(s.step params e).2, Emits params s e o := by
  intro o ho
  cases e with
  | message env msg => exact handleMsg_emits msg o ho
  | tcpFlow env connId address => exact handleTcpFlowStream_emits connId address o ho
  | sealedTcpFlow env connId sessionId sealedOpen =>
    exact handleV2RelayTcpFlowStream_emits connId sessionId sealedOpen o ho
  | streamResponse id response => exact handleStreamResponse_emits id response o ho
  | flowData id bytes => exact handleFlowData_emits id bytes o ho
  | dialed env id result => exact handleDialed_emits id result o ho
  | targetData env id payload =>
    dsimp only [step,handleTargetData] at ho
    split at ho
    · next task htask =>
      split at ho
      · exact targetOutputs_emits htask payload o ho
      · cases ho
    · cases ho
  | linkInstalled =>
    obtain rfl := mem_singleton.mp ho
    exact .linkInstalled
  | _ => cases ho

end EngineState

end Lantunnel.Client
