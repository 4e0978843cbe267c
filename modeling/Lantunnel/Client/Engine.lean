import Lantunnel.Lib.Machine
import Lantunnel.Client.InboundTarget
import Lantunnel.Client.RelaySealing
import Lantunnel.Client.Replica

/-!
# A Client with a V2 profile on one Relay session (tp-client/src/engine.rs)

The tables a message from the Relay may read and write, the handlers of `handle_msg`
(engine.rs:6889-7568) and of inbound TCP flow streams (engine.rs:7571-7846), the tasks
they spawn, and what the local proxy does to the same tables (proxy_mode.rs:117-540).
-/

namespace Lantunnel.Client
open Lib FieldCodec RustStd Core

/-! ### Connection ids (engine.rs:136-158) -/

def relayConnIdToWireV2 (connId : String) : Option WireConnId := asciiConnIdToWire connId

def relayConnIdFromWireV2 (connId : WireConnId) : Option String :=
  let bytes:=connId.toList.takeWhile (· ≠ 0)
  if bytes=[] ∨ (connId.toList.drop bytes.length).any (· ≠ 0) then none
  else fromUtf8 bytes

def zeroConnId : WireConnId := Vector.replicate 12 0

/-! ### PeerLinks and sealed flows (engine.rs:802-880) -/

structure V2PeerLinkCryptoContext where
  sessionId : SessionId
  cipher : RelayCipherV2
  deriving DecidableEq

structure V2RelayFlowCryptoContext where
  tunnelId : String
  sessionId : SessionId
  localPeerId : String
  remotePeerId : String
  cipher : RelayCipherV2
  -- for `Data` and for `UdpData`
  inboundFramedAad : Option (Bytes × Bytes)

namespace V2RelayFlowCryptoContext

def sealContext (flow : V2RelayFlowCryptoContext) (connId : String) :
    Option V2RelaySealContext := do
  let wire ← relayConnIdToWireV2 connId
  (V2RelaySealContext.new flow.tunnelId flow.sessionId flow.localPeerId flow.remotePeerId wire
    flow.cipher).toOption

def recordContext (flow : V2RelayFlowCryptoContext) (connId : WireConnId) (outbound : Bool) :
    RelayRecordContextV2 :=
  if outbound then
    ⟨flow.tunnelId,flow.sessionId,flow.localPeerId,flow.remotePeerId,connId⟩
  else
    ⟨flow.tunnelId,flow.sessionId,flow.remotePeerId,flow.localPeerId,connId⟩

def withInboundFramedAad (flow : V2RelayFlowCryptoContext) (connId : WireConnId) :
    Option V2RelayFlowCryptoContext := do
  let data ← (framedAad (flow.recordContext connId false) .data).toOption
  let udp ← (framedAad (flow.recordContext connId false) .udpData).toOption
  some { flow with inboundFramedAad := some (data,udp) }

def inboundAad (flow : V2RelayFlowCryptoContext) (kind : RelayFramedKindV2) : Option Bytes :=
  flow.inboundFramedAad.map fun (data,udp) =>
    match kind with
    | .data => data
    | .udpData => udp

end V2RelayFlowCryptoContext

/-- What does not change while the profile is active: the local identity, the
Tunnel configuration of the attachment and what the Relay session negotiated. -/
structure EngineParams where
  aead : Aead
  tunnelId : String
  peerId : String
  -- tunnel and Peer id of `latest_tunnel_config`
  tunnelConfig : Option (String × String)
  relaySourceAttestationV1 : Bool

inductive TaskKind
  | framed (protocol : Protocol) (router : MultiSenderRouter)
  | plainStream
  | sealedStream (wire : WireConnId) (flow : V2RelayFlowCryptoContext)

inductive TaskPhase
  | dialing
  | piping
  deriving DecidableEq

/-- A flow opened by the other side, from its dial to the end of its pipe. -/
structure InboundTask where
  connId : String
  kind : TaskKind
  phase : TaskPhase

structure EngineState where
  v2PeerLinks : Table String V2PeerLinkCryptoContext
  v2RelayFlows : Table String V2RelayFlowCryptoContext
  -- the attested source of an inbound `conn_id`
  relayInboundAttestations : Table String String
  inbound : Table String ℕ
  udpInbound : Table String ℕ
  pendingUdpInbound : Table String (List Bytes)
  -- the Peer whose answer an outbound open on the Relay waits for
  proxyPending : Table String String
  -- TCP flow streams opened to a Peer whose response is awaited
  openingStreams : Table ℕ (String × V2RelaySealContext)
  tasks : Table ℕ InboundTask
  -- the next channel, stream or task
  fresh : ℕ

def EngineState.start : EngineState :=
  ⟨.empty,.empty,.empty,.empty,.empty,.empty,.empty,.empty,.empty,0⟩

inductive FlowWrite
  | connectResponse (success : Bool) (error : String)
  | plain (bytes : Bytes)
  | frame (bytes : Bytes)
  deriving DecidableEq

inductive EngineOutput
  | dial (connId : String) (protocol : Protocol) (address : String)
  -- `frame` was handed to `session` to carry `msg` of an inbound flow
  | inboundSend (msg : BinaryMessage) (session : SessionHandle) (frame : BinaryMessage)
  | flowWrite (connId : String) (write : FlowWrite)
  -- bytes of an inbound TCP flow stream, to the target dialed for it
  | targetWrite (connId : String) (payload : Bytes)
  | put (kind : RelayFramedKindV2) (connId : String) (channel : ℕ) (payload : Bytes)
  | buffered (connId : String) (payload : Bytes)
  | reported (connId peer : String) (result : Except String Unit)
  | routeBindAck (connId : String) (success : Bool) (error : String)
  | gossip (remotePeerId : String) (payload : RelayControlPayloadV2)
  | linkInstalled (remotePeerId : String) (link : V2PeerLinkCryptoContext)
  deriving DecidableEq

structure EngineEnv where
  inbound : InboundContext
  send : SendEnv TransportError
  trySend : SendEnv TrySendKind
  -- drawn for a record of a TCP flow stream
  nonce : Nonce
  -- the channel, stream or session written to takes the write
  accepts : Bool

abbrev Handled := EngineState × List EngineOutput

namespace EngineState
variable (params : EngineParams)

def unchanged (s : EngineState) : Handled := (s,[])

/-! ### Lookup of the PeerLink a record is sealed under (engine.rs:3684-3728) -/

def flowOfLink (remotePeerId : String) (link : V2PeerLinkCryptoContext) :
    V2RelayFlowCryptoContext :=
  ⟨params.tunnelId,link.sessionId,params.peerId,remotePeerId,link.cipher,none⟩

def v2RelayFlowFromRemote (s : EngineState) (remotePeerId : String) (sessionId : SessionId) :
    Option V2RelayFlowCryptoContext := do
  let link ← s.v2PeerLinks.get remotePeerId
  if link.sessionId ≠ sessionId then none else some (flowOfLink params remotePeerId link)

def v2RelayFlowFromSession (s : EngineState) (sessionId : SessionId) :
    Option V2RelayFlowCryptoContext :=
  match s.v2PeerLinks.pairs.filter fun (_,link) => link.sessionId=sessionId with
  | [(remotePeerId,link)] => some (flowOfLink params remotePeerId link)
  | _ => none

/-- `router.send`, with every frame it hands to a session. -/
def sendInbound (router : MultiSenderRouter) (env : EngineEnv) (msg : BinaryMessage) :
    List EngineOutput × Bool :=
  let sent:=router.send params.aead env.send msg
  ((attempts sent.effects).map fun a => .inboundSend msg a.session a.frame,sent.result.isOk)

/-- `handle_proxy_connect_response` (engine.rs:7928). -/
def handleProxyConnectResponse (s : EngineState) (connId : String) (success : Bool)
    (error : String) : Handled :=
  match s.proxyPending.get connId with
  | some peer =>
    ({ s with proxyPending := s.proxyPending.remove connId },
      [.reported connId peer (if success then .ok () else .error error)])
  | none => s.unchanged

/-! ### Route binds (engine.rs:6571-6605, 7045-7076) -/

def installRelayInboundAttestation (s : EngineState) (connId sourcePeerId : String) :
    Except String EngineState :=
  if !params.relaySourceAttestationV1 then
    .error "relay source attestation capability was not negotiated"
  else
    let source:=trim sourcePeerId
    match params.tunnelConfig with
    | none => .error "active Tunnel identity is unavailable"
    | some (tunnelId,peerId) =>
      if source = "" ∨ replicaIndex source ≠ some 0 ∨ replicaSeedForTunnel tunnelId source=none
          ∨ sameReplicaFamily peerId source then
        .error "relay source Peer is not a canonical remote Tunnel Peer"
      else if s.relayInboundAttestations.contains connId then
        .error "relay source attestation conn_id is already bound"
      else
        .ok { s with
          relayInboundAttestations := s.relayInboundAttestations.insert connId source }

def removeAttestation (s : EngineState) (connId : String) : EngineState :=
  { s with relayInboundAttestations := s.relayInboundAttestations.remove connId }

def handleRelayRouteBind (s : EngineState) (env : EngineEnv) (connId peerClientId : String) :
    Handled :=
  match s.installRelayInboundAttestation params connId peerClientId with
  | .ok bound =>
    (if env.accepts then bound else bound.removeAttestation connId,
      [.routeBindAck connId true ""])
  | .error error => (s.removeAttestation connId,[.routeBindAck connId false error])

/-! ### Opens (engine.rs:7077-7372, 6733-6826) -/

def parseNetwork (network : String) : Option Protocol :=
  if network = "tcp" then some .tcp else if network = "udp" then some .udp else none

def delivery (s : EngineState) (connId : String) : Delivery :=
  .relay ((s.v2RelayFlows.get connId).map (·.remotePeerId)) (.ok (s.relayInboundAttestations.get connId))

def inboundRouter (s : EngineState) (connId : String) : MultiSenderRouter where
  mode := if s.relayInboundAttestations.contains connId ∨ s.v2RelayFlows.contains connId then
    .relayOnly else .relayWithP2pFallback
  v2RelaySeal := (s.v2RelayFlows.get connId).bind (·.sealContext connId)

def spawn (s : EngineState) (connId : String) (kind : TaskKind) : EngineState :=
  { s with
    tasks := s.tasks.insert s.fresh ⟨connId,kind,.dialing⟩
    fresh := s.fresh+1 }

def respond (s : EngineState) (router : MultiSenderRouter) (env : EngineEnv) (connId : String)
    (success : Bool) (error : String) : Handled :=
  (s,(sendInbound params router env (.connectResponse connId success error)).1)

def handleConnect (s : EngineState) (env : EngineEnv) (connId network address : String) : Handled :=
  let existingConn:=s.inbound.contains connId || s.udpInbound.contains connId
  let v2RelayFlow:=s.v2RelayFlows.contains connId
  let router:=s.inboundRouter connId
  match parseNetwork network with
  | none =>
    (s.removeAttestation connId).respond params router env connId false
      ("unsupported network: " ++ network)
  | some protocol =>
    match resolveInboundDialTarget env.inbound (s.delivery connId) protocol address with
    | .error error => (s.removeAttestation connId).respond params router env connId false error
    | .ok target =>
      if existingConn then
        if v2RelayFlow then s.respond params router env connId true ""
        else if target.relayLocalAuthorized then
          (s.removeAttestation connId).respond params router env connId false
            "relay local conn_id is already active"
        else s.respond params router env connId true ""
      else
        (s.spawn connId (.framed protocol router),[.dial connId protocol target.address])

/-! ### Sealed control (engine.rs:6906-7044) -/

def handleSealedOpen (s : EngineState) (env : EngineEnv) (flow : V2RelayFlowCryptoContext)
    (wire : WireConnId) (network address : String) : Handled :=
  match relayConnIdFromWireV2 wire, flow.withInboundFramedAad wire with
  | some connId, some flow =>
    if s.v2RelayFlows.contains connId then
      ({ s with v2RelayFlows := s.v2RelayFlows.remove connId },[])
    else
      handleConnect params { s with v2RelayFlows := s.v2RelayFlows.insert connId flow } env connId
        network address
  | _, _ => s.unchanged

def handleSealedOpenResponse (s : EngineState) (flow : V2RelayFlowCryptoContext)
    (wire : WireConnId) (success : Bool) (error : String) : Handled :=
  match relayConnIdFromWireV2 wire with
  | none => s.unchanged
  | some connId =>
    if success then
      match (relayConnIdToWireV2 connId).bind flow.withInboundFramedAad with
      | none => s.unchanged
      | some flow =>
        handleProxyConnectResponse
          { s with v2RelayFlows := s.v2RelayFlows.insert connId flow } connId success error
    else
      handleProxyConnectResponse
        { s with v2RelayFlows := s.v2RelayFlows.remove connId } connId success error

def handleRouteAbort (s : EngineState) (wire : WireConnId) : EngineState :=
  if wire=zeroConnId then s
  else
    match relayConnIdFromWireV2 wire with
    | none => s
    | some connId =>
      { s with
        v2RelayFlows := s.v2RelayFlows.remove connId
        inbound := s.inbound.remove connId
        udpInbound := s.udpInbound.remove connId }

/-- The control payload of a sealed frame, opened under the current PeerLink of
the Peer the frame names. -/
def openSealedControl (s : EngineState) (remotePeerId : String) (sessionId : SessionId)
    (wire : WireConnId) (routeAbort : Bool) (sealed : Bytes) :
    Option (V2RelayFlowCryptoContext × RelayControlPayloadV2) := do
  let flow ← s.v2RelayFlowFromRemote params remotePeerId sessionId
  let aad ← (controlAad (flow.recordContext wire false) routeAbort).toOption
  let plaintext ← (flow.cipher.openPrecomputed params.aead aad sealed).toOption
  let payload ← (RelayControlPayloadV2.decode plaintext).toOption
  some (flow,payload)

def handleEncryptedPeerControl (s : EngineState) (env : EngineEnv) (remotePeerId : String)
    (sessionId : SessionId) (wire : WireConnId) (routeAbort : Bool) (sealed : Bytes) : Handled :=
  match s.openSealedControl params remotePeerId sessionId wire routeAbort sealed with
  | none => s.unchanged
  | some (flow,payload) =>
    if routeAbort then (s.handleRouteAbort wire,[])
    else
      match payload with
      | .openFlow network address => s.handleSealedOpen params env flow wire network address
      | .openResponse success error => s.handleSealedOpenResponse flow wire success error
      | gossipPayload =>
        if wire=zeroConnId then (s,[.gossip remotePeerId gossipPayload]) else s.unchanged

/-! ### Data, datagrams and closes (engine.rs:7373-7508; p2p/session.rs:320-356) -/

def PENDING_UDP_INBOUND_CONN_CAP : ℕ := 256
def PENDING_UDP_INBOUND_PER_CONN_CAP : ℕ := 2048

/-- The payload of a framed record, opened under the context stored for its
`conn_id`. -/
def openFramed (s : EngineState) (kind : RelayFramedKindV2) (connId : String) (payload : Bytes) :
    Option (Except RelayCryptoErrorV2 Bytes) := do
  let flow ← s.v2RelayFlows.get connId
  let aad ← flow.inboundAad kind
  some (flow.cipher.openPrecomputed params.aead aad payload)

def handleData (s : EngineState) (env : EngineEnv) (connId : String) (payload : Bytes) : Handled :=
  match s.openFramed params .data connId payload with
  | none => s.unchanged
  | some (.error _) => ({ s with v2RelayFlows := s.v2RelayFlows.remove connId },[])
  | some (.ok opened) =>
    match s.inbound.get connId with
    | some channel => (s,if env.accepts then [.put .data connId channel opened] else [])
    | none => s.unchanged

def bufferPendingUdpInbound (s : EngineState) (connId : String) (payload : Bytes) : Handled :=
  match s.pendingUdpInbound.get connId with
  | none =>
    if s.pendingUdpInbound.pairs.length≥PENDING_UDP_INBOUND_CONN_CAP then s.unchanged
    else
      ({ s with pendingUdpInbound := s.pendingUdpInbound.insert connId [payload] },
        [.buffered connId payload])
  | some pending =>
    let kept:=if pending.length≥PENDING_UDP_INBOUND_PER_CONN_CAP then pending.tail else pending
    ({ s with pendingUdpInbound := s.pendingUdpInbound.insert connId (kept++[payload]) },
      [.buffered connId payload])

def handleUdpData (s : EngineState) (env : EngineEnv) (connId : String) (payload : Bytes) :
    Handled :=
  match s.openFramed params .udpData connId payload with
  | none => s.unchanged
  | some (.error _) => s.unchanged
  | some (.ok opened) =>
    match s.udpInbound.get connId with
    | some channel => (s,if env.accepts then [.put .udpData connId channel opened] else [])
    | none => s.bufferPendingUdpInbound connId opened

/-- A UDP channel outlives the `Close` by a grace period. -/
def handleClose (s : EngineState) (connId : String) : EngineState :=
  { s with
    v2RelayFlows := s.v2RelayFlows.remove connId
    relayInboundAttestations := s.relayInboundAttestations.remove connId
    inbound := s.inbound.remove connId
    pendingUdpInbound := if s.udpInbound.contains connId then s.pendingUdpInbound
      else s.pendingUdpInbound.remove connId }

def graceExpired (s : EngineState) (connId : String) : EngineState :=
  { s with
    udpInbound := s.udpInbound.remove connId
    pendingUdpInbound := s.pendingUdpInbound.remove connId }

def handleMsg (s : EngineState) (env : EngineEnv) : BinaryMessage → Handled
  | .encryptedPeerControlV2 remotePeerId sessionId wire routeAbort sealed =>
    s.handleEncryptedPeerControl params env remotePeerId sessionId wire routeAbort sealed
  | .relayRouteBind connId peerClientId => s.handleRelayRouteBind params env connId peerClientId
  | .connect connId network address => s.handleConnect params env connId network address
  | .data connId payload => s.handleData params env connId payload
  | .udpData connId payload => s.handleUdpData params env connId payload
  | .close connId => (s.handleClose connId,[])
  | .connectResponse connId success error => s.handleProxyConnectResponse connId success error
  | _ => s.unchanged

/-! ### Inbound TCP flow streams (engine.rs:7571-7846) -/

/-- A stream whose preface names its target in the clear. -/
def handleTcpFlowStream (s : EngineState) (env : EngineEnv) (connId address : String) : Handled :=
  match resolveInboundDialTarget env.inbound (s.delivery connId) .tcp address with
  | .error error =>
    (s.removeAttestation connId,[.flowWrite connId (.connectResponse false error)])
  | .ok target => (s.spawn connId .plainStream,[.dial connId .tcp target.address])

def sealedResponse (flow : V2RelayFlowCryptoContext) (wire : WireConnId) (success : Bool)
    (error : String) (nonce : Nonce) : Option Bytes := do
  let response ← (RelayControlPayloadV2.openResponse success error).encode.toOption
  (flow.cipher.sealFlow params.aead (flow.recordContext wire true) .openResponse response
    nonce).toOption

def writeSealedResponse (connId : String) (flow : V2RelayFlowCryptoContext) (wire : WireConnId)
    (success : Bool) (error : String) (nonce : Nonce) : List EngineOutput :=
  match sealedResponse params flow wire success error nonce with
  | some sealed => [.flowWrite connId (.frame sealed)]
  | none => []

def removeRelayFlow (s : EngineState) (connId : String) : EngineState :=
  { s with v2RelayFlows := s.v2RelayFlows.remove connId }

def openSealedStream (s : EngineState) (connId : String) (sessionId : SessionId)
    (sealedOpen : Bytes) : Option (WireConnId × V2RelayFlowCryptoContext × String) := do
  let wire ← relayConnIdToWireV2 connId
  let flow ← s.v2RelayFlowFromSession params sessionId
  let address ← (flow.cipher.openFlow params.aead (flow.recordContext wire false) .openFlow
    sealedOpen).toOption
  let address ← fromUtf8 address
  some (wire,flow,address)

def handleV2RelayTcpFlowStream (s : EngineState) (env : EngineEnv) (connId : String)
    (sessionId : SessionId) (sealedOpen : Bytes) : Handled :=
  match s.openSealedStream params connId sessionId sealedOpen with
  | none => s.unchanged
  | some (wire,flow,address) =>
    if s.v2RelayFlows.contains connId then (s.removeRelayFlow connId,[])
    else
      let bound:={ s with v2RelayFlows := s.v2RelayFlows.insert connId flow }
      match resolveInboundDialTarget env.inbound (bound.delivery connId) .tcp address with
      | .error error =>
        (bound.removeRelayFlow connId,writeSealedResponse params connId flow wire false error env.nonce)
      | .ok target =>
        (bound.spawn connId (.sealedStream wire flow),[.dial connId .tcp target.address])

/-! ### Spawned tasks (engine.rs:397-428, 682-779, 7236-7372, 7615-7728, 7778-7846; engine/pipe.rs) -/

def finishTask (s : EngineState) (id : ℕ) (task : InboundTask) : EngineState :=
  let ended:={ s with
    tasks := s.tasks.remove id
    v2RelayFlows := s.v2RelayFlows.remove task.connId }
  match task.kind with
  | .sealedStream _ _ => ended
  | _ => ended.removeAttestation task.connId

def startPipe (s : EngineState) (id : ℕ) (task : InboundTask) : EngineState :=
  { s with tasks := s.tasks.insert id { task with phase := .piping } }

def dialedFramed (s : EngineState) (env : EngineEnv) (id : ℕ) (task : InboundTask)
    (protocol : Protocol) (router : MultiSenderRouter) : Except String Unit → Handled
  | .error error =>
    let cleared:=match protocol with
      | .tcp => s
      | .udp => { s with pendingUdpInbound := s.pendingUdpInbound.remove task.connId }
    (cleared.finishTask id task,
      (sendInbound params router env (.connectResponse task.connId false error)).1)
  | .ok () =>
    let (sends,sent):=sendInbound params router env (.connectResponse task.connId true "")
    match protocol with
    | .tcp =>
      if sent then
        ({ s with
          inbound := s.inbound.insert task.connId s.fresh
          fresh := s.fresh+1 }.startPipe id task,sends)
      else
        ({ s with inbound := s.inbound.remove task.connId }.finishTask id task,sends)
    | .udp =>
      let drained:=(s.pendingUdpInbound.get task.connId).getD []
      let puts:=if env.accepts then
        drained.map (.put .udpData task.connId s.fresh) else []
      let cleared:={ s with pendingUdpInbound := s.pendingUdpInbound.remove task.connId }
      if sent then
        ({ cleared with
          udpInbound := s.udpInbound.insert task.connId s.fresh
          fresh := s.fresh+1 }.startPipe id task,puts++sends)
      else
        ({ cleared with udpInbound := s.udpInbound.remove task.connId }.finishTask id task,
          puts++sends)

def dialedStream (s : EngineState) (env : EngineEnv) (id : ℕ) (task : InboundTask)
    (result : Except String Unit) (response : List EngineOutput) : Handled :=
  match result with
  | .ok () =>
    if env.accepts ∧ response ≠ [] then (s.startPipe id task,response)
    else (s.finishTask id task,response)
  | .error _ => (s.finishTask id task,response)

def resultFields : Except String Unit → Bool × String
  | .ok () => (true,"")
  | .error error => (false,error)

def handleDialed (s : EngineState) (env : EngineEnv) (id : ℕ) (result : Except String Unit) :
    Handled :=
  match s.tasks.get id with
  | some task =>
    if task.phase ≠ .dialing then s.unchanged
    else
      let (success,error):=resultFields result
      match task.kind with
      | .framed protocol router => s.dialedFramed params env id task protocol router result
      | .plainStream =>
        s.dialedStream env id task result [.flowWrite task.connId (.connectResponse success error)]
      | .sealedStream wire flow =>
        s.dialedStream env id task result
          (writeSealedResponse params task.connId flow wire success error env.nonce)
  | none => s.unchanged

def targetOutputs (env : EngineEnv) (task : InboundTask) (payload : Bytes) : List EngineOutput :=
  match task.kind with
  | .framed .tcp router =>
    (attempts (router.sendPreparedData params.aead env.send task.connId .data
      (List.replicate NONCE_SIZE 0++payload)).effects).map
      fun a => .inboundSend (.data task.connId payload) a.session a.frame
  | .framed .udp router =>
    (attempts (router.trySendPreparedData params.aead env.trySend task.connId .udpData
      (List.replicate NONCE_SIZE 0++payload)).effects).map
      fun a => .inboundSend (.udpData task.connId payload) a.session a.frame
  | .plainStream => [.flowWrite task.connId (.plain payload)]
  | .sealedStream wire flow =>
    match flowAad (flow.recordContext wire true) .data with
    | .error _ => []
    | .ok aad =>
      match flow.cipher.sealPrecomputed params.aead aad (List.replicate NONCE_SIZE 0++payload)
          env.nonce with
      | .error _ => []
      | .ok sealed => [.flowWrite task.connId (.frame sealed)]

def handleTargetData (s : EngineState) (env : EngineEnv) (id : ℕ) (payload : Bytes) : Handled :=
  match s.tasks.get id with
  | some task => if task.phase = .piping then (s,targetOutputs params env task payload) else s.unchanged
  | none => s.unchanged

/-- What arrives on an inbound TCP flow stream: bytes of a plain one, one record
of a sealed one (engine.rs:705-735). -/
def handleFlowData (s : EngineState) (id : ℕ) (bytes : Bytes) : Handled :=
  match s.tasks.get id with
  | some task =>
    if task.phase ≠ .piping then s.unchanged
    else
      match task.kind with
      | .framed _ _ => s.unchanged
      | .plainStream => (s,[.targetWrite task.connId bytes])
      | .sealedStream wire flow =>
        match flowAad (flow.recordContext wire false) .data >>= fun aad =>
            flow.cipher.openPrecomputed params.aead aad bytes with
        | .ok payload => (s,[.targetWrite task.connId payload])
        | .error _ => (s.finishTask id task,[])
  | none => s.unchanged

def handleTaskEnded (s : EngineState) (id : ℕ) : EngineState :=
  match s.tasks.get id with
  | some task =>
    let closed:=match task.kind with
      | .framed .tcp _ => { s with inbound := s.inbound.remove task.connId }
      | .framed .udp _ => { s with udpInbound := s.udpInbound.remove task.connId }
      | _ => s
    closed.finishTask id task
  | none => s

/-! ### The local side (engine.rs:3438-3475, 3640-3675, 3817; proxy_mode.rs:117-540) -/

def installV2PeerLink (s : EngineState) (remotePeerId : String) (link : V2PeerLinkCryptoContext) :
    Handled :=
  ({ s with v2PeerLinks := s.v2PeerLinks.insert remotePeerId link },
    [.linkInstalled remotePeerId link])

def openStarted (s : EngineState) (connId peer : String) (protocol : Protocol) : EngineState :=
  let waiting:={ s with
    proxyPending := s.proxyPending.insert connId peer
    fresh := s.fresh+1 }
  match protocol with
  | .tcp => { waiting with inbound := s.inbound.insert connId s.fresh }
  | .udp => { waiting with udpInbound := s.udpInbound.insert connId s.fresh }

def prepareV2RelayFlow (s : EngineState) (connId peer : String) :
    Option (EngineState × V2RelaySealContext) := do
  let link ← s.v2PeerLinks.get peer
  let wire ← relayConnIdToWireV2 connId
  let flow ← (flowOfLink params peer link).withInboundFramedAad wire
  let ctx ← flow.sealContext connId
  some ({ s with v2RelayFlows := s.v2RelayFlows.insert connId flow },ctx)

def openCommitted (s : EngineState) (connId peer : String) : EngineState :=
  match s.prepareV2RelayFlow params connId peer with
  | some (prepared,_) => prepared
  | none => s.removeRelayFlow connId

def openDropped (s : EngineState) (connId : String) : EngineState :=
  { s with
    proxyPending := s.proxyPending.remove connId
    v2RelayFlows := s.v2RelayFlows.remove connId
    inbound := s.inbound.remove connId
    udpInbound := s.udpInbound.remove connId }

def streamOpened (s : EngineState) (connId peer : String) : EngineState :=
  match s.prepareV2RelayFlow params connId peer with
  | some (prepared,ctx) =>
    { prepared with
      openingStreams := s.openingStreams.insert s.fresh (connId,ctx)
      fresh := s.fresh+1 }
  | none => s.removeRelayFlow connId

/-- The answer on a stream to `ctx.remotePeerId` (proxy_mode.rs:222-297). -/
def streamResult (connId : String) (ctx : V2RelaySealContext) (response : Bytes) :
    Except String Unit :=
  match relayConnIdToWireV2 connId with
  | none => .error "invalid V2 Relay connection id"
  | some wire =>
    match ctx.cipher.openFlow params.aead
        ⟨ctx.tunnelId,ctx.sessionId,ctx.remotePeerId,ctx.localPeerId,wire⟩ .openResponse
        response >>= RelayControlPayloadV2.decode with
    | .ok (.openResponse true _) => .ok ()
    | .ok (.openResponse false error) => .error error
    | .ok _ => .error "invalid V2 Relay TCP OPEN response"
    | .error error => .error ("could not authenticate V2 Relay TCP OPEN response: " ++ error.text)

def handleStreamResponse (s : EngineState) (id : ℕ) (response : Bytes) : Handled :=
  match s.openingStreams.get id with
  | none => s.unchanged
  | some (connId,ctx) =>
    let answered:={ s with openingStreams := s.openingStreams.remove id }
    match streamResult params connId ctx response with
    | .ok () => (answered,[.reported connId ctx.remotePeerId (.ok ())])
    | .error error =>
      (answered.removeRelayFlow connId,[.reported connId ctx.remotePeerId (.error error)])

end EngineState

inductive EngineEvent
  -- from the Relay session
  | message (env : EngineEnv) (msg : BinaryMessage)
  | tcpFlow (env : EngineEnv) (connId address : String)
  | sealedTcpFlow (env : EngineEnv) (connId : String) (sessionId : SessionId) (sealedOpen : Bytes)
  | streamResponse (id : ℕ) (response : Bytes)
  | flowData (id : ℕ) (bytes : Bytes)
  -- from the targets dialed
  | dialed (env : EngineEnv) (id : ℕ) (result : Except String Unit)
  | targetData (env : EngineEnv) (id : ℕ) (payload : Bytes)
  | taskEnded (id : ℕ)
  | graceExpired (connId : String)
  -- from PeerLink negotiation and the local proxy
  | linkInstalled (remotePeerId : String) (link : V2PeerLinkCryptoContext)
  | linkRemoved (remotePeerId : String)
  | openStarted (connId peer : String) (protocol : Protocol)
  | openCommitted (connId peer : String)
  | openDropped (connId : String)
  | streamOpened (connId peer : String)

namespace EngineState
variable (params : EngineParams)

def step (s : EngineState) : EngineEvent → Handled
  | .message env msg => s.handleMsg params env msg
  | .tcpFlow env connId address => s.handleTcpFlowStream env connId address
  | .sealedTcpFlow env connId sessionId sealedOpen =>
    s.handleV2RelayTcpFlowStream params env connId sessionId sealedOpen
  | .streamResponse id response => s.handleStreamResponse params id response
  | .flowData id bytes => s.handleFlowData params id bytes
  | .dialed env id result => s.handleDialed params env id result
  | .targetData env id payload => s.handleTargetData params env id payload
  | .taskEnded id => (s.handleTaskEnded id,[])
  | .graceExpired connId => (s.graceExpired connId,[])
  | .linkInstalled remotePeerId link => s.installV2PeerLink remotePeerId link
  | .linkRemoved remotePeerId => ({ s with v2PeerLinks := s.v2PeerLinks.remove remotePeerId },[])
  | .openStarted connId peer protocol => (s.openStarted connId peer protocol,[])
  | .openCommitted connId peer => (s.openCommitted params connId peer,[])
  | .openDropped connId => (s.openDropped connId,[])
  | .streamOpened connId peer => (s.streamOpened params connId peer,[])

/-- A PeerLink is installed for another named Peer; an open draws a `conn_id` no
other open waits under. -/
def Enabled (s : EngineState) : EngineEvent → Prop
  | .linkInstalled remotePeerId _ => trim remotePeerId ≠ "" ∧ remotePeerId ≠ params.peerId
  | .openStarted connId _ _ => s.proxyPending.get connId=none
  | _ => True

def machine : Machine EngineState EngineEvent EngineOutput where
  init := .start
  enabled := Enabled params
  step := step params

end EngineState

end Lantunnel.Client
