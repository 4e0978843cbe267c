import Lantunnel.Core.Protocol
import Lantunnel.Gateway.Registry

/-!
# Relay routes and the handlers that use them (tp-gateway/src/lib.rs:692-773, 1638-2559)

A route joins two attachments of one tunnel under a connection id. What a transport, a
limiter or a policy answers comes in as an `Env`, so any of it may happen.
-/

namespace Lantunnel.Gateway
open Lib FieldCodec RustStd Core

/-! ### Routes and flows (lib.rs:64-77, 692-743) -/

structure ClientRelayRouteKey where
  tunnelId : String
  connId : String
  deriving DecidableEq

def ClientRelayRouteKey.new (source : ClientConn) (connId : String) : ClientRelayRouteKey :=
  ⟨source.tunnelId,connId⟩

/-- `source` and `target` are weak references, `identity` the allocation that
tells a route from another one stored later under the same key. -/
structure ClientRelayRoute where
  identity : ℕ
  source : ClientConn
  target : ClientConn
  boundAt : ℕ
  sourceToTargetBytes : ℕ
  sourceToTargetFrames : ℕ
  targetToSourceBytes : ℕ
  targetToSourceFrames : ℕ
  sourceClosed : Bool
  targetClosed : Bool
  opened : Bool
  sealedV2 : Bool

/-- 15 s in nanoseconds. -/
def CLIENT_RELAY_BOUND_TTL : ℕ := 15000000000

inductive ClientRelayRouteConsumeError
  | expired
  | alreadyConsumed

def ClientRelayRouteConsumeError.text : ClientRelayRouteConsumeError → String
  | expired => "relay route bind expired"
  | alreadyConsumed => "relay route bind already consumed"

namespace ClientRelayRoute

def new (identity : ℕ) (source target : ClientConn) (now : ℕ) : ClientRelayRoute :=
  ⟨identity,source,target,now,0,0,0,0,false,false,false,false⟩

def consumeBound (route : ClientRelayRoute) (now : ℕ) :
    Except ClientRelayRouteConsumeError ClientRelayRoute :=
  if CLIENT_RELAY_BOUND_TTL≤now-route.boundAt then .error .expired
  else if route.opened then .error .alreadyConsumed
  else .ok { route with opened := true }

def endpointsAre (route : ClientRelayRoute) (source target : ClientConn) : Bool :=
  route.source.ptrEq source && route.target.ptrEq target

end ClientRelayRoute

/-- Where the task that bridges a TCP flow stands: it waits for the target's
stream, it waits for the target's answer to a framed `Connect`, that answer
came, or bytes are copied. -/
inductive FlowStage
  | opening
  | waiting
  | answered (success : Bool)
  | bridging (writeClosed : Bool)
  deriving DecidableEq

structure TcpFlow where
  key : ClientRelayRouteKey
  route : ℕ
  source : ClientConn
  target : ClientConn
  framed : Bool
  raw : Bool
  stage : FlowStage

/-- `pending` and `inbound` hold those tables of every attachment, keyed by the
attachment's allocation and the connection id. -/
structure Relays where
  clientRelays : Table ClientRelayRouteKey ClientRelayRoute
  nextIdentity : ℕ
  flows : Table ℕ TcpFlow
  nextFlow : ℕ
  pending : Table (ℕ × String) ℕ
  inbound : Table (ℕ × String) ℕ

def Relays.empty : Relays := ⟨.empty,0,.empty,0,.empty,.empty⟩

inductive Consumption
  | connect
  | tcpFlow
  | sealedControl
  deriving DecidableEq

inductive Relayed
  | frame (msg : BinaryMessage)
  | flowPreface (connId : String)
  | flowBytes (connId : String) (payload : Bytes)
  deriving DecidableEq

inductive Output
  | reply (dest : ClientConn) (msg : BinaryMessage)
  | flowReply (dest : ClientConn) (connId : String) (success : Bool) (error : String)
  | bound (route : ℕ) (key : ClientRelayRouteKey) (source target : ClientConn) (time : ℕ)
  | consumed (route : ℕ) (consumer : ClientConn) (how : Consumption) (time : ℕ)
  | forwarded (route : ℕ) (sender dest : ClientConn) (what : Relayed)
  | direct (sender dest : ClientConn) (targetPeerId : String) (msg : BinaryMessage)
  | closeNotice (dest : ClientConn) (connId : String)
  | unregistered (conn : ClientConn)
  | refused (reason : V2PeerAttachmentReject)
  deriving DecidableEq

inductive TrySendKind
  | full
  | tooLarge
  | datagramUnavailable
  | closed

structure Env where
  policy : Except String Unit
  sourceDatagramUnavailable : Bool
  targetDatagramUnavailable : Bool
  sendOk : Bool
  trySend : Except TrySendKind Unit
  bandwidthOk : Bool
  quotaOk : Bool
  channelOpen : Bool
  announceOk : Bool
  serverTimeMs : ℤ

structure Handled (α : Type) where
  relays : Relays
  out : List Output
  result : α

/-! ### Targets and binds (lib.rs:1638-1760) -/

def p2pV2TargetInTunnel (d : Directory) (source : ClientConn) (targetPeerId : String) :
    Option ClientConn :=
  let sourceIdentity:=source.authenticatedPeerV2
  if sourceIdentity.tunnelId ≠ source.tunnelId || sourceIdentity.replicaId ≠ source.clientId
      || sourceIdentity.peerId=targetPeerId
      || d.peers.stablePeerId sourceIdentity.tunnelId sourceIdentity.replicaId
        ≠ some sourceIdentity.peerId then
    none
  else
    (d.registered sourceIdentity.tunnelId).reverse.find? fun candidate =>
      let targetIdentity:=candidate.authenticatedPeerV2
      targetIdentity.tunnelId=sourceIdentity.tunnelId && targetIdentity.peerId=targetPeerId
        && targetIdentity.replicaId=candidate.clientId
        && d.peers.stablePeerId sourceIdentity.tunnelId candidate.clientId=some targetPeerId

def Relays.insertRoute (r : Relays) (key : ClientRelayRouteKey) (source target : ClientConn)
    (now : ℕ) : Relays × List Output :=
  ({ r with
      clientRelays := r.clientRelays.insert key (.new r.nextIdentity source target now)
      nextIdentity := r.nextIdentity+1 },
    [.bound r.nextIdentity key source target now])

def bindClientRelayRoute (d : Directory) (r : Relays) (now : ℕ) (source : ClientConn)
    (connId targetPeerId : String) : Except String (Relays × List Output) := do
  let targetPeerId:=trim targetPeerId
  if targetPeerId = "" then .error "empty relay route peer"
  else if targetPeerId=source.authenticatedPeerV2.peerId then
    .error ("relay route target loops to source Peer " ++ targetPeerId)
  else
    let target ← okOr
      ("relay route peer " ++ targetPeerId ++ " offline in tunnel " ++ source.tunnelId)
      (p2pV2TargetInTunnel d source targetPeerId)
    let key:=ClientRelayRouteKey.new source connId
    match r.clientRelays.get key with
    | none => .ok (r.insertRoute key source target now)
    | some existing =>
      let existingExpired :=
        !existing.opened && decide (CLIENT_RELAY_BOUND_TTL≤now-existing.boundAt)
      let existingSource:=d.upgrade existing.source
      let existingTarget:=d.upgrade existing.target
      let sameUnconsumedRoute:=existingSource.isSome && existingTarget.isSome
        && existing.endpointsAre source target && !existing.opened
      if existingExpired then .ok (r.insertRoute key source target now)
      else if sameUnconsumedRoute then .ok (r,[])
      else if existingSource.isNone || existingTarget.isNone then
        .ok (r.insertRoute key source target now)
      else .error ("relay route conn id already bound in tunnel " ++ source.tunnelId)

/-! ### Consuming a bind (lib.rs:1724-1790) -/

structure ConsumedRoute where
  key : ClientRelayRouteKey
  target : ClientConn
  identity : ℕ

/-- `Ok(None)`: nothing is stored under the key. -/
def consumeBoundClientRelayTarget (d : Directory) (r : Relays) (now : ℕ) (how : Consumption)
    (source : ClientConn) (connId : String) : Handled (Except String (Option ConsumedRoute)) :=
  let key:=ClientRelayRouteKey.new source connId
  match r.clientRelays.get key with
  | none => ⟨r,[],.ok none⟩
  | some route =>
    match d.upgrade route.source with
    | none => ⟨r,[],.error "relay route source session closed"⟩
    | some boundSource =>
      if !boundSource.ptrEq source || boundSource.tunnelId ≠ source.tunnelId then
        ⟨r,[],.error "relay route is bound to another source session"⟩
      else
        match d.upgrade route.target with
        | none => ⟨r,[],.error "relay route target session closed"⟩
        | some target =>
          match route.consumeBound now with
          | .error .expired =>
            ⟨{ r with
                clientRelays := r.clientRelays.removeIf key (·.identity=route.identity) },
              [],.error ClientRelayRouteConsumeError.expired.text⟩
          | .error .alreadyConsumed =>
            ⟨r,[],.error ClientRelayRouteConsumeError.alreadyConsumed.text⟩
          | .ok opened =>
            ⟨{ r with clientRelays := r.clientRelays.insert key opened },
              [.consumed route.identity source how now],
              .ok (some ⟨key,target,route.identity⟩)⟩

def Relays.removeRouteIfEndpoints (r : Relays) (key : ClientRelayRouteKey)
    (source target : ClientConn) : Relays :=
  { r with clientRelays := r.clientRelays.removeIf key (·.endpointsAre source target) }

/-! ### Framed `Connect` (lib.rs:1792-1862) -/

def relayClientConnect (d : Directory) (r : Relays) (now : ℕ) (env : Env) (source : ClientConn)
    (connId network address : String) : Handled (Except String Unit) :=
  match env.policy with
  | .error e => ⟨r,[],.error e⟩
  | .ok () =>
    let key:=ClientRelayRouteKey.new source connId
    let consume:=consumeBoundClientRelayTarget d r now .connect source connId
    match consume.result with
    | .error e => ⟨consume.relays,consume.out,.error e⟩
    | .ok none => ⟨consume.relays,consume.out,.error "relay route is not bound"⟩
    | .ok (some consumed) =>
      if network = "udp" && env.targetDatagramUnavailable then
        ⟨consume.relays.removeRouteIfEndpoints key source consumed.target,consume.out,
          .error "datagram transport unavailable"⟩
      else if !env.sendOk then
        ⟨consume.relays.removeRouteIfEndpoints key source consumed.target,consume.out,
          .error "relay target session closed"⟩
      else
        ⟨consume.relays,
          consume.out++[.forwarded consumed.identity source consumed.target
            (.frame (.connect connId network address))],
          .ok ()⟩

/-! ### TCP flows (lib.rs:1864-2156, client_conn.rs:1038-1170) -/

structure TcpFlowIncoming where
  connId : String
  network : String
  address : String
  rawPreface : Option Bytes

def flowReplyUnlessRaw (raw : Bool) (source : ClientConn) (connId : String) (success : Bool)
    (error : String) : List Output :=
  if raw then [] else [.flowReply source connId success error]

/-- The target is asked for the flow: over a stream of its own, or by a framed
`Connect` when it cannot take one. -/
def startFlow (r : Relays) (env : Env) (source : ClientConn) (consumed : ConsumedRoute)
    (incoming : TcpFlowIncoming) : Relays × List Output :=
  let raw:=incoming.rawPreface.isSome
  let framed:=!raw && !consumed.target.capabilities.tcpFlowStreamV1
  let slot:=(consumed.target.addr,incoming.connId)
  let flow : TcpFlow := ⟨consumed.key,consumed.identity,source,consumed.target,framed,raw,
    if framed then .waiting else .opening⟩
  let what:=if framed then .frame (.connect incoming.connId "tcp" incoming.address)
    else .flowPreface incoming.connId
  if !env.sendOk then
    ({ r.removeRouteIfEndpoints consumed.key source consumed.target with
        pending := if framed then r.pending.remove slot else r.pending },
      flowReplyUnlessRaw raw source incoming.connId false "relay target open failed")
  else
    ({ r with
        flows := r.flows.insert r.nextFlow flow
        nextFlow := r.nextFlow+1
        pending := if framed then r.pending.insert slot r.nextFlow else r.pending },
      [.forwarded consumed.identity source consumed.target what])

def relayClientTcpFlow (d : Directory) (r : Relays) (now : ℕ) (env : Env) (source : ClientConn)
    (incoming : TcpFlowIncoming) : Relays × List Output :=
  let raw:=incoming.rawPreface.isSome
  if !raw && !env.policy.isOk then
    (r,[.flowReply source incoming.connId false "destination policy rejected"])
  else
    let consume:=consumeBoundClientRelayTarget d r now .tcpFlow source incoming.connId
    match consume.result with
    | .ok none =>
      (consume.relays,consume.out ++
        flowReplyUnlessRaw raw source incoming.connId false "relay route is not bound")
    | .error _ =>
      (consume.relays,consume.out ++
        flowReplyUnlessRaw raw source incoming.connId false "relay route unavailable")
    | .ok (some consumed) =>
      let started:=startFlow consume.relays env source consumed incoming
      (started.1,consume.out++started.2)

def handleTcpFlowStream (d : Directory) (r : Relays) (now : ℕ) (env : Env) (source : ClientConn)
    (incoming : TcpFlowIncoming) : Relays × List Output :=
  if incoming.network ≠ "tcp" then
    (r,[.flowReply source incoming.connId false "unsupported tcp flow network"])
  else relayClientTcpFlow d r now env source incoming

/-- What may happen next to the task of a flow. -/
inductive FlowEvent
  | opens (replyOk : Bool)
  | openFails
  | sourceBytes (payload : Bytes)
  | targetBytes (payload : Bytes)
  | shutdown
  | ends
  deriving DecidableEq

namespace TcpFlow

def slot (flow : TcpFlow) : ℕ × String := (flow.target.addr,flow.key.connId)

def sourceToTarget (flow : TcpFlow) (what : Relayed) : Output :=
  .forwarded flow.route flow.source flow.target what

/-- The task returns: the framed connection is dropped, which may still send a
`Close`, and so is the reservation of the route. -/
def finish (flow : TcpFlow) (r : Relays) (flowId : ℕ) (sendsClose : Bool) :
    Relays × List Output :=
  ({ r.removeRouteIfEndpoints flow.key flow.source flow.target with
      flows := r.flows.remove flowId
      inbound := if flow.framed then r.inbound.remove flow.slot else r.inbound },
    if flow.framed && sendsClose then
      [flow.sourceToTarget (.frame (.close flow.key.connId))]
    else [])

end TcpFlow

def flowStep (r : Relays) (flowId : ℕ) (flow : TcpFlow) (e : FlowEvent) :
    Relays × List Output :=
  let connId:=flow.key.connId
  match flow.stage, e with
  | .waiting, .openFails =>
    let pending:=r.pending.remove flow.slot
    let finished:=flow.finish { r with pending } flowId false
    (finished.1,finished.2 ++
      flowReplyUnlessRaw flow.raw flow.source connId false "relay target open failed")
  | .opening, .openFails | .answered false, .openFails =>
    let finished:=flow.finish r flowId false
    (finished.1,finished.2 ++
      flowReplyUnlessRaw flow.raw flow.source connId false "relay target open failed")
  | .opening, .opens replyOk | .answered true, .opens replyOk =>
    let r:=if flow.framed then { r with inbound := r.inbound.insert flow.slot flowId } else r
    let reply:=flowReplyUnlessRaw flow.raw flow.source connId true ""
    if !flow.raw && !replyOk then
      let finished:=flow.finish r flowId true
      (finished.1,reply++finished.2)
    else
      ({ r with flows := r.flows.insert flowId { flow with stage := .bridging false } },reply)
  | .bridging false, .sourceBytes payload =>
    (r,[flow.sourceToTarget
      (if flow.framed then .frame (.data connId payload) else .flowBytes connId payload)])
  | .bridging _, .targetBytes payload =>
    if flow.framed then (r,[])
    else (r,[.forwarded flow.route flow.target flow.source (.flowBytes connId payload)])
  | .bridging false, .shutdown =>
    ({ r with flows := r.flows.insert flowId { flow with stage := .bridging true } },
      if flow.framed then [flow.sourceToTarget (.frame (.close connId))] else [])
  | .bridging writeClosed, .ends => flow.finish r flowId !writeClosed
  | _, _ => (r,[])

/-! ### Forwarding on an opened route (lib.rs:2158-2451) -/

def relayFrameConnId : BinaryMessage → Option String
  | .connectResponse connId _ _ | .data connId _ | .udpData connId _ | .close connId => some connId
  | _ => none

def payloadLen : BinaryMessage → ℕ
  | .data _ payload | .udpData _ payload => payload.length
  | _ => 0

def ClientRelayRoute.account (route : ClientRelayRoute) (fromSource : Bool) (msg : BinaryMessage) :
    ClientRelayRoute :=
  match msg, fromSource with
  | .data _ (b::rest), true =>
    { route with
      sourceToTargetBytes := route.sourceToTargetBytes+(b::rest).length
      sourceToTargetFrames := route.sourceToTargetFrames+1 }
  | .data _ (b::rest), false =>
    { route with
      targetToSourceBytes := route.targetToSourceBytes+(b::rest).length
      targetToSourceFrames := route.targetToSourceFrames+1 }
  | .close _, true => { route with sourceClosed := true }
  | .close _, false => { route with targetClosed := true }
  | _, _ => route

def ClientRelayRoute.terminal (route : ClientRelayRoute) (fromSource : Bool) :
    BinaryMessage → Bool
  | .connectResponse _ success _ => !success
  | .close _ => if fromSource then route.targetClosed else route.sourceClosed
  | _ => false

def relayFrameTo (r : Relays) (env : Env) (key : ClientRelayRouteKey) (route : ClientRelayRoute)
    (sender dest : ClientConn) (terminal : Bool) (msg : BinaryMessage) : Handled Bool :=
  let removed:=r.removeRouteIfEndpoints key route.source route.target
  let delivered : Output := .forwarded route.identity sender dest (.frame msg)
  match msg with
  | .udpData _ payload =>
    if 0<payload.length && (!env.bandwidthOk || !env.quotaOk) then ⟨r,[],true⟩
    else
      match env.trySend with
      | .ok () => ⟨r,[delivered],true⟩
      | .error .full | .error .tooLarge => ⟨r,[],true⟩
      | .error .datagramUnavailable | .error .closed => ⟨removed,[],false⟩
  | _ =>
    if 0<payloadLen msg && !env.quotaOk then ⟨removed,[],false⟩
    else if !env.sendOk then ⟨removed,[],false⟩
    else ⟨if terminal then removed else r,[delivered],true⟩

def forwardClientRelay (d : Directory) (r : Relays) (env : Env) (sender : ClientConn)
    (msg : BinaryMessage) : Handled Bool :=
  match relayFrameConnId msg with
  | none => ⟨r,[],false⟩
  | some connId =>
    let key:=ClientRelayRouteKey.new sender connId
    match r.clientRelays.get key with
    | none => ⟨r,[],false⟩
    | some route =>
      if !route.opened then ⟨r,[],false⟩
      else
        match d.upgrade route.source, d.upgrade route.target with
        | some source, some target =>
          if source.ptrEq sender then
            relayFrameTo
              { r with clientRelays := r.clientRelays.insert key (route.account true msg) }
              env key route sender target (route.terminal true msg) msg
          else if target.ptrEq sender then
            relayFrameTo
              { r with clientRelays := r.clientRelays.insert key (route.account false msg) }
              env key route sender source (route.terminal false msg) msg
          else ⟨r,[],false⟩
        | _, _ => ⟨r.removeRouteIfEndpoints key route.source route.target,[],false⟩

/-! ### Sealed control (lib.rs:1047-1058, 2453-2559) -/

def relayConnIdFromWire (connId : WireConnId) : Option String :=
  let bytes:=connId.toList.takeWhile (· ≠ 0)
  let rest:=connId.toList.dropWhile (· ≠ 0)
  if bytes.isEmpty || rest.any (· ≠ 0) then none else fromUtf8 bytes

def sealedControl (sender : ClientConn) (peerlinkSessionId : SessionId) (connId : WireConnId)
    (routeAbort : Bool) (sealed : Bytes) : BinaryMessage :=
  .encryptedPeerControlV2 sender.authenticatedPeerV2.peerId peerlinkSessionId connId routeAbort
    sealed

/-- The route as a sealed frame may use it: an unconsumed bind is consumed by a
frame of its source that is no abort, and otherwise the route must have been
opened by such a frame. -/
def openSealed (route : ClientRelayRoute) (now : ℕ) (fromSource routeAbort : Bool) :
    Option ClientRelayRoute :=
  if !routeAbort && !route.opened then
    if !fromSource then none
    else match route.consumeBound now with
      | .error _ => none
      | .ok opened => some { opened with sealedV2 := true }
  else if !route.sealedV2 then none
  else some route

def sendSealed (r : Relays) (now : ℕ) (env : Env) (key : ClientRelayRouteKey)
    (route : ClientRelayRoute) (sender dest : ClientConn) (fromSource routeAbort : Bool)
    (msg : BinaryMessage) : Handled Bool :=
  match openSealed route now fromSource routeAbort with
  | none => ⟨r,[],false⟩
  | some usable =>
    let opened:={ r with clientRelays := r.clientRelays.insert key usable }
    let consumption : List Output := if !routeAbort && !route.opened then
      [.consumed route.identity sender .sealedControl now] else []
    let removed:=opened.removeRouteIfEndpoints key route.source route.target
    ⟨if routeAbort || !env.sendOk then removed else opened,
      consumption ++
        if env.sendOk then [.forwarded route.identity sender dest (.frame msg)] else [],
      env.sendOk⟩

def forwardEncryptedPeerControlV2 (d : Directory) (r : Relays) (now : ℕ) (env : Env)
    (sender : ClientConn) (targetPeerId : String) (peerlinkSessionId : SessionId)
    (connId : WireConnId) (routeAbort : Bool) (sealed : Bytes) : Handled Bool :=
  let identity:=sender.authenticatedPeerV2
  let msg:=sealedControl sender peerlinkSessionId connId routeAbort sealed
  if identity.tunnelId ≠ sender.tunnelId || identity.replicaId ≠ sender.clientId
      || d.peers.stablePeerId identity.tunnelId identity.replicaId ≠ some identity.peerId then
    ⟨r,[],false⟩
  else if connId=Vector.replicate 12 0 then
    if routeAbort then ⟨r,[],false⟩
    else
      match p2pV2TargetInTunnel d sender targetPeerId with
      | none => ⟨r,[],false⟩
      | some target =>
        if env.sendOk then ⟨r,[.direct sender target targetPeerId msg],true⟩ else ⟨r,[],false⟩
  else
    match relayConnIdFromWire connId with
    | none => ⟨r,[],false⟩
    | some routeConnId =>
      let key:=ClientRelayRouteKey.new sender routeConnId
      match r.clientRelays.get key with
      | none => ⟨r,[],false⟩
      | some route =>
        match d.upgrade route.source, d.upgrade route.target with
        | some source, some target =>
          let fromSource:=source.ptrEq sender
          if !fromSource && !target.ptrEq sender then ⟨r,[],false⟩
          else
            let dest:=if fromSource then target else source
            if dest.authenticatedPeerV2.tunnelId ≠ identity.tunnelId
                || dest.authenticatedPeerV2.peerId ≠ targetPeerId then
              ⟨r,[],false⟩
            else
              sendSealed r now env key route sender dest fromSource routeAbort msg
        | _, _ => ⟨r,[],false⟩

end Lantunnel.Gateway
