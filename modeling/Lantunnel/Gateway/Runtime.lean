import Lantunnel.Lib.Machine
import Lantunnel.Gateway.Relay

/-!
# The Gateway as a machine

The inbound handler of an attachment (tp-gateway/src/client_conn.rs:495-1036), admission
and teardown of a session (lib.rs:1279-1301, 1453-1580, 2635-2695) and the idle sweep
(lib.rs:1320-1333), each as one step of a machine whose clock never runs backwards.
-/

namespace Lantunnel.Gateway
open Lib FieldCodec RustNet Core

/-- `gateway.p2p` of the configuration; `peerIdle` in nanoseconds. -/
structure GatewayP2pConfig where
  enabled : Bool
  peerIdle : ℕ
  maxReplicasPerPeer : ℕ

structure GatewayState where
  clock : ℕ
  directory : Directory
  relays : Relays

def GatewayState.empty : GatewayState := ⟨0,.empty,.empty⟩

/-! ### Registration (lib.rs:2635-2695) -/

def register (d : Directory) (conn : ClientConn) : Directory :=
  { d with clients := d.clients.insert conn.tunnelId (d.registered conn.tunnelId++[conn]) }

def staleFor (d : Directory) (conn : ClientConn) (route : ClientRelayRoute) : Bool :=
  [route.source,route.target].any fun endpoint =>
    match d.upgrade endpoint with
    | none => true
    | some live => live.ptrEq conn

def closeNotices (d : Directory) (conn : ClientConn) (key : ClientRelayRouteKey)
    (route : ClientRelayRoute) : List Output :=
  if staleFor d conn route then
    [route.source,route.target].filterMap fun endpoint =>
      (d.upgrade endpoint).bind fun live =>
        if live.ptrEq conn then none else some (.closeNotice live key.connId)
  else []

def Directory.unregister (d : Directory) (conn : ClientConn) : Directory :=
  match d.clients.get conn.tunnelId with
  | none => d
  | some list =>
    let remaining:=list.filter fun c => !c.ptrEq conn
    { d with
      clients := if remaining.isEmpty then d.clients.remove conn.tunnelId
        else d.clients.insert conn.tunnelId remaining
      peers := d.peers.remove conn.tunnelId conn.clientId }

def Relays.unregister (r : Relays) (d : Directory) (conn : ClientConn) : Relays × List Output :=
  match d.clients.get conn.tunnelId with
  | none => (r,[])
  | some _ =>
    ({ r with clientRelays := r.clientRelays.retain fun _ route => !staleFor d conn route },
      r.clientRelays.pairs.flatMap fun (key,route) => closeNotices d conn key route)

/-! ### Admission (lib.rs:1453-1562) -/

/-- What the transport and the membership proof established about a session. -/
structure AuthParams where
  tunnelId : String
  clientId : String
  peerId : String
  peerAddr : SocketAddr
  capabilities : TransportCapabilities

def AuthParams.conn (params : AuthParams) (addr : ℕ) : ClientConn :=
  ⟨addr,params.tunnelId,params.clientId,params.peerAddr,
    ⟨params.tunnelId,params.peerId,params.clientId⟩,params.capabilities⟩

def admitSession (cfg : GatewayP2pConfig) (d : Directory) (now : ℕ) (params : AuthParams) :
    Except V2PeerAttachmentReject Directory := do
  let limiter ← d.limiter.tryAcquire cfg.maxReplicasPerPeer params.tunnelId params.peerId
    params.clientId
  let conn:=params.conn d.nextAddr
  let endpoint : PeerEndpoint := ⟨params.peerAddr,[],0,List.replicate 32 0,now⟩
  let peers:=(d.peers.upsert params.tunnelId params.clientId endpoint).bindV2Identity
    conn.authenticatedPeerV2.tunnelId conn.authenticatedPeerV2.peerId
    conn.authenticatedPeerV2.replicaId
  .ok (register
    { d with
      attachments := d.attachments.insert d.nextAddr ⟨conn,.running⟩
      nextAddr := d.nextAddr+1
      peers
      limiter } conn)

/-! ### Inbound frames (client_conn.rs:495-1036) -/

def handleConnectResponse (d : Directory) (r : Relays) (env : Env) (self : ClientConn)
    (connId : String) (success : Bool) (error : String) : Relays × List Output :=
  match r.pending.get (self.addr,connId) with
  | some flowId =>
    let r:={ r with pending := r.pending.remove (self.addr,connId) }
    match r.flows.get flowId with
    | some flow =>
      if flow.stage = .waiting then
        ({ r with flows := r.flows.insert flowId { flow with stage := .answered success } },[])
      else (r,[])
    | none => (r,[])
  | none =>
    let handled:=forwardClientRelay d r env self (.connectResponse connId success error)
    (handled.relays,handled.out)

def handleData (d : Directory) (r : Relays) (env : Env) (self : ClientConn) (connId : String)
    (payload : Bytes) : Relays × List Output :=
  match r.inbound.get (self.addr,connId) with
  | some flowId =>
    match r.flows.get flowId with
    | some flow =>
      if !env.channelOpen then (r,[])
      else if !env.quotaOk then
        ({ r with inbound := r.inbound.remove (self.addr,connId) },[])
      else (r,[.forwarded flow.route self flow.source (.frame (.data connId payload))])
    | none => (r,[])
  | none =>
    let handled:=forwardClientRelay d r env self (.data connId payload)
    (handled.relays,handled.out)

def handleRelayRouteBind (d : Directory) (r : Relays) (now : ℕ) (self : ClientConn)
    (connId peerClientId : String) : Relays × List Output :=
  let ack (success : Bool) (error : String) : List Output :=
    if self.capabilities.routeBindControlV1 then
      [.reply self (.relayRouteBindAck connId success error)]
    else []
  match bindClientRelayRoute d r now self connId peerClientId with
  | .ok (r,out) => (r,out++ack true "")
  | .error _ => (r,ack false "relay route bind failed")

def handleConnect (d : Directory) (r : Relays) (now : ℕ) (env : Env) (self : ClientConn)
    (connId network address : String) : Relays × List Output :=
  if network = "udp" && env.sourceDatagramUnavailable then
    (r,[.reply self (.connectResponse connId false "datagram transport unavailable")])
  else
    let handled:=relayClientConnect d r now env self connId network address
    match handled.result with
    | .ok () => (handled.relays,handled.out)
    | .error _ =>
      (handled.relays,
        handled.out++[.reply self (.connectResponse connId false "relay connect failed")])

/-- The frames that concern the relay; the announce is handled by the machine. -/
def handleInbound (d : Directory) (r : Relays) (now : ℕ) (env : Env) (self : ClientConn) :
    BinaryMessage → Relays × List Output
  | .connect connId network address => handleConnect d r now env self connId network address
  | .connectResponse connId success error =>
    handleConnectResponse d r env self connId success error
  | .data connId payload => handleData d r env self connId payload
  | .udpData connId payload =>
    let handled:=forwardClientRelay d r env self (.udpData connId payload)
    (handled.relays,handled.out)
  | .close connId =>
    let handled:=forwardClientRelay d
      { r with inbound := r.inbound.remove (self.addr,connId) } env self (.close connId)
    (handled.relays,handled.out)
  | .encryptedPeerControlV2 targetPeerId peerlinkSessionId connId routeAbort sealed =>
    let handled:=forwardEncryptedPeerControlV2 d r now env self targetPeerId peerlinkSessionId
      connId routeAbort sealed
    (handled.relays,handled.out)
  | .relayRouteBind connId peerClientId => handleRelayRouteBind d r now self connId peerClientId
  | .p2pAnnounce .. | .p2pAnnounceAck .. | .relayRouteBindAck .. => (r,[])

def announce (cfg : GatewayP2pConfig) (d : Directory) (now : ℕ) (env : Env) (self : ClientConn)
    (locals : List (String × UInt16)) (natHint : NatHint) (certFp : CertFingerprint) :
    Directory × List Output :=
  if !env.announceOk then (d,[])
  else
    let (peers,ack):=handleAnnounce d.peers now self.peerAddr self.tunnelId self.clientId
      locals natHint.asU8 certFp.toList env.serverTimeMs
    ({ d with peers },
      [.reply self (.p2pAnnounceAck ack.publicIp (if cfg.enabled then ack.publicPort else 0)
        ack.serverTimeMs)])

inductive Event
  | admission (params : AuthParams)
  | message (addr : ℕ) (msg : BinaryMessage) (env : Env)
  | tcpFlow (addr : ℕ) (incoming : TcpFlowIncoming) (env : Env)
  | flow (flowId : ℕ) (e : FlowEvent)
  | unregister (addr : ℕ)
  | stop (addr : ℕ)
  | finish (addr : ℕ)
  | drop (addr : ℕ)
  | sweep

def Directory.conn (d : Directory) (addr : ℕ) (phases : List Phase) : Option ClientConn :=
  (d.attachments.get addr).bind fun a => if a.phase ∈ phases then some a.conn else none

def Directory.setPhase (d : Directory) (conn : ClientConn) (phase : Phase) : Directory :=
  { d with attachments := d.attachments.insert conn.addr ⟨conn,phase⟩ }

def Relays.clearTables (r : Relays) (conn : ClientConn) : Relays :=
  { r with
    pending := r.pending.retain fun slot _ => slot.1 ≠ conn.addr
    inbound := r.inbound.retain fun slot _ => slot.1 ≠ conn.addr }

def Relays.Holds (r : Relays) (conn : ClientConn) : Prop :=
  ∃ flowId flow, r.flows.get flowId=some flow ∧
    (flow.source.addr=conn.addr ∨ flow.target.addr=conn.addr)

namespace GatewayState

def stepOf (cfg : GatewayP2pConfig) (g : GatewayState) (now : ℕ) :
    Event → Directory × Relays × List Output
  | .admission params =>
    match admitSession cfg g.directory now params with
    | .ok d => (d,g.relays,[])
    | .error reason => (g.directory,g.relays,[.refused reason])
  | .message addr msg env =>
    match g.directory.conn addr [.running] with
    | none => (g.directory,g.relays,[])
    | some self =>
      match msg with
      | .p2pAnnounce _ _ locals natHint certFp =>
        let (d,out):=announce cfg g.directory now env self locals natHint certFp
        (d,g.relays,out)
      | msg => (g.directory,handleInbound g.directory g.relays now env self msg)
  | .tcpFlow addr incoming env =>
    match g.directory.conn addr [.running,.stopped,.finished] with
    | none => (g.directory,g.relays,[])
    | some self => (g.directory,handleTcpFlowStream g.directory g.relays now env self incoming)
  | .flow flowId e =>
    match g.relays.flows.get flowId with
    | none => (g.directory,g.relays,[])
    | some flow => (g.directory,flowStep g.relays flowId flow e)
  | .unregister addr =>
    match g.directory.conn addr [.running,.stopped,.finished] with
    | none => (g.directory,g.relays,[])
    | some conn =>
      let (r,out):=g.relays.unregister g.directory conn
      (g.directory.unregister conn,r,out++[.unregistered conn])
  | .stop addr =>
    match g.directory.conn addr [.running] with
    | none => (g.directory,g.relays,[])
    | some conn => (g.directory.setPhase conn .stopped,g.relays.clearTables conn,[])
  | .finish addr =>
    match g.directory.conn addr [.stopped] with
    | none => (g.directory,g.relays,[])
    | some conn =>
      let d:=g.directory.setPhase conn .finished
      ({ d with
          limiter := d.limiter.release conn.authenticatedPeerV2.tunnelId
            conn.authenticatedPeerV2.peerId conn.authenticatedPeerV2.replicaId },
        g.relays,[])
  | .drop addr =>
    match g.directory.conn addr [.finished] with
    | none => (g.directory,g.relays,[])
    | some conn => (g.directory.setPhase conn .dropped,g.relays,[])
  | .sweep =>
    ({ g.directory with peers := g.directory.peers.evictOlderThan now cfg.peerIdle },
      g.relays,[])

def step (cfg : GatewayP2pConfig) (g : GatewayState) (e : ℕ × Event) : GatewayState × List Output :=
  let (d,r,out):=g.stepOf cfg e.1 e.2
  (⟨e.1,d,r⟩,out)

/-- Time does not run backwards; the sweeper runs only with P2P enabled; a
session returns only after it was unregistered; an attachment goes away only
when no flow holds it. -/
def Enabled (cfg : GatewayP2pConfig) (g : GatewayState) (e : ℕ × Event) : Prop :=
  g.clock≤e.1 ∧
    match e.2 with
    | .sweep => cfg.enabled=true
    | .finish addr => ∀ conn, g.directory.conn addr [.stopped]=some conn →
      conn ∉ g.directory.registered conn.tunnelId
    | .drop addr => ∀ conn, g.directory.conn addr [.finished]=some conn →
      ¬ g.relays.Holds conn
    | _ => True

def machine (cfg : GatewayP2pConfig) : Machine GatewayState (ℕ × Event) Output where
  init := .empty
  enabled := Enabled cfg
  step := step cfg

end GatewayState

end Lantunnel.Gateway
