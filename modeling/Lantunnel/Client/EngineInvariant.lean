import Lantunnel.Client.Engine

/-!
# What a step may add to the tables of a Client

Every entry of a table after a step was there before it or was made in that step
(`Grows`): a sealed flow from the PeerLink current then, with the authenticated data of
the `conn_id` it is stored under, a buffered datagram from a record that opened, a task
for the message that spawned it.
-/

namespace Lantunnel.Client
open Lib FieldCodec RustStd Core V2RelayFlowCryptoContext Option List Table

theorem wire_toList (bytes : Bytes) (h : bytes.length≤12) :
    (Vector.ofFn fun i : Fin 12 => bytes.getD i 0).toList =
      bytes++List.replicate (12-bytes.length) 0 := by
  apply ext_getElem
  · simp_all
  intro i h1 h2
  simp [getElem_append]
  split <;> simp_all

variable {connId : String} {wire : WireConnId}

theorem relayConnIdToWireV2_eq_some : relayConnIdToWireV2 connId=some wire ↔
      asBytes connId≠[] ∧ (asBytes connId).length≤12 ∧ (∀ b∈asBytes connId, b<0x80) ∧
        (0 : UInt8)∉asBytes connId ∧
        wire.toList=asBytes connId++List.replicate (12-(asBytes connId).length) 0 := by
  unfold relayConnIdToWireV2 asciiConnIdToWire
  constructor
  · intro h
    dsimp only at h
    split at h
    · cases h
    next hok =>
    simp only [not_or,not_not,List.all_eq_true,decide_eq_true_eq,Nat.not_lt,gt_iff_lt,
      List.contains_eq_mem] at hok
    obtain rfl := some.inj h
    exact ⟨hok.1,hok.2.1,hok.2.2.1,hok.2.2.2,wire_toList _ hok.2.1⟩
  · intro h
    obtain ⟨hne,hlen,hascii,hzero,hwire⟩:=h
    rw [if_neg]
    · rw [← wire_toList _ hlen] at hwire
      exact congrArg some (Vector.toList_inj.mp hwire).symm
    simp only [not_or,not_not,List.all_eq_true,decide_eq_true_eq,Nat.not_lt,gt_iff_lt,
      List.contains_eq_mem]
    exact ⟨hne,hlen,hascii,hzero⟩

theorem relayConnIdFromWireV2_toWire
    (h : relayConnIdToWireV2 connId=some wire) : relayConnIdFromWireV2 wire=some connId := by
  obtain ⟨hne,-,-,hzero,hwire⟩:=relayConnIdToWireV2_eq_some.mp h
  have htake : wire.toList.takeWhile (· ≠ 0)=asBytes connId := by
    rw [hwire]
    exact takeWhile_padded hzero
  unfold relayConnIdFromWireV2
  rw [htake,if_neg,fromUtf8_asBytes]
  rw [hwire,drop_left]
  simp [hne]

theorem relayConnIdFromWireV2_eq_some (h : relayConnIdFromWireV2 wire=some connId) :
    wire.toList.takeWhile (· ≠ 0)≠[] ∧
      (∀ b∈wire.toList.drop (wire.toList.takeWhile (· ≠ 0)).length, b=0) ∧
      asBytes connId=wire.toList.takeWhile (· ≠ 0) := by
  unfold relayConnIdFromWireV2 at h
  dsimp only at h
  split at h
  · cases h
  next hok =>
  simp only [not_or,List.any_eq_true,decide_eq_true_eq,not_exists,not_and,not_not] at hok
  exact ⟨hok.1,hok.2,fromUtf8_eq_some.mp h⟩

theorem relayConnIdToWireV2_fromWire
    (hascii : ∀ b∈wire.toList, b<0x80) (h : relayConnIdFromWireV2 wire=some connId) :
    relayConnIdToWireV2 connId=some wire := by
  obtain ⟨hne,hzeros,hbs⟩:=relayConnIdFromWireV2_eq_some h
  have hlen : (wire.toList.takeWhile (· ≠ 0)).length≤12 := by
    have hle:=( takeWhile_prefix (fun b : UInt8 => decide (b≠0)) (l := wire.toList)).length_le
    rwa [Vector.length_toList] at hle
  have hdrop : wire.toList.drop (wire.toList.takeWhile (· ≠ 0)).length =
      List.replicate (12-(wire.toList.takeWhile (· ≠ 0)).length) 0 := by
    refine eq_replicate_iff.mpr ⟨?_,hzeros⟩
    rw [length_drop,Vector.length_toList]
  refine relayConnIdToWireV2_eq_some.mpr ?_
  rw [hbs]
  refine ⟨hne,hlen,?_,?_,?_⟩
  · intro b hb
    exact hascii b (takeWhile_subset _ hb)
  · intro hzero
    have := mem_takeWhile_imp hzero
    simp at this
  · conv_lhs => rw [← take_append_drop (wire.toList.takeWhile (· ≠ 0)).length wire.toList]
    congr 1
    exact (prefix_iff_eq_take.mp ( takeWhile_prefix _)).symm

theorem relayConnIdToWireV2_unique {ownWire : WireConnId}
    (h : relayConnIdFromWireV2 wire=some connId)
    (hown : relayConnIdToWireV2 connId=some ownWire) : ownWire=wire := by
  obtain ⟨-,-,hascii,-,-⟩:=relayConnIdToWireV2_eq_some.mp hown
  have hall : ∀ b∈wire.toList, b<0x80 := by
    intro b hb
    obtain ⟨-,hzeros,hbs⟩:=relayConnIdFromWireV2_eq_some h
    rw [← take_append_drop (wire.toList.takeWhile (· ≠ 0)).length wire.toList,
      ← prefix_iff_eq_take.mp ( takeWhile_prefix _)] at hb
    rcases mem_append.mp hb with hb | hb
    · rw [← hbs] at hb
      exact hascii b hb
    rw [hzeros b hb]
    decide
  rw [relayConnIdToWireV2_fromWire hall h] at hown
  exact (some.inj hown).symm

section OnLink
variable (params : EngineParams) (linked : String → V2PeerLinkCryptoContext → Prop)

/-- `flow` has the local identity, and the keys of a PeerLink of its remote Peer. -/
structure FlowOnLink (flow : V2RelayFlowCryptoContext) : Prop where
  tunnel : flow.tunnelId=params.tunnelId
  localPeer : flow.localPeerId=params.peerId
  link : linked flow.remotePeerId ⟨flow.sessionId,flow.cipher⟩

/-- `ctx` seals for the flow `connId` with the keys of a PeerLink of its remote Peer. -/
structure SealOnLink (connId : String) (ctx : V2RelaySealContext) : Prop where
  tunnel : ctx.tunnelId=params.tunnelId
  localPeer : ctx.localPeerId=params.peerId
  link : linked ctx.remotePeerId ⟨ctx.sessionId,ctx.cipher⟩
  wire : relayConnIdToWireV2 connId=some ctx.connId

/-- What a flow opens framed records with is made for its own `conn_id`. -/
def InboundAadFor (connId : String) (flow : V2RelayFlowCryptoContext) : Prop :=
  ∀ kind aad, flow.inboundAad kind=some aad →
    ∃ wire, relayConnIdFromWireV2 wire=some connId ∧
      framedAad (flow.recordContext wire false) kind = .ok aad

variable {params linked} {linked' : String → V2PeerLinkCryptoContext → Prop}
  (hmono : ∀ remote link, linked remote link → linked' remote link)
include hmono

theorem FlowOnLink.mono {flow : V2RelayFlowCryptoContext} (h : FlowOnLink params linked flow) :
    FlowOnLink params linked' flow :=
  ⟨h.tunnel,h.localPeer,hmono _ _ h.link⟩

theorem SealOnLink.mono {connId : String} {ctx : V2RelaySealContext}
    (h : SealOnLink params linked connId ctx) : SealOnLink params linked' connId ctx :=
  ⟨h.tunnel,h.localPeer,hmono _ _ h.link,h.wire⟩

end OnLink

namespace V2RelayFlowCryptoContext
variable {flow stored : V2RelayFlowCryptoContext} {connId : String} {wire : WireConnId}
  {params : EngineParams} {linked : String → V2PeerLinkCryptoContext → Prop}

theorem withInboundFramedAad_eq_some (h : flow.withInboundFramedAad wire=some stored) :
    ∃ data udp, framedAad (flow.recordContext wire false) .data = .ok data ∧
      framedAad (flow.recordContext wire false) .udpData = .ok udp ∧
      stored={ flow with inboundFramedAad := some (data,udp) } := by
  obtain ⟨data,hdata,h⟩:=bind_eq_some_iff.mp h
  obtain ⟨udp,hudp,h⟩:=bind_eq_some_iff.mp h
  exact ⟨data,udp,toOption_eq_some.mp hdata,toOption_eq_some.mp hudp,(some.inj h).symm⟩

theorem withInboundFramedAad_remotePeerId (h : flow.withInboundFramedAad wire=some stored) :
    stored.remotePeerId=flow.remotePeerId := by
  obtain ⟨_,_,-,-,rfl⟩:=withInboundFramedAad_eq_some h
  rfl

theorem withInboundFramedAad_onLink (hflow : FlowOnLink params linked flow)
    (h : flow.withInboundFramedAad wire=some stored) : FlowOnLink params linked stored := by
  obtain ⟨_,_,-,-,rfl⟩:=withInboundFramedAad_eq_some h
  exact ⟨hflow.tunnel,hflow.localPeer,hflow.link⟩

theorem withInboundFramedAad_aadFor (hwire : relayConnIdFromWireV2 wire=some connId)
    (h : flow.withInboundFramedAad wire=some stored) : InboundAadFor connId stored := by
  obtain ⟨data,_,hdata,hudp,rfl⟩:=withInboundFramedAad_eq_some h
  intro kind aad haad
  obtain rfl := some.inj haad
  cases kind with
  | data => exact ⟨wire,hwire,hdata⟩
  | udpData => exact ⟨wire,hwire,hudp⟩

theorem inboundAadFor_of_none (h : flow.inboundFramedAad=none) : InboundAadFor connId flow := by
  intro kind aad haad
  rw [inboundAad,h] at haad
  cases haad

theorem sealContext_eq_some {ctx : V2RelaySealContext} (h : flow.sealContext connId=some ctx) :
    relayConnIdToWireV2 connId=some ctx.connId ∧ ctx.tunnelId=flow.tunnelId ∧
      ctx.sessionId=flow.sessionId ∧ ctx.localPeerId=flow.localPeerId ∧
      ctx.remotePeerId=flow.remotePeerId ∧ ctx.cipher=flow.cipher := by
  obtain ⟨_,hwire,h⟩:=bind_eq_some_iff.mp h
  have hnew:=toOption_eq_some.mp h
  unfold V2RelaySealContext.new at hnew
  split at hnew
  · cases hnew
  split at hnew
  · cases hnew
  split at hnew
  · cases hnew
  cases hnew
  exact ⟨hwire,rfl,rfl,rfl,rfl,rfl⟩

theorem sealContext_onLink {ctx : V2RelaySealContext} (hflow : FlowOnLink params linked flow)
    (h : flow.sealContext connId=some ctx) : SealOnLink params linked connId ctx := by
  obtain ⟨hwire,htun,hsess,hloc,hrmt,hcipher⟩:=sealContext_eq_some h
  refine ⟨htun.trans hflow.tunnel,hloc.trans hflow.localPeer,?_,hwire⟩
  rw [hrmt,hsess,hcipher]
  exact hflow.link

theorem sealContext_isSome (hval : (flow.recordContext wire false).Valid)
    (hwire : relayConnIdToWireV2 connId=some wire) : ∃ ctx, flow.sealContext connId=some ctx := by
  have hmirror : (flow.recordContext wire true).Valid := hval.mirror
  obtain ⟨control,hctl⟩:=hmirror.controlAad false
  obtain ⟨data,hdata⟩:=hmirror.framedAad .data
  obtain ⟨udp,hudp⟩:=hmirror.framedAad .udpData
  refine ⟨⟨flow.tunnelId,flow.sessionId,flow.localPeerId,flow.remotePeerId,flow.cipher,wire,
    control,data,udp,hctl,hdata,hudp⟩,?_⟩
  refine bind_eq_some_iff.mpr ⟨wire,hwire,toOption_eq_some.mpr ?_⟩
  simp only [recordContext,if_true] at hctl hdata hudp
  unfold V2RelaySealContext.new
  split
  · next hc => rw [hctl] at hc; cases hc
  next hc =>
  rw [hctl] at hc
  cases hc
  split
  · next hd => rw [hdata] at hd; cases hd
  next hd =>
  rw [hdata] at hd
  cases hd
  split
  · next hu => rw [hudp] at hu; cases hu
  next hu =>
  rw [hudp] at hu
  cases hu
  rfl

end V2RelayFlowCryptoContext

namespace EngineState
variable {params : EngineParams} {s : EngineState} {env : EngineEnv}

def Linked (s : EngineState) (remotePeerId : String) (link : V2PeerLinkCryptoContext) : Prop :=
  s.v2PeerLinks.get remotePeerId=some link

variable {remotePeerId connId : String} {e : EngineEvent} {tr : List EngineOutput}

theorem flowOfLink_onLink {link : V2PeerLinkCryptoContext} (h : s.Linked remotePeerId link) :
    FlowOnLink params s.Linked (flowOfLink params remotePeerId link) :=
  ⟨rfl,rfl,h⟩

theorem v2RelayFlowFromRemote_eq_some {sessionId : SessionId} {flow : V2RelayFlowCryptoContext}
    (h : s.v2RelayFlowFromRemote params remotePeerId sessionId=some flow) :
    ∃ link, s.Linked remotePeerId link ∧ link.sessionId=sessionId ∧
      flow=flowOfLink params remotePeerId link := by
  obtain ⟨link,hlink,h⟩:=bind_eq_some_iff.mp h
  split at h
  · cases h
  · next hsess => exact ⟨link,hlink,not_not.mp hsess,(some.inj h).symm⟩

theorem v2RelayFlowFromSession_eq_some {sessionId : SessionId} {flow : V2RelayFlowCryptoContext}
    (h : s.v2RelayFlowFromSession params sessionId=some flow) :
    ∃ remotePeerId link, s.Linked remotePeerId link ∧ link.sessionId=sessionId ∧
      flow=flowOfLink params remotePeerId link := by
  unfold v2RelayFlowFromSession at h
  split at h
  · next remotePeerId link hfilter =>
    have hmem : (remotePeerId,link)∈[(remotePeerId,link)] := mem_singleton.mpr rfl
    rw [← hfilter] at hmem
    obtain ⟨hpair,hsess⟩:=mem_filter.mp hmem
    exact ⟨remotePeerId,link,mem_pairs.mp hpair,of_decide_eq_true hsess,(some.inj h).symm⟩
  · cases h

/-- A sealed control frame opened to `payload` under the current PeerLink of the
Peer it names. -/
def ControlOpened (params : EngineParams) (s : EngineState) (remotePeerId : String)
    (sessionId : SessionId) (wire : WireConnId) (routeAbort : Bool) (sealed : Bytes)
    (payload : RelayControlPayloadV2) : Prop :=
  ∃ link aad plaintext, s.Linked remotePeerId link ∧ link.sessionId=sessionId ∧
    controlAad ⟨params.tunnelId,sessionId,remotePeerId,params.peerId,wire⟩ routeAbort = .ok aad ∧
    link.cipher.openPrecomputed params.aead aad sealed = .ok plaintext ∧
    RelayControlPayloadV2.decode plaintext = .ok payload

/-- A sealed stream preface opened to `address` under the current PeerLink of
`remotePeerId`. -/
def StreamOpened (params : EngineParams) (s : EngineState) (connId : String) (sessionId : SessionId)
    (sealedOpen : Bytes) (remotePeerId address : String) : Prop :=
  ∃ link wire plaintext, s.Linked remotePeerId link ∧ link.sessionId=sessionId ∧
    relayConnIdToWireV2 connId=some wire ∧
    link.cipher.openFlow params.aead
      ⟨params.tunnelId,sessionId,remotePeerId,params.peerId,wire⟩ .openFlow sealedOpen =
        .ok plaintext ∧
    fromUtf8 plaintext=some address

section Opened
variable {remotePeerId : String} {sessionId : SessionId} {wire : WireConnId} {routeAbort : Bool}
  {sealed : Bytes} {flow : V2RelayFlowCryptoContext} {payload : RelayControlPayloadV2}

theorem openSealedControl_opened
    (h : s.openSealedControl params remotePeerId sessionId wire routeAbort sealed =
      some (flow,payload)) :
    ControlOpened params s remotePeerId sessionId wire routeAbort sealed payload ∧
      FlowOnLink params s.Linked flow ∧ flow.remotePeerId=remotePeerId := by
  obtain ⟨_,hfnd,h⟩:=bind_eq_some_iff.mp h
  obtain ⟨link,hlink,hsess,rfl⟩:=v2RelayFlowFromRemote_eq_some hfnd
  obtain ⟨aad,haad,h⟩:=bind_eq_some_iff.mp h
  obtain ⟨plaintext,hpt,h⟩:=bind_eq_some_iff.mp h
  obtain ⟨_,hdec,h⟩:=bind_eq_some_iff.mp h
  obtain ⟨rfl,rfl⟩:=Prod.mk.inj (some.inj h)
  subst hsess
  exact ⟨⟨link,aad,plaintext,hlink,rfl,toOption_eq_some.mp haad,toOption_eq_some.mp hpt,
    toOption_eq_some.mp hdec⟩,flowOfLink_onLink hlink,rfl⟩

theorem ControlOpened.openSealedControl
    (h : ControlOpened params s remotePeerId sessionId wire routeAbort sealed payload) :
    ∃ flow, s.openSealedControl params remotePeerId sessionId wire routeAbort sealed =
        some (flow,payload) ∧ (flow.recordContext wire false).Valid := by
  obtain ⟨link,aad,plaintext,hlink,rfl,haad,hpt,hdec⟩:=h
  have hflow : s.v2RelayFlowFromRemote params remotePeerId link.sessionId =
      some (flowOfLink params remotePeerId link) :=
    bind_eq_some_iff.mpr ⟨link,hlink,if_neg (not_not.mpr rfl)⟩
  refine ⟨flowOfLink params remotePeerId link,?_,.of_controlAad haad⟩
  exact bind_eq_some_iff.mpr ⟨_,hflow,bind_eq_some_iff.mpr ⟨aad,toOption_eq_some.mpr haad,
      bind_eq_some_iff.mpr ⟨plaintext,toOption_eq_some.mpr hpt,
        bind_eq_some_iff.mpr ⟨payload,toOption_eq_some.mpr hdec,rfl⟩⟩⟩⟩

theorem openSealedStream_opened {connId address : String}
    (h : s.openSealedStream params connId sessionId sealed=some (wire,flow,address)) :
    StreamOpened params s connId sessionId sealed flow.remotePeerId address ∧
      FlowOnLink params s.Linked flow ∧ relayConnIdToWireV2 connId=some wire ∧
      flow.inboundFramedAad=none := by
  obtain ⟨connWire,hwire,h⟩:=bind_eq_some_iff.mp h
  obtain ⟨_,hfnd,h⟩:=bind_eq_some_iff.mp h
  obtain ⟨_,link,hlink,hsess,rfl⟩:=v2RelayFlowFromSession_eq_some hfnd
  obtain ⟨plaintext,hpt,h⟩:=bind_eq_some_iff.mp h
  obtain ⟨_,htext,h⟩:=bind_eq_some_iff.mp h
  obtain ⟨rfl,hrest⟩:=Prod.mk.inj (some.inj h)
  obtain ⟨rfl,rfl⟩:=Prod.mk.inj hrest
  subst hsess
  exact ⟨⟨link,connWire,plaintext,hlink,rfl,hwire,toOption_eq_some.mp hpt,htext⟩,
    flowOfLink_onLink hlink,hwire,rfl⟩

end Opened

def storeFlow (s : EngineState) (connId : String) (flow : V2RelayFlowCryptoContext) : EngineState :=
  { s with v2RelayFlows := s.v2RelayFlows.insert connId flow }

theorem delivery_storeFlow (connId : String) (flow : V2RelayFlowCryptoContext) :
    (s.storeFlow connId flow).delivery connId =
      .relay (some flow.remotePeerId) (.ok (s.relayInboundAttestations.get connId)) := by
  simp [delivery,storeFlow]

theorem inboundRouter_storeFlow (connId : String) (flow : V2RelayFlowCryptoContext) :
    (s.storeFlow connId flow).inboundRouter connId=⟨.relayOnly,flow.sealContext connId⟩ := by
  simp [inboundRouter,storeFlow,Table.contains]

section
variable (params : EngineParams) (s : EngineState) (env : EngineEnv)

theorem handleConnect_cases
    (connId network address : String) : (∃ protocol target, parseNetwork network=some protocol ∧
      resolveInboundDialTarget env.inbound (s.delivery connId) protocol address = .ok target ∧
      (s.inbound.contains connId || s.udpInbound.contains connId)=false ∧
      s.handleConnect params env connId network address =
        (s.spawn connId (.framed protocol (s.inboundRouter connId)),
          [.dial connId protocol target.address])) ∨
    ∃ t success error, (t=s ∨ t=s.removeAttestation connId) ∧
      s.handleConnect params env connId network address =
        t.respond params (s.inboundRouter connId) env connId success error := by
  unfold handleConnect
  dsimp only
  split
  · exact .inr ⟨_,_,_,.inr rfl,rfl⟩
  next protocol hnet =>
  split
  · exact .inr ⟨_,_,_,.inr rfl,rfl⟩
  next target htgt => grind

theorem handleSealedOpen_cases
    (flow : V2RelayFlowCryptoContext) (wire : WireConnId) (network address : String) :
    s.handleSealedOpen params env flow wire network address=s.unchanged ∨
    (∃ connId, s.handleSealedOpen params env flow wire network address =
      (s.removeRelayFlow connId,[])) ∨ ∃ connId stored, relayConnIdFromWireV2 wire=some connId ∧
      flow.withInboundFramedAad wire=some stored ∧
      s.handleSealedOpen params env flow wire network address =
        (s.storeFlow connId stored).handleConnect params env connId network address := by
  unfold handleSealedOpen
  split
  · next connId stored hconn hput =>
    split
    · exact .inr (.inl ⟨connId,rfl⟩)
    · exact .inr (.inr ⟨connId,stored,hconn,hput,rfl⟩)
  · exact .inl rfl

end

theorem handleSealedOpenResponse_cases (s : EngineState) (flow : V2RelayFlowCryptoContext)
    (wire : WireConnId) (success : Bool) (error : String) :
    s.handleSealedOpenResponse flow wire success error=s.unchanged ∨
    (∃ connId, success=false ∧ relayConnIdFromWireV2 wire=some connId ∧
      s.handleSealedOpenResponse flow wire success error =
        (s.removeRelayFlow connId).handleProxyConnectResponse connId false error) ∨
    ∃ connId ownWire stored, success=true ∧ relayConnIdFromWireV2 wire=some connId ∧
      relayConnIdToWireV2 connId=some ownWire ∧ flow.withInboundFramedAad ownWire=some stored ∧
      s.handleSealedOpenResponse flow wire success error =
        (s.storeFlow connId stored).handleProxyConnectResponse connId true error := by
  unfold handleSealedOpenResponse
  split
  · exact .inl rfl
  next connId hconn =>
  cases success with
  | false => exact .inr (.inl ⟨connId,rfl,hconn,rfl⟩)
  | true =>
    simp only [if_true]
    split
    · exact .inl rfl
    next stored hput =>
    obtain ⟨ownWire,hown,hput⟩:=bind_eq_some_iff.mp hput
    exact .inr (.inr ⟨connId,ownWire,stored,trivial,hconn,hown,hput,rfl⟩)

inductive ControlHandled (params : EngineParams) (s : EngineState) (env : EngineEnv)
    (remotePeerId : String) (sessionId : SessionId) (wire : WireConnId) (sealed : Bytes) :
    Bool → Handled → Prop
  | dropped {routeAbort} : ControlHandled params s env remotePeerId sessionId wire sealed routeAbort
      s.unchanged
  | aborted : ControlHandled params s env remotePeerId sessionId wire sealed true
      (s.handleRouteAbort wire,[])
  | opens {flow network address}
      (h : s.openSealedControl params remotePeerId sessionId wire false sealed =
        some (flow,.openFlow network address)) :
      ControlHandled params s env remotePeerId sessionId wire sealed false
        (s.handleSealedOpen params env flow wire network address)
  | answers {flow success error}
      (h : s.openSealedControl params remotePeerId sessionId wire false sealed =
        some (flow,.openResponse success error)) :
      ControlHandled params s env remotePeerId sessionId wire sealed false
        (s.handleSealedOpenResponse flow wire success error)
  | gossips (payload : RelayControlPayloadV2) :
      ControlHandled params s env remotePeerId sessionId wire sealed false
        (s,[.gossip remotePeerId payload])

theorem handleEncryptedPeerControl_handled (params : EngineParams) (s : EngineState)
    (env : EngineEnv) (remotePeerId : String) (sessionId : SessionId) (wire : WireConnId)
    (routeAbort : Bool) (sealed : Bytes) :
    ControlHandled params s env remotePeerId sessionId wire sealed routeAbort
      (s.handleEncryptedPeerControl params env remotePeerId sessionId wire routeAbort sealed) := by
  unfold handleEncryptedPeerControl
  split
  · exact .dropped
  next flow payload hopd =>
  cases routeAbort with
  | true => exact .aborted
  | false =>
    cases payload with
    | openFlow => exact .opens hopd
    | openResponse => exact .answers hopd
    | _ =>
      simp only [Bool.false_eq_true,if_false]
      split
      · exact .gossips _
      · exact .dropped

inductive Opens (params : EngineParams) (s : EngineState) :
    EngineEvent → String → Protocol → String → TaskKind → Prop
  | connect {env connId network address protocol target}
      (hnetwork : parseNetwork network=some protocol)
      (htarget : resolveInboundDialTarget env.inbound (s.delivery connId) protocol address =
        .ok target)
      (hidle : (s.inbound.contains connId || s.udpInbound.contains connId)=false) :
      Opens params s (.message env (.connect connId network address)) connId protocol target.address
        (.framed protocol (s.inboundRouter connId))
  | tcpFlow {env connId address target}
      (htarget : resolveInboundDialTarget env.inbound (s.delivery connId) .tcp address = .ok target) :
      Opens params s (.tcpFlow env connId address) connId .tcp target.address .plainStream
  | sealedOpen {env remotePeerId sessionId wire sealed flow network address connId stored protocol
        target}
      (hopened : s.openSealedControl params remotePeerId sessionId wire false sealed =
        some (flow,.openFlow network address))
      (hconn : relayConnIdFromWireV2 wire=some connId)
      (hstored : flow.withInboundFramedAad wire=some stored)
      (hnetwork : parseNetwork network=some protocol)
      (htarget : resolveInboundDialTarget env.inbound
        (.relay (some remotePeerId) (.ok (s.relayInboundAttestations.get connId))) protocol address =
          .ok target) :
      Opens params s (.message env (.encryptedPeerControlV2 remotePeerId sessionId wire false sealed))
        connId protocol target.address (.framed protocol ⟨.relayOnly,stored.sealContext connId⟩)
  | sealedTcpFlow {env connId sessionId sealed wire flow address target}
      (hopened : s.openSealedStream params connId sessionId sealed=some (wire,flow,address))
      (htarget : resolveInboundDialTarget env.inbound
        (.relay (some flow.remotePeerId) (.ok (s.relayInboundAttestations.get connId))) .tcp address =
          .ok target) :
      Opens params s (.sealedTcpFlow env connId sessionId sealed) connId .tcp target.address
        (.sealedStream wire flow)

theorem opens_of_storeFlow {sessionId : SessionId} {wire : WireConnId}
    {sealed : Bytes} {flow stored : V2RelayFlowCryptoContext} {network address : String}
    (hopd : s.openSealedControl params remotePeerId sessionId wire false sealed =
      some (flow,.openFlow network address)) (hconn : relayConnIdFromWireV2 wire=some connId)
    (hput : flow.withInboundFramedAad wire=some stored) (protocol : Protocol)
    (target : InboundDialTarget) (hnet : parseNetwork network=some protocol)
    (htgt : resolveInboundDialTarget env.inbound ((s.storeFlow connId stored).delivery connId)
      protocol address = .ok target) :
    Opens params s (.message env (.encryptedPeerControlV2 remotePeerId sessionId wire false sealed))
      connId protocol target.address
      (.framed protocol ((s.storeFlow connId stored).inboundRouter connId)) := by
  obtain ⟨-,-,hrmt⟩:=openSealedControl_opened hopd
  rw [delivery_storeFlow,withInboundFramedAad_remotePeerId hput,hrmt] at htgt
  rw [inboundRouter_storeFlow]
  exact .sealedOpen hopd hconn hput hnet htgt

/-- `s'` has no PeerLink, flow, buffer, stream or task that `s` does not have. -/
structure Inherits (s s' : EngineState) : Prop where
  links : ∀ {remote link}, s'.Linked remote link → s.Linked remote link
  flows : ∀ {connId flow}, s'.v2RelayFlows.get connId=some flow →
    s.v2RelayFlows.get connId=some flow
  buffers : ∀ {connId datagrams}, s'.pendingUdpInbound.get connId=some datagrams →
    s.pendingUdpInbound.get connId=some datagrams
  streams : ∀ {id opening}, s'.openingStreams.get id=some opening →
    s.openingStreams.get id=some opening
  tasks : ∀ {id task}, s'.tasks.get id=some task →
    ∃ task0, s.tasks.get id=some task0 ∧ task.connId=task0.connId ∧ task.kind=task0.kind

/-- What one step from `s` to `s'` may add. -/
structure Grows (params : EngineParams) (s : EngineState) (e : EngineEvent) (s' : EngineState)
    (outs : List EngineOutput) : Prop where
  links : ∀ {remote link}, s'.Linked remote link →
    s.Linked remote link ∨ .linkInstalled remote link ∈ outs
  flows : ∀ {connId flow}, s'.v2RelayFlows.get connId=some flow →
    s.v2RelayFlows.get connId=some flow ∨
      FlowOnLink params s.Linked flow ∧ InboundAadFor connId flow
  buffers : ∀ {connId datagrams}, s'.pendingUdpInbound.get connId=some datagrams →
    ∀ datagram ∈ datagrams, (∃ held, s.pendingUdpInbound.get connId=some held ∧ datagram ∈ held) ∨
      .buffered connId datagram ∈ outs
  streams : ∀ {id connId ctx}, s'.openingStreams.get id=some (connId,ctx) →
    s.openingStreams.get id=some (connId,ctx) ∨ SealOnLink params s.Linked connId ctx
  tasks : ∀ {id task}, s'.tasks.get id=some task →
    (∃ task0, s.tasks.get id=some task0 ∧ task.connId=task0.connId ∧ task.kind=task0.kind) ∨
      ∃ protocol target, Opens params s e task.connId protocol target task.kind

namespace Inherits
variable {s' s'' : EngineState}

theorem refl (s : EngineState) : Inherits s s :=
  ⟨fun h => h,fun h => h,fun h => h,fun h => h,fun {_ task} h => ⟨task,h,rfl,rfl⟩⟩

theorem trans (h : Inherits s s') (h' : Inherits s' s'') : Inherits s s'' := by
  refine ⟨fun hl => h.links (h'.links hl),fun hf => h.flows (h'.flows hf),
    fun hb => h.buffers (h'.buffers hb),fun hs => h.streams (h'.streams hs),?_⟩
  intro id task ht
  obtain ⟨_,ht1,hconn1,hkind1⟩:=h'.tasks ht
  obtain ⟨task0,ht0,hconn0,hkind0⟩:=h.tasks ht1
  exact ⟨task0,ht0,hconn1.trans hconn0,hkind1.trans hkind0⟩

theorem removeAttestation (s : EngineState) (connId : String) : Inherits s (s.removeAttestation connId) :=
  { refl s with }

theorem removeRelayFlow (s : EngineState) (connId : String) : Inherits s (s.removeRelayFlow connId) :=
  { refl s with flows := get_of_get_remove }

theorem handleRouteAbort (s : EngineState) (wire : WireConnId) :
    Inherits s (s.handleRouteAbort wire) := by
  unfold EngineState.handleRouteAbort
  split
  · exact refl s
  split
  · exact refl s
  · exact { refl s with flows := get_of_get_remove }

theorem handleProxyConnectResponse (s : EngineState) (connId : String) (success : Bool)
    (error : String) : Inherits s (s.handleProxyConnectResponse connId success error).1 := by
  unfold EngineState.handleProxyConnectResponse
  split
  · exact { refl s with }
  · exact refl s

theorem handleRelayRouteBind (params : EngineParams) (s : EngineState) (env : EngineEnv)
    (connId peerClientId : String) :
    Inherits s (s.handleRelayRouteBind params env connId peerClientId).1 := by
  unfold EngineState.handleRelayRouteBind
  split
  · next bound hbd =>
    have hinherit : Inherits s bound := by
      unfold installRelayInboundAttestation at hbd
      dsimp only at hbd
      split at hbd
      · cases hbd
      split at hbd
      · cases hbd
      split at hbd
      · cases hbd
      split at hbd
      · cases hbd
      obtain rfl := Except.ok.inj hbd
      exact { refl s with }
    cases env.accepts with
    | true => exact hinherit
    | false => exact hinherit.trans (removeAttestation bound connId)
  · exact removeAttestation s connId

theorem handleClose (s : EngineState) (connId : String) : Inherits s (s.handleClose connId) := by
  refine { refl s with flows := get_of_get_remove, buffers := ?_ }
  intro c datagrams h
  dsimp only [EngineState.handleClose] at h
  split at h
  · exact h
  · exact get_of_get_remove h

theorem finishTask (s : EngineState) (id : ℕ) (task : InboundTask) :
    Inherits s (s.finishTask id task) := by
  have hended : Inherits s { s with
      tasks := s.tasks.remove id
      v2RelayFlows := s.v2RelayFlows.remove task.connId } :=
    { refl s with
      flows := get_of_get_remove
      tasks := fun {_ task} h => ⟨task,get_of_get_remove h,rfl,rfl⟩ }
  unfold EngineState.finishTask
  split
  · exact hended
  · exact hended.trans (removeAttestation _ task.connId)

theorem startPipe {id : ℕ} {task : InboundTask} (htask : s.tasks.get id=some task) :
    Inherits s (s.startPipe id task) := by
  refine { refl s with tasks := ?_ }
  intro id' task' h
  rcases get_of_get_insert h with h | ⟨rfl,rfl⟩
  · exact ⟨task',h,rfl,rfl⟩
  · exact ⟨task,htask,rfl,rfl⟩

end Inherits

namespace Grows
variable {e : EngineEvent} {s' s'' : EngineState} {outs : List EngineOutput}

theorem refl (params : EngineParams) (s : EngineState) (e : EngineEvent)
    (outs : List EngineOutput) : Grows params s e s outs where
  links h := .inl h
  flows h := .inl h
  buffers h _ hmem := .inl ⟨_,h,hmem⟩
  streams h := .inl h
  tasks h := .inl ⟨_,h,rfl,rfl⟩

theorem inherits (h : Grows params s e s' outs) (h' : Inherits s' s'') :
    Grows params s e s'' outs where
  links hl := h.links (h'.links hl)
  flows hf := h.flows (h'.flows hf)
  buffers hb := h.buffers (h'.buffers hb)
  streams hs := h.streams (h'.streams hs)
  tasks := by
    intro id task ht
    obtain ⟨_,ht1,hconn1,hkind1⟩:=h'.tasks ht
    rcases h.tasks ht1 with ⟨task0,ht0,hconn0,hkind0⟩ | hopens
    · exact .inl ⟨task0,ht0,hconn1.trans hconn0,hkind1.trans hkind0⟩
    rw [← hconn1,← hkind1] at hopens
    exact .inr hopens

theorem of_inherits (h : Inherits s s') : Grows params s e s' outs :=
  (refl params s e outs).inherits h

theorem storeFlow {connId : String} {flow : V2RelayFlowCryptoContext}
    (hlink : FlowOnLink params s.Linked flow) (haad : InboundAadFor connId flow) :
    Grows params s e (s.storeFlow connId flow) outs := by
  refine { refl params s e outs with flows := ?_ }
  intro c f h
  rcases get_of_get_insert h with h | ⟨rfl,rfl⟩
  · exact .inl h
  · exact .inr ⟨hlink,haad⟩

theorem spawn {connId : String} {kind : TaskKind} {protocol : Protocol} {target : String}
    (h : Grows params s e s' outs) (hopens : Opens params s e connId protocol target kind) :
    Grows params s e (s'.spawn connId kind) outs := by
  refine { h with tasks := ?_ }
  intro id task ht
  rcases get_of_get_insert ht with ht | ⟨rfl,rfl⟩
  · exact h.tasks ht
  · exact .inr ⟨protocol,target,hopens⟩

end Grows

theorem handleConnect_grows {t : EngineState} {network address : String}
    {outs : List EngineOutput} (h : Grows params s e t outs)
    (hopens : ∀ protocol target, parseNetwork network=some protocol →
      resolveInboundDialTarget env.inbound (t.delivery connId) protocol address = .ok target →
      (t.inbound.contains connId || t.udpInbound.contains connId)=false →
      Opens params s e connId protocol target.address (.framed protocol (t.inboundRouter connId))) :
    Grows params s e (t.handleConnect params env connId network address).1 outs := by
  rcases t.handleConnect_cases params env connId network address with
    ⟨protocol,target,hnet,htgt,hidle,heq⟩ | ⟨t',success,error,ht',heq⟩
  · rw [heq]
    exact h.spawn (hopens protocol target hnet htgt hidle)
  rw [heq]
  rcases ht' with rfl | rfl
  · exact h
  · exact h.inherits (.removeAttestation t connId)

theorem handleEncryptedPeerControl_grows (remotePeerId : String) (sessionId : SessionId)
    (wire : WireConnId) (routeAbort : Bool) (sealed : Bytes) (outs : List EngineOutput) :
    Grows params s (.message env (.encryptedPeerControlV2 remotePeerId sessionId wire routeAbort sealed))
      (s.handleEncryptedPeerControl params env remotePeerId sessionId wire routeAbort sealed).1
      outs := by
  have hhand:=s.handleEncryptedPeerControl_handled params env remotePeerId sessionId wire
    routeAbort sealed
  generalize s.handleEncryptedPeerControl params env remotePeerId sessionId wire routeAbort sealed =
    handled at hhand
  cases hhand with
  | dropped => exact .refl ..
  | aborted => exact .of_inherits (.handleRouteAbort s wire)
  | gossips => exact .refl ..
  | @opens flow network address hopd =>
    obtain ⟨-,hlink,-⟩:=openSealedControl_opened hopd
    rcases s.handleSealedOpen_cases params env flow wire network address with
      heq | ⟨connId,heq⟩ | ⟨connId,stored,hconn,hput,heq⟩
    · rw [heq]
      exact .refl ..
    · rw [heq]
      exact .of_inherits (.removeRelayFlow s connId)
    · rw [heq]
      refine handleConnect_grows (.storeFlow (withInboundFramedAad_onLink hlink hput)
        (withInboundFramedAad_aadFor hconn hput)) ?_
      intro protocol target hnet htgt _
      exact opens_of_storeFlow hopd hconn hput protocol target hnet htgt
  | @answers flow success error hopd =>
    obtain ⟨-,hlink,-⟩:=openSealedControl_opened hopd
    rcases s.handleSealedOpenResponse_cases flow wire success error with
      heq | ⟨connId,-,-,heq⟩ | ⟨connId,ownWire,stored,-,-,hown,hput,heq⟩
    · rw [heq]
      exact .refl ..
    · rw [heq]
      exact .of_inherits ((Inherits.removeRelayFlow s connId).trans
        (.handleProxyConnectResponse _ connId false error))
    · rw [heq]
      refine Grows.inherits (.storeFlow (withInboundFramedAad_onLink hlink hput) ?_)
        (.handleProxyConnectResponse _ connId true error)
      exact withInboundFramedAad_aadFor
        (relayConnIdFromWireV2_toWire hown) hput

section
variable (connId : String) (payload : Bytes)

theorem handleData_grows (outs : List EngineOutput) :
    Grows params s e (s.handleData params env connId payload).1 outs := by
  unfold handleData
  split
  · exact .refl ..
  · exact .of_inherits (.removeRelayFlow s connId)
  · split <;> exact .refl ..

theorem bufferPendingUdpInbound_grows :
    Grows params s e (s.bufferPendingUdpInbound connId payload).1
      (s.bufferPendingUdpInbound connId payload).2 := by
  have hins : ∀ kept : List Bytes,
      (∀ datagram∈kept, ∃ held, s.pendingUdpInbound.get connId=some held ∧ datagram∈held) →
      Grows params s e
        { s with pendingUdpInbound := s.pendingUdpInbound.insert connId (kept++[payload]) }
        [.buffered connId payload] := by
    intro kept hkept
    refine { Grows.refl params s e _ with buffers := ?_ }
    intro c datagrams h datagram hmem
    rcases get_of_get_insert h with h | ⟨rfl,rfl⟩
    · exact .inl ⟨datagrams,h,hmem⟩
    rcases mem_append.mp hmem with hmem | hmem
    · exact .inl (hkept datagram hmem)
    obtain rfl := mem_singleton.mp hmem
    exact .inr (mem_singleton.mpr rfl)
  unfold bufferPendingUdpInbound
  split
  · split
    · exact .refl ..
    · exact hins [] (by simp)
  next pending hpend =>
  refine hins _ ?_
  intro datagram hmem
  refine ⟨pending,hpend,?_⟩
  split at hmem
  · exact mem_of_mem_tail hmem
  · exact hmem

theorem handleUdpData_grows : Grows params s e (s.handleUdpData params env connId payload).1
      (s.handleUdpData params env connId payload).2 := by
  unfold handleUdpData
  split
  · exact .refl ..
  · exact .refl ..
  split
  · exact .refl ..
  · exact bufferPendingUdpInbound_grows connId _

end

theorem handleMsg_grows (msg : BinaryMessage) :
    Grows params s (.message env msg) (s.handleMsg params env msg).1
      (s.handleMsg params env msg).2 := by
  cases msg with
  | encryptedPeerControlV2 remotePeerId sessionId wire routeAbort sealed =>
    exact handleEncryptedPeerControl_grows remotePeerId sessionId wire routeAbort sealed _
  | relayRouteBind connId peerClientId =>
    exact .of_inherits (.handleRelayRouteBind params s env connId peerClientId)
  | connect =>
    refine handleConnect_grows (.refl ..) ?_
    intro protocol target hnet htgt hidle
    exact .connect hnet htgt hidle
  | data connId payload => exact handleData_grows connId payload _
  | udpData connId payload => exact handleUdpData_grows connId payload
  | close connId => exact .of_inherits (.handleClose s connId)
  | connectResponse connId success error =>
    exact .of_inherits (.handleProxyConnectResponse s connId success error)
  | _ => exact .refl ..

theorem handleTcpFlowStream_grows (connId address : String) (outs : List EngineOutput) :
    Grows params s (.tcpFlow env connId address) (s.handleTcpFlowStream env connId address).1
      outs := by
  unfold handleTcpFlowStream
  split
  · exact .of_inherits (.removeAttestation s connId)
  · next target htgt => exact Grows.spawn (.refl ..) (.tcpFlow htgt)

theorem handleV2RelayTcpFlowStream_grows (connId : String) (sessionId : SessionId)
    (sealedOpen : Bytes) (outs : List EngineOutput) :
    Grows params s (.sealedTcpFlow env connId sessionId sealedOpen)
      (s.handleV2RelayTcpFlowStream params env connId sessionId sealedOpen).1 outs := by
  unfold handleV2RelayTcpFlowStream
  split
  · exact .refl ..
  next wire flow address hopd =>
  obtain ⟨-,hlink,-,hnone⟩:=openSealedStream_opened hopd
  have hput : Grows params s (.sealedTcpFlow env connId sessionId sealedOpen)
      (s.storeFlow connId flow) outs :=
    .storeFlow hlink (inboundAadFor_of_none hnone)
  split
  · exact .of_inherits (.removeRelayFlow s connId)
  dsimp only
  split
  · exact hput.inherits (.removeRelayFlow _ connId)
  next target htgt =>
  have hdeliver:=delivery_storeFlow (s := s) connId flow
  rw [storeFlow] at hdeliver
  rw [hdeliver] at htgt
  exact hput.spawn (.sealedTcpFlow hopd htgt)

theorem dialedFramed_inherits {id : ℕ} {task : InboundTask} (htask : s.tasks.get id=some task)
    (protocol : Protocol) (router : MultiSenderRouter) (result : Except String Unit) :
    Inherits s (s.dialedFramed params env id task protocol router result).1 := by
  have hclear : Inherits s { s with
      pendingUdpInbound := s.pendingUdpInbound.remove task.connId } :=
    { Inherits.refl s with buffers := get_of_get_remove }
  cases result with
  | error =>
    cases protocol with
    | tcp => exact .finishTask s id task
    | udp => exact hclear.trans (.finishTask _ id task)
  | ok =>
    cases protocol with
    | tcp =>
      dsimp only [dialedFramed]
      split
      · have hchan : Inherits s { s with
            inbound := s.inbound.insert task.connId s.fresh, fresh := s.fresh+1 } :=
          { Inherits.refl s with }
        exact hchan.trans (.startPipe htask)
      · have hchan : Inherits s { s with inbound := s.inbound.remove task.connId } :=
          { Inherits.refl s with }
        exact hchan.trans (.finishTask _ id task)
    | udp =>
      dsimp only [dialedFramed]
      split
      · have hchan : Inherits s { s with
            pendingUdpInbound := s.pendingUdpInbound.remove task.connId
            udpInbound := s.udpInbound.insert task.connId s.fresh
            fresh := s.fresh+1 } :=
          { hclear with }
        exact hchan.trans (.startPipe htask)
      · have hchan : Inherits s { s with
            pendingUdpInbound := s.pendingUdpInbound.remove task.connId
            udpInbound := s.udpInbound.remove task.connId } :=
          { hclear with }
        exact hchan.trans (.finishTask _ id task)

theorem dialedStream_inherits {id : ℕ} {task : InboundTask} (htask : s.tasks.get id=some task)
    (result : Except String Unit) (response : List EngineOutput) :
    Inherits s (s.dialedStream env id task result response).1 := by
  cases result with
  | error => exact .finishTask s id task
  | ok =>
    dsimp only [dialedStream]
    split
    · exact .startPipe htask
    · exact .finishTask s id task

theorem handleDialed_inherits (id : ℕ) (result : Except String Unit) :
    Inherits s (s.handleDialed params env id result).1 := by
  unfold handleDialed
  split
  · next task htask =>
    split
    · exact .refl s
    dsimp only
    split
    · exact dialedFramed_inherits htask _ _ result
    · exact dialedStream_inherits htask result _
    · exact dialedStream_inherits htask result _
  · exact .refl s

theorem handleTaskEnded_inherits (id : ℕ) : Inherits s (s.handleTaskEnded id) := by
  unfold handleTaskEnded
  split
  · next task htask =>
    have hcls : ∀ t : EngineState, Inherits s t → Inherits s (t.finishTask id task) := by
      intro t ht
      exact ht.trans (.finishTask t id task)
    split
    · exact hcls _ { Inherits.refl s with }
    · exact hcls _ { Inherits.refl s with }
    · exact hcls _ (.refl s)
  · exact .refl s

theorem prepareV2RelayFlow_eq_some {peer : String} {prepared : EngineState}
    {ctx : V2RelaySealContext} (h : s.prepareV2RelayFlow params connId peer=some (prepared,ctx)) :
    ∃ flow, FlowOnLink params s.Linked flow ∧ InboundAadFor connId flow ∧
      SealOnLink params s.Linked connId ctx ∧ prepared=s.storeFlow connId flow := by
  obtain ⟨_,hlink,h⟩:=bind_eq_some_iff.mp h
  obtain ⟨_,hwire,h⟩:=bind_eq_some_iff.mp h
  obtain ⟨flow,hflow,h⟩:=bind_eq_some_iff.mp h
  obtain ⟨_,hfnd,h⟩:=bind_eq_some_iff.mp h
  obtain ⟨rfl,rfl⟩:=Prod.mk.inj (some.inj h)
  have hon:=withInboundFramedAad_onLink (flowOfLink_onLink hlink) hflow
  exact ⟨flow,hon,withInboundFramedAad_aadFor (relayConnIdFromWireV2_toWire hwire) hflow,
    sealContext_onLink hon hfnd,rfl⟩

theorem openCommitted_grows (connId peer : String) (outs : List EngineOutput) :
    Grows params s e (s.openCommitted params connId peer) outs := by
  unfold openCommitted
  split
  · next prepared ctx hprep =>
    obtain ⟨_,hlink,haad,-,rfl⟩:=prepareV2RelayFlow_eq_some hprep
    exact .storeFlow hlink haad
  · exact .of_inherits (.removeRelayFlow s connId)

theorem streamOpened_grows (connId peer : String) (outs : List EngineOutput) :
    Grows params s e (s.streamOpened params connId peer) outs := by
  unfold streamOpened
  split
  · next prepared ctx hprep =>
    obtain ⟨flow,hlink,haad,hseal,rfl⟩:=prepareV2RelayFlow_eq_some hprep
    have hput : Grows params s e (s.storeFlow connId flow) outs := .storeFlow hlink haad
    refine { hput with streams := ?_ }
    intro id c found h
    rcases get_of_get_insert h with h | ⟨rfl,heq⟩
    · exact .inl h
    obtain ⟨rfl,rfl⟩:=Prod.mk.inj heq
    exact .inr hseal
  · exact .of_inherits (.removeRelayFlow s connId)

theorem handleStreamResponse_inherits (id : ℕ) (response : Bytes) :
    Inherits s (s.handleStreamResponse params id response).1 := by
  unfold handleStreamResponse
  split
  · exact .refl s
  have hanswer : Inherits s { s with openingStreams := s.openingStreams.remove id } :=
    { Inherits.refl s with streams := get_of_get_remove }
  split
  · exact hanswer
  · exact hanswer.trans (.removeRelayFlow _ _)

theorem handleFlowData_inherits (id : ℕ) (bytes : Bytes) :
    Inherits s (s.handleFlowData params id bytes).1 := by
  unfold handleFlowData
  split
  · next task htask =>
    split
    · exact .refl s
    split
    · exact .refl s
    · exact .refl s
    split
    · exact .refl s
    · exact .finishTask s id task
  · exact .refl s

theorem step_grows (params : EngineParams) (s : EngineState) (e : EngineEvent) :
    Grows params s e (s.step params e).1 (s.step params e).2 := by
  cases e with
  | message env msg => exact handleMsg_grows msg
  | tcpFlow env connId address => exact handleTcpFlowStream_grows connId address _
  | sealedTcpFlow env connId sessionId sealedOpen =>
    exact handleV2RelayTcpFlowStream_grows connId sessionId sealedOpen _
  | streamResponse id response => exact .of_inherits (handleStreamResponse_inherits id response)
  | flowData id bytes => exact .of_inherits (handleFlowData_inherits id bytes)
  | dialed env id result => exact .of_inherits (handleDialed_inherits id result)
  | targetData =>
    refine .of_inherits ?_
    dsimp only [step,handleTargetData]
    split
    · split <;> exact .refl s
    · exact .refl s
  | taskEnded id => exact .of_inherits (handleTaskEnded_inherits id)
  | graceExpired =>
    exact .of_inherits { Inherits.refl s with buffers := get_of_get_remove }
  | linkInstalled =>
    refine { Grows.refl params s _ _ with links := ?_ }
    intro remote found h
    rcases get_of_get_insert h with h | ⟨rfl,rfl⟩
    · exact .inl h
    · exact .inr (mem_singleton.mpr rfl)
  | linkRemoved =>
    exact .of_inherits { Inherits.refl s with links := get_of_get_remove }
  | openStarted connId peer protocol =>
    refine .of_inherits ?_
    cases protocol with
    | tcp | udp => exact { Inherits.refl s with }
  | openCommitted connId peer => exact openCommitted_grows connId peer _
  | openDropped =>
    exact .of_inherits { Inherits.refl s with flows := get_of_get_remove }
  | streamOpened connId peer => exact streamOpened_grows connId peer _

def Installed (tr : List EngineOutput) (remotePeerId : String) (link : V2PeerLinkCryptoContext) :
    Prop :=
  .linkInstalled remotePeerId link ∈ tr

structure EngineInv (params : EngineParams) (s : EngineState) (tr : List EngineOutput) : Prop where
  links : ∀ {remote link}, s.Linked remote link → Installed tr remote link
  flows : ∀ {connId flow}, s.v2RelayFlows.get connId=some flow →
    FlowOnLink params (Installed tr) flow ∧ InboundAadFor connId flow
  buffers : ∀ {connId datagrams}, s.pendingUdpInbound.get connId=some datagrams →
    ∀ datagram ∈ datagrams, .buffered connId datagram ∈ tr
  streams : ∀ {id connId ctx}, s.openingStreams.get id=some (connId,ctx) →
    SealOnLink params (Installed tr) connId ctx

theorem Installed.append (outs : List EngineOutput) {remote : String}
    {link : V2PeerLinkCryptoContext} (h : Installed tr remote link) :
    Installed (tr++outs) remote link :=
  mem_append_left outs h

theorem engineInv_start : EngineInv params .start [] := by
  refine ⟨?_,?_,?_,?_⟩
  · intro remote link h
    exact absurd h (by simp [Linked,start])
  · intro connId flow h
    exact absurd h (by simp [start])
  · intro connId datagrams h
    exact absurd h (by simp [start])
  · intro id connId ctx h
    exact absurd h (by simp [start])

theorem EngineInv.step (h : EngineInv params s tr) (e : EngineEvent) :
    EngineInv params (s.step params e).1 (tr++(s.step params e).2) := by
  have hgrows:=s.step_grows params e
  have hmono : ∀ remote link, s.Linked remote link →
      Installed (tr++(s.step params e).2) remote link := by
    intro remote link hlink
    exact (h.links hlink).append _
  refine ⟨?_,?_,?_,?_⟩
  · intro remote link hlink
    rcases hgrows.links hlink with hold | hnew
    · exact hmono remote link hold
    · exact mem_append_right tr hnew
  · intro connId flow hflow
    rcases hgrows.flows hflow with hold | ⟨hlink,haad⟩
    · obtain ⟨hlink,haad⟩:=h.flows hold
      exact ⟨hlink.mono fun _ _ hinstall => hinstall.append _,haad⟩
    · exact ⟨hlink.mono hmono,haad⟩
  · intro connId datagrams hget datagram hmem
    rcases hgrows.buffers hget datagram hmem with ⟨_,hheld,hin⟩ | hnew
    · exact mem_append_left _ (h.buffers hheld datagram hin)
    · exact mem_append_right tr hnew
  · intro id connId ctx hget
    rcases hgrows.streams hget with hold | hnew
    · exact (h.streams hold).mono fun _ _ hinstall => hinstall.append _
    · exact hnew.mono hmono

theorem run_engineInv (h : (machine params).Run s tr) : EngineInv params s tr :=
  h.invariant (EngineInv params) engineInv_start fun _ _ e hinv _ => hinv.step e

end EngineState

end Lantunnel.Client
