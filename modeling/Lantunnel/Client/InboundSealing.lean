import Lantunnel.Client.RelayAnswers

/-!
# A Relay is not a Peer

As long as a Relay delivers no plaintext open and no sealed OPEN whose `conn_id` is not
ASCII (`SealedOpensOnly`), a Client dials for sealed OPENs of Peers only and seals what
it answers.
-/

namespace Lantunnel.Client
open Lib FieldCodec Core V2RelayFlowCryptoContext

namespace EngineState
variable {params : EngineParams} {s : EngineState} {tr : List EngineOutput} {e : EngineEvent}

/-- The event is a sealed OPEN that opened under the current PeerLink of a Peer,
and that Peer is granted `target`. -/
inductive SealedOpen (params : EngineParams) (s : EngineState) :
    EngineEvent → String → Protocol → String → Prop
  | framed {env remotePeerId sessionId wire sealed network address connId protocol target}
      (hconn : relayConnIdFromWireV2 wire=some connId)
      (hopened : ControlOpened params s remotePeerId sessionId wire false sealed
        (.openFlow network address))
      (hnetwork : parseNetwork network=some protocol)
      (htarget : resolveInboundDialTarget env.inbound
        (.relay (some remotePeerId) (.ok (s.relayInboundAttestations.get connId))) protocol address =
          .ok target) :
      SealedOpen params s
        (.message env (.encryptedPeerControlV2 remotePeerId sessionId wire false sealed)) connId
        protocol target.address
  | stream {env connId sessionId sealed remotePeerId address target}
      (hopened : StreamOpened params s connId sessionId sealed remotePeerId address)
      (htarget : resolveInboundDialTarget env.inbound
        (.relay (some remotePeerId) (.ok (s.relayInboundAttestations.get connId))) .tcp address =
          .ok target) :
      SealedOpen params s (.sealedTcpFlow env connId sessionId sealed) connId .tcp target.address

/-- `frame` carries `msg` sealed for a flow of an installed PeerLink. -/
def SentSealed (params : EngineParams) (tr : List EngineOutput) (msg frame : BinaryMessage) : Prop :=
  ∃ connId ctx, SealOnLink params (Installed tr) connId ctx ∧
    messageConnIdWire msg = .ok ctx.connId ∧ SealedForm params.aead ctx msg frame

def WrittenSealed (params : EngineParams) (tr : List EngineOutput) (connId : String)
    (write : FlowWrite) : Prop :=
  ∃ bytes wire flow, write = .frame bytes ∧ FlowOnLink params (Installed tr) flow ∧
    relayConnIdToWireV2 connId=some wire ∧ StreamRecord params.aead flow wire bytes

/-- The event is one record of the stream of `connId` that opened to `payload`
under an installed PeerLink. -/
def DeliveredSealed (params : EngineParams) (tr : List EngineOutput) (e : EngineEvent)
    (connId : String) (payload : Bytes) : Prop :=
  ∃ id bytes wire flow aad, e = .flowData id bytes ∧ FlowOnLink params (Installed tr) flow ∧
    relayConnIdToWireV2 connId=some wire ∧
    flowAad (flow.recordContext wire false) .data = .ok aad ∧
    flow.cipher.openPrecomputed params.aead aad bytes = .ok payload

/-- A plaintext `Connect` opens nothing and is answered under a seal context, no
stream preface is plaintext, and the `conn_id` of a sealed OPEN is ASCII. -/
def SealedOpensOnly (params : EngineParams) (s : EngineState) : EngineEvent → Prop
  | .message env (.connect connId network address) =>
    (s.inboundRouter connId).v2RelaySeal ≠ none ∧
      ∀ protocol target, parseNetwork network=some protocol →
        resolveInboundDialTarget env.inbound (s.delivery connId) protocol address = .ok target →
        (s.inbound.contains connId || s.udpInbound.contains connId)=true
  | .message _ (.encryptedPeerControlV2 remotePeerId sessionId wire false sealed) =>
    ∀ network address, ControlOpened params s remotePeerId sessionId wire false sealed
      (.openFlow network address) → ∀ b ∈ wire.toList, b<0x80
  | .tcpFlow _ _ _ => False
  | _ => True

def TaskOnLink (params : EngineParams) (linked : String → V2PeerLinkCryptoContext → Prop)
    (connId : String) : TaskKind → Prop
  | .framed _ router => ∃ ctx, router.v2RelaySeal=some ctx ∧ SealOnLink params linked connId ctx
  | .plainStream => False
  | .sealedStream wire flow => FlowOnLink params linked flow ∧ relayConnIdToWireV2 connId=some wire

variable {connId : String}

theorem TaskOnLink.mono {linked linked' : String → V2PeerLinkCryptoContext → Prop}
    {kind : TaskKind} (hmono : ∀ remote link, linked remote link → linked' remote link)
    (h : TaskOnLink params linked connId kind) : TaskOnLink params linked' connId kind := by
  cases kind with
  | framed =>
    obtain ⟨ctx,hseal,hlink⟩:=h
    exact ⟨ctx,hseal,hlink.mono hmono⟩
  | plainStream => exact h
  | sealedStream => exact ⟨h.1.mono hmono,h.2⟩

theorem sealedOpen_seals (hcond : SealedOpensOnly params s e) {env : EngineEnv} {remotePeerId : String}
    {sessionId : SessionId} {wire : WireConnId} {sealed : Bytes} {flow stored : V2RelayFlowCryptoContext}
    {network address : String}
    (he : e = .message env (.encryptedPeerControlV2 remotePeerId sessionId wire false sealed))
    (hopd : s.openSealedControl params remotePeerId sessionId wire false sealed =
      some (flow,.openFlow network address)) (hconn : relayConnIdFromWireV2 wire=some connId)
    (hput : flow.withInboundFramedAad wire=some stored) :
    ∃ ctx, stored.sealContext connId=some ctx ∧ SealOnLink params s.Linked connId ctx := by
  subst he
  obtain ⟨hctl,hlink,-⟩:=openSealedControl_opened hopd
  have hwire:=relayConnIdToWireV2_fromWire (hcond network address hctl) hconn
  have hon:=withInboundFramedAad_onLink hlink hput
  obtain ⟨data,udp,hdata,-,rfl⟩:=withInboundFramedAad_eq_some hput
  obtain ⟨ctx,hctx⟩:=sealContext_isSome
    (show RelayRecordContextV2.Valid
      (recordContext { flow with inboundFramedAad := some (data,udp) } wire
        false) from .of_framedAad hdata) hwire
  exact ⟨ctx,hctx,sealContext_onLink hon hctx⟩

theorem opens_onLink (hcond : SealedOpensOnly params s e) {target : String}
    {protocol : Protocol} {kind : TaskKind} (h : Opens params s e connId protocol target kind) :
    TaskOnLink params s.Linked connId kind ∧ SealedOpen params s e connId protocol target := by
  cases h with
  | connect hnet htgt hidle =>
    have hbusy:=hcond.2 _ _ hnet htgt
    rw [hidle] at hbusy
    cases hbusy
  | tcpFlow => exact hcond.elim
  | sealedOpen hopd hconn hput hnet htgt =>
    obtain ⟨ctx,hctx,hseal⟩:=sealedOpen_seals hcond rfl hopd hconn hput
    exact ⟨⟨ctx,hctx,hseal⟩,.framed hconn (openSealedControl_opened hopd).1 hnet htgt⟩
  | sealedTcpFlow hopd htgt =>
    obtain ⟨hstream,hlink,hwire,-⟩:=openSealedStream_opened hopd
    exact ⟨⟨hlink,hwire⟩,.stream hstream htgt⟩

structure SealedInv (params : EngineParams) (s : EngineState) (tr : List EngineOutput) : Prop where
  engine : EngineInv params s tr
  tasks : ∀ {id task}, s.tasks.get id=some task →
    TaskOnLink params (Installed tr) task.connId task.kind

theorem sealedInv_start : SealedInv params .start [] := by
  refine ⟨engineInv_start,?_⟩
  intro id task h
  exact absurd h (by simp [start])

theorem SealedInv.step (h : SealedInv params s tr) (hcond : SealedOpensOnly params s e) :
    SealedInv params (s.step params e).1 (tr++(s.step params e).2) := by
  refine ⟨h.engine.step e,?_⟩
  intro id task htask
  rcases (s.step_grows params e).tasks htask with ⟨_,htask0,hconn,hkind⟩ |
    ⟨protocol,target,hopens⟩
  · rw [hconn,hkind]
    exact (h.tasks htask0).mono fun _ _ hinstall => hinstall.append _
  · exact (opens_onLink hcond hopens).1.mono fun _ _ hlink => (h.engine.links hlink).append _

theorem run_sealedInv (h : ((machine params).restrict (SealedOpensOnly params)).Run s tr) :
    SealedInv params s tr := by
  refine h.invariant (SealedInv params) sealedInv_start ?_
  intro s tr e hinv he
  exact hinv.step he.2

theorem sendsFor_seals (hinv : SealedInv params s tr) (hcond : SealedOpensOnly params s e)
    {router : MultiSenderRouter} (h : SendsFor params s e connId router) :
    ∃ ctx, router.v2RelaySeal=some ctx ∧ SealOnLink params (Installed tr) connId ctx := by
  cases h with
  | connect =>
    obtain ⟨ctx,hctx⟩:=Option.ne_none_iff_exists'.mp hcond.1
    obtain ⟨_,hflow,hseal⟩:=Option.bind_eq_some_iff.mp hctx
    exact ⟨ctx,hctx,sealContext_onLink (hinv.engine.flows hflow).1 hseal⟩
  | sealedOpen hopd hconn hput =>
    obtain ⟨ctx,hctx,hseal⟩:=sealedOpen_seals hcond rfl hopd hconn hput
    exact ⟨ctx,hctx,hseal.mono fun _ _ hlink => hinv.engine.links hlink⟩
  | ofTask htask hkind =>
    have htask:=hinv.tasks htask
    rw [hkind] at htask
    exact htask

theorem writesOn_onLink (hinv : SealedInv params s tr) {wire : WireConnId}
    {flow : V2RelayFlowCryptoContext} (h : WritesOn params s e connId wire flow) :
    FlowOnLink params (Installed tr) flow ∧ relayConnIdToWireV2 connId=some wire := by
  cases h with
  | refused hopd =>
    obtain ⟨-,hlink,hwire,-⟩:=openSealedStream_opened hopd
    exact ⟨hlink.mono fun _ _ hlink => hinv.engine.links hlink,hwire⟩
  | ofTask htask hkind =>
    have htask:=hinv.tasks htask
    rw [hkind] at htask
    exact htask

theorem dial_sealedOpen (hcond : SealedOpensOnly params s e) {target : String}
    {protocol : Protocol} (h : .dial connId protocol target∈(s.step params e).2) :
    SealedOpen params s e connId protocol target := by
  generalize ho : EngineOutput.dial connId protocol target=o at h
  cases s.step_emits params e o h with
  | dial hopens =>
    cases ho
    exact (opens_onLink hcond hopens).2
  | _ => cases ho

theorem inboundSend_sealed (hinv : SealedInv params s tr) (hcond : SealedOpensOnly params s e)
    {msg frame : BinaryMessage} (h : .inboundSend msg .relay frame∈(s.step params e).2) :
    SentSealed params tr msg frame := by
  generalize ho : EngineOutput.inboundSend msg .relay frame=o at h
  cases s.step_emits params e o h with
  | send hsends hmsg hhand =>
    cases ho
    obtain ⟨ctx,hseal,hlink⟩:=sendsFor_seals hinv hcond hsends
    obtain ⟨hwire,hform⟩:=hhand ctx hseal
    exact ⟨_,ctx,hlink,hwire,hform⟩
  | _ => cases ho

theorem flowWrite_sealed (hinv : SealedInv params s tr) (hcond : SealedOpensOnly params s e)
    {write : FlowWrite} (h : .flowWrite connId write∈(s.step params e).2) :
    WrittenSealed params tr connId write := by
  generalize ho : EngineOutput.flowWrite connId write=o at h
  cases s.step_emits params e o h with
  | plainRefusal => exact hcond.elim
  | plainWrite htask hkind =>
    have htask:=hinv.tasks htask
    rw [hkind] at htask
    exact htask.elim
  | sealedWrite hwrite hrec =>
    cases ho
    obtain ⟨hlink,hwire⟩:=writesOn_onLink hinv hwrite
    exact ⟨_,_,_,rfl,hlink,hwire,hrec⟩
  | _ => cases ho

theorem targetWrite_sealed (hinv : SealedInv params s tr) {payload : Bytes}
    (h : .targetWrite connId payload∈(s.step params e).2) :
    DeliveredSealed params tr e connId payload := by
  generalize ho : EngineOutput.targetWrite connId payload=o at h
  cases s.step_emits params e o h with
  | plainDelivery htask hkind =>
    have htask:=hinv.tasks htask
    rw [hkind] at htask
    exact htask.elim
  | sealedDelivery htask hkind haad hopd =>
    cases ho
    have htask:=hinv.tasks htask
    rw [hkind] at htask
    exact ⟨_,_,_,_,_,rfl,htask.1,htask.2,haad,hopd⟩
  | _ => cases ho

theorem relay_is_no_peer (params : EngineParams) (s : EngineState) (tr : List EngineOutput)
    (hrun : ((machine params).restrict (SealedOpensOnly params)).Run s tr) (e : EngineEvent)
    (hcond : SealedOpensOnly params s e) :
    (∀ connId protocol target, .dial connId protocol target ∈ (s.step params e).2 →
      SealedOpen params s e connId protocol target) ∧
    (∀ msg frame, .inboundSend msg .relay frame ∈ (s.step params e).2 →
      SentSealed params tr msg frame) ∧
    (∀ connId write, .flowWrite connId write ∈ (s.step params e).2 →
      WrittenSealed params tr connId write) ∧
    (∀ connId payload, .targetWrite connId payload ∈ (s.step params e).2 →
      DeliveredSealed params tr e connId payload) := by
  have hinv:=run_sealedInv hrun
  refine ⟨?_,?_,?_,?_⟩
  · intro connId protocol target h
    exact dial_sealedOpen hcond h
  · intro msg frame h
    exact inboundSend_sealed hinv hcond h
  · intro connId write h
    exact flowWrite_sealed hinv hcond h
  · intro connId payload h
    exact targetWrite_sealed hinv h

/-! ### An open of `peer-b` to `peer-a`

Once sealed by `peer-b`, then forged by a Relay while `peer-a` has no PeerLink. -/

def openRecords : List AeadRecord :=
  [{ key := lanLink.cipher.receive, nonce := Vector.replicate 24 0x33
     aad := (controlAad lanContext false).toOption.get rfl
     plaintext := (RelayControlPayloadV2.openFlow "tcp" "198.18.0.1:22").encode.toOption.get
       (by decide)
     ciphertext := [195,22,50,26,235,217,13,69,49,254,140,132,167,252,113,117,23,88,
       253,213,102,46,190,198,118]
     tag := #v[80,34,251,54,64,156,205,25,126,221,12,4,143,208,178,143]
     length_eq := by decide },
   { key := lanLink.cipher.send, nonce := Vector.replicate 24 0x33
     aad := (controlAad lanContext.mirror false).toOption.get (by decide)
     plaintext := [2,1,0,0,0,0], ciphertext := [184,165,119,137,120,107]
     tag := #v[79,143,88,219,245,16,213,55,17,53,54,136,83,183,88,142]
     length_eq := rfl }]

def lanSealedOpen : EngineEvent :=
  .message lanEnv (.encryptedPeerControlV2 "peer-b" lanLink.sessionId lanWire false
    ((openRecords.map AeadRecord.bytes).getD 0 []))

def lanDialed : EngineEvent := .dialed lanEnv 0 (.ok ())

def lanLinked : List EngineEvent := [.linkInstalled "peer-b" lanLink]

theorem lanSealedOpen_only (s : EngineState) :
    SealedOpensOnly (lanParams openRecords) s lanSealedOpen := by
  intro network address hopd
  decide +kernel

theorem lanSealedOpen_accepted :
    ((machine (lanParams openRecords)).restrict (SealedOpensOnly (lanParams openRecords))).Accepts
      .start (lanLinked++[lanSealedOpen]) :=
  ⟨⟨⟨by decide,by decide⟩,trivial⟩,⟨trivial,lanSealedOpen_only _⟩,trivial⟩

theorem relay_is_no_peer_lanSealedOpen :
    .dial "conn-1" .tcp "127.0.0.1:22" ∈
        ((lanAt openRecords lanLinked).1.step (lanParams openRecords) lanSealedOpen).2 ∧
      SealedOpen (lanParams openRecords) (lanAt openRecords lanLinked).1 lanSealedOpen "conn-1" .tcp
        "127.0.0.1:22" ∧
      .inboundSend (.connectResponse "conn-1" true "") .relay
          (.encryptedPeerControlV2 "peer-b" lanLink.sessionId lanWire false
            ((openRecords.map AeadRecord.bytes).getD 1 [])) ∈
        ((lanAt openRecords (lanLinked ++ [lanSealedOpen])).1.step (lanParams openRecords)
          lanDialed).2 ∧
      SentSealed (lanParams openRecords) (lanAt openRecords (lanLinked ++ [lanSealedOpen])).2
        (.connectResponse "conn-1" true "")
        (.encryptedPeerControlV2 "peer-b" lanLink.sessionId lanWire false
          ((openRecords.map AeadRecord.bytes).getD 1 [])) := by
  have hlkd:=(Machine.Run.init (M := (machine (lanParams openRecords)).restrict
    (SealedOpensOnly (lanParams openRecords)))).exec lanLinked
      ⟨lanSealedOpen_accepted.1,trivial⟩
  have hopd:=(Machine.Run.init (M := (machine (lanParams openRecords)).restrict
    (SealedOpensOnly (lanParams openRecords)))).exec (lanLinked++[lanSealedOpen])
      lanSealedOpen_accepted
  have hdial : .dial "conn-1" .tcp "127.0.0.1:22" ∈
      ((lanAt openRecords lanLinked).1.step (lanParams openRecords) lanSealedOpen).2 := by
    decide
  have hsend : .inboundSend (.connectResponse "conn-1" true "") .relay
      (.encryptedPeerControlV2 "peer-b" lanLink.sessionId lanWire false
        ((openRecords.map AeadRecord.bytes).getD 1 [])) ∈
      ((lanAt openRecords (lanLinked++[lanSealedOpen])).1.step (lanParams openRecords)
        lanDialed).2 := by
    decide
  exact ⟨hdial,
    (relay_is_no_peer _ _ _ hlkd lanSealedOpen (lanSealedOpen_only _)).1 "conn-1" .tcp _ hdial,
    hsend,(relay_is_no_peer _ _ _ hopd lanDialed trivial).2.1 _ _ hsend⟩

def forgedOpen : List EngineEvent :=
  [.message lanEnv (.relayRouteBind "conn-1" "lan1-22222222-0"),
    .message lanEnv (.connect "conn-1" "tcp" "198.18.0.1:22")]

/-- With no PeerLink at all, a Relay that names a source Peer has a target
dialed, and the answer to it is plaintext. -/
theorem forgedOpen_dials :
    (machine (lanParams [])).Run (lanAt [] forgedOpen).1 (lanAt [] forgedOpen).2 ∧
      (lanAt [] forgedOpen).2 =
        [.routeBindAck "conn-1" true "", .dial "conn-1" .tcp "127.0.0.1:22"] ∧
      (∀ s event, event ∈ forgedOpen →
        ¬ SealedOpen (lanParams []) s event "conn-1" .tcp "127.0.0.1:22") ∧
      ((lanAt [] forgedOpen).1.step (lanParams []) lanDialed).2 =
        [.inboundSend (.connectResponse "conn-1" true "") .relay
          (.connectResponse "conn-1" true "")] ∧
      ∀ tr, ¬ SentSealed (lanParams []) tr (.connectResponse "conn-1" true "")
        (.connectResponse "conn-1" true "") := by
  refine ⟨lanAt_run [] forgedOpen ⟨trivial,trivial,trivial⟩,by decide +kernel,?_,
    by decide +kernel,?_⟩
  · intro s event hmem hsealed
    simp only [forgedOpen,List.mem_cons,List.not_mem_nil,or_false] at hmem
    rcases hmem with rfl | rfl <;> cases hsealed
  intro tr hsent
  obtain ⟨_,_,-,-,hform⟩:=hsent
  cases hform

end EngineState

end Lantunnel.Client
