import Lantunnel.Client.EngineOutputs

/-!
# Answers and payloads from the Relay

What an outbound flow of a Client may believe of what a Relay delivers.
-/

namespace Lantunnel.Client
open Lib FieldCodec RustStd Core EngineOutput

namespace EngineState
variable {params : EngineParams} {s : EngineState} {tr : List EngineOutput} {e : EngineEvent}

/-- The event is an OPEN response that opened under a PeerLink of `peer` for `connId`. -/
inductive AnsweredBy (params : EngineParams) (s : EngineState) (tr : List EngineOutput) :
    EngineEvent → String → String → Prop
  | framed {env peer sessionId wire sealed connId error}
      (hconn : relayConnIdFromWireV2 wire=some connId)
      (hopened : ControlOpened params s peer sessionId wire false sealed (.openResponse true error)) :
      AnsweredBy params s tr
        (.message env (.encryptedPeerControlV2 peer sessionId wire false sealed)) connId peer
  | stream {id response connId peer link wire plaintext error}
      (hlink : Installed tr peer link)
      (hconn : relayConnIdToWireV2 connId=some wire)
      (hopened : link.cipher.openFlow params.aead
        ⟨params.tunnelId,link.sessionId,peer,params.peerId,wire⟩ .openResponse response =
          .ok plaintext)
      (hresponse : RelayControlPayloadV2.decode plaintext = .ok (.openResponse true error)) :
      AnsweredBy params s tr (.streamResponse id response) connId peer

/-- The event is a framed record of `kind` for `connId` that opened to `payload`
under the context stored for `connId`, which is one of a PeerLink installed
before. -/
inductive OpenedFor (params : EngineParams) (s : EngineState) (tr : List EngineOutput) :
    EngineEvent → RelayFramedKindV2 → String → Bytes → Prop
  | intro {env kind connId sealed flow wire aad payload}
      (hflow : s.v2RelayFlows.get connId=some flow)
      (hlink : FlowOnLink params (Installed tr) flow)
      (hconn : relayConnIdFromWireV2 wire=some connId)
      (haad : framedAad (flow.recordContext wire false) kind = .ok aad)
      (hopened : flow.cipher.openPrecomputed params.aead aad sealed = .ok payload) :
      OpenedFor params s tr (.message env (preparedBinaryMessage connId kind sealed)) kind connId
        payload

/-- No plaintext `ConnectResponse` reports a pending open as a success, and a
sealed success for a pending open is opened under a PeerLink of the Peer it was
made to. -/
def AnswersFromPeer (params : EngineParams) (s : EngineState) : EngineEvent → Prop
  | .message _ (.connectResponse connId true _) => s.proxyPending.get connId=none
  | .message _ (.encryptedPeerControlV2 remotePeerId sessionId wire false sealed) =>
    ∀ connId peer error, relayConnIdToWireV2 connId=some wire →
      s.proxyPending.get connId=some peer →
      ControlOpened params s remotePeerId sessionId wire false sealed (.openResponse true error) →
      remotePeerId=peer
  | _ => True

variable {connId peer : String} {sealed payload : Bytes}

theorem openFramed_openedFor (hinv : EngineInv params s tr) {env : EngineEnv}
    {kind : RelayFramedKindV2} (h : s.openFramed params kind connId sealed=some (.ok payload)) :
    OpenedFor params s tr (.message env (preparedBinaryMessage connId kind sealed)) kind connId
      payload := by
  obtain ⟨_,hflow,h⟩:=Option.bind_eq_some_iff.mp h
  obtain ⟨aad,haad,h⟩:=Option.bind_eq_some_iff.mp h
  obtain ⟨hlink,hfor⟩:=hinv.flows hflow
  obtain ⟨_,hconn,hwire⟩:=hfor kind aad haad
  exact .intro hflow hlink hconn hwire (Option.some.inj h)

theorem put_openedFor (hinv : EngineInv params s tr) {kind : RelayFramedKindV2} {channel : ℕ}
    (h : .put kind connId channel payload∈(s.step params e).2) :
    OpenedFor params s tr e kind connId payload ∨
      kind = .udpData ∧ .buffered connId payload∈tr := by
  generalize ho : put kind connId channel payload=o at h
  cases s.step_emits params e o h with
  | put hopd =>
    cases ho
    exact .inl (openFramed_openedFor hinv hopd)
  | drained hpend hmem =>
    cases ho
    exact .inr ⟨rfl,hinv.buffers hpend payload hmem⟩
  | _ => cases ho

theorem buffered_openedFor (hinv : EngineInv params s tr)
    (h : .buffered connId payload∈(s.step params e).2) :
    OpenedFor params s tr e .udpData connId payload := by
  generalize ho : buffered connId payload=o at h
  cases s.step_emits params e o h with
  | buffered hopd =>
    cases ho
    exact openFramed_openedFor hinv hopd
  | _ => cases ho

theorem answerResult_eq_ok {success : Bool} {error : String}
    (h : answerResult success error = .ok ()) : success=true := by
  cases success with
  | false => cases h
  | true => rfl

theorem streamResult_eq_ok {ctx : V2RelaySealContext} {response : Bytes}
    (h : streamResult params connId ctx response = .ok ()) :
    ∃ wire plaintext error, relayConnIdToWireV2 connId=some wire ∧ ctx.cipher.openFlow params.aead
        ⟨ctx.tunnelId,ctx.sessionId,ctx.remotePeerId,ctx.localPeerId,wire⟩ .openResponse
        response = .ok plaintext ∧
      RelayControlPayloadV2.decode plaintext = .ok (.openResponse true error) := by
  unfold streamResult at h
  split at h
  · cases h
  next wire hwire =>
  split at h
  · next error hopd =>
    obtain ⟨plaintext,hpt,hdec⟩:=bind_eq_ok.mp hopd
    exact ⟨wire,plaintext,error,hwire,hpt,hdec⟩
  · cases h
  · cases h
  · cases h

theorem reported_answeredBy (hinv : EngineInv params s tr) (hcond : AnswersFromPeer params s e)
    (h : .reported connId peer (.ok ())∈(s.step params e).2) :
    AnsweredBy params s tr e connId peer := by
  generalize ho : reported connId peer (.ok ())=o at h
  cases s.step_emits params e o h with
  | plainAnswer hpend =>
    obtain ⟨rfl,rfl,hres⟩:=reported.inj ho
    obtain rfl := answerResult_eq_ok hres.symm
    rw [show s.proxyPending.get connId=none from hcond] at hpend
    cases hpend
  | sealedAnswer hopd hconn hown hpend =>
    obtain ⟨rfl,rfl,hres⟩:=reported.inj ho
    obtain rfl := answerResult_eq_ok hres.symm
    obtain ⟨_,hown⟩:=hown rfl
    obtain rfl := relayConnIdToWireV2_unique hconn hown
    have hctl:=(openSealedControl_opened hopd).1
    obtain rfl := hcond connId peer _ hown hpend hctl
    exact .framed hconn hctl
  | streamAnswer hopening =>
    obtain ⟨rfl,rfl,hres⟩:=reported.inj ho
    obtain ⟨_,_,_,hwire,hpt,hdec⟩:=streamResult_eq_ok hres.symm
    have hseal:=hinv.streams hopening
    rw [hseal.tunnel,hseal.localPeer] at hpt
    exact .stream hseal.link hwire hpt hdec
  | _ => cases ho

theorem handleProxyConnectResponse_reported (error : String)
    (hpend : s.proxyPending.get connId=some peer) :
    .reported connId peer (.ok ())∈(s.handleProxyConnectResponse connId true error).2 := by
  unfold handleProxyConnectResponse
  rw [hpend]
  exact List.mem_singleton.mpr rfl

theorem sealedAnswer_reported {env : EngineEnv} {remotePeerId error : String}
    {sessionId : SessionId} {wire : WireConnId} (hown : relayConnIdToWireV2 connId=some wire)
    (hpend : s.proxyPending.get connId=some peer)
    (hopd : ControlOpened params s remotePeerId sessionId wire false sealed
      (.openResponse true error)) : .reported connId peer (.ok ()) ∈
      (s.step params (.message env (.encryptedPeerControlV2 remotePeerId sessionId wire false
        sealed))).2 := by
  obtain ⟨flow,hctl,hval⟩:=hopd.openSealedControl
  obtain ⟨data,hdata⟩:=hval.framedAad .data
  obtain ⟨udp,hudp⟩:=hval.framedAad .udpData
  have hput : flow.withInboundFramedAad wire =
      some { flow with inboundFramedAad := some (data,udp) } := by
    simp [V2RelayFlowCryptoContext.withInboundFramedAad,hdata,hudp,Except.toOption]
  have hstep : s.step params (.message env (.encryptedPeerControlV2 remotePeerId sessionId wire false
      sealed))=s.handleSealedOpenResponse flow wire true error := by
    simp only [step,handleMsg,handleEncryptedPeerControl,hctl]
    rfl
  rw [hstep]
  simp only [handleSealedOpenResponse,relayConnIdFromWireV2_toWire hown,if_true,hown,
    Option.bind_some,hput]
  exact handleProxyConnectResponse_reported error hpend

theorem answersFromPeer_of_reported
    (h : ∀ connId peer, .reported connId peer (.ok ())∈(s.step params e).2 →
      AnsweredBy params s tr e connId peer) : AnswersFromPeer params s e := by
  cases e with
  | message env msg =>
    cases msg with
    | connectResponse connId success error =>
      cases success with
      | false => trivial
      | true =>
        rcases hpend : s.proxyPending.get connId with _ | peer
        · exact hpend
        · cases h connId peer (handleProxyConnectResponse_reported error hpend)
    | encryptedPeerControlV2 remotePeerId sessionId wire routeAbort =>
      cases routeAbort with
      | true => trivial
      | false =>
        intro connId peer error hown hpend hopd
        cases h connId peer (sealedAnswer_reported hown hpend hopd) with
        | framed => rfl
    | _ => trivial
  | _ => trivial

/-- In every state a Client can reach, a payload put into a channel or held for
it opened under the context stored for its flow; and a step reports opens only
on the answer of their Peer exactly if it meets `AnswersFromPeer`. -/
theorem relay_answers_from_peer (params : EngineParams) (s : EngineState) (tr : List EngineOutput)
    (hrun : (machine params).Run s tr) (e : EngineEvent) :
    (∀ kind connId channel payload, .put kind connId channel payload ∈ (s.step params e).2 →
      OpenedFor params s tr e kind connId payload ∨
        kind = .udpData ∧ .buffered connId payload ∈ tr) ∧
    (∀ connId payload, .buffered connId payload ∈ (s.step params e).2 →
      OpenedFor params s tr e .udpData connId payload) ∧
    ((∀ connId peer, .reported connId peer (.ok ()) ∈ (s.step params e).2 →
      AnsweredBy params s tr e connId peer) ↔ AnswersFromPeer params s e) := by
  have hinv:=run_engineInv hrun
  refine ⟨?_,?_,?_,?_⟩
  · intro kind connId channel payload h
    exact put_openedFor hinv h
  · intro connId payload h
    exact buffered_openedFor hinv h
  · exact answersFromPeer_of_reported
  · intro hcond connId peer h
    exact reported_answeredBy hinv hcond h

/-! ### An open of `peer-a` to `peer-b`

Once answered by `peer-b`, then by a Relay that holds no key at all. -/

def lanLink : V2PeerLinkCryptoContext :=
  ⟨Vector.replicate 16 0x22,Vector.replicate 32 0x11,Vector.replicate 32 0x44⟩

def lanWire : WireConnId := (relayConnIdToWireV2 "conn-1").get (by decide)

def lanContext : RelayRecordContextV2 := ⟨"lan1",lanLink.sessionId,"peer-b","peer-a",lanWire⟩

def lanParams (records : List AeadRecord) : EngineParams where
  aead := .ofRecords records
  tunnelId := "lan1"
  peerId := "peer-a"
  tunnelConfig := some ("lan1","lan1-11111111-0")
  relaySourceAttestationV1 := true

def lanEnv : EngineEnv where
  inbound := ⟨⟨false,[⟨.thisPeer,.tcp,.any⟩],[],id⟩,⟨[]⟩,0xc6120001,
    fun _ port => .resolved [.v4 0xc6120001 port]⟩
  send := ⟨.relay,none,none,fun _ => false,fun _ => .ok (),fun _ => Vector.replicate 24 0x33⟩
  trySend := ⟨.relay,none,none,fun _ => false,fun _ => .ok (),fun _ => Vector.replicate 24 0x33⟩
  nonce := Vector.replicate 24 0x33
  accepts := true

def answerRecords : List AeadRecord :=
  [{ key := lanLink.cipher.receive, nonce := Vector.replicate 24 0x33
     aad := (controlAad lanContext false).toOption.get (by decide)
     plaintext := [2,1,0,0,0,0], ciphertext := [192,23,50,26,232,173]
     tag := #v[237,205,88,195,215,74,125,242,149,233,202,59,80,210,71,204]
     length_eq := rfl },
   { key := lanLink.cipher.receive, nonce := Vector.replicate 24 0x33
     aad := (framedAad lanContext .data).toOption.get (by decide)
     plaintext := asBytes "ping", ciphertext := [178,127,92,125]
     tag := #v[250,185,105,218,74,123,212,12,200,120,145,76,171,162,38,35]
     length_eq := by decide }]

def AeadRecord.bytes (r : AeadRecord) : Bytes := r.nonce.toList++r.ciphertext++r.tag.toList

def lanOpen : List EngineEvent :=
  [.linkInstalled "peer-b" lanLink,.openStarted "conn-1" "peer-b" .tcp,
    .openCommitted "conn-1" "peer-b"]

def lanAnswer : EngineEvent :=
  .message lanEnv (.encryptedPeerControlV2 "peer-b" lanLink.sessionId lanWire false
    ((answerRecords.map AeadRecord.bytes).getD 0 []))

def lanData : EngineEvent :=
  .message lanEnv (.data "conn-1" ((answerRecords.map AeadRecord.bytes).getD 1 []))

def forgedAnswer : EngineEvent := .message lanEnv (.connectResponse "conn-1" true "")

def lanAt (records : List AeadRecord) (events : List EngineEvent) : Handled :=
  (machine (lanParams records)).exec .start events

theorem lanAt_run (records : List AeadRecord) (events : List EngineEvent)
    (h : (machine (lanParams records)).Accepts .start events) :
    (machine (lanParams records)).Run (lanAt records events).1 (lanAt records events).2 :=
  Machine.Run.init.exec events h

theorem lanOpen_accepted (records : List AeadRecord) :
    (machine (lanParams records)).Accepts .start lanOpen :=
  ⟨⟨by decide,show "peer-b" ≠ "peer-a" by decide⟩,Table.get_empty "conn-1",trivial,trivial⟩

theorem relay_answers_from_peer_lanOpen :
    .reported "conn-1" "peer-b" (.ok ()) ∈
        ((lanAt answerRecords lanOpen).1.step (lanParams answerRecords) lanAnswer).2 ∧
      AnsweredBy (lanParams answerRecords) (lanAt answerRecords lanOpen).1
        (lanAt answerRecords lanOpen).2 lanAnswer "conn-1" "peer-b" ∧
      .put .data "conn-1" 0 (asBytes "ping") ∈
        ((lanAt answerRecords lanOpen).1.step (lanParams answerRecords) lanData).2 ∧
      OpenedFor (lanParams answerRecords) (lanAt answerRecords lanOpen).1
        (lanAt answerRecords lanOpen).2 lanData .data "conn-1" (asBytes "ping") := by
  have hrun:=lanAt_run answerRecords lanOpen (lanOpen_accepted answerRecords)
  have hans:=relay_answers_from_peer _ _ _ hrun lanAnswer
  have hdata:=relay_answers_from_peer _ _ _ hrun lanData
  have hreport : .reported "conn-1" "peer-b" (.ok ()) ∈
      ((lanAt answerRecords lanOpen).1.step (lanParams answerRecords) lanAnswer).2 := by
    decide
  have hput : .put .data "conn-1" 0 (asBytes "ping") ∈
      ((lanAt answerRecords lanOpen).1.step (lanParams answerRecords) lanData).2 := by
    decide
  have hcond : AnswersFromPeer (lanParams answerRecords) (lanAt answerRecords lanOpen).1
      lanAnswer := by
    intro connId peer error hown hpend hopd
    have hconn : relayConnIdFromWireV2 lanWire=some "conn-1" := by decide
    have hpeer : (lanAt answerRecords lanOpen).1.proxyPending.get "conn-1" = some "peer-b" := by
      decide
    rw [relayConnIdFromWireV2_toWire hown] at hconn
    obtain rfl := Option.some.inj hconn
    exact Option.some.inj hpend
  refine ⟨hreport,hans.2.2.mpr hcond "conn-1" "peer-b" hreport,hput,?_⟩
  rcases hdata.1 .data "conn-1" 0 (asBytes "ping") hput with hopd | ⟨hkind,-⟩
  · exact hopd
  · cases hkind

/-- With no key and no sealed record at all, the Relay has the open reported. -/
theorem forgedAnswer_reports_open :
    (machine (lanParams [])).Run (lanAt [] lanOpen).1 (lanAt [] lanOpen).2 ∧
      ((lanAt [] lanOpen).1.step (lanParams []) forgedAnswer).2 =
        [.reported "conn-1" "peer-b" (.ok ())] ∧
      ¬ AnsweredBy (lanParams []) (lanAt [] lanOpen).1 (lanAt [] lanOpen).2 forgedAnswer "conn-1"
        "peer-b" := by
  refine ⟨lanAt_run [] lanOpen (lanOpen_accepted []),by decide,?_⟩
  intro hanswer
  cases hanswer

end EngineState

end Lantunnel.Client
