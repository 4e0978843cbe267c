import Lantunnel.Client.RelayCrypto

/-!
# Outbound routing of one flow (tp-client/src/p2p/multi_sender.rs)

`MultiSenderRouter` picks the Relay session or a P2P session for each message, seals
what goes to the Relay when the flow has a V2 seal context, and retries a message once
on the other kind of path when the first session is closed.
-/

namespace Lantunnel.Client
open Lib.FieldCodec Lib.RustStd Core

/-! ### Transport results (tp-transport/src/lib.rs:35-66, session.rs:1661-1670) -/

inductive TransportError
  | tls (text : String)
  | io (text : String)
  | connect (text : String)
  | connection (text : String)
  | write (text : String)
  | read (text : String)
  | readToEnd (text : String)
  | protocol (text : String)
  | authFailed (text : String)
  | unexpected (text : String)
  | frameTooLarge (len : ℕ)
  | datagramUnavailable
  | flowStreamUnavailable
  | closed
  | other (text : String)
  deriving DecidableEq

inductive TrySendKind
  | full
  | tooLarge (len : ℕ)
  | datagramUnavailable
  | closed
  deriving DecidableEq

/-! ### Connection ids on the wire (multi_sender.rs:182-204) -/

/-- The zero padded form of a non-empty ASCII `conn_id` of at most 12 bytes, as
three functions of the Client compute it. -/
def asciiConnIdToWire (connId : String) : Option WireConnId :=
  let bytes:=asBytes connId
  if bytes=[] ∨ bytes.length>12 ∨ ¬ bytes.all (·<0x80) ∨ bytes.contains 0 then none
  else some (Vector.ofFn fun i => bytes.getD i 0)

def connIdWire (connId : String) : Except TransportError WireConnId :=
  okOr (.other "invalid V2 Relay connection id") (asciiConnIdToWire connId)

def messageConnIdWire : BinaryMessage → Except TransportError WireConnId
  | .connect connId _ _ => connIdWire connId
  | .connectResponse connId _ _ => connIdWire connId
  | .data connId _ => connIdWire connId
  | .udpData connId _ => connIdWire connId
  | .close connId => connIdWire connId
  | _ => .ok (Vector.replicate 12 0)

/-! ### Sealing for one flow (multi_sender.rs:24-180, 206-208) -/

def relayCryptoTransportError (error : RelayCryptoErrorV2) : TransportError :=
  .other ("V2 Relay sealing failed: " ++ error.text)

def mapCryptoError {α : Type} : Except RelayCryptoErrorV2 α → Except TransportError α
  | .ok a => .ok a
  | .error e => .error (relayCryptoTransportError e)

theorem mapCryptoError_eq_ok {α : Type} {x : Except RelayCryptoErrorV2 α} {a : α} :
    mapCryptoError x = .ok a ↔ x = .ok a := by
  cases x with
  | ok b | error e => simp [mapCryptoError]

/-- The sealing facts of one V2 Relay flow. The three cached AADs are those of
the flow's own record context. -/
structure V2RelaySealContext where
  tunnelId : String
  sessionId : SessionId
  localPeerId : String
  remotePeerId : String
  cipher : RelayCipherV2
  connId : WireConnId
  controlAad : Bytes
  dataAad : Bytes
  udpAad : Bytes
  controlAad_eq : Client.controlAad ⟨tunnelId,sessionId,localPeerId,remotePeerId,connId⟩ false =
    .ok controlAad
  dataAad_eq : framedAad ⟨tunnelId,sessionId,localPeerId,remotePeerId,connId⟩ .data =
    .ok dataAad
  udpAad_eq : framedAad ⟨tunnelId,sessionId,localPeerId,remotePeerId,connId⟩ .udpData =
    .ok udpAad

namespace V2RelaySealContext

def new (tunnelId : String) (sessionId : SessionId) (localPeerId remotePeerId : String)
    (connId : WireConnId) (cipher : RelayCipherV2) :
    Except RelayCryptoErrorV2 V2RelaySealContext :=
  match hc : Client.controlAad ⟨tunnelId,sessionId,localPeerId,remotePeerId,connId⟩ false with
  | .error e => .error e
  | .ok controlAad =>
    match hd : framedAad ⟨tunnelId,sessionId,localPeerId,remotePeerId,connId⟩ .data with
    | .error e => .error e
    | .ok dataAad =>
      match hu : framedAad ⟨tunnelId,sessionId,localPeerId,remotePeerId,connId⟩ .udpData with
      | .error e => .error e
      | .ok udpAad =>
        .ok ⟨tunnelId,sessionId,localPeerId,remotePeerId,cipher,connId,controlAad,dataAad,
          udpAad,hc,hd,hu⟩

variable (aead : Aead) (ctx : V2RelaySealContext)

def record : RelayRecordContextV2 :=
  ⟨ctx.tunnelId,ctx.sessionId,ctx.localPeerId,ctx.remotePeerId,ctx.connId⟩

-- `[reserved nonce][plaintext]`, sealed in place
def sealBody (aad plaintext : Bytes) (nonce : Nonce) : Except TransportError Bytes :=
  mapCryptoError
    (ctx.cipher.sealPrecomputed aead aad (List.replicate NONCE_SIZE 0++plaintext) nonce)

def sealControlFrame (payload : RelayControlPayloadV2) (connId : WireConnId) (nonce : Nonce) :
    Except TransportError BinaryMessage := do
  let encoded ← mapCryptoError payload.encode
  let sealed ← ctx.sealBody aead ctx.controlAad encoded nonce
  .ok (.encryptedPeerControlV2 ctx.remotePeerId ctx.sessionId connId false sealed)

def differentFlow : TransportError := .other "V2 Relay seal context used for a different Flow"

def sealForRelay (msg : BinaryMessage) (nonce : Nonce) : Except TransportError BinaryMessage := do
  let connId ← messageConnIdWire msg
  if connId ≠ ctx.connId then
    .error differentFlow
  else
    match msg with
    | .connect _ network address =>
      ctx.sealControlFrame aead (.openFlow network address) connId nonce
    | .connectResponse _ success error =>
      ctx.sealControlFrame aead (.openResponse success error) connId nonce
    | .data connId payload => do
      let sealed ← ctx.sealBody aead ctx.dataAad payload nonce
      .ok (.data connId sealed)
    | .udpData connId payload => do
      let sealed ← ctx.sealBody aead ctx.udpAad payload nonce
      .ok (.udpData connId sealed)
    | _ => .ok msg

def framedAadOf : RelayFramedKindV2 → Bytes
  | .data => ctx.dataAad
  | .udpData => ctx.udpAad

def sealPrepared (connId : WireConnId) (kind : RelayFramedKindV2) (record : Bytes)
    (nonce : Nonce) : Except TransportError Bytes :=
  if connId ≠ ctx.connId then
    .error differentFlow
  else
    mapCryptoError (ctx.cipher.sealPrecomputed aead (ctx.framedAadOf kind) record nonce)

end V2RelaySealContext

/-! ### Prepared records (multi_sender.rs:210-272) -/

def preparedPlaintextLen (record : Bytes) : Except TransportError ℕ :=
  if record.length<NONCE_SIZE then
    .error (.other "prepared Relay payload has no reserved nonce prefix")
  else if record.length-NONCE_SIZE>MAX_RELAY_PLAINTEXT_V2 then
    .error (.frameTooLarge (min (record.length-NONCE_SIZE) (2^32-1)))
  else
    .ok (record.length-NONCE_SIZE)

def preparedBinaryMessage (connId : String) (kind : RelayFramedKindV2) (payload : Bytes) :
    BinaryMessage :=
  match kind with
  | .data => .data connId payload
  | .udpData => .udpData connId payload

def dataPlaneByteCount : BinaryMessage → ℕ
  | .data _ payload => payload.length
  | .udpData _ payload => payload.length
  | _ => 0

/-! ### The router (multi_sender.rs:274-404, 858-880; scheduler.rs:12; session.rs:889-917) -/

inductive PathKind
  | relay
  | p2p
  deriving DecidableEq

abbrev P2pHandle := ℕ

inductive SessionHandle
  | relay
  | p2p (handle : P2pHandle)
  deriving DecidableEq

inductive RouteMode
  | scheduled
  | p2pPreferred
  | pinnedP2p (p2p : P2pHandle)
  | pinnedP2pNoRelayFallback (p2p : P2pHandle)
  | relayOnly
  | relayWithP2pFallback
  deriving DecidableEq

structure MultiSenderRouter where
  mode : RouteMode
  v2RelaySeal : Option V2RelaySealContext

/-- What one send call meets. `outcome n` is the result of its transport send
number `n`, `nonce n` what the sealer draws for that send. -/
structure SendEnv (ε : Type) where
  scheduled : PathKind
  p2pForNewFlow : Option P2pHandle
  -- the second lookup, after the Relay was found closed
  p2pForFallback : Option P2pHandle
  -- `udp_data_mode` is `QuicDatagramRequired` and no datagrams are available
  datagramUnavailable : SessionHandle → Bool
  outcome : ℕ → Except ε Unit
  nonce : ℕ → Nonce

inductive SendEffect (ε : Type)
  | removeDatagramAssociation (connId : String)
  | attempt (session : SessionHandle) (frame : BinaryMessage) (outcome : Except ε Unit)
  | closeFailedP2pSession (session : SessionHandle) (reportRelayMigration : Bool)
  | recordBytes (kind : PathKind) (bytes : ℕ)

structure Sent (ε ρ : Type) where
  effects : List (SendEffect ε)
  result : ρ

def pickWithKind {ε : Type} (env : SendEnv ε) : SessionHandle × PathKind :=
  match env.scheduled with
  | .p2p =>
    match env.p2pForNewFlow with
    | some p2p => (.p2p p2p,.p2p)
    | none => (.relay,.relay)
  | .relay => (.relay,.relay)

def pickP2pFirstWithKind {ε : Type} (env : SendEnv ε) : SessionHandle × PathKind :=
  match env.p2pForNewFlow with
  | some p2p => (.p2p p2p,.p2p)
  | none => (.relay,.relay)

def removeDatagramAssociationForClose {ε : Type} : BinaryMessage → List (SendEffect ε)
  | .close connId => [.removeDatagramAssociation connId]
  | _ => []

def udpConnectRequiresUnavailableDatagram {ε : Type} (env : SendEnv ε) (session : SessionHandle) :
    BinaryMessage → Bool
  | .connect _ network _ => network = "udp" && env.datagramUnavailable session
  | _ => false

def transmit {ε : Type} (session : SessionHandle) (frame : BinaryMessage) (outcome : Except ε Unit)
    (kind : PathKind) (bytes : ℕ) : List (SendEffect ε) :=
  match outcome with
  | .ok () => [.attempt session frame (.ok ()),.recordBytes kind bytes]
  | .error e => [.attempt session frame (.error e)]

namespace MultiSenderRouter
variable (aead : Aead) (router : MultiSenderRouter)

def pick {ε : Type} (env : SendEnv ε) : SessionHandle × PathKind :=
  match router.mode with
  | .scheduled => pickWithKind env
  | .p2pPreferred => pickP2pFirstWithKind env
  | .pinnedP2p p2p => (.p2p p2p,.p2p)
  | .pinnedP2pNoRelayFallback p2p => (.p2p p2p,.p2p)
  | .relayOnly => (.relay,.relay)
  | .relayWithP2pFallback => (.relay,.relay)

def relayFallbackDisabled : Bool :=
  match router.mode with
  | .pinnedP2pNoRelayFallback _ => true
  | _ => false

def p2pFallbackEnabled : Bool := router.mode = .relayWithP2pFallback

def messageForPath (msg : BinaryMessage) (kind : PathKind) (nonce : Nonce) :
    Except TransportError BinaryMessage :=
  match kind, router.v2RelaySeal with
  | .relay, some context => context.sealForRelay aead msg nonce
  | _, _ => .ok msg

/-! ### Messages (multi_sender.rs:646-818) -/

def sendViaP2pAfterRelayClosed (env : SendEnv TransportError) (msg : BinaryMessage) (bytes : ℕ) :
    Sent TransportError (PathKind × Option SessionHandle × Except TransportError Unit) :=
  match env.p2pForFallback with
  | none => ⟨[],.relay,none,.error .closed⟩
  | some p2p =>
    if udpConnectRequiresUnavailableDatagram env (.p2p p2p) msg then
      ⟨[],.p2p,some (.p2p p2p),.error .datagramUnavailable⟩
    else
      let result:=env.outcome 1
      let closed:=if result = .error .closed then
        [.closeFailedP2pSession (.p2p p2p) false] else []
      ⟨transmit (.p2p p2p) msg result .p2p bytes++closed,.p2p,some (.p2p p2p),result⟩

def sendViaRelayAfterP2pClosed (env : SendEnv TransportError) (msg : BinaryMessage) (bytes : ℕ)
    (sess : SessionHandle) :
    Sent TransportError (PathKind × Option SessionHandle × Except TransportError Unit) :=
  match router.messageForPath aead msg .relay (env.nonce 1) with
  | .error e => ⟨[.closeFailedP2pSession sess true],.relay,none,.error e⟩
  | .ok outbound =>
    ⟨.closeFailedP2pSession sess true::transmit .relay outbound (env.outcome 1) .relay bytes,
      .relay,none,env.outcome 1⟩

/-- What `send_with_path_and_session` does once its first transport send has
failed with `error`. -/
def sendAfterFailure (env : SendEnv TransportError) (msg : BinaryMessage) (sess : SessionHandle)
    (kind : PathKind) (error : TransportError) :
    Sent TransportError (PathKind × Option SessionHandle × Except TransportError Unit) :=
  let bytes:=dataPlaneByteCount msg
  if kind = .p2p then
    if error ≠ .closed then
      ⟨[],kind,some sess,.error error⟩
    else if router.relayFallbackDisabled then
      ⟨[.closeFailedP2pSession sess false],kind,some sess,.error error⟩
    else
      router.sendViaRelayAfterP2pClosed aead env msg bytes sess
  else if error = .closed ∧ router.p2pFallbackEnabled then
    sendViaP2pAfterRelayClosed env msg bytes
  else
    ⟨[],kind,none,.error error⟩

def sendWithPathAndSession (env : SendEnv TransportError) (msg : BinaryMessage) :
    Sent TransportError (PathKind × Option SessionHandle × Except TransportError Unit) :=
  let association:=removeDatagramAssociationForClose msg
  let bytes:=dataPlaneByteCount msg
  let (sess,kind):=router.pick env
  let selectedP2p:=if kind = .p2p then some sess else none
  if udpConnectRequiresUnavailableDatagram env sess msg then
    ⟨association,kind,selectedP2p,.error .datagramUnavailable⟩
  else
    match router.messageForPath aead msg kind (env.nonce 0) with
    | .error e => ⟨association,kind,selectedP2p,.error e⟩
    | .ok outbound =>
      let first:=association++transmit sess outbound (env.outcome 0) kind bytes
      match env.outcome 0 with
      | .ok () => ⟨first,kind,selectedP2p,.ok ()⟩
      | .error e =>
        let rest:=router.sendAfterFailure aead env msg sess kind e
        ⟨first++rest.effects,rest.result⟩

def send (env : SendEnv TransportError) (msg : BinaryMessage) :
    Sent TransportError (Except TransportError Unit) :=
  let sent:=router.sendWithPathAndSession aead env msg
  ⟨sent.effects,sent.result.2.2⟩

def trySendViaP2pAfterRelayClosed (env : SendEnv TrySendKind) (msg : BinaryMessage) (bytes : ℕ) :
    Sent TrySendKind (Except TrySendKind Unit) :=
  match env.p2pForFallback with
  | none => ⟨[],.error .closed⟩
  | some p2p =>
    let result:=env.outcome 1
    let closed:=if result = .error .closed then
      [.closeFailedP2pSession (.p2p p2p) false] else []
    ⟨transmit (.p2p p2p) msg result .p2p bytes++closed,result⟩

def trySendAfterFailure (env : SendEnv TrySendKind) (msg : BinaryMessage) (sess : SessionHandle)
    (kind : PathKind) (error : TrySendKind) : Sent TrySendKind (Except TrySendKind Unit) :=
  let bytes:=dataPlaneByteCount msg
  if error = .closed ∧ kind = .p2p then
    if router.relayFallbackDisabled then
      ⟨[.closeFailedP2pSession sess false],.error .closed⟩
    else
      match router.messageForPath aead msg .relay (env.nonce 1) with
      | .error _ => ⟨[.closeFailedP2pSession sess true],.error .closed⟩
      | .ok outbound =>
        ⟨.closeFailedP2pSession sess true::transmit .relay outbound (env.outcome 1) .relay bytes,
          env.outcome 1⟩
  else if error = .closed ∧ kind = .relay ∧ router.p2pFallbackEnabled then
    trySendViaP2pAfterRelayClosed env msg bytes
  else
    ⟨[],.error error⟩

def trySend (env : SendEnv TrySendKind) (msg : BinaryMessage) :
    Sent TrySendKind (Except TrySendKind Unit) :=
  let association:=removeDatagramAssociationForClose msg
  let bytes:=dataPlaneByteCount msg
  let (sess,kind):=router.pick env
  match router.messageForPath aead msg kind (env.nonce 0) with
  | .error _ => ⟨association,.error .closed⟩
  | .ok outbound =>
    let first:=association++transmit sess outbound (env.outcome 0) kind bytes
    match env.outcome 0 with
    | .ok () => ⟨first,.ok ()⟩
    | .error e =>
      let rest:=router.trySendAfterFailure aead env msg sess kind e
      ⟨first++rest.effects,rest.result⟩

/-! ### Prepared records (multi_sender.rs:406-644) -/

/-- The first frame, and the plaintext kept for a retry: sealing uses up the
caller's buffer. -/
def preparedMessageForInitialPath (connId : String) (kind : RelayFramedKindV2) (record : Bytes)
    (path : PathKind) (nonce : Nonce) : Except TransportError (BinaryMessage × Option Bytes) :=
  let fallbackNeeded:=match path with
    | .p2p => !router.relayFallbackDisabled
    | .relay => router.p2pFallbackEnabled
  let plaintext:=record.drop NONCE_SIZE
  let fallback:=if fallbackNeeded then some plaintext else none
  match path with
  | .relay => do
    let wire ← connIdWire connId
    match router.v2RelaySeal with
    | some context =>
      let sealed ← context.sealPrepared aead wire kind record nonce
      .ok (preparedBinaryMessage connId kind sealed,fallback)
    | none => .ok (preparedBinaryMessage connId kind plaintext,fallback)
  | .p2p => .ok (preparedBinaryMessage connId kind plaintext,fallback)

def preparedMessageFromPlaintext (connId : String) (kind : RelayFramedKindV2) (plaintext : Bytes)
    (path : PathKind) (nonce : Nonce) : Except TransportError BinaryMessage :=
  match path, router.v2RelaySeal with
  | .relay, some context => do
    let wire ← connIdWire connId
    let sealed ← context.sealPrepared aead wire kind (List.replicate NONCE_SIZE 0++plaintext) nonce
    .ok (preparedBinaryMessage connId kind sealed)
  | _, _ => .ok (preparedBinaryMessage connId kind plaintext)

def sendPreparedAfterFailure (env : SendEnv TransportError) (connId : String)
    (kind : RelayFramedKindV2) (bytes : ℕ) (fallbackPlaintext : Option Bytes)
    (session : SessionHandle) (path : PathKind) (error : TransportError) :
    Sent TransportError (Except TransportError Unit) :=
  if path = .p2p then
    if error ≠ .closed then
      ⟨[],.error error⟩
    else if router.relayFallbackDisabled then
      ⟨[.closeFailedP2pSession session false],.error error⟩
    else
      match fallbackPlaintext with
      | none => ⟨[.closeFailedP2pSession session true],
          .error (.other "prepared Relay fallback lost plaintext")⟩
      | some plaintext =>
        match router.preparedMessageFromPlaintext aead connId kind plaintext .relay (env.nonce 1) with
        | .error e => ⟨[.closeFailedP2pSession session true],.error e⟩
        | .ok message =>
          ⟨.closeFailedP2pSession session true ::
            transmit .relay message (env.outcome 1) .relay bytes,env.outcome 1⟩
  else if error = .closed ∧ router.p2pFallbackEnabled then
    match env.p2pForFallback, fallbackPlaintext with
    | some p2p, some plaintext =>
      ⟨transmit (.p2p p2p) (preparedBinaryMessage connId kind plaintext) (env.outcome 1) .p2p bytes,
        env.outcome 1⟩
    | _, _ => ⟨[],.error error⟩
  else
    ⟨[],.error error⟩

def sendPreparedData (env : SendEnv TransportError) (connId : String) (kind : RelayFramedKindV2)
    (record : Bytes) : Sent TransportError (Except TransportError Unit) :=
  match preparedPlaintextLen record with
  | .error e => ⟨[],.error e⟩
  | .ok bytes =>
    let (session,path):=router.pick env
    match router.preparedMessageForInitialPath aead connId kind record path (env.nonce 0) with
    | .error e => ⟨[],.error e⟩
    | .ok (outbound,fallbackPlaintext) =>
      let first:=transmit session outbound (env.outcome 0) path bytes
      match env.outcome 0 with
      | .ok () => ⟨first,.ok ()⟩
      | .error e =>
        let rest:=router.sendPreparedAfterFailure aead env connId kind bytes fallbackPlaintext
          session path e
        ⟨first++rest.effects,rest.result⟩

def trySendPreparedAfterFailure (env : SendEnv TrySendKind) (connId : String)
    (kind : RelayFramedKindV2) (bytes : ℕ) (fallbackPlaintext : Option Bytes)
    (session : SessionHandle) (path : PathKind) (error : TrySendKind) :
    Sent TrySendKind (Except TrySendKind Unit) :=
  if error = .closed ∧ path = .p2p then
    if router.relayFallbackDisabled then
      ⟨[.closeFailedP2pSession session false],.error .closed⟩
    else
      match fallbackPlaintext with
      | none => ⟨[.closeFailedP2pSession session true],.error .closed⟩
      | some plaintext =>
        match router.preparedMessageFromPlaintext aead connId kind plaintext .relay (env.nonce 1) with
        | .error _ => ⟨[.closeFailedP2pSession session true],.error .closed⟩
        | .ok outbound =>
          ⟨.closeFailedP2pSession session true ::
            transmit .relay outbound (env.outcome 1) .relay bytes,env.outcome 1⟩
  else if error = .closed ∧ path = .relay ∧ router.p2pFallbackEnabled then
    match env.p2pForFallback, fallbackPlaintext with
    | some p2p, some plaintext =>
      ⟨transmit (.p2p p2p) (preparedBinaryMessage connId kind plaintext) (env.outcome 1) .p2p bytes,
        env.outcome 1⟩
    | _, _ => ⟨[],.error .closed⟩
  else
    ⟨[],.error error⟩

def trySendPreparedData (env : SendEnv TrySendKind) (connId : String) (kind : RelayFramedKindV2)
    (record : Bytes) : Sent TrySendKind (Except TrySendKind Unit) :=
  match preparedPlaintextLen record with
  | .error (.frameTooLarge len) => ⟨[],.error (.tooLarge len)⟩
  | .error _ => ⟨[],.error .closed⟩
  | .ok bytes =>
    let (session,path):=router.pick env
    match router.preparedMessageForInitialPath aead connId kind record path (env.nonce 0) with
    | .error _ => ⟨[],.error .closed⟩
    | .ok (outbound,fallbackPlaintext) =>
      let first:=transmit session outbound (env.outcome 0) path bytes
      match env.outcome 0 with
      | .ok () => ⟨first,.ok ()⟩
      | .error e =>
        let rest:=router.trySendPreparedAfterFailure aead env connId kind bytes fallbackPlaintext
          session path e
        ⟨first++rest.effects,rest.result⟩

end MultiSenderRouter

end Lantunnel.Client
