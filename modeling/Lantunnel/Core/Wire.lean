import Lantunnel.Lib.FrameCursor
import Lantunnel.Core.Protocol

/-!
# Binary wire protocol (tp-core/src/protocol.rs:18-1224, p2p_codec.rs:28-58)

Every message of the protocol with its encoder `pack` and its decoder `unpackBytes`.
-/

namespace Lantunnel.Core.Wire
open Lib.FieldCodec Lib.RustStd Lib.RustNet Lib.FrameCursor

/-! ### Constants (protocol.rs:18-23, types.rs) -/

def PROTOCOL_VERSION : UInt8 := 4
def HEADER_SIZE : ℕ := 2
def CONN_ID_SIZE : ℕ := 12
def MAX_P2P_SIGNED_BODY_V2 : ℕ := 64*1024
def MAX_ENCRYPTED_PEER_CONTROL_V2_SEALED : ℕ := 64*1024

/-! ### Codes (protocol.rs:25-92, p2p_types.rs:25-117) -/

inductive MsgType
  | connect
  | connectResponse
  | close
  | auth
  | authResponse
  | error
  | heartbeat
  | heartbeatAck
  | data
  | udpData
  | udpFragment
  | p2pAnnounce
  | p2pAnnounceAck
  | p2pOffer
  | p2pAnswer
  | p2pPunchSync
  | p2pProbe
  | p2pProbeAck
  | p2pSessionReady
  | p2pTeardown
  | p2pPeerHint
  | relayRouteBind
  | relayRouteBindAck
  | authV2Challenge
  | authV2Proof
  | p2pOfferV2
  | p2pAnswerV2
  | encryptedPeerControlV2

def MsgType.asU8 : MsgType → UInt8
  | connect => 0x01
  | connectResponse => 0x02
  | close => 0x03
  | auth => 0x06
  | authResponse => 0x07
  | error => 0x08
  | heartbeat => 0x09
  | heartbeatAck => 0x0A
  | data => 0x10
  | udpData => 0x11
  | udpFragment => 0x12
  | p2pAnnounce => 0x20
  | p2pAnnounceAck => 0x21
  | p2pOffer => 0x22
  | p2pAnswer => 0x23
  | p2pPunchSync => 0x24
  | p2pProbe => 0x25
  | p2pProbeAck => 0x26
  | p2pSessionReady => 0x27
  | p2pTeardown => 0x28
  | p2pPeerHint => 0x29
  | relayRouteBind => 0x2A
  | relayRouteBindAck => 0x2B
  | authV2Challenge => 0x2C
  | authV2Proof => 0x2D
  | p2pOfferV2 => 0x2E
  | p2pAnswerV2 => 0x2F
  | encryptedPeerControlV2 => 0x30

def MsgType.fromU8 : UInt8 → Option MsgType
  | 0x01 => some connect
  | 0x02 => some connectResponse
  | 0x03 => some close
  | 0x06 => some auth
  | 0x07 => some authResponse
  | 0x08 => some error
  | 0x09 => some heartbeat
  | 0x0A => some heartbeatAck
  | 0x10 => some data
  | 0x11 => some udpData
  | 0x12 => some udpFragment
  | 0x20 => some p2pAnnounce
  | 0x21 => some p2pAnnounceAck
  | 0x22 => some p2pOffer
  | 0x23 => some p2pAnswer
  | 0x24 => some p2pPunchSync
  | 0x25 => some p2pProbe
  | 0x26 => some p2pProbeAck
  | 0x27 => some p2pSessionReady
  | 0x28 => some p2pTeardown
  | 0x29 => some p2pPeerHint
  | 0x2A => some relayRouteBind
  | 0x2B => some relayRouteBindAck
  | 0x2C => some authV2Challenge
  | 0x2D => some authV2Proof
  | 0x2E => some p2pOfferV2
  | 0x2F => some p2pAnswerV2
  | 0x30 => some encryptedPeerControlV2
  | _ => none

theorem MsgType.fromU8_asU8 (ty : MsgType) : fromU8 ty.asU8=some ty := by
  cases ty <;> rfl

def NatHint.fromU8 : UInt8 → Option NatHint
  | 0 => some .unknown
  | 1 => some .fullCone
  | 2 => some .restricted
  | 3 => some .portRestricted
  | 4 => some .symmetric
  | _ => none

inductive P2pRole
  | initiator
  | acceptor

def P2pRole.asU8 : P2pRole → UInt8
  | initiator => 1
  | acceptor => 2

def P2pRole.fromU8 : UInt8 → Option P2pRole
  | 1 => some initiator
  | 2 => some acceptor
  | _ => none

inductive TeardownReason
  | idle
  | healthFail
  | user
  | fatalError

def TeardownReason.asU8 : TeardownReason → UInt8
  | idle => 1
  | healthFail => 2
  | user => 3
  | fatalError => 4

def TeardownReason.fromU8 : UInt8 → Option TeardownReason
  | 1 => some idle
  | 2 => some healthFail
  | 3 => some user
  | 4 => some fatalError
  | _ => none

/-! ### Capabilities and roles (protocol.rs:94-133, 760-772; config.rs:366-372) -/

structure TransportCapabilities where
  routeBindControlV1 : Bool
  tcpFlowStreamV1 : Bool
  relaySourceAttestationV1 : Bool
  peerMeshV2 : Bool
  deriving DecidableEq

namespace TransportCapabilities

def ROUTE_BIND_CONTROL_V1 : UInt8 := 0x01
def TCP_FLOW_STREAM_V1 : UInt8 := 0x02
def RELAY_SOURCE_ATTESTATION_V1 : UInt8 := 0x04
def PEER_MESH_V2 : UInt8 := 0x08

def none : TransportCapabilities := ⟨false,false,false,false⟩

def flags (c : TransportCapabilities) : UInt8 :=
  let flags:=if c.routeBindControlV1 then ROUTE_BIND_CONTROL_V1 else 0
  let flags:=if c.tcpFlowStreamV1 then flags ||| TCP_FLOW_STREAM_V1 else flags
  let flags:=if c.relaySourceAttestationV1 then flags ||| RELAY_SOURCE_ATTESTATION_V1 else flags
  if c.peerMeshV2 then flags ||| PEER_MESH_V2 else flags

def fromFlags (flags : UInt8) : TransportCapabilities where
  routeBindControlV1 := flags &&& ROUTE_BIND_CONTROL_V1 != 0
  tcpFlowStreamV1 := flags &&& TCP_FLOW_STREAM_V1 != 0
  relaySourceAttestationV1 := flags &&& RELAY_SOURCE_ATTESTATION_V1 != 0
  peerMeshV2 := flags &&& PEER_MESH_V2 != 0

theorem fromFlags_flags (c : TransportCapabilities) : fromFlags c.flags=c := by
  obtain ⟨bind,stream,attestation,mesh⟩:=c
  revert bind stream attestation mesh
  decide

end TransportCapabilities

inductive ClientRoleConfig
  | client
  | app
  deriving DecidableEq

def encodeClientRole : ClientRoleConfig → String
  | .client => "client"
  | .app => "app"

def decodeClientRole (raw : String) : ClientRoleConfig :=
  if trim raw = "app" then .app else .client

theorem decodeClientRole_encode (role : ClientRoleConfig) :
    decodeClientRole (encodeClientRole role)=role := by
  cases role <;> decide

/-! ### Messages (protocol.rs:235-393) -/

inductive ProtoError
  | tooShort (bytes : ℕ)
  | badVersion (version : UInt8)
  | badType (ty : UInt8)
  | badLength
  /-- `FromUtf8Error`, with the bytes that are not UTF-8 -/
  | badUtf8 (bytes : Bytes)

inductive BinaryMessage
  | connect (connId network address : String)
  | connectResponse (connId : String) (success : Bool) (error : String)
  | close (connId : String)
  | auth (tunnelId clientId groupId username password groupPassword : String)
    (role : ClientRoleConfig) (capabilities : TransportCapabilities)
  | authResponse (status reason : String) (capabilities : TransportCapabilities)
  | error (message : String)
  | heartbeat (clientId : String) (timestamp : Int64)
  | heartbeatAck (timestamp : Int64)
  | data (connId : String) (payload : Bytes)
  | udpData (connId : String) (payload : Bytes)
  | udpFragment (connId : String) (fragId : UInt32) (fragIndex fragTotal : UInt8) (payload : Bytes)
  | p2pAnnounce (clientId groupId : String) (locals : List (String × UInt16)) (natHint : NatHint)
    (certFp : CertFingerprint)
  | p2pAnnounceAck (publicIp : String) (publicPort : UInt16) (serverTimeMs : Int64)
  | p2pOffer (sessionId : SessionId) (srcClientId dstClientId : String)
    (candidates : List Candidate) (srcCertFp : CertFingerprint) (role : P2pRole)
  | p2pAnswer (sessionId : SessionId) (acceptedClientId : String) (ok : Bool) (reason : String)
    (candidates : List Candidate) (dstCertFp : CertFingerprint)
  | p2pPunchSync (sessionId : SessionId) (tStartMs : Int64) (burstCount : UInt8)
    (portOffsets : List Int8)
  | p2pProbe (sessionId : SessionId) (seq : UInt32) (sentMs : Int64)
  | p2pProbeAck (sessionId : SessionId) (seq : UInt32) (recvMs : Int64)
  | p2pSessionReady (sessionId : SessionId) (rttUs : UInt32) (chosenRemoteIp : String)
    (chosenRemotePort : UInt16)
  | p2pTeardown (sessionId : SessionId) (reason : TeardownReason)
  | p2pPeerHint (peerClientId : String)
  | relayRouteBind (connId peerClientId : String)
  | relayRouteBindAck (connId : String) (success : Bool) (error : String)
  | authV2Challenge (challenge : Vector UInt8 32)
  | authV2Proof (membership : PublicPeerMembershipV2) (signature : String)
  | p2pOfferV2 (sourcePeerId targetPeerId : String) (signedOffer : Bytes)
  | p2pAnswerV2 (sourcePeerId targetPeerId : String) (signedAnswer : Bytes)
  | encryptedPeerControlV2 (targetPeerId : String) (peerlinkSessionId : Vector UInt8 16)
    (connId : WireConnId) (routeAbort : Bool) (sealed : Bytes)

/-- A packed message: the header, and the payload when the variant carries one. -/
structure PackedMessage where
  header : Bytes
  payload : Option Bytes
  deriving DecidableEq

def PackedMessage.totalLen (packed : PackedMessage) : ℕ :=
  packed.header.length+(packed.payload.map List.length).getD 0

def PackedMessage.toBytes (packed : PackedMessage) : Bytes :=
  match packed.payload with
  | none => packed.header
  | some payload => packed.header++payload

/-! ### Encoder (protocol.rs:440-754, 1119-1130) -/

def writeConnId (id : String) : Bytes :=
  let padded:=List.replicate CONN_ID_SIZE 0
  let src:=asBytes id
  let n:=min src.length CONN_ID_SIZE
  copyFromSlice padded 0 (src.take n)

-- the length is cast to `u16`, which keeps its low sixteen bits
def writeU16Bytes (data : Bytes) : Bytes := beBytes 2 data.length++data

def writeU16String (s : String) : Bytes := writeU16Bytes (asBytes s)

def putI64 (v : Int64) : Bytes := beBytes 8 v.toUInt64.toNat

def putBool (b : Bool) : Bytes := [if b then 1 else 0]

/-- A list behind its length: at most `u8::MAX` entries are written. -/
def writeEntries {α : Type} (write : α → Bytes) (entries : List α) : Bytes :=
  [UInt8.ofNat (min entries.length 255)]++(entries.take 255).flatMap write

def writeLocal (entry : String × UInt16) : Bytes :=
  writeU16String entry.1++beBytes 2 entry.2.toNat

def writeCandidate (c : Candidate) : Bytes :=
  writeU16String c.ip++beBytes 2 c.port.toNat++[c.kind.asU8]

/-- What `pack` writes behind the two header bytes, with the payload it keeps
apart. -/
def packBody : BinaryMessage → MsgType × Bytes × Option Bytes
  | .connect connId network address =>
    (.connect,writeConnId connId++writeU16String network++writeU16String address,none)
  | .connectResponse connId success error =>
    (.connectResponse,writeConnId connId++putBool success++writeU16String error,none)
  | .close connId => (.close,writeConnId connId,none)
  | .auth tunnelId clientId groupId username password groupPassword role capabilities =>
    (.auth,writeU16String tunnelId++writeU16String clientId++writeU16String groupId ++
      writeU16String username++writeU16String password++writeU16String groupPassword ++
      writeU16String (encodeClientRole role)++[capabilities.flags],none)
  | .authResponse status reason capabilities =>
    (.authResponse,writeU16String status++writeU16String reason++[capabilities.flags],none)
  | .error message => (.error,writeU16String message,none)
  | .heartbeat clientId timestamp =>
    (.heartbeat,writeU16String clientId++putI64 timestamp,none)
  | .heartbeatAck timestamp => (.heartbeatAck,putI64 timestamp,none)
  | .data connId payload => (.data,writeConnId connId,some payload)
  | .udpData connId payload => (.udpData,writeConnId connId,some payload)
  | .udpFragment connId fragId fragIndex fragTotal payload =>
    (.udpFragment,writeConnId connId++beBytes 4 fragId.toNat++[fragIndex]++[fragTotal],
      some payload)
  | .p2pAnnounce clientId groupId locals natHint certFp =>
    (.p2pAnnounce,writeU16String clientId++writeU16String groupId ++
      writeEntries writeLocal locals++[natHint.asU8]++certFp.toList,none)
  | .p2pAnnounceAck publicIp publicPort serverTimeMs =>
    (.p2pAnnounceAck,writeU16String publicIp++beBytes 2 publicPort.toNat ++
      putI64 serverTimeMs,none)
  | .p2pOffer sessionId srcClientId dstClientId candidates srcCertFp role =>
    (.p2pOffer,sessionId.toList++writeU16String srcClientId++writeU16String dstClientId ++
      writeEntries writeCandidate candidates++srcCertFp.toList++[role.asU8],none)
  | .p2pAnswer sessionId acceptedClientId ok reason candidates dstCertFp =>
    (.p2pAnswer,sessionId.toList++writeU16String acceptedClientId++putBool ok ++
      writeU16String reason++writeEntries writeCandidate candidates++dstCertFp.toList,none)
  | .p2pPunchSync sessionId tStartMs burstCount portOffsets =>
    (.p2pPunchSync,sessionId.toList++putI64 tStartMs++[burstCount] ++
      writeEntries (fun off => [off.toUInt8]) portOffsets,none)
  | .p2pProbe sessionId seq sentMs =>
    (.p2pProbe,sessionId.toList++beBytes 4 seq.toNat++putI64 sentMs,none)
  | .p2pProbeAck sessionId seq recvMs =>
    (.p2pProbeAck,sessionId.toList++beBytes 4 seq.toNat++putI64 recvMs,none)
  | .p2pSessionReady sessionId rttUs chosenRemoteIp chosenRemotePort =>
    (.p2pSessionReady,sessionId.toList++beBytes 4 rttUs.toNat ++
      writeU16String chosenRemoteIp++beBytes 2 chosenRemotePort.toNat,none)
  | .p2pTeardown sessionId reason =>
    (.p2pTeardown,sessionId.toList++[reason.asU8],none)
  | .p2pPeerHint peerClientId => (.p2pPeerHint,writeU16String peerClientId,none)
  | .relayRouteBind connId peerClientId =>
    (.relayRouteBind,writeConnId connId++writeU16String peerClientId,none)
  | .relayRouteBindAck connId success error =>
    (.relayRouteBindAck,writeConnId connId++putBool success++writeU16String error,none)
  | .authV2Challenge challenge => (.authV2Challenge,challenge.toList,none)
  | .authV2Proof membership signature =>
    (.authV2Proof,writeU16String membership.tunnelId++writeU16String membership.peerId ++
      octets membership.overlayIp++writeU16String membership.peerPublicKey ++
      writeU16String membership.membershipSignature++writeU16String signature,none)
  | .p2pOfferV2 sourcePeerId targetPeerId signedOffer =>
    (.p2pOfferV2,writeU16String sourcePeerId++writeU16String targetPeerId,some signedOffer)
  | .p2pAnswerV2 sourcePeerId targetPeerId signedAnswer =>
    (.p2pAnswerV2,writeU16String sourcePeerId++writeU16String targetPeerId,some signedAnswer)
  | .encryptedPeerControlV2 targetPeerId peerlinkSessionId connId routeAbort sealed =>
    (.encryptedPeerControlV2,writeU16String targetPeerId++peerlinkSessionId.toList ++
      connId.toList++putBool routeAbort,some sealed)

def pack (msg : BinaryMessage) : PackedMessage :=
  let (ty,fields,payload):=packBody msg
  ⟨[PROTOCOL_VERSION,ty.asU8]++fields,payload⟩

/-! ### Field readers (protocol.rs:1132-1224, p2p_codec.rs:32-58) -/

abbrev Read (α : Type) := Cursor ProtoError α

def arrayOf (n : ℕ) (bytes : Bytes) : Vector UInt8 n := Vector.ofFn fun i => bytes.getD i 0

def readFixedBytesAt (n : ℕ) : Read (Vector UInt8 n) := do
  let bytes ← takeChecked .tooShort n
  pure (arrayOf n bytes)

def fromBeBytes (short : ℕ → ProtoError) (n : ℕ) : Read ℕ := do
  let bytes ← takeChecked short n
  pure (beNat bytes)

def readU8At : Read UInt8 := do
  let v ← fromBeBytes (fun _ => .tooShort 0) 1
  pure (UInt8.ofNat v)

def readI8At : Read Int8 := do
  let v ← readU8At
  pure v.toInt8

def readU16At : Read UInt16 := do
  let v ← fromBeBytes .tooShort 2
  pure (UInt16.ofNat v)

def readU32At : Read UInt32 := do
  let v ← fromBeBytes .tooShort 4
  pure (UInt32.ofNat v)

def readI64At : Read Int64 := do
  let v ← fromBeBytes .tooShort 8
  pure (UInt64.ofNat v).toInt64

def stringFromUtf8 (bytes : Bytes) : Read String := orFail (.badUtf8 bytes) (fromUtf8 bytes)

-- the bytes before the first NUL
def readConnIdAt : Read String := do
  let raw ← takeChecked .tooShort CONN_ID_SIZE
  stringFromUtf8 (raw.takeWhile (· ≠ 0))

def readU16StringAt : Read String := do
  let len ← readU16At
  let bytes ← takeChecked (fun _ => .badLength) len.toNat
  stringFromUtf8 bytes

def readCode {α : Type} (fromU8 : UInt8 → Option α) : Read α := do
  let v ← readU8At
  orFail .badLength (fromU8 v)

def readEntries {α : Type} (entry : Read α) : Read (List α) := do
  let count ← readU8At
  times entry count.toNat

def readLocal : Read (String × UInt16) := do
  let ip ← readU16StringAt
  let port ← readU16At
  pure (ip,port)

def readCandidate : Read Candidate := do
  let ip ← readU16StringAt
  let port ← readU16At
  let kind ← readCode CandidateKind.fromU8
  pure ⟨ip,port,kind⟩

def readCandidates : Read (List Candidate) := readEntries readCandidate

def readSessionId : Read SessionId := readFixedBytesAt 16

def readBody (max : ℕ) : Read Bytes := do
  let len ← left
  if len=0 ∨ len>max then fail .badLength else takeRest

def readSignedBodyV2 : Read Bytes := readBody MAX_P2P_SIGNED_BODY_V2

def readEncryptedPeerControlV2Sealed : Read Bytes := readBody MAX_ENCRYPTED_PEER_CONTROL_V2_SEALED

def readClientRole : Read ClientRoleConfig := do
  let raw ← readU16StringAt
  pure (decodeClientRole raw)

def readCapabilities : Read TransportCapabilities := do
  let flags ← readU8At
  pure (.fromFlags flags)

/-! ### Decoder (protocol.rs:756-758, 774-1117) -/

def unpackBody : MsgType → Read BinaryMessage
  | .connect => do
    let connId ← readConnIdAt
    let network ← readU16StringAt
    let address ← readU16StringAt
    pure (.connect connId network address)
  | .connectResponse => do
    let connId ← readConnIdAt
    let success ← readU8At
    let error ← readU16StringAt
    pure (.connectResponse connId (success=1) error)
  | .close => do
    let connId ← readConnIdAt
    pure (.close connId)
  | .auth => do
    let tunnelId ← readU16StringAt
    let clientId ← readU16StringAt
    let groupId ← readU16StringAt
    let username ← readU16StringAt
    let password ← readU16StringAt
    let groupPassword ← readU16StringAt
    let role ← optional .client readClientRole
    let capabilities ← optional .none readCapabilities
    pure (.auth tunnelId clientId groupId username password groupPassword role capabilities)
  | .authResponse => do
    let status ← readU16StringAt
    let reason ← readU16StringAt
    let capabilities ← optional .none readCapabilities
    pure (.authResponse status reason capabilities)
  | .error => do
    let message ← readU16StringAt
    pure (.error message)
  | .heartbeat => do
    let clientId ← readU16StringAt
    let timestamp ← readI64At
    pure (.heartbeat clientId timestamp)
  | .heartbeatAck => do
    let timestamp ← readI64At
    pure (.heartbeatAck timestamp)
  | .data => do
    let connId ← readConnIdAt
    let payload ← takeRest
    pure (.data connId payload)
  | .udpData => do
    let connId ← readConnIdAt
    let payload ← takeRest
    pure (.udpData connId payload)
  | .udpFragment => do
    let connId ← readConnIdAt
    let fragId ← readU32At
    let fragIndex ← readU8At
    let fragTotal ← readU8At
    let payload ← takeRest
    pure (.udpFragment connId fragId fragIndex fragTotal payload)
  | .p2pAnnounce => do
    let clientId ← readU16StringAt
    let groupId ← readU16StringAt
    let locals ← readEntries readLocal
    let natHint ← readCode NatHint.fromU8
    let certFp ← readFixedBytesAt 32
    pure (.p2pAnnounce clientId groupId locals natHint certFp)
  | .p2pAnnounceAck => do
    let publicIp ← readU16StringAt
    let publicPort ← readU16At
    let serverTimeMs ← readI64At
    pure (.p2pAnnounceAck publicIp publicPort serverTimeMs)
  | .p2pOffer => do
    let sessionId ← readSessionId
    let srcClientId ← readU16StringAt
    let dstClientId ← readU16StringAt
    let candidates ← readCandidates
    let srcCertFp ← readFixedBytesAt 32
    let role ← readCode P2pRole.fromU8
    pure (.p2pOffer sessionId srcClientId dstClientId candidates srcCertFp role)
  | .p2pAnswer => do
    let sessionId ← readSessionId
    let acceptedClientId ← readU16StringAt
    let ok ← readU8At
    let reason ← readU16StringAt
    let candidates ← readCandidates
    let dstCertFp ← readFixedBytesAt 32
    pure (.p2pAnswer sessionId acceptedClientId (ok ≠ 0) reason candidates dstCertFp)
  | .p2pPunchSync => do
    let sessionId ← readSessionId
    let tStartMs ← readI64At
    let burstCount ← readU8At
    let portOffsets ← readEntries readI8At
    pure (.p2pPunchSync sessionId tStartMs burstCount portOffsets)
  | .p2pProbe => do
    let sessionId ← readSessionId
    let seq ← readU32At
    let sentMs ← readI64At
    pure (.p2pProbe sessionId seq sentMs)
  | .p2pProbeAck => do
    let sessionId ← readSessionId
    let seq ← readU32At
    let recvMs ← readI64At
    pure (.p2pProbeAck sessionId seq recvMs)
  | .p2pSessionReady => do
    let sessionId ← readSessionId
    let rttUs ← readU32At
    let chosenRemoteIp ← readU16StringAt
    let chosenRemotePort ← readU16At
    pure (.p2pSessionReady sessionId rttUs chosenRemoteIp chosenRemotePort)
  | .p2pTeardown => do
    let sessionId ← readSessionId
    let reason ← readCode TeardownReason.fromU8
    pure (.p2pTeardown sessionId reason)
  | .p2pPeerHint => do
    let peerClientId ← readU16StringAt
    pure (.p2pPeerHint peerClientId)
  | .relayRouteBind => do
    let connId ← readConnIdAt
    let peerClientId ← readU16StringAt
    pure (.relayRouteBind connId peerClientId)
  | .relayRouteBindAck => do
    let connId ← readConnIdAt
    let success ← readU8At
    let error ← readU16StringAt
    pure (.relayRouteBindAck connId (success ≠ 0) error)
  | .authV2Challenge => do
    let challenge ← readFixedBytesAt 32
    pure (.authV2Challenge challenge)
  | .authV2Proof => do
    let tunnelId ← readU16StringAt
    let peerId ← readU16StringAt
    let overlayIp ← readFixedBytesAt 4
    let peerPublicKey ← readU16StringAt
    let membershipSignature ← readU16StringAt
    let signature ← readU16StringAt
    pure (.authV2Proof
      ⟨tunnelId,peerId,ofOctets overlayIp,peerPublicKey,membershipSignature⟩ signature)
  | .p2pOfferV2 => do
    let sourcePeerId ← readU16StringAt
    let targetPeerId ← readU16StringAt
    let signedOffer ← readSignedBodyV2
    pure (.p2pOfferV2 sourcePeerId targetPeerId signedOffer)
  | .p2pAnswerV2 => do
    let sourcePeerId ← readU16StringAt
    let targetPeerId ← readU16StringAt
    let signedAnswer ← readSignedBodyV2
    pure (.p2pAnswerV2 sourcePeerId targetPeerId signedAnswer)
  | .encryptedPeerControlV2 => do
    let targetPeerId ← readU16StringAt
    if trim targetPeerId = "" then fail .badLength
    else
      let peerlinkSessionId ← readFixedBytesAt 16
      let connId ← readFixedBytesAt 12
      let flags ← readU8At
      if flags &&& ~~~(0x01 : UInt8) ≠ 0 then fail .badLength
      else
        let sealed ← readEncryptedPeerControlV2Sealed
        pure (.encryptedPeerControlV2 targetPeerId peerlinkSessionId connId
          (flags &&& 0x01 ≠ 0) sealed)

def unpackFrame : Read BinaryMessage := do
  let header ← takeChecked .tooShort HEADER_SIZE
  let version:=header.getD 0 0
  if version ≠ PROTOCOL_VERSION then fail (.badVersion version)
  else
    let rawTy:=header.getD 1 0
    let ty ← orFail (.badType rawTy) (MsgType.fromU8 rawTy)
    unpackBody ty

def unpackBytes (frame : Bytes) : Except (Fault ProtoError) BinaryMessage :=
  decode unpackFrame frame

def unpack (frame : Bytes) : Except (Fault ProtoError) BinaryMessage := unpackBytes frame

end Lantunnel.Core.Wire
