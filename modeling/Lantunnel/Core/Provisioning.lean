import Lantunnel.Lib.RustNet

/-!
# Provisioning artifacts and their signed encodings (tp-core/src/provisioning.rs)

The public membership a Peer shows to the Gateway, the Platform and other Peers, the
byte strings that are signed or hashed about it (`provisioning.rs:588-717`), and the
verification of membership and Peer signatures (`provisioning.rs:402-485`).
-/

namespace Lantunnel.Core
open Lib.FieldCodec Lib.RustStd Lib.RustNet

/-- An entry of a PEM file (`rustls_pemfile::Item`). -/
inductive PemItem
  | x509Certificate (der : Bytes)
  | other

/-- What the program calls outside its own sources: `base64` (standard
alphabet), `rustls_pemfile`, `sha2`, `uuid`, `ring` (Ed25519), `x25519_dalek`
and `hkdf`. -/
structure Primitives where
  base64Decode : String → Option Bytes
  -- the entries of a text, `none` for one that cannot be read
  pemReadAll : String → List (Option PemItem)
  sha256 : Bytes → Vector UInt8 32
  uuidParses : String → Bool
  -- signature of a message under a PKCS#8 key, `none` for a bad key
  ed25519Sign : Bytes → Bytes → Option (Vector UInt8 64)
  -- public half of a PKCS#8 key, `none` for a bad key
  ed25519Public : Bytes → Option Bytes
  ed25519Verify : Bytes → Bytes → Bytes → Bool
  x25519Public : Vector UInt8 32 → Vector UInt8 32
  x25519 : Vector UInt8 32 → Vector UInt8 32 → Vector UInt8 32
  -- HKDF-SHA256: salt, input key material, info
  hkdf : Vector UInt8 32 → Vector UInt8 32 → Bytes → Vector UInt8 32

/-- Base64 decoding never maps two texts to the same bytes: the standard engine
rejects missing padding and non-zero trailing bits. -/
def Primitives.Base64Injective (p : Primitives) : Prop :=
  ∀ s t b, p.base64Decode s=some b → p.base64Decode t=some b → s=t

/-! ### Data (provisioning.rs:36-51, 231-290, 392-400, 488-547)

Of `ProvisioningError` only the variants the functions below return. -/

inductive ProvisioningError
  | unsupportedTransport
  | invalidGatewayAddress
  | invalidCertificatePem
  | unsupportedVersion
  | invalidIdentifier
  | invalidKey
  | invalidPeerProfile
  | peerKeyMismatch
  | invalidMembershipSignature
  | invalidAttachmentProof
  | invalidManagedResolveProof
  | invalidPlatformHeartbeatProof
  | invalidPlatformUrl
  | canonicalFieldTooLarge
  | certificateRead
  deriving DecidableEq

def ProvisioningError.text : ProvisioningError → String
  | unsupportedTransport => "unsupported Gateway transport"
  | invalidGatewayAddress => "invalid Gateway address"
  | invalidCertificatePem => "trusted Gateway PEM must contain certificates only"
  | unsupportedVersion => "unsupported provisioning version"
  | invalidIdentifier => "invalid identifier"
  | invalidKey => "invalid Ed25519 key"
  | invalidPeerProfile => "invalid Peer profile"
  | peerKeyMismatch => "Peer private and public keys do not match"
  | invalidMembershipSignature => "invalid Tunnel membership signature"
  | invalidAttachmentProof => "invalid Peer attachment proof"
  | invalidManagedResolveProof => "invalid Managed Gateway resolve proof"
  | invalidPlatformHeartbeatProof => "invalid Platform heartbeat proof"
  | invalidPlatformUrl => "Managed Platform URL must use HTTPS"
  | canonicalFieldTooLarge => "canonical membership field is too large"
  | certificateRead => "certificate PEM could not be read"

structure PublicPeerMembershipV2 where
  tunnelId : String
  peerId : String
  overlayIp : Ipv4Addr
  peerPublicKey : String
  membershipSignature : String
  deriving DecidableEq

structure GatewayBootstrapV2 where
  transport : String
  dialAddress : String
  port : UInt16
  mappingPort : Option UInt16
  tlsServerName : Option String
  trustedCertificatePem : Option String
  deriving DecidableEq

structure PeerIdentityV2 where
  peerId : String
  overlayIp : Ipv4Addr
  peerPrivateKey : String
  peerPublicKey : String
  membershipSignature : String
  deriving DecidableEq

inductive PeerBootstrapV2
  | staticGateway (gateway : GatewayBootstrapV2)
  | managedPlatform (platformUrl : String)
  deriving DecidableEq

structure PeerProfileV2 where
  version : UInt16
  tunnelId : String
  tunnelSigningPublicKey : String
  replicas : UInt16
  peer : PeerIdentityV2
  bootstrap : PeerBootstrapV2

structure GatewayScopeFileV2 where
  version : UInt16
  tunnelId : String
  tunnelSigningPublicKey : String
  deriving DecidableEq

inductive PlatformHeartbeatPathModeV2
  | direct
  | relay
  | connecting
  | disconnected
  deriving DecidableEq

def PlatformHeartbeatPathModeV2.asStr : PlatformHeartbeatPathModeV2 → String
  | direct => "direct"
  | relay => "relay"
  | connecting => "connecting"
  | disconnected => "disconnected"

theorem PlatformHeartbeatPathModeV2.asStr_inj {a b : PlatformHeartbeatPathModeV2}
    (h : a.asStr=b.asStr) : a=b := by
  revert h
  cases a <;> cases b <;> decide

structure PlatformHeartbeatProofV2 where
  tunnelId : String
  peerId : String
  requestId : String
  timestampMs : UInt64
  clientVersion : String
  finalHeartbeat : Bool
  transportActive : Bool
  pathMode : PlatformHeartbeatPathModeV2
  deriving DecidableEq

/-! ### Canonical fields (`append_field`, provisioning.rs:748)

A field is its length as a `u32`, then its bytes; an encoder is a sequence of
`append_field` calls, each left by `?` on an error. -/

def appendField (encoded value : Bytes) : Except ProvisioningError Bytes :=
  pushField .canonicalFieldTooLarge 4 encoded value

def appendFields (encoded : Bytes) (values : List Bytes) : Except ProvisioningError Bytes :=
  pushFields .canonicalFieldTooLarge 4 encoded values

/-! ### Encoders (provisioning.rs:578-717)

`encode_peer_membership_v2` is what the Tunnel owner signs to admit a Peer;
the proofs that hash the public membership embed its SHA-256. -/

def ED25519_PUBLIC_KEY_LEN : ℕ := 32
def JAVASCRIPT_MAX_SAFE_INTEGER : ℕ := 9007199254740991

def MEMBERSHIP_DOMAIN_V2 : Bytes := asBytes "lantunnel.peer.v2"
def PUBLIC_MEMBERSHIP_DOMAIN_V2 : Bytes := asBytes "lantunnel.public-membership.v2"
def ATTACHMENT_PROOF_DOMAIN_V2 : Bytes := asBytes "lantunnel.attach.v2"
def MANAGED_RESOLVE_PROOF_DOMAIN_V2 : Bytes := asBytes "lantunnel.resolve.v2"
def PLATFORM_HEARTBEAT_PROOF_DOMAIN_V2 : Bytes := asBytes "lantunnel.platform-heartbeat.v2"

def u8OfBool (b : Bool) : UInt8 := if b then 1 else 0

theorem u8OfBool_inj {a b : Bool} (h : u8OfBool a=u8OfBool b) : a=b := by
  revert h
  cases a <;> cases b <;> decide

variable (p : Primitives)

def decodePublicKey (encoded : String) : Except ProvisioningError Bytes := do
  let bytes ← okOr .invalidKey (p.base64Decode encoded)
  if bytes.length ≠ ED25519_PUBLIC_KEY_LEN then .error .invalidKey else .ok bytes

def encodePeerMembershipV2 (tunnelId peerId : String) (overlayIp : Ipv4Addr)
    (peerPublicKey : Bytes) : Except ProvisioningError Bytes :=
  appendFields [] [MEMBERSHIP_DOMAIN_V2,asBytes tunnelId,asBytes peerId,octets overlayIp,
    peerPublicKey]

def encodePublicMembershipV2 (membership : PublicPeerMembershipV2) :
    Except ProvisioningError Bytes := do
  let peerPublicKey ← decodePublicKey p membership.peerPublicKey
  let membershipSignature ←
    okOr .invalidMembershipSignature (p.base64Decode membership.membershipSignature)
  appendFields [] [PUBLIC_MEMBERSHIP_DOMAIN_V2,asBytes membership.tunnelId,
    asBytes membership.peerId,octets membership.overlayIp,peerPublicKey,membershipSignature]

def encodeAttachmentProofV2 (membership : PublicPeerMembershipV2) (challenge : Vector UInt8 32)
    (replicaId : String) : Except ProvisioningError Bytes := do
  if trim replicaId = "" then
    .error .invalidIdentifier
  else
    let encodedMembership ← encodePublicMembershipV2 p membership
    appendFields [] [ATTACHMENT_PROOF_DOMAIN_V2,challenge.toList,asBytes membership.tunnelId,
      asBytes membership.peerId,asBytes replicaId,(p.sha256 encodedMembership).toList]

def encodeManagedResolveProofV2 (membership : PublicPeerMembershipV2) (timestamp : UInt64)
    (requestId : String) : Except ProvisioningError Bytes := do
  if trim requestId = "" then
    .error .invalidIdentifier
  else
    let encodedMembership ← encodePublicMembershipV2 p membership
    appendFields [] [MANAGED_RESOLVE_PROOF_DOMAIN_V2,(p.sha256 encodedMembership).toList,
      beBytes 8 timestamp.toNat,asBytes requestId]

def encodePlatformHeartbeatProofV2 (input : PlatformHeartbeatProofV2) :
    Except ProvisioningError Bytes :=
  if !p.uuidParses input.tunnelId
      || !p.uuidParses input.peerId
      || !p.uuidParses input.requestId
      || input.timestampMs.toNat>JAVASCRIPT_MAX_SAFE_INTEGER
      || input.clientVersion = ""
      || (asBytes input.clientVersion).length>64
      || trim input.clientVersion ≠ input.clientVersion
      || (input.finalHeartbeat
          && (input.transportActive || input.pathMode ≠ .disconnected)) then
    .error .invalidPlatformHeartbeatProof
  else
    appendFields [] [PLATFORM_HEARTBEAT_PROOF_DOMAIN_V2,asBytes input.tunnelId,
      asBytes input.peerId,asBytes input.requestId,beBytes 8 input.timestampMs.toNat,
      asBytes input.clientVersion,[u8OfBool input.finalHeartbeat],
      [u8OfBool input.transportActive],asBytes input.pathMode.asStr]

/-! ### Profiles (provisioning.rs:53-80, 231-248, 570-576, 719-766) -/

def PROVISIONING_VERSION_V2 : UInt16 := 2
def MAX_REPLICA_HINT_V2 : UInt16 := 8
def OVERLAY_NETWORK_V2 : Ipv4Addr := 0xc6120000
def OVERLAY_BROADCAST_V2 : Ipv4Addr := 0xc612ffff
def DEFAULT_GATEWAY_MAPPING_PROBE_PORT : UInt16 := 8444

def validateVersion (version : UInt16) : Except ProvisioningError Unit :=
  if version=PROVISIONING_VERSION_V2 then .ok () else .error .unsupportedVersion

def isUsableOverlay (ip : Ipv4Addr) : Bool :=
  ip.toNat>OVERLAY_NETWORK_V2.toNat && ip.toNat<OVERLAY_BROADCAST_V2.toNat

def pemCertificate : Option PemItem → Except ProvisioningError Bytes
  | none => .error .certificateRead
  | some (.x509Certificate der) => .ok der
  | some .other => .error .invalidCertificatePem

/-- The certificates `normalize_certificate_pem` renders, or its error. -/
def certificatesOfPem (pem : String) : Except ProvisioningError (List Bytes) := do
  let certificates ← (p.pemReadAll pem).mapM pemCertificate
  if certificates=[] then .error .invalidCertificatePem else .ok certificates

def GatewayBootstrapV2.validate (gateway : GatewayBootstrapV2) : Except ProvisioningError Unit :=
  let mappingPort:=gateway.mappingPort.getD DEFAULT_GATEWAY_MAPPING_PROBE_PORT
  if ¬ gateway.transport ∈ ["quic","websocket","grpc"] then .error .unsupportedTransport
  else if trim gateway.dialAddress = "" ∨ gateway.port=0 then .error .invalidGatewayAddress
  else if mappingPort=0 ∨ gateway.transport = "quic" ∧ mappingPort=gateway.port then
    .error .invalidGatewayAddress
  else if gateway.tlsServerName.any fun name => trim name = "" then .error .invalidGatewayAddress
  else
    match gateway.trustedCertificatePem with
    | some pem => certificatesOfPem p pem >>= fun _ => .ok ()
    | none => .ok ()

def PeerBootstrapV2.validate : PeerBootstrapV2 → Except ProvisioningError Unit
  | staticGateway gateway => gateway.validate p
  | managedPlatform platformUrl =>
    if (stripPrefix "https://" platformUrl).isSome ∧ (asBytes platformUrl).length>8 then .ok ()
    else .error .invalidPlatformUrl

def decodeKeyPair (encoded : String) : Except ProvisioningError (Bytes × Bytes) := do
  let pkcs8 ← okOr .invalidKey (p.base64Decode encoded)
  let publicKey ← okOr .invalidKey (p.ed25519Public pkcs8)
  .ok (pkcs8,publicKey)

def GatewayScopeFileV2.verify (scope : GatewayScopeFileV2) : Except ProvisioningError Unit := do
  validateVersion scope.version
  if trim scope.tunnelId = "" then .error .invalidIdentifier
  else
    let _ ← decodePublicKey p scope.tunnelSigningPublicKey
    .ok ()

/-! ### Membership and Peer signatures (provisioning.rs:294-333, 374-386, 402-423, 475-485) -/

def PublicPeerMembershipV2.verify (membership : PublicPeerMembershipV2)
    (tunnelSigningPublicKey : String) : Except ProvisioningError Unit :=
  if trim membership.tunnelId = "" ∨ trim membership.peerId = ""
      ∨ ¬ isUsableOverlay membership.overlayIp then
    .error .invalidPeerProfile
  else do
    let tunnelPublicKey ← decodePublicKey p tunnelSigningPublicKey
    let peerPublicKey ← decodePublicKey p membership.peerPublicKey
    let encoded ← encodePeerMembershipV2 membership.tunnelId membership.peerId membership.overlayIp
      peerPublicKey
    let signature ← okOr .invalidMembershipSignature (p.base64Decode membership.membershipSignature)
    if p.ed25519Verify tunnelPublicKey encoded signature then .ok ()
    else .error .invalidMembershipSignature

def PublicPeerMembershipV2.verifyPeerMessageV2 (membership : PublicPeerMembershipV2)
    (message : Bytes) (signature : Vector UInt8 64) : Except ProvisioningError Unit := do
  let peerPublicKey ← decodePublicKey p membership.peerPublicKey
  if p.ed25519Verify peerPublicKey message signature.toList then .ok ()
  else .error .invalidAttachmentProof

namespace PeerProfileV2
variable (profile : PeerProfileV2)

def publicMembership : PublicPeerMembershipV2 where
  tunnelId := profile.tunnelId
  peerId := profile.peer.peerId
  overlayIp := profile.peer.overlayIp
  peerPublicKey := profile.peer.peerPublicKey
  membershipSignature := profile.peer.membershipSignature

def verify : Except ProvisioningError Unit := do
  validateVersion profile.version
  if trim profile.tunnelId = "" ∨ trim profile.peer.peerId = "" ∨ profile.replicas=0
      ∨ profile.replicas>MAX_REPLICA_HINT_V2 ∨ ¬ isUsableOverlay profile.peer.overlayIp then
    .error .invalidPeerProfile
  else
    profile.bootstrap.validate p
    let peerPublicKey ← decodePublicKey p profile.peer.peerPublicKey
    let (_,publicKey) ← decodeKeyPair p profile.peer.peerPrivateKey
    if publicKey ≠ peerPublicKey then .error .peerKeyMismatch
    else profile.publicMembership.verify p profile.tunnelSigningPublicKey

def signPeerMessageV2 (message : Bytes) : Except ProvisioningError (Vector UInt8 64) := do
  profile.verify p
  let (pkcs8,_) ← decodeKeyPair p profile.peer.peerPrivateKey
  okOr .invalidKey (p.ed25519Sign pkcs8 message)

end PeerProfileV2

end Lantunnel.Core
