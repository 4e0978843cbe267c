import Lantunnel.Lib.Machine
import Lantunnel.Gateway.ScopeStore

/-!
# The control session with the Platform (lantunnel-gateway/src/gateway_control.rs)

A Gateway keeps one outbound session: it answers a challenge, then takes Scope snapshots
and usage acknowledgements, and reports the digest of the snapshot it has applied.
-/

namespace Lantunnel.Gateway
open Lib FieldCodec RustStd Core

/-! ### Frames (gateway_control.rs:20-29, 200-273) -/

def CONTROL_VERSION : UInt8 := 2
def MAX_CONTROL_FRAME_BYTES : ℕ := 1024*1024
def SCOPE_SNAPSHOT_DIGEST_DOMAIN : String := "lantunnel.gateway.scope-snapshot.v2"

structure RelayQuotaSnapshot where
  periodYyyymm : String
  quotaBytes : UInt64
  remainingBytes : UInt64
  deriving DecidableEq

structure ScopeSnapshotItem where
  tunnelId : String
  tunnelSigningPublicKey : String
  -- no part of the digest
  relayQuota : Option RelayQuotaSnapshot
  deriving DecidableEq

inductive PlatformFrame
  | challenge (version : UInt8) (nonce : String)
  | scopeSnapshot (version : UInt8) (digest : String) (scopes : List ScopeSnapshotItem)
  | usageAck (version : UInt8) (throughSeq : UInt64)
  deriving DecidableEq

structure UsageSnapshotItem where
  seq : UInt64
  reportId : String
  tunnelId : String
  periodYyyymm : String
  relayBillable : UInt64
  deriving DecidableEq

inductive GatewayFrame
  | authenticate (version : UInt8) (bootId signature : String)
    (claimSecret certificatePem : Option String)
  | gatewayState (version : UInt8) (bootId : String) (ready : Bool) (appliedScopeDigest : String)
  | usageSnapshot (version : UInt8) (throughSeq : UInt64) (items : List UsageSnapshotItem)
  deriving DecidableEq

structure ScopeDigestEntry where
  tunnelId : String
  scopeSha256 : String
  deriving DecidableEq

structure ControlFormats where
  -- `serde_json::from_str::<PlatformFrame>`, strict
  parseFrame : String → Option PlatformFrame
  -- `serde_json::to_vec` and `to_string`
  scopeJson : GatewayScopeFileV2 → Option Bytes
  digestEntriesJson : List ScopeDigestEntry → Option String
  base64UrlDecode : String → Option Bytes
  base64UrlEncode : Bytes → String
  -- `Uuid::parse_str`, then `hyphenated().to_string()`
  uuidHyphenated : String → Option String

/-! ### Checks (gateway_control.rs:749-845) -/

def hexDigit (n : ℕ) : Char := if n<10 then Char.ofNat (0x30+n) else Char.ofNat (0x57+n)

def hexEncode (bytes : Bytes) : String :=
  String.ofList (bytes.flatMap fun b => [hexDigit (b.toNat/16),hexDigit (b.toNat % 16)])

def validateControlVersion (version : UInt8) : Except String Unit :=
  if version ≠ CONTROL_VERSION then
    .error ("unsupported Gateway control protocol version " ++ toString version.toNat)
  else .ok ()

def validateSha256 (description value : String) : Except String Unit :=
  if (asBytes value).length ≠ 64 ∨ ¬ (asBytes value).all fun byte =>
      (0x30≤byte && byte≤0x39) || (0x61≤byte && byte≤0x66) then
    .error (description ++ " SHA-256 must be lowercase hexadecimal")
  else .ok ()

section Checks
variable (f : ControlFormats) (p : Primitives)

def validateNonce (nonce : String) : Except String Unit := do
  let decoded ← okOr "Gateway control nonce is not base64url without padding" (f.base64UrlDecode nonce)
  if decoded.length ≠ 32 ∨ f.base64UrlEncode decoded ≠ nonce then
    .error "Gateway control nonce must be canonical base64url for exactly 32 bytes"
  else .ok ()

def validateCanonicalUuid (description value : String) : Except String Unit := do
  let parsed ← okOr (description ++ " is not a UUID") (f.uuidHyphenated value)
  if parsed ≠ value then .error (description ++ " must be a lowercase hyphenated UUID") else .ok ()

def scopeDigestEntry (scope : GatewayScopeFileV2) : Option ScopeDigestEntry :=
  (f.scopeJson scope).map fun json => ⟨scope.tunnelId,hexEncode (p.sha256 (json++[0x0a])).toList⟩

def digestOfEntries (gatewayRef : String) (entries : List ScopeDigestEntry) : Option String :=
  (f.digestEntriesJson entries).map fun json =>
    hexEncode (p.sha256
      (asBytes (SCOPE_SNAPSHOT_DIGEST_DOMAIN ++ "\n" ++ gatewayRef ++ "\n" ++ json))).toList

def scopeSnapshotDigest (gatewayRef : String) (scopes : List GatewayScopeFileV2) : Option String := do
  let entries ← scopes.mapM (scopeDigestEntry f p)
  digestOfEntries f p gatewayRef entries

def ScopeSnapshotItem.scope (item : ScopeSnapshotItem) : GatewayScopeFileV2 :=
  ⟨PROVISIONING_VERSION_V2,item.tunnelId,item.tunnelSigningPublicKey⟩

def validateScopeItem (item : ScopeSnapshotItem) : Except String ScopeDigestEntry := do
  validateCanonicalUuid f "Tunnel ID" item.tunnelId
  let _ ← (item.scope.verify p).mapError ProvisioningError.text
  okOr "serialize canonical Gateway Scope" (scopeDigestEntry f p item.scope)

def quotasOf (scopes : List ScopeSnapshotItem) : List (String × RelayQuotaSnapshot) :=
  scopes.filterMap fun item => item.relayQuota.map fun quota => (item.tunnelId,quota)

def strictlySorted : List ScopeSnapshotItem → Bool
  | a::b::rest => strLt a.tunnelId b.tunnelId && strictlySorted (b::rest)
  | _ => true

def validateScopeSnapshot (gatewayRef expectedDigest : String) (scopes : List ScopeSnapshotItem) :
    Except String (List GatewayScopeFileV2 × List (String × RelayQuotaSnapshot)) :=
  if ¬ strictlySorted scopes then
    .error "Gateway Scope snapshot must be strictly sorted by Tunnel ID"
  else do
    let entries ← scopes.mapM (validateScopeItem f p)
    let computed ← okOr "serialize Scope digest entries" (digestOfEntries f p gatewayRef entries)
    if computed ≠ expectedDigest then
      .error "Gateway Scope snapshot digest does not match its canonical contents"
    else .ok (scopes.map ScopeSnapshotItem.scope,quotasOf scopes)

end Checks

/-! ### The session (gateway_control.rs:31-45, 61-160, 275-403) -/

inductive GatewayControlKind
  | byog
  | fleet

def GatewayControlKind.asStr : GatewayControlKind → String
  | byog => "byog"
  | fleet => "fleet"

structure GatewayControlIdentity where
  kind : GatewayControlKind
  gatewayId : String
  bootId : String
  leafSha256 : String
  -- the P-256 key: an IEEE-P1363 signature of a message
  sign : Bytes → Option Bytes
  certificatePem : Option String
  claimSecret : Option String

def GatewayControlIdentity.gatewayRef (identity : GatewayControlIdentity) : String :=
  identity.kind.asStr ++ ":" ++ identity.gatewayId

def encodeAuthenticatePreimage (kind : GatewayControlKind)
    (gatewayId bootId nonce leafSha256 : String) : Bytes :=
  asBytes ("lantunnel-gateway-control-auth-v2\nkind=" ++ kind.asStr ++ "\nid=" ++ gatewayId
    ++ "\nboot_id=" ++ bootId ++ "\nnonce=" ++ nonce ++ "\nleaf_sha256=" ++ leafSha256 ++ "\n")

def GatewayControlIdentity.authenticate (f : ControlFormats) (identity : GatewayControlIdentity)
    (nonce : String) : Except String GatewayFrame := do
  validateNonce f nonce
  let preimage:=encodeAuthenticatePreimage identity.kind identity.gatewayId identity.bootId nonce
    identity.leafSha256
  let signature ← okOr "sign Gateway control challenge" (identity.sign preimage)
  if signature.length ≠ 64 then
    .error "Gateway control P-256 signature is not fixed-width IEEE-P1363"
  else
    .ok (.authenticate CONTROL_VERSION identity.bootId (f.base64UrlEncode signature)
      identity.claimSecret identity.certificatePem)

inductive SessionPhase
  | awaitingChallenge
  | awaitingSnapshot
  | active
  deriving DecidableEq

structure AppliedSnapshot where
  state : GatewayFrame
  removedTunnelIds : List String
  relayQuotas : List (String × RelayQuotaSnapshot)
  deriving DecidableEq

structure ControlAction where
  outbound : Option GatewayFrame
  appliedSnapshot : Option AppliedSnapshot
  usageAck : Option UInt64
  deriving DecidableEq

structure ControlState where
  identity : GatewayControlIdentity
  scopes : ScopePartitions
  phase : SessionPhase
  appliedScopeDigest : Option String

namespace ControlState

def new (identity : GatewayControlIdentity) (scopes : ScopePartitions) : ControlState :=
  ⟨identity,scopes,.awaitingChallenge,none⟩

variable (f : ControlFormats) (p : Primitives) (s : ControlState)

def gatewayState (digest : String) : GatewayFrame :=
  .gatewayState CONTROL_VERSION s.identity.bootId false digest

def periodicGatewayState : Option GatewayFrame := s.appliedScopeDigest.map s.gatewayState

def handleChallenge (version : UInt8) (nonce : String) : Except String ControlAction × ControlState :=
  match validateControlVersion version with
  | .error error => (.error error,s)
  | .ok () =>
    if s.phase ≠ .awaitingChallenge then (.error "Gateway control challenge is out of order",s)
    else
      match s.identity.authenticate f nonce with
      | .error error => (.error error,s)
      | .ok outbound =>
        (.ok ⟨some outbound,none,none⟩,{ s with phase := .awaitingSnapshot })

def checkSnapshot (version : UInt8) (digest : String) (scopes : List ScopeSnapshotItem) :
    Except String (List GatewayScopeFileV2 × List (String × RelayQuotaSnapshot)) := do
  validateControlVersion version
  if s.phase = .awaitingChallenge then
    .error "Gateway Scope snapshot arrived before authentication"
  else
    validateSha256 "Gateway Scope snapshot" digest
    validateScopeSnapshot f p s.identity.gatewayRef digest scopes

def handleScopeSnapshot (version : UInt8) (digest : String) (scopes : List ScopeSnapshotItem) :
    Except String ControlAction × ControlState :=
  match s.checkSnapshot f p version digest scopes with
  | .error error => (.error error,s)
  | .ok (candidate,relayQuotas) =>
    match s.scopes.replaceManagedSnapshot p candidate with
    | (.error error,store) => (.error error.text,{ s with scopes := store })
    | (.ok replaced,store) =>
      (.ok ⟨none,some ⟨s.gatewayState digest,replaced.removedIds,relayQuotas⟩,none⟩,
        { s with
          scopes := store
          phase := .active
          appliedScopeDigest := some digest })

def handleUsageAck (version : UInt8) (throughSeq : UInt64) :
    Except String ControlAction × ControlState :=
  match validateControlVersion version with
  | .error error => (.error error,s)
  | .ok () =>
    if s.phase = .awaitingChallenge then
      (.error "Gateway usage ACK arrived before authentication",s)
    else (.ok ⟨none,none,some throughSeq⟩,s)

def handleText (text : String) : Except String ControlAction × ControlState :=
  if (asBytes text).length>MAX_CONTROL_FRAME_BYTES then
    (.error "Gateway control frame exceeds 1048576 bytes",s)
  else
    match f.parseFrame text with
    | none => (.error "parse strict Gateway control frame",s)
    | some (.challenge version nonce) => s.handleChallenge f version nonce
    | some (.scopeSnapshot version digest scopes) => s.handleScopeSnapshot f p version digest scopes
    | some (.usageAck version throughSeq) => s.handleUsageAck version throughSeq

end ControlState

/-! ### The connection (gateway_control.rs:546-682) -/

/-- `refresh_gateway_state_readiness`. -/
def GatewayFrame.withReady (ready : Bool) : GatewayFrame → GatewayFrame
  | .gatewayState version bootId _ digest => .gatewayState version bootId ready digest
  | frame => frame

inductive ControlEvent
  -- a text message; whether the usage of an applied snapshot could be flushed, and the readiness
  | text (message : String) (flushed ready : Bool)
  -- the state interval
  | tick (ready : Bool)
  -- a static reload by another task
  | reloadStatic (candidate : Table String GatewayScopeFileV2)

inductive ControlOutput
  | authenticated (frame : GatewayFrame)
  | usageAck (throughSeq : UInt64)
  -- Peers disconnected and budgets applied
  | snapshotApplied (removedTunnelIds : List String) (relayQuotas : List (String × RelayQuotaSnapshot))
  -- a `gateway_state` on its way, with the managed Scopes at that moment
  | gatewayState (frame : GatewayFrame) (managed : List GatewayScopeFileV2)
  deriving DecidableEq

/-- What the connection does with an action; `next` is the state it left. -/
def ControlAction.outputs (action : ControlAction) (next : ControlState) (flushed ready : Bool) :
    List ControlOutput :=
  (action.outbound.map ControlOutput.authenticated).toList
    ++ (action.usageAck.map ControlOutput.usageAck).toList
    ++ match action.appliedSnapshot with
      | none => []
      | some applied =>
        .snapshotApplied applied.removedTunnelIds applied.relayQuotas ::
          if flushed then
            [.gatewayState (applied.state.withReady ready) next.scopes.managedSnapshot]
          else []

namespace ControlState
variable (f : ControlFormats) (p : Primitives)

def step (s : ControlState) : ControlEvent → ControlState × List ControlOutput
  | .text message flushed ready =>
    let (result,next):=s.handleText f p message
    (next,
      match result with
      | .error _ => []
      | .ok action => action.outputs next flushed ready)
  | .tick ready =>
    (s,(s.periodicGatewayState.map fun frame =>
      .gatewayState (frame.withReady ready) s.scopes.managedSnapshot).toList)
  | .reloadStatic candidate => ({ s with scopes := (s.scopes.reloadStatic candidate).2 },[])

def machine (identity : GatewayControlIdentity) (scopes : ScopePartitions) :
    Machine ControlState ControlEvent ControlOutput where
  init := new identity scopes
  enabled := fun _ _ => True
  step := step f p

end ControlState

end Lantunnel.Gateway
