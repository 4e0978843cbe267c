import Lantunnel.Core.PeerLinkCrypto

/-!
# Messages between a Client and a Gateway (tp-core/src/protocol.rs:251-393)

The frames that carry a relayed flow, the ones that bind its route, and the
signaling frames whose handling changes what the relay may do.
-/

namespace Lantunnel.Core
open Lib.FieldCodec

/-! ### NAT hints (p2p_types.rs:25-49) -/

inductive NatHint
  | unknown
  | fullCone
  | restricted
  | portRestricted
  | symmetric
  deriving DecidableEq

def NatHint.asU8 : NatHint → UInt8
  | unknown => 0
  | fullCone => 1
  | restricted => 2
  | portRestricted => 3
  | symmetric => 4

/-! ### Frames (protocol.rs:251-393) -/

abbrev WireConnId := Vector UInt8 12

inductive BinaryMessage
  | connect (connId network address : String)
  | connectResponse (connId : String) (success : Bool) (error : String)
  | close (connId : String)
  | data (connId : String) (payload : Bytes)
  | udpData (connId : String) (payload : Bytes)
  | p2pAnnounce (clientId groupId : String) (locals : List (String × UInt16)) (natHint : NatHint)
    (certFp : CertFingerprint)
  | p2pAnnounceAck (publicIp : String) (publicPort : UInt16) (serverTimeMs : ℤ)
  | relayRouteBind (connId peerClientId : String)
  | relayRouteBindAck (connId : String) (success : Bool) (error : String)
  | encryptedPeerControlV2 (targetPeerId : String) (peerlinkSessionId : SessionId)
    (connId : WireConnId) (routeAbort : Bool) (sealed : Bytes)
  deriving DecidableEq

end Lantunnel.Core
