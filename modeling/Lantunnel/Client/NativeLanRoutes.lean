import Lantunnel.Lib.AddressBlock
import Lantunnel.Client.InboundTarget

/-!
# Native LAN routes

Which LAN prefixes of other peers are captured by native routes
(`v2_native_lan_route_cidrs`, tp-client/src/engine.rs:206-342, 3858-3901; LAN prefixes,
tp-client/src/peer_runtime.rs:22-58, 340-358).
-/

namespace Lantunnel.Client
open Lib RustNet

/-! ### LAN prefixes (peer_runtime.rs:22-58, 340-358) -/

def ipv4Mask (bits : ℕ) : BitVec 32 := mask 32 bits

def inPrefix (value base : Ipv4Addr) (bits : ℕ) : Bool :=
  value &&& ipv4Mask bits=base &&& ipv4Mask bits

def isRfc1918 (address : Ipv4Addr) : Bool :=
  inPrefix address 0x0a000000 8 || inPrefix address 0xac100000 12 || inPrefix address 0xc0a80000 16

def rangesOverlap (firstA lastA firstB lastB : BitVec 32) : Bool :=
  firstA≤lastB && firstB≤lastA

def OVERLAY_BASE_V2 : BitVec 32 := 0xc6120000

def OVERLAY_MASK_V2 : BitVec 32 := 0xffff0000

/-- `is_loopback`, `is_link_local`, `is_multicast` and `is_unspecified` of `Ipv4Addr`. -/
def isSpecial (address : Ipv4Addr) : Bool :=
  inPrefix address 0x7f000000 8 || inPrefix address 0xa9fe0000 16 ||
    inPrefix address 0xe0000000 4 || address=0

inductive PeerRuntimeErrorV2
  | invalidPrefix
  | tooManyExports
  | duplicatePrefix
  | invalidEncoding
  | invalidOrigin
  deriving DecidableEq

namespace LanExportPrefixV2

def new (network : Ipv4Addr) (prefixLen : ℕ) : Except PeerRuntimeErrorV2 LanExportPrefixV2 :=
  if prefixLen<8 ∨ 32<prefixLen then .error .invalidPrefix
  else
    let mask:=ipv4Mask prefixLen
    let canonical:=network &&& mask
    if canonical ≠ network then .error .invalidPrefix
    else
      let first:=canonical
      let last:=first ||| ~~~mask
      if !isRfc1918 canonical || !isRfc1918 last ||
          rangesOverlap first last OVERLAY_BASE_V2 (OVERLAY_BASE_V2 ||| ~~~OVERLAY_MASK_V2) ||
          isSpecial canonical then .error .invalidPrefix
      else .ok ⟨canonical,prefixLen⟩

end LanExportPrefixV2

/-! ### Cutting prefixes (engine.rs:206-342) -/

def v2LanPrefixesOverlap (left right : LanExportPrefixV2) : Bool :=
  let bounds:=fun (p : LanExportPrefixV2) =>
    let first:=p.network
    let mask:=BitVec.allOnes 32 <<< (32-p.prefixLen)
    (first,first ||| ~~~mask)
  let (leftFirst,leftLast):=bounds left
  let (rightFirst,rightLast):=bounds right
  leftFirst≤rightLast && rightFirst≤leftLast

/-- The two halves; a length is at most 32. -/
def v2LanPrefixChildren (p : LanExportPrefixV2) : Option (LanExportPrefixV2 × LanExportPrefixV2) :=
  if 32≤p.prefixLen then none
  else
    let childPrefixLen:=p.prefixLen+1
    let childSize:=1#32 <<< (32-childPrefixLen)
    some (⟨p.network,childPrefixLen⟩,⟨p.network+childSize,childPrefixLen⟩)

/-- The levels below a prefix: each is one bit longer, so 32 are enough. -/
def splitLevels : ℕ := 32

def subtractHost (address : Ipv4Addr) : ℕ → LanExportPrefixV2 → List LanExportPrefixV2
  | 0, p => if !p.contains address then [p] else []
  | levels+1, p =>
    if !p.contains address then [p]
    else
      match v2LanPrefixChildren p with
      | none => []
      | some (left,right) => subtractHost address levels left++subtractHost address levels right

def v2LanPrefixWithoutHosts (p : LanExportPrefixV2) (excluded : List Ipv4Addr) :
    List LanExportPrefixV2 :=
  excluded.foldl (fun remaining address => remaining.flatMap (subtractHost address splitLevels)) [p]

def subtractPrefix (excluded : LanExportPrefixV2) : ℕ → LanExportPrefixV2 → List LanExportPrefixV2
  | 0, p => if !v2LanPrefixesOverlap p excluded then [p] else []
  | levels+1, p =>
    if !v2LanPrefixesOverlap p excluded then [p]
    else if excluded.prefixLen≤p.prefixLen then []
    else
      match v2LanPrefixChildren p with
      | none => []
      | some (left,right) =>
        subtractPrefix excluded levels left++subtractPrefix excluded levels right

def v2LanPrefixWithoutPrefixes (p : LanExportPrefixV2) (excluded : List LanExportPrefixV2) :
    List LanExportPrefixV2 :=
  excluded.foldl (fun remaining other => remaining.flatMap (subtractPrefix other splitLevels)) [p]

def fragmentOne (connected : LanExportPrefixV2) : ℕ → LanExportPrefixV2 → List LanExportPrefixV2
  | 0, p =>
    if !v2LanPrefixesOverlap p connected || connected.prefixLen<p.prefixLen then [p] else []
  | levels+1, p =>
    if !v2LanPrefixesOverlap p connected || connected.prefixLen<p.prefixLen then [p]
    else
      match v2LanPrefixChildren p with
      | none => []
      | some (left,right) =>
        if p.prefixLen=connected.prefixLen then [left,right]
        else fragmentOne connected levels left++fragmentOne connected levels right

def v2LanPrefixesPreferOverConnected (p : LanExportPrefixV2) (connectedLans : List LanExportPrefixV2) :
    List LanExportPrefixV2 :=
  connectedLans.foldl (fun routes connected => routes.flatMap (fragmentOne connected splitLevels)) [p]

/-! ### The routes (engine.rs:196-204, 3858-3901) -/

structure NativeLanRouteGeneration where
  bypassReady : Bool
  inventoryReady : Bool
  exclusions : List Ipv4Addr
  connectedLans : List LanExportPrefixV2

def routeLe (a b : LanExportPrefixV2) : Bool :=
  a.network<b.network || (a.network=b.network && a.prefixLen≤b.prefixLen)

def routeText (p : LanExportPrefixV2) : String :=
  ipv4ToString p.network ++ "/" ++ decimal p.prefixLen

def v2NativeLanRoutes (generation : NativeLanRouteGeneration) (localRecord : PeerRuntimeRecordV2)
    (active : List (LanExportPrefixV2 × String)) (tunnelFirst : Bool) : List LanExportPrefixV2 :=
  let connectedLans:=generation.connectedLans
  let exclusions:=generation.exclusions
  let localExports:=(localRecord.lanExports.filter (·.ready)).map (·.block)
  let routes:=(active.map (·.1)).filter fun p =>
    tunnelFirst || !connectedLans.any fun connected => v2LanPrefixesOverlap p connected
  let routes:=routes.flatMap fun p => v2LanPrefixWithoutPrefixes p localExports
  let routes:=routes.flatMap fun p => v2LanPrefixWithoutHosts p exclusions
  let routes:=routes.flatMap fun p =>
    if tunnelFirst then v2LanPrefixesPreferOverConnected p connectedLans else [p]
  (routes.mergeSort routeLe).destutter (· ≠ ·)

def v2NativeLanRouteCidrs (generation : NativeLanRouteGeneration) (localRecord : PeerRuntimeRecordV2)
    (active : List (LanExportPrefixV2 × String)) (tunnelFirst : Bool) : List String :=
  if !generation.inventoryReady || !generation.bypassReady then []
  else (v2NativeLanRoutes generation localRecord active tunnelFirst).map routeText

end Lantunnel.Client
