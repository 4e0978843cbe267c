import Mathlib.Data.String.Basic
import Lantunnel.Lib.OwnerTable
import Lantunnel.Client.Replica
import Lantunnel.Client.PeerRuntime

/-!
# The route matcher (tp-client/src/route_matcher.rs, overlay.rs)

Which Peer owns an exact address: the table of Overlay addresses and the table of
private LAN host aliases, each kept by Peer and by address, and the directory of
LAN Exports that `match_v2_destination` falls back on.
-/

namespace Lantunnel.Client
open Lib RustStd RustNet FieldCodec
open Core (Primitives)

instance : LinearOrder Ipv4Addr where
  le_refl := BitVec.le_refl
  le_trans _ _ _ := BitVec.le_trans
  le_antisymm _ _ := BitVec.le_antisymm
  le_total := BitVec.le_total
  lt_iff_le_not_ge a b := by
    simp only [BitVec.lt_def,BitVec.le_def]
    omega
  toDecidableLE := inferInstance

/-- A `BTreeSet` from its least element up. -/
def ascending {α : Type} [LinearOrder α] (s : Finset α) : List α := s.sort (·≤·)

@[simp] theorem mem_ascending {α : Type} [LinearOrder α] {s : Finset α} {a : α} :
    a∈ascending s ↔ a∈s := Finset.mem_sort _

/-! ### Overlay addresses (overlay.rs:12-34) -/

def OVERLAY_DERIVATION_DOMAIN : Bytes := asBytes "lantunnel-overlay-v1" ++ [0]

def OVERLAY_HOST_COUNT : ℕ := 65534

def derivePeerOverlayIpv4 (p : Primitives) (tunnelId replicaSeed : String) : Ipv4Addr :=
  let digest:=p.sha256 (OVERLAY_DERIVATION_DOMAIN++asBytes tunnelId++[0]++asBytes replicaSeed)
  let hashPrefix:=beNat (digest.toList.take 2)
  let host:=hashPrefix % OVERLAY_HOST_COUNT+1
  BitVec.ofNat 32 (beNat [198,18,UInt8.ofNat (host >>> 8),UInt8.ofNat host])

def overlayIpv4ForReplicaId (p : Primitives) (tunnelId replicaId : String) : Option Ipv4Addr :=
  (replicaSeedForTunnel tunnelId replicaId).map (derivePeerOverlayIpv4 p tunnelId)

/-! ### The matcher (route_matcher.rs:15-33, 335-353) -/

def MAX_LAN_ALIASES_PER_PEER : ℕ := 255

def MAX_UNIQUE_LAN_ALIAS_DESTINATIONS : ℕ := 4096

inductive OverlayRouteMatch
  | peer (peerId : String)
  | unmatched
  | ambiguous
  deriving DecidableEq

inductive OverlayRouteInstallError
  | replicaOutsideTunnel (tunnelId replicaId : String)
  deriving DecidableEq

inductive LanAliasInstallError
  | notPrivateHost (address : Ipv4Addr)
  | peerAliasLimitExceeded (count max : ℕ)
  | uniqueDestinationLimitExceeded (count max : ℕ)
  deriving DecidableEq

abbrev AliasTable := Table String (Finset Ipv4Addr)

structure OverlayRouteMatcher where
  peerOverlays : Table String Ipv4Addr
  overlayOwners : OwnerTable String Ipv4Addr
  peerLanAliases : AliasTable
  lanAliasOwners : OwnerTable String Ipv4Addr
  v2LanExports : PeerGossipDirectoryV2

def isPrivate (address : Ipv4Addr) : Bool := isRfc1918 address

def aliasesError (aliases : Finset Ipv4Addr) : Option LanAliasInstallError :=
  if MAX_LAN_ALIASES_PER_PEER<aliases.card then
    some (.peerAliasLimitExceeded aliases.card MAX_LAN_ALIASES_PER_PEER)
  else ((ascending aliases).find? fun address => !isPrivate address).map .notPrivateHost

def maxByKey {α : Type} (key : α → ℕ) (items : List α) : Option α :=
  items.foldl (fun best item =>
    match best with
    | none => some item
    | some best => if key item<key best then some best else some item) none

def PeerGossipDirectoryV2.longestPrefixExporter (directory : PeerGossipDirectoryV2)
    (destination : Ipv4Addr) : Option (LanExportPrefixV2 × String) :=
  let matching:=directory.order.pairs.filter fun entry =>
    entry.1.contains destination && !entry.2.isEmpty
  (maxByKey (fun entry => entry.1.prefixLen) matching).bind fun entry =>
    entry.2.head?.map fun peer => (entry.1,peer)

/-- The addresses of a snapshot by Peer: entries of one family are joined. -/
def groupAliases (snapshot : List (String × List Ipv4Addr)) : AliasTable :=
  snapshot.foldl (fun table entry =>
    let peerId:=replicaFamilyId entry.1
    table.insert peerId ((table.get peerId).getD ∅ ∪ entry.2.toFinset)) .empty

def aliasEntries (table : AliasTable) : List (String × Finset Ipv4Addr) :=
  table.pairs.mergeSort fun a b => strLe a.1 b.1

def ownersOfAliases (table : AliasTable) : OwnerTable String Ipv4Addr :=
  (aliasEntries table).foldl (fun owners entry =>
    (ascending entry.2).foldl (fun owners address => owners.addOwner entry.1 address) owners) .empty

/-! ### Operations (route_matcher.rs:35-280) -/

namespace OverlayRouteMatcher

def default : OverlayRouteMatcher := ⟨.empty,.empty,.empty,.empty,.empty⟩

variable (matcher : OverlayRouteMatcher)

def upsertPeerOverlay (peerId : String) (overlay : Ipv4Addr) : OverlayRouteMatcher :=
  let overlayOwners :=
    match matcher.peerOverlays.get peerId with
    | some previous =>
      if previous ≠ overlay then matcher.overlayOwners.removeOwner peerId previous
      else matcher.overlayOwners
    | none => matcher.overlayOwners
  { matcher with
    peerOverlays := matcher.peerOverlays.insert peerId overlay
    overlayOwners := overlayOwners.addOwner peerId overlay }

def upsertReplica (p : Primitives) (tunnelId replicaId : String) :
    Except OverlayRouteInstallError Ipv4Addr × OverlayRouteMatcher :=
  match overlayIpv4ForReplicaId p tunnelId replicaId with
  | none => (.error (.replicaOutsideTunnel tunnelId replicaId),matcher)
  | some overlay => (.ok overlay,matcher.upsertPeerOverlay (replicaFamilyId replicaId) overlay)

def projectedDestinations (peerId : String) (aliases : Finset Ipv4Addr) : Finset Ipv4Addr :=
  let destinations:=(matcher.lanAliasOwners.pairs.map Prod.fst).toFinset
  let previous:=(matcher.peerLanAliases.get peerId).getD ∅
  let given:=previous.filter fun address =>
    (matcher.lanAliasOwners.get address).any fun owners => owners.card=1 && peerId ∈ owners
  destinations \ given ∪ aliases

def replacePeerLanAliases (peerId : String) (aliases : List Ipv4Addr) :
    Except LanAliasInstallError Unit × OverlayRouteMatcher :=
  let aliases:=aliases.toFinset
  match aliasesError aliases with
  | some e => (.error e,matcher)
  | none =>
    let peerId:=replicaFamilyId peerId
    let projected:=matcher.projectedDestinations peerId aliases
    if MAX_UNIQUE_LAN_ALIAS_DESTINATIONS<projected.card then
      (.error (.uniqueDestinationLimitExceeded projected.card MAX_UNIQUE_LAN_ALIAS_DESTINATIONS),matcher)
    else
      let previous:=(matcher.peerLanAliases.get peerId).getD ∅
      let owners:=(ascending previous).foldl (fun owners address => owners.removeOwner peerId address)
        matcher.lanAliasOwners
      (.ok (),{ matcher with
        peerLanAliases := matcher.peerLanAliases.insert peerId aliases
        lanAliasOwners :=
          (ascending aliases).foldl (fun owners address => owners.addOwner peerId address) owners })

def replaceLanAliasSnapshot (snapshot : List (String × List Ipv4Addr)) :
    Except LanAliasInstallError Unit × OverlayRouteMatcher :=
  let peerLanAliases:=groupAliases snapshot
  match (aliasEntries peerLanAliases).findSome? fun entry => aliasesError entry.2 with
  | some e => (.error e,matcher)
  | none =>
    let lanAliasOwners:=ownersOfAliases peerLanAliases
    let count:=lanAliasOwners.pairs.length
    if MAX_UNIQUE_LAN_ALIAS_DESTINATIONS<count then
      (.error (.uniqueDestinationLimitExceeded count MAX_UNIQUE_LAN_ALIAS_DESTINATIONS),matcher)
    else
      (.ok (),{ matcher with peerLanAliases := peerLanAliases, lanAliasOwners := lanAliasOwners })

def removeOverlay (peerId : String) : Bool × OverlayRouteMatcher :=
  match matcher.peerOverlays.get peerId with
  | none => (false,matcher)
  | some overlay =>
    (true,{ matcher with
      peerOverlays := matcher.peerOverlays.remove peerId
      overlayOwners := matcher.overlayOwners.removeOwner peerId overlay })

def removeAliases (peerId : String) : Bool × OverlayRouteMatcher :=
  match matcher.peerLanAliases.get peerId with
  | none => (false,matcher)
  | some aliases =>
    (true,{ matcher with
      peerLanAliases := matcher.peerLanAliases.remove peerId
      lanAliasOwners := (ascending aliases).foldl
        (fun owners address => owners.removeOwner peerId address) matcher.lanAliasOwners })

def removePeer (peerId : String) : Bool × OverlayRouteMatcher :=
  let (overlayRemoved,matcher):=matcher.removeOverlay peerId
  let (aliasesRemoved,matcher):=matcher.removeAliases peerId
  (overlayRemoved || aliasesRemoved,matcher)

def replaceV2LanExportOrigin (originPeerId : String) (record : PeerRuntimeRecordV2) :
    Except PeerRuntimeErrorV2 Unit × OverlayRouteMatcher :=
  match matcher.v2LanExports.replaceOrigin originPeerId record with
  | .error e => (.error e,matcher)
  | .ok directory => (.ok (),{ matcher with v2LanExports := directory })

def removeV2LanExportOrigin (originPeerId : String) : Bool × OverlayRouteMatcher :=
  ((matcher.v2LanExports.removeOrigin originPeerId).1,
    { matcher with v2LanExports := (matcher.v2LanExports.removeOrigin originPeerId).2 })

/-- What a set of owners comes to; the first of one is there. -/
def matchOwners (owners : Finset String) : OverlayRouteMatch :=
  if owners.card=1 then ((ascending owners).head?.map .peer).getD .ambiguous else .ambiguous

def matchDestination : IpAddr → OverlayRouteMatch
  | .v6 _ => .unmatched
  | .v4 destination =>
    let owners:=(matcher.overlayOwners.get destination).getD ∅ ∪
      (matcher.lanAliasOwners.get destination).getD ∅
    if owners=∅ then .unmatched else matchOwners owners

def matchV2Destination : IpAddr → OverlayRouteMatch
  | .v6 _ => .unmatched
  | .v4 destination =>
    match matcher.overlayOwners.get destination with
    | some owners => matchOwners owners
    | none =>
      ((matcher.v2LanExports.longestPrefixExporter destination).map fun found => .peer found.2).getD
        .unmatched

end OverlayRouteMatcher

end Lantunnel.Client
