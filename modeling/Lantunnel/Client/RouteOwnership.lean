import Lantunnel.Core.PeerLinkAgreement
import Lantunnel.Client.RouteMatcher

/-!
# Who owns a route (tp-client/src/route_matcher.rs:35-333)

In every matcher that calls can reach, the tables by address list what the tables by
Peer hold, within the limits.
-/

namespace Lantunnel.Client
open Lib RustNet OverlayRouteMatcher List Table
open Core (Primitives lanPrimitives)

inductive RouteCall
  | upsertReplica (tunnelId replicaId : String)
  | upsertPeerOverlay (peerId : String) (overlay : Ipv4Addr)
  | replacePeerLanAliases (peerId : String) (aliases : List Ipv4Addr)
  | replaceLanAliasSnapshot (snapshot : List (String × List Ipv4Addr))
  | removePeer (peerId : String)
  | replaceV2LanExportOrigin (originPeerId : String) (record : PeerRuntimeRecordV2)
  | removeV2LanExportOrigin (originPeerId : String)

inductive RouteError
  | overlay (e : OverlayRouteInstallError)
  | lanAlias (e : LanAliasInstallError)
  | lanExport (e : PeerRuntimeErrorV2)

def callRoutes (p : Primitives) (matcher : OverlayRouteMatcher) :
    RouteCall → Except RouteError Unit × OverlayRouteMatcher
  | .upsertReplica tunnelId replicaId =>
    let result:=matcher.upsertReplica p tunnelId replicaId
    ((result.1.mapError .overlay).map fun _ => (),result.2)
  | .upsertPeerOverlay peerId overlay => (.ok (),matcher.upsertPeerOverlay peerId overlay)
  | .replacePeerLanAliases peerId aliases =>
    let result:=matcher.replacePeerLanAliases peerId aliases
    (result.1.mapError .lanAlias,result.2)
  | .replaceLanAliasSnapshot snapshot =>
    let result:=matcher.replaceLanAliasSnapshot snapshot
    (result.1.mapError .lanAlias,result.2)
  | .removePeer peerId => (.ok (),(matcher.removePeer peerId).2)
  | .replaceV2LanExportOrigin originPeerId record =>
    let result:=matcher.replaceV2LanExportOrigin originPeerId record
    (result.1.mapError .lanExport,result.2)
  | .removeV2LanExportOrigin originPeerId => (.ok (),(matcher.removeV2LanExportOrigin originPeerId).2)

def runRoutes (p : Primitives) (calls : List RouteCall) : OverlayRouteMatcher :=
  calls.foldl (fun matcher call => (callRoutes p matcher call).2) .default

def OwnsOverlay (overlays : Table String Ipv4Addr) (peer : String) (address : Ipv4Addr) : Prop :=
  overlays.get peer=some address

def HasAlias (aliases : AliasTable) (peer : String) (address : Ipv4Addr) : Prop :=
  ∃ addresses, aliases.get peer=some addresses ∧ address ∈ addresses

structure Owned (matcher : OverlayRouteMatcher) : Prop where
  overlays : matcher.overlayOwners.Lists (OwnsOverlay matcher.peerOverlays)
  aliases : matcher.lanAliasOwners.Lists (HasAlias matcher.peerLanAliases)
  checked : ∀ peer addresses, matcher.peerLanAliases.get peer=some addresses →
    aliasesError addresses=none
  families : ∀ peer addresses, matcher.peerLanAliases.get peer=some addresses →
    replicaFamilyId peer=peer
  destinations : matcher.lanAliasOwners.pairs.length≤MAX_UNIQUE_LAN_ALIAS_DESTINATIONS

theorem aliasesError_eq_none_iff {addresses : Finset Ipv4Addr} : aliasesError addresses=none ↔
      addresses.card≤MAX_LAN_ALIASES_PER_PEER ∧ ∀ address∈addresses, isPrivate address=true := by
  rw [aliasesError]
  by_cases hlim : MAX_LAN_ALIASES_PER_PEER<addresses.card
  · simp [hlim]
  · simp [hlim,Nat.le_of_not_lt hlim]

theorem pairs_length_le_card {β : Type} {t : Table Ipv4Addr β} {s : Finset Ipv4Addr}
    (h : ∀ address, (t.get address).isSome → address∈s) : t.pairs.length≤ s.card := by
  have hkeys : (t.pairs.map Prod.fst).toFinset ⊆ s := by
    intro address hmem
    rw [mem_toFinset,mem_map] at hmem
    obtain ⟨⟨address,b⟩,hent,rfl⟩:=hmem
    exact h address (by rw [mem_pairs.mp hent]; rfl)
  have hcard:=Finset.card_le_card hkeys
  rwa [toFinset_card_of_nodup t.pairs_nodup,length_map] at hcard

theorem pairs_length_le_of_get {β γ : Type} {t : Table Ipv4Addr β} {t' : Table Ipv4Addr γ}
    (h : ∀ address, (t.get address).isSome → (t'.get address).isSome) :
    t.pairs.length≤t'.pairs.length := by
  have hcard:=pairs_length_le_card (t := t) (s := (t'.pairs.map Prod.fst).toFinset) (by
    intro address hsome
    obtain ⟨b,hb⟩:=Option.isSome_iff_exists.mp (h address hsome)
    rw [mem_toFinset,mem_map]
    exact ⟨(address,b),mem_pairs.mpr hb,rfl⟩)
  rwa [toFinset_card_of_nodup t'.pairs_nodup,length_map] at hcard

namespace Owned
variable {matcher : OverlayRouteMatcher}

theorem start : Owned .default where
  overlays := OwnerTable.Lists.empty.congr fun a b => by simp [OwnsOverlay,OverlayRouteMatcher.default]
  aliases := OwnerTable.Lists.empty.congr fun a b => by simp [HasAlias,OverlayRouteMatcher.default]
  checked _ _ h := by simp [OverlayRouteMatcher.default] at h
  families _ _ h := by simp [OverlayRouteMatcher.default] at h
  destinations := Nat.zero_le _

section
variable (h : Owned matcher) (peerId : String)
include h

theorem upsertPeerOverlay (overlay : Ipv4Addr) :
    Owned (matcher.upsertPeerOverlay peerId overlay) := by
  refine ⟨?_,h.aliases,h.checked,h.families,h.destinations⟩
  rw [OverlayRouteMatcher.upsertPeerOverlay]
  cases hprev : matcher.peerOverlays.get peerId with
  | none =>
    refine (h.overlays.addOwner peerId overlay).congr fun peer address => ?_
    rw [OwnsOverlay,OwnsOverlay,get_insert]
    by_cases hpeer : peer=peerId
    · simp [hpeer,hprev,eq_comm]
    · simp [hpeer]
  | some previous =>
    dsimp only
    by_cases hsame : previous=overlay
    · rw [if_neg (not_not.mpr hsame)]
      refine (h.overlays.addOwner peerId overlay).congr fun peer address => ?_
      rw [OwnsOverlay,OwnsOverlay,get_insert]
      by_cases hpeer : peer=peerId
      · simp [hpeer,hprev,hsame,eq_comm]
      · simp [hpeer]
    · rw [if_pos hsame]
      refine ((h.overlays.removeOwner peerId previous).addOwner peerId overlay).congr
        fun peer address => ?_
      rw [OwnsOverlay,OwnsOverlay,get_insert]
      by_cases hpeer : peer=peerId
      · simp [hpeer,hprev,eq_comm]
      · simp [hpeer]

theorem replaced (addresses : Finset Ipv4Addr) :
    ((ascending addresses).foldl (fun owners address => owners.addOwner peerId address)
      ((ascending ((matcher.peerLanAliases.get peerId).getD ∅)).foldl
        (fun owners address => owners.removeOwner peerId address) matcher.lanAliasOwners)).Lists
      (HasAlias (matcher.peerLanAliases.insert peerId addresses)) := by
  refine ((h.aliases.removeOwners peerId _).addOwners peerId _).congr fun peer address => ?_
  rw [HasAlias,HasAlias,get_insert,mem_ascending,mem_ascending]
  by_cases hpeer : peer=peerId
  · simp_all
  · simp [hpeer]

theorem replacePeerLanAliases (aliases : List Ipv4Addr) :
    Owned (matcher.replacePeerLanAliases peerId aliases).2 := by
  rw [OverlayRouteMatcher.replacePeerLanAliases]
  cases herr : aliasesError aliases.toFinset with
  | some => exact h
  | none =>
    dsimp only
    split
    · exact h
    rename_i hlim
    have hlists:=h.replaced (replicaFamilyId peerId) aliases.toFinset
    refine ⟨h.overlays,hlists,?_,?_,?_⟩
    · exact forall_insert herr h.checked
    · exact forall_insert (replicaFamilyId_idem peerId) h.families
    refine (pairs_length_le_card ?_).trans (Nat.le_of_not_lt hlim)
    -- an address that stays has an owner besides the Peer, so it was not given up
    intro address hsome
    obtain ⟨peer,addresses,hget,hmem⟩:=(hlists.get_isSome_iff address).mp hsome
    rw [projectedDestinations,Finset.mem_union]
    rcases get_of_get_insert hget with hold | ⟨-,rfl⟩
    · by_cases hpeer : peer=replicaFamilyId peerId
      · simp_all
      have howner : peer∈matcher.lanAliasOwners.ownersOf address :=
        (h.aliases.mem peer address).mpr ⟨addresses,hold,hmem⟩
      obtain ⟨owners,hown⟩:=Option.isSome_iff_exists.mp
        ((h.aliases.get_isSome_iff address).mpr ⟨peer,addresses,hold,hmem⟩)
      rw [OwnerTable.ownersOf,hown,Option.getD_some] at howner
      refine .inl (Finset.mem_sdiff.mpr ⟨?_,?_⟩)
      · rw [mem_toFinset,mem_map]
        exact ⟨(address,owners),mem_pairs.mpr hown,rfl⟩
      rw [Finset.mem_filter,hown,Option.any_some,not_and]
      intro _ hgiven
      simp only [Bool.and_eq_true,decide_eq_true_eq] at hgiven
      obtain ⟨_,rfl⟩:=Finset.card_eq_one.mp hgiven.1
      have hsole:=Finset.mem_singleton.mp hgiven.2
      exact hpeer ((Finset.mem_singleton.mp howner).trans hsole.symm)
    · exact .inr hmem

theorem removeOverlay : Owned (matcher.removeOverlay peerId).2 := by
  rw [OverlayRouteMatcher.removeOverlay]
  cases hover : matcher.peerOverlays.get peerId with
  | none => exact h
  | some overlay =>
    refine ⟨?_,h.aliases,h.checked,h.families,h.destinations⟩
    refine (h.overlays.removeOwner peerId overlay).congr fun peer address => ?_
    rw [OwnsOverlay,OwnsOverlay,get_remove]
    by_cases hpeer : peer=peerId
    · simp [hpeer,hover,eq_comm]
    · simp [hpeer]

theorem removeAliases : Owned (matcher.removeAliases peerId).2 := by
  rw [OverlayRouteMatcher.removeAliases]
  cases halias : matcher.peerLanAliases.get peerId with
  | none => exact h
  | some addresses =>
    have hlists : ((ascending addresses).foldl (fun owners address => owners.removeOwner peerId address)
        matcher.lanAliasOwners).Lists (HasAlias (matcher.peerLanAliases.remove peerId)) := by
      refine (h.aliases.removeOwners peerId (ascending addresses)).congr fun peer address => ?_
      rw [HasAlias,HasAlias,get_remove,mem_ascending]
      by_cases hpeer : peer=peerId
      · simp [hpeer,halias]
      · simp [hpeer]
    refine ⟨h.overlays,hlists,?_,?_,?_⟩
    · exact fun peer s hget => h.checked peer s (get_of_get_remove hget)
    · exact fun peer s hget => h.families peer s (get_of_get_remove hget)
    refine (pairs_length_le_of_get ?_).trans h.destinations
    intro address hsome
    obtain ⟨peer,s,hget,hmem⟩:=(hlists.get_isSome_iff address).mp hsome
    exact (h.aliases.get_isSome_iff address).mpr ⟨peer,s,get_of_get_remove hget,hmem⟩

end

end Owned

theorem mem_aliasEntries {table : AliasTable} {peer : String} {addresses : Finset Ipv4Addr} :
    (peer,addresses)∈aliasEntries table ↔ table.get peer=some addresses := by
  rw [aliasEntries,mem_mergeSort,mem_pairs]

theorem ownersOfAliases_lists (table : AliasTable) : (ownersOfAliases table).Lists (HasAlias table) := by
  have hfold : ∀ (entries : List (String × Finset Ipv4Addr)) (owners : OwnerTable String Ipv4Addr)
      (owns : String → Ipv4Addr → Prop), owners.Lists owns →
      (entries.foldl (fun owners entry => (ascending entry.2).foldl
        (fun owners address => owners.addOwner entry.1 address) owners) owners).Lists
          fun peer address => owns peer address ∨ ∃ s, (peer,s)∈entries ∧ address∈s := by
    intro entries
    induction entries with
    | nil => exact fun owners owns h => h.congr fun peer address => by simp
    | cons entry entries ih =>
      intro owners owns h
      refine (ih _ _ (h.addOwners entry.1 (ascending entry.2))).congr fun peer address => ?_
      rw [mem_ascending]
      constructor
      · grind
      · grind
  refine (hfold (aliasEntries table) .empty _ .empty).congr fun peer address => ?_
  rw [false_or,HasAlias]
  simp only [mem_aliasEntries]

theorem groupAliases_families (snapshot : List (String × List Ipv4Addr)) :
    ∀ peer addresses, (groupAliases snapshot).get peer=some addresses → replicaFamilyId peer=peer := by
  have hfold : ∀ (table : AliasTable),
      (∀ peer addresses, table.get peer=some addresses → replicaFamilyId peer=peer) →
      ∀ peer addresses, (snapshot.foldl (fun table entry =>
        let peerId := replicaFamilyId entry.1
        table.insert peerId ((table.get peerId).getD ∅ ∪ entry.2.toFinset)) table).get peer =
          some addresses → replicaFamilyId peer=peer := by
    induction snapshot with
    | nil => exact fun table h => h
    | cons entry snapshot ih =>
      intro table h
      exact ih _ (forall_insert (replicaFamilyId_idem entry.1) h)
  exact hfold .empty fun peer addresses hget => by simp at hget

theorem replaceLanAliasSnapshot_ok (matcher : OverlayRouteMatcher)
    {snapshot : List (String × List Ipv4Addr)}
    (hchk : ∀ peer addresses, (groupAliases snapshot).get peer=some addresses →
      aliasesError addresses=none)
    (hcnt : (ownersOfAliases (groupAliases snapshot)).pairs.length≤MAX_UNIQUE_LAN_ALIAS_DESTINATIONS) :
    matcher.replaceLanAliasSnapshot snapshot=(.ok (),{ matcher with
      peerLanAliases := groupAliases snapshot
      lanAliasOwners := ownersOfAliases (groupAliases snapshot) }) := by
  have hnone : ((aliasEntries (groupAliases snapshot)).findSome? fun entry => aliasesError entry.2) =
      none := by
    rw [findSome?_eq_none_iff]
    rintro ⟨peer,addresses⟩ hmem
    exact hchk peer addresses (mem_aliasEntries.mp hmem)
  rw [replaceLanAliasSnapshot]
  rw [hnone]
  exact if_neg (Nat.not_lt.mpr hcnt)

variable {matcher : OverlayRouteMatcher}

theorem Owned.replaceLanAliasSnapshot (h : Owned matcher)
    (snapshot : List (String × List Ipv4Addr)) : Owned (matcher.replaceLanAliasSnapshot snapshot).2 := by
  by_cases hchk : ∀ peer addresses, (groupAliases snapshot).get peer=some addresses →
      aliasesError addresses=none
  · by_cases hcnt : (ownersOfAliases (groupAliases snapshot)).pairs.length ≤
        MAX_UNIQUE_LAN_ALIAS_DESTINATIONS
    · rw [replaceLanAliasSnapshot_ok matcher hchk hcnt]
      exact ⟨h.overlays,ownersOfAliases_lists _,hchk,groupAliases_families snapshot,hcnt⟩
    rw [OverlayRouteMatcher.replaceLanAliasSnapshot]
    split
    · exact h
    rw [if_pos (Nat.lt_of_not_le hcnt)]
    exact h
  · rw [OverlayRouteMatcher.replaceLanAliasSnapshot]
    split
    · exact h
    rename_i hnone
    rw [findSome?_eq_none_iff] at hnone
    exact absurd (fun peer addresses hget => hnone (peer,addresses) (mem_aliasEntries.mpr hget)) hchk

section Run
variable {p : Primitives} {matcher : OverlayRouteMatcher}

theorem Owned.call (h : Owned matcher) (call : RouteCall) : Owned (callRoutes p matcher call).2 := by
  cases call with
  | upsertReplica tunnelId replicaId =>
    rw [callRoutes,upsertReplica]
    cases overlayIpv4ForReplicaId p tunnelId replicaId with
    | none => exact h
    | some overlay => exact h.upsertPeerOverlay _ overlay
  | upsertPeerOverlay peerId overlay => exact h.upsertPeerOverlay peerId overlay
  | replacePeerLanAliases peerId aliases => exact h.replacePeerLanAliases peerId aliases
  | replaceLanAliasSnapshot snapshot => exact h.replaceLanAliasSnapshot snapshot
  | removePeer peerId => exact (h.removeOverlay peerId).removeAliases peerId
  | replaceV2LanExportOrigin originPeerId record =>
    rw [callRoutes,replaceV2LanExportOrigin]
    cases matcher.v2LanExports.replaceOrigin originPeerId record with
    | error => exact h
    | ok => exact ⟨h.overlays,h.aliases,h.checked,h.families,h.destinations⟩
  | removeV2LanExportOrigin =>
    exact ⟨h.overlays,h.aliases,h.checked,h.families,h.destinations⟩

theorem owned_run (p : Primitives) (calls : List RouteCall) : Owned (runRoutes p calls) := by
  have hfold : ∀ matcher, Owned matcher →
      Owned (calls.foldl (fun matcher call => (callRoutes p matcher call).2) matcher) := by
    induction calls with
    | nil => exact fun matcher h => h
    | cons call calls ih => exact fun matcher h => ih _ (h.call call)
  exact hfold _ .start

theorem callRoutes_error {call : RouteCall} {e : RouteError}
    (h : (callRoutes p matcher call).1 = .error e) : (callRoutes p matcher call).2=matcher := by
  cases call with
  | upsertReplica tunnelId replicaId =>
    rw [callRoutes,upsertReplica] at h ⊢
    cases hover : overlayIpv4ForReplicaId p tunnelId replicaId with
    | none => rfl
    | some => simp [hover,Except.mapError,Except.map] at h
  | upsertPeerOverlay => cases h
  | replacePeerLanAliases peerId aliases =>
    rw [callRoutes,replacePeerLanAliases] at h ⊢
    cases herr : aliasesError aliases.toFinset with
    | some => rfl
    | none =>
      rw [herr] at h
      dsimp only at h ⊢
      split
      · rfl
      rename_i hlim
      rw [if_neg hlim] at h
      cases h
  | replaceLanAliasSnapshot snapshot =>
    rw [callRoutes,replaceLanAliasSnapshot] at h ⊢
    cases herr : (aliasEntries (groupAliases snapshot)).findSome? fun entry => aliasesError entry.2 with
    | some => rfl
    | none =>
      rw [herr] at h
      dsimp only at h ⊢
      split
      · rfl
      rename_i hlim
      rw [if_neg hlim] at h
      cases h
  | removePeer => cases h
  | replaceV2LanExportOrigin originPeerId record =>
    rw [callRoutes,replaceV2LanExportOrigin] at h ⊢
    cases hreplace : matcher.v2LanExports.replaceOrigin originPeerId record with
    | error => rfl
    | ok => simp [hreplace,Except.mapError] at h
  | removeV2LanExportOrigin => cases h

end Run

theorem matchOwners_of_two {owners : Finset String} (h : 2≤owners.card) :
    matchOwners owners = .ambiguous := by
  rw [matchOwners,if_neg (by omega)]

theorem matchDestination_of_two {destination : Ipv4Addr}
    (h : 2≤(matcher.overlayOwners.ownersOf destination ∪
      matcher.lanAliasOwners.ownersOf destination).card) :
    matcher.matchDestination (.v4 destination) = .ambiguous := by
  have hne : matcher.overlayOwners.ownersOf destination ∪
      matcher.lanAliasOwners.ownersOf destination≠∅ := by
    intro hemp
    rw [hemp,Finset.card_empty] at h
    omega
  exact (if_neg hne).trans (matchOwners_of_two h)

theorem matchV2Destination_of_two {destination : Ipv4Addr}
    (h : 2≤(matcher.overlayOwners.ownersOf destination).card) :
    matcher.matchV2Destination (.v4 destination) = .ambiguous := by
  rw [matchV2Destination]
  rw [OwnerTable.ownersOf] at h
  cases hget : matcher.overlayOwners.get destination with
  | none => simp_all
  | some =>
    rw [hget] at h
    exact matchOwners_of_two h

def replaceEach (matcher : OverlayRouteMatcher) :
    List (String × List Ipv4Addr) → Except LanAliasInstallError OverlayRouteMatcher
  | [] => .ok matcher
  | (peerId,aliases)::rest =>
    match matcher.replacePeerLanAliases peerId aliases with
    | (.error e,_) => .error e
    | (.ok (),matcher) => replaceEach matcher rest

theorem Owned.replaceEach {matcher' : OverlayRouteMatcher} (h : Owned matcher)
    {replacements : List (String × List Ipv4Addr)}
    (hreplace : replaceEach matcher replacements = .ok matcher') : Owned matcher' := by
  induction replacements generalizing matcher with
  | nil =>
    obtain rfl := Except.ok.inj hreplace
    exact h
  | cons replacement rest ih =>
    obtain ⟨peerId,aliases⟩:=replacement
    rw [Client.replaceEach] at hreplace
    split at hreplace
    · cases hreplace
    rename_i next hnext
    have howned:=h.replacePeerLanAliases peerId aliases
    rw [hnext] at howned
    exact ih howned hreplace

theorem replacePeerLanAliases_get {matcher' : OverlayRouteMatcher} {peerId : String}
    {aliases : List Ipv4Addr} (h : matcher.replacePeerLanAliases peerId aliases=(.ok (),matcher'))
    (peer : String) : matcher'.peerLanAliases.get peer =
      if peer=replicaFamilyId peerId then some aliases.toFinset
      else matcher.peerLanAliases.get peer := by
  rw [OverlayRouteMatcher.replacePeerLanAliases] at h
  dsimp only at h
  split at h
  · cases h
  split at h
  · cases h
  · cases h
    exact get_insert ..

theorem replaceEach_get {matcher' : OverlayRouteMatcher}
    {replacements : List (String × List Ipv4Addr)}
    (hrep : replaceEach matcher replacements = .ok matcher') (peer : String) :
    matcher'.peerLanAliases.get peer =
      ((replacements.reverse.find? fun r => peer=replicaFamilyId r.1).map (·.2.toFinset)).or
        (matcher.peerLanAliases.get peer) := by
  induction replacements generalizing matcher with
  | nil =>
    obtain rfl := Except.ok.inj hrep
    rfl
  | cons replacement rest ih =>
    obtain ⟨peerId,_⟩:=replacement
    rw [Client.replaceEach] at hrep
    split at hrep
    · cases hrep
    rename_i next hnext
    rw [ih hrep,replacePeerLanAliases_get hnext,reverse_cons,find?_append,Option.map_or,
      Option.or_assoc]
    by_cases hpeer : peer=replicaFamilyId peerId <;> simp [hpeer]

theorem snapshot_same {matcher' : OverlayRouteMatcher} (h' : Owned matcher')
    {snapshot : List (String × List Ipv4Addr)}
    (hsame : ∀ peer, (groupAliases snapshot).get peer=matcher'.peerLanAliases.get peer) :
    let result := matcher.replaceLanAliasSnapshot snapshot
    result.1 = .ok () ∧
      (∀ peer, result.2.peerLanAliases.get peer=matcher'.peerLanAliases.get peer) ∧
      ∀ address, result.2.lanAliasOwners.get address=matcher'.lanAliasOwners.get address := by
  have hlists : (ownersOfAliases (groupAliases snapshot)).Lists (HasAlias matcher'.peerLanAliases) :=
    (ownersOfAliases_lists _).congr fun peer address => by rw [HasAlias,HasAlias,hsame]
  have hown:=hlists.get_eq h'.aliases
  have hok:=replaceLanAliasSnapshot_ok matcher
    (fun peer addresses hget => h'.checked peer addresses ((hsame peer).symm.trans hget))
    ((pairs_length_le_of_get fun address hsome => hown address ▸ hsome).trans h'.destinations)
  rw [hok]
  exact ⟨rfl,hsame,hown⟩

def snapshotOf (matcher : OverlayRouteMatcher) : List (String × List Ipv4Addr) :=
  (aliasEntries matcher.peerLanAliases).map fun entry => (entry.1,ascending entry.2)

theorem groupAliases_of_nodup {entries : List (String × Finset Ipv4Addr)}
    (hnd : (entries.map Prod.fst).Nodup)
    (hfamily : ∀ entry∈entries, replicaFamilyId entry.1=entry.1) (table : AliasTable)
    (hnew : ∀ entry∈entries, table.get entry.1=none) (peer : String) :
    ((entries.map fun entry => (entry.1,ascending entry.2)).foldl (fun table entry =>
      let peerId := replicaFamilyId entry.1
      table.insert peerId ((table.get peerId).getD ∅ ∪ entry.2.toFinset)) table).get peer =
        ((entries.find? fun entry => entry.1=peer).map Prod.snd).or (table.get peer) := by
  induction entries generalizing table with
  | nil => rfl
  | cons entry entries ih =>
    rw [map_cons,nodup_cons] at hnd
    have hfam:=hfamily entry (mem_cons_self ..)
    have hnone:=hnew entry (mem_cons_self ..)
    have hset : (ascending entry.2).toFinset=entry.2 := by
      ext address
      rw [mem_toFinset,mem_ascending]
    rw [map_cons,foldl_cons,ih hnd.2 (fun e he => hfamily e (mem_cons_of_mem _ he))]
    · simp only [hfam,hnone,hset,Option.getD_none,Finset.empty_union,get_insert]
      by_cases hpeer : entry.1=peer
      · have hlater : (entries.find? fun e => e.1=peer)=none := by
          rw [find?_eq_none]
          intro e he hkey
          exact hnd.1 (mem_map.mpr ⟨e,he,(of_decide_eq_true hkey).trans hpeer.symm⟩)
        simp [hpeer,hlater]
      · simp [hpeer,Ne.symm hpeer]
    · intro e he
      rw [hfam,get_insert_ne _ _ (fun heq => hnd.1 (mem_map.mpr ⟨e,he,heq⟩))]
      exact hnew e (mem_cons_of_mem _ he)

theorem groupAliases_snapshotOf (h : Owned matcher) (peer : String) :
    (groupAliases (snapshotOf matcher)).get peer=matcher.peerLanAliases.get peer := by
  have hperm : (aliasEntries matcher.peerLanAliases).Perm matcher.peerLanAliases.pairs :=
    mergeSort_perm _ _
  have hnd : ((aliasEntries matcher.peerLanAliases).map Prod.fst).Nodup :=
    (hperm.map Prod.fst).nodup_iff.mpr matcher.peerLanAliases.pairs_nodup
  rw [groupAliases,snapshotOf,groupAliases_of_nodup hnd
    (fun entry hent => h.families entry.1 entry.2 (mem_aliasEntries.mp hent)) .empty
    (fun entry _ => get_empty _),get_empty,Option.or_none]
  cases hget : matcher.peerLanAliases.get peer with
  | none =>
    rw [Option.map_eq_none_iff,find?_eq_none]
    rintro ⟨peer',addresses⟩ hmem hkey
    obtain rfl : peer'=peer := of_decide_eq_true hkey
    rw [mem_aliasEntries.mp hmem] at hget
    cases hget
  | some addresses =>
    cases hfind : (aliasEntries matcher.peerLanAliases).find? fun entry => entry.1=peer with
    | none =>
      rw [find?_eq_none] at hfind
      exact absurd (decide_eq_true rfl) (hfind (peer,addresses) (mem_aliasEntries.mpr hget))
    | some entry =>
      have hkey : entry.1=peer := by simpa using find?_some hfind
      have hent:=mem_aliasEntries.mp (mem_of_find?_eq_some hfind)
      rw [hkey,hget] at hent
      rw [Option.map_some,Option.some.inj hent]

theorem route_ownership (p : Primitives) (calls : List RouteCall) :
    let matcher := runRoutes p calls
    (∀ peer address, peer∈matcher.overlayOwners.ownersOf address ↔
      matcher.peerOverlays.get peer=some address) ∧
    (∀ peer address, peer∈matcher.lanAliasOwners.ownersOf address ↔
      ∃ addresses, matcher.peerLanAliases.get peer=some addresses ∧ address∈addresses) ∧
    (∀ address, matcher.overlayOwners.get address≠some ∅ ∧
      matcher.lanAliasOwners.get address≠some ∅) ∧
    (∀ peer addresses, matcher.peerLanAliases.get peer=some addresses → addresses.card≤255) ∧
    matcher.lanAliasOwners.pairs.length≤4096 ∧
    (∀ call e, (callRoutes p matcher call).1 = .error e → (callRoutes p matcher call).2=matcher) ∧
    (∀ destination, 2≤(matcher.overlayOwners.ownersOf destination ∪
        matcher.lanAliasOwners.ownersOf destination).card →
      matcher.matchDestination (.v4 destination) = .ambiguous) ∧
    (∀ destination, 2≤(matcher.overlayOwners.ownersOf destination).card →
      matcher.matchV2Destination (.v4 destination) = .ambiguous) ∧
    ∀ replacements matcher', replaceEach matcher replacements = .ok matcher' →
      (∀ peer, matcher'.peerLanAliases.get peer =
        ((replacements.reverse.find? fun r => peer=replicaFamilyId r.1).map (·.2.toFinset)).or
          (matcher.peerLanAliases.get peer)) ∧
      (∃ snapshot, ∀ peer, (groupAliases snapshot).get peer=matcher'.peerLanAliases.get peer) ∧
      ∀ snapshot, (∀ peer, (groupAliases snapshot).get peer=matcher'.peerLanAliases.get peer) →
        let result := matcher.replaceLanAliasSnapshot snapshot
        result.1 = .ok () ∧
          (∀ peer, result.2.peerLanAliases.get peer=matcher'.peerLanAliases.get peer) ∧
          ∀ address, result.2.lanAliasOwners.get address=matcher'.lanAliasOwners.get address := by
  have h:=owned_run p calls
  refine ⟨h.overlays.mem,h.aliases.mem,fun address => ⟨h.overlays.nonempty address,
    h.aliases.nonempty address⟩,?_,h.destinations,fun _ _ => callRoutes_error,
    fun _ => matchDestination_of_two,fun _ => matchV2Destination_of_two,?_⟩
  · exact fun peer addresses hget => (aliasesError_eq_none_iff.mp (h.checked peer addresses hget)).1
  intro replacements matcher' hreplace
  have h':=h.replaceEach hreplace
  exact ⟨replaceEach_get hreplace,⟨snapshotOf matcher',groupAliases_snapshotOf h'⟩,fun snapshot hsame => snapshot_same h' hsame⟩

def contested : List RouteCall :=
  [.upsertPeerOverlay "office" 0x0a000005,.replacePeerLanAliases "home" [0x0a000005]]

theorem contested_resolves :
    (((runRoutes lanPrimitives contested).overlayOwners.ownersOf 0x0a000005 ∪
        (runRoutes lanPrimitives contested).lanAliasOwners.ownersOf 0x0a000005).card = 2) ∧
      (runRoutes lanPrimitives contested).matchV2Destination (.v4 0x0a000005) = .peer "office" ∧
      (runRoutes lanPrimitives contested).matchDestination (.v4 0x0a000005) = .ambiguous := by
  decide +kernel

def movedHost : OverlayRouteMatcher :=
  ((runRoutes lanPrimitives contested).replacePeerLanAliases "home" [0x0a000006]).2

theorem route_ownership_contested :
    (runRoutes lanPrimitives contested).matchDestination (.v4 0x0a000005) = .ambiguous ∧
      (runRoutes lanPrimitives (contested ++ [.upsertPeerOverlay "lab" 0x0a000005])).matchV2Destination
        (.v4 0x0a000005) = .ambiguous ∧
      ((runRoutes lanPrimitives contested).replaceLanAliasSnapshot [("home", [0x0a000006])]).1 = .ok () := by
  refine ⟨?_,?_,?_⟩
  · exact (route_ownership lanPrimitives contested).2.2.2.2.2.2.1 _ (by decide +kernel)
  · exact (route_ownership lanPrimitives _).2.2.2.2.2.2.2.1 _ (by decide +kernel)
  have hok : ((runRoutes lanPrimitives contested).replacePeerLanAliases "home" [0x0a000006]).1 =
      .ok () := by decide +kernel
  have hpair : (runRoutes lanPrimitives contested).replacePeerLanAliases "home" [0x0a000006] =
      (.ok (),movedHost) := Prod.ext hok rfl
  have hreplace : replaceEach (runRoutes lanPrimitives contested) [("home",[0x0a000006])] =
      .ok movedHost := by
    rw [replaceEach,hpair]
    rfl
  have hpairs : (groupAliases [("home",[0x0a000006])]).pairs=movedHost.peerLanAliases.pairs := by
    decide +kernel
  refine (((route_ownership lanPrimitives contested).2.2.2.2.2.2.2.2 _ _ hreplace).2.2 _ ?_).1
  intro peer
  ext addresses
  rw [← mem_pairs,← mem_pairs,hpairs]

end Lantunnel.Client
