import Lantunnel.Client.PeerLinkManager

/-!
# Membership cycles (tp-client/src/peer_link_manager.rs:367-456, p2p/manager.rs:512-555)

A cycle applies a snapshot, takes the Peers that are to be retired and confirms those
the upper layer agreed to.
-/

namespace Lantunnel.Client
open Lib RustStd PeerLinkManager List Table

/-! ### Cycles (p2p/manager.rs:518-550) -/

structure MembershipCycle where
  snapshot : List PeerDescriptor
  now : ℕ
  connectivityFor : String → PeerConnectivity
  -- `retired_peer_sink`
  confirms : String → Bool

namespace PeerLinkManager

structure CycleResult where
  manager : PeerLinkManager
  commands : List PeerLinkCommand
  retired : List String

def confirmAll (manager : PeerLinkManager) (peerIds : List String) : PeerLinkManager :=
  peerIds.foldl (fun manager peerId => (manager.confirmRetiredPeer peerId).2) manager

def runCycle (manager : PeerLinkManager) (cycle : MembershipCycle) : CycleResult :=
  let (manager,commands):=manager.applySnapshotAt cycle.snapshot cycle.now cycle.connectivityFor
  let (retired,manager):=manager.takeRetiredPeers
  ⟨manager.confirmAll (retired.filter cycle.confirms),commands,retired⟩

def runCycles (manager : PeerLinkManager) (cycles : List MembershipCycle) : PeerLinkManager :=
  cycles.foldl (fun manager cycle => (manager.runCycle cycle).manager) manager

end PeerLinkManager

def entryOf (manager : PeerLinkManager) (peerId : String) : Option PeerLinkView × Option ℕ :=
  (manager.links.get peerId,manager.firstAbsentAt.get peerId)

section Apply
variable {manager : PeerLinkManager}

/-- What applying Peers does not touch. -/
structure SameSetup (manager manager' : PeerLinkManager) : Prop where
  localPeer : manager'.localPeer=manager.localPeer
  count : manager'.configuredReplicaCount=manager.configuredReplicaCount
  retired : manager'.retiredPeers=manager.retiredPeers

theorem SameSetup.trans {m m' m'' : PeerLinkManager} (h : SameSetup m m') (h' : SameSetup m' m'') :
    SameSetup m m'' :=
  ⟨h'.localPeer.trans h.localPeer,h'.count.trans h.count,h'.retired.trans h.retired⟩

theorem applyPeer_setup (manager : PeerLinkManager) (peer : PeerDescriptor) :
    SameSetup manager (manager.applyPeer peer).1 := by
  rw [applyPeer]
  split
  · exact ⟨rfl,rfl,rfl⟩
  split <;> exact ⟨rfl,rfl,rfl⟩

theorem SameSetup.desired {manager' : PeerLinkManager} (h : SameSetup manager manager')
    (peer : PeerDescriptor) : manager'.desired peer=manager.desired peer := by
  rw [PeerLinkManager.desired,PeerLinkManager.desired,h.localPeer,h.count]

variable {peerId : String}

theorem applyPeer_other (manager : PeerLinkManager) {peer : PeerDescriptor}
    (h : peerId≠peer.peerId ∨ peer.peerId=manager.localPeer.peerId) :
    entryOf (manager.applyPeer peer).1 peerId=entryOf manager peerId := by
  rw [applyPeer]
  by_cases hloc : peer.peerId=manager.localPeer.peerId
  · rw [if_pos hloc]
  have hne:=h.resolve_right hloc
  rw [if_neg hloc]
  cases manager.links.get peer.peerId with
  | none | some link => exact Prod.ext (get_insert_ne _ _ hne) (by simp [entryOf,get_remove,hne])

theorem applyPeer_self (manager : PeerLinkManager) {peer : PeerDescriptor}
    (hloc : peer.peerId≠manager.localPeer.peerId) :
    (∃ link, (manager.applyPeer peer).1.links.get peer.peerId=some link ∧
      link.lanes=(manager.desired peer).lanes ∧ link.membership = .present) ∧
    (manager.applyPeer peer).1.firstAbsentAt.get peer.peerId=none ∧
    ∀ lane, .ensureLane lane∈(manager.applyPeer peer).2 ↔ lane∈(manager.desired peer).lanes ∧
      ((manager.links.get peer.peerId).bind fun link => link.lanes[lane.index]?)≠some lane := by
  rw [applyPeer,if_neg hloc]
  cases hlink : manager.links.get peer.peerId with
  | none =>
    refine ⟨⟨_,get_insert_self ..,rfl,rfl⟩,get_remove_self ..,fun lane => ?_⟩
    simp
  | some =>
    simp

def storedLanes (manager : PeerLinkManager) (before : List PeerDescriptor) (peerId : String) :
    Option (List PeerLaneView) :=
  match before.reverse.find? fun peer => peer.peerId=peerId with
  | some peer => some (manager.desired peer).lanes
  | none => (manager.links.get peerId).map (·.lanes)

theorem applyPeers_append (before after : List PeerDescriptor) (manager : PeerLinkManager) :
    applyPeers (before++after) manager=((applyPeers after (applyPeers before manager).1).1,
        (applyPeers before manager).2++(applyPeers after (applyPeers before manager).1).2) := by
  induction before generalizing manager with
  | nil => rfl
  | cons peer before ih => simp [applyPeers,ih]

theorem applyPeers_setup (peers : List PeerDescriptor) (manager : PeerLinkManager) :
    SameSetup manager (applyPeers peers manager).1 := by
  induction peers generalizing manager with
  | nil => exact ⟨rfl,rfl,rfl⟩
  | cons peer peers ih => exact (applyPeer_setup manager peer).trans (ih _)

section
variable (manager : PeerLinkManager)

theorem applyPeers_absent {peers : List PeerDescriptor} (h : peerId∉manager.presentPeers peers) :
    entryOf (applyPeers peers manager).1 peerId=entryOf manager peerId := by
  induction peers generalizing manager with
  | nil => rfl
  | cons peer peers ih =>
    have hsetup:=applyPeer_setup manager peer
    have hhere : (manager.applyPeer peer).1.presentPeers peers=manager.presentPeers peers := by
      rw [presentPeers,presentPeers,hsetup.localPeer]
    rw [presentPeers,filter_cons] at h
    have hone : peerId≠peer.peerId ∨ peer.peerId=manager.localPeer.peerId := by
      by_cases hloc : peer.peerId=manager.localPeer.peerId
      · exact .inr hloc
      simp only [ne_eq,hloc,not_false_eq_true,decide_true,if_true,map_cons,mem_cons,not_or] at h
      exact .inl h.1
    have hrest : peerId∉manager.presentPeers peers := by
      intro hmem
      refine h ?_
      split
      · exact mem_cons_of_mem _ hmem
      · exact hmem
    exact (ih (manager.applyPeer peer).1 (hhere ▸ hrest)).trans (applyPeer_other manager hone)

theorem applyPeers_present {peers : List PeerDescriptor} (h : peerId∈manager.presentPeers peers) :
    (∃ peer∈peers, ∃ link, (applyPeers peers manager).1.links.get peerId=some link ∧
      link.lanes=(manager.desired peer).lanes ∧ link.membership = .present) ∧
    (applyPeers peers manager).1.firstAbsentAt.get peerId=none := by
  induction peers using List.reverseRecOn with
  | nil => cases h
  | append_singleton peers peer ih =>
    have hsetup:=applyPeers_setup peers manager
    rw [applyPeers_append]
    by_cases hlast : peerId=peer.peerId ∧ peer.peerId≠manager.localPeer.peerId
    · obtain ⟨rfl,hloc⟩:=hlast
      rw [← hsetup.localPeer] at hloc
      obtain ⟨⟨link,hlink,hlanes,hmember⟩,hclk,-⟩:=applyPeer_self _ hloc
      rw [hsetup.desired] at hlanes
      exact ⟨⟨peer,by simp,link,hlink,hlanes,hmember⟩,hclk⟩
    · have hoth : peerId≠peer.peerId ∨
          peer.peerId=(applyPeers peers manager).1.localPeer.peerId := by
        rw [hsetup.localPeer]
        tauto
      have hpast : peerId∈manager.presentPeers peers := by
        simp only [presentPeers,filter_append,map_append,mem_append] at h ⊢
        refine h.resolve_right fun hmem => hlast ?_
        obtain ⟨p,hp,rfl⟩:=mem_map.mp hmem
        obtain ⟨hp,hloc⟩:=mem_filter.mp hp
        obtain rfl := mem_singleton.mp hp
        exact ⟨rfl,of_decide_eq_true hloc⟩
      obtain ⟨hlks,hclk⟩:=Prod.mk.inj (applyPeer_other _ hoth)
      obtain ⟨⟨p,hp,link,hlink,hrest⟩,hclk'⟩:=ih hpast
      exact ⟨⟨p,mem_append_left _ hp,link,hlks.trans hlink,hrest⟩,hclk.trans hclk'⟩

theorem applyPeers_stored (before : List PeerDescriptor) (hloc : peerId≠manager.localPeer.peerId) :
    ((applyPeers before manager).1.links.get peerId).map (·.lanes) =
      storedLanes manager before peerId := by
  induction before using List.reverseRecOn with
  | nil => rfl
  | append_singleton before peer ih =>
    have hsetup:=applyPeers_setup before manager
    rw [applyPeers_append,storedLanes,reverse_append]
    simp only [applyPeers,reverse_singleton,singleton_append,find?_cons]
    by_cases hlast : peer.peerId=peerId
    · have hne : peer.peerId≠(applyPeers before manager).1.localPeer.peerId := by
        rw [hsetup.localPeer,hlast]
        exact hloc
      obtain ⟨⟨_,hlink,hlanes,-⟩,-,-⟩:=applyPeer_self _ hne
      rw [hlast] at hlink
      simp [hlast,hlink,hlanes,hsetup.desired]
    · rw [(Prod.mk.inj (applyPeer_other _ (.inl (Ne.symm hlast)))).1,ih]
      simp [hlast,storedLanes]

theorem applyPeers_commands (peers : List PeerDescriptor)
    (lane : PeerLaneView) : .ensureLane lane∈(applyPeers peers manager).2 ↔
      ∃ before peer after, peers=before++peer::after ∧
        peer.peerId≠manager.localPeer.peerId ∧ lane∈(manager.desired peer).lanes ∧
        ((storedLanes manager before peer.peerId).bind fun lanes => lanes[lane.index]?)≠some lane := by
  induction peers using List.reverseRecOn with
  | nil => simp [applyPeers]
  | append_singleton peers peer ih =>
    have hsetup:=applyPeers_setup peers manager
    have hlast : .ensureLane lane∈((applyPeers peers manager).1.applyPeer peer).2 ↔
        peer.peerId≠manager.localPeer.peerId ∧ lane∈(manager.desired peer).lanes ∧
          ((storedLanes manager peers peer.peerId).bind fun lanes => lanes[lane.index]?)≠some lane := by
      by_cases hloc : peer.peerId=manager.localPeer.peerId
      · rw [applyPeer,hsetup.localPeer,if_pos hloc]
        simp [hloc]
      have hne : peer.peerId≠(applyPeers peers manager).1.localPeer.peerId := by
        rw [hsetup.localPeer]
        exact hloc
      rw [(applyPeer_self _ hne).2.2,hsetup.desired,← applyPeers_stored manager peers hloc]
      simp [hloc,Option.bind_map]
    rw [applyPeers_append]
    simp only [applyPeers,append_nil,mem_append,ih,hlast,exists_split_concat]

end

end Apply

section Miss
variable {manager : PeerLinkManager} {present : List String} {now : ℕ}
  {connectivityFor : String → PeerConnectivity}

def missedSince (manager : PeerLinkManager) (now : ℕ) (peerId : String) : ℕ :=
  (manager.firstAbsentAt.get peerId).getD now

def goneFor (manager : PeerLinkManager) (now : ℕ) (connectivityFor : String → PeerConnectivity)
    (peerId : String) : Bool :=
  ABSENCE_GRACE≤now-missedSince manager now peerId && !(connectivityFor peerId).healthyDirect
    && !(connectivityFor peerId).usableExactRelay

theorem missPeers_setup (peerIds : List String) (manager : PeerLinkManager) :
    SameSetup manager (missPeers present now connectivityFor peerIds manager).1 := by
  induction peerIds generalizing manager with
  | nil => exact ⟨rfl,rfl,rfl⟩
  | cons peerId peerIds ih =>
    rw [missPeers]
    split
    · exact ih manager
    split
    · exact ih manager
    have hone : SameSetup manager (manager.missPeer now connectivityFor peerId ‹_›).1 := ⟨rfl,rfl,rfl⟩
    exact hone.trans (ih _)

theorem missPeers_other (present : List String) (now : ℕ) (connectivityFor : String → PeerConnectivity)
    (peerIds : List String) (manager : PeerLinkManager) {peerId : String}
    (h : peerId∉peerIds ∨ peerId∈present ∨ manager.links.get peerId=none) :
    let result := missPeers present now connectivityFor peerIds manager
    entryOf result.1 peerId=entryOf manager peerId ∧ peerId∉result.2 := by
  induction peerIds generalizing manager with
  | nil => exact ⟨rfl,not_mem_nil⟩
  | cons other peerIds ih =>
    have hrest : peerId∉peerIds ∨ peerId∈present ∨ manager.links.get peerId=none :=
      h.imp_left fun hnot hmem => hnot (mem_cons_of_mem _ hmem)
    rw [missPeers]
    cases hlink : manager.links.get other with
    | none => exact ih manager hrest
    | some link =>
      by_cases hhere : other∈present
      · simp_all
      have hne : peerId≠other := by
        rintro rfl
        rcases h with hnot | hin | hnone
        · exact hnot (mem_cons_self ..)
        · exact hhere hin
        rw [hlink] at hnone
        cases hnone
      have hent : entryOf (manager.missPeer now connectivityFor other link).1 peerId=entryOf manager peerId :=
        Prod.ext (get_insert_ne _ _ hne) (get_insert_ne _ _ hne)
      obtain ⟨hent',hnot⟩:=ih (manager.missPeer now connectivityFor other link).1
        (by rwa [(Prod.mk.inj hent).1])
      simp only [hhere,if_false]
      refine ⟨hent'.trans hent,?_⟩
      split
      · exact fun hmem => (mem_cons.mp hmem).elim hne hnot
      · exact hnot

theorem missPeers_self (now : ℕ) (connectivityFor : String → PeerConnectivity)
    {peerIds : List String} (hnd : peerIds.Nodup) (manager : PeerLinkManager)
    (hnew : manager.retiredPeers=[]) {peerId : String} {link : PeerLinkView} (hmem : peerId∈peerIds)
    (hlink : manager.links.get peerId=some link) (hhere : peerId∉present) :
    let result := missPeers present now connectivityFor peerIds manager
    result.1.links.get peerId=some { link with
        membership := if goneFor manager now connectivityFor peerId then .retired else .suspectMissing } ∧
      result.1.firstAbsentAt.get peerId=some (missedSince manager now peerId) ∧
      (peerId∈result.2 ↔ goneFor manager now connectivityFor peerId=true) := by
  induction peerIds generalizing manager with
  | nil => cases hmem
  | cons other peerIds ih =>
    obtain ⟨hoth,hrest⟩:=nodup_cons.mp hnd
    rw [missPeers]
    by_cases hself : peerId=other
    · subst hself
      obtain ⟨hent,hnot⟩:=missPeers_other present now connectivityFor peerIds
        (manager.missPeer now connectivityFor peerId link).1 (.inl hoth)
      obtain ⟨hlks,hclk⟩:=Prod.mk.inj hent
      simp only [hlink,hhere,if_false,hnew]
      refine ⟨hlks.trans (get_insert_self ..),hclk.trans (get_insert_self ..),?_⟩
      have hgone : (manager.missPeer now connectivityFor peerId link).2 =
        goneFor manager now connectivityFor peerId := rfl
      rw [hgone]
      cases goneFor manager now connectivityFor peerId with
      | true => simp
      | false => simpa using hnot
    · have hlater:=(mem_cons.mp hmem).resolve_left hself
      cases hlink' : manager.links.get other with
      | none => exact ih hrest manager hnew hlater hlink
      | some link' =>
        by_cases hin : other∈present
        · simp_all
        have hlks : (manager.missPeer now connectivityFor other link').1.links.get peerId =
          some link := (get_insert_ne _ _ hself).trans hlink
        have hsince : missedSince (manager.missPeer now connectivityFor other link').1 now peerId =
            missedSince manager now peerId :=
          congrArg (·.getD now) (get_insert_ne _ _ hself)
        obtain ⟨hlink₁,hclock₁,hretired₁⟩ :=
          ih hrest (manager.missPeer now connectivityFor other link').1 hnew hlater hlks
        rw [goneFor,hsince] at hlink₁ hretired₁
        rw [hsince] at hclock₁
        simp only [hin,if_false]
        refine ⟨hlink₁,hclock₁,?_⟩
        split
        · rw [mem_cons]
          exact ⟨fun h => hretired₁.mp (h.resolve_left hself),fun h => .inr (hretired₁.mpr h)⟩
        · exact hretired₁

end Miss

theorem confirmRetiredPeer_setup (manager : PeerLinkManager) (hnew : manager.retiredPeers=[])
    (peerId : String) : SameSetup manager (manager.confirmRetiredPeer peerId).2 := by
  rw [confirmRetiredPeer]
  split
  · exact ⟨rfl,rfl,rfl⟩
  split
  · exact ⟨rfl,rfl,rfl⟩
  refine ⟨rfl,rfl,?_⟩
  rw [hnew]
  rfl

variable {peerId : String}

theorem confirmRetiredPeer_other (manager : PeerLinkManager) {other : String} (h : peerId≠other) :
    entryOf (manager.confirmRetiredPeer other).2 peerId=entryOf manager peerId := by
  rw [confirmRetiredPeer]
  split
  · rfl
  split
  · rfl
  · simp [entryOf,get_remove,h]

theorem confirmRetiredPeer_unlinked (manager : PeerLinkManager)
    (h : manager.links.get peerId=none) : (manager.confirmRetiredPeer peerId).2=manager := by
  rw [confirmRetiredPeer,h]

theorem confirmAll_setup (peerIds : List String) (manager : PeerLinkManager)
    (hnew : manager.retiredPeers=[]) : SameSetup manager (manager.confirmAll peerIds) := by
  induction peerIds generalizing manager with
  | nil => exact ⟨rfl,rfl,rfl⟩
  | cons peerId peerIds ih =>
    have hone:=confirmRetiredPeer_setup manager hnew peerId
    exact hone.trans (ih _ (hone.retired.trans hnew))

theorem confirmAll_other (manager : PeerLinkManager) {peerIds : List String}
    (h : peerId∉peerIds) : entryOf (manager.confirmAll peerIds) peerId=entryOf manager peerId := by
  induction peerIds generalizing manager with
  | nil => rfl
  | cons other peerIds ih =>
    rw [mem_cons,not_or] at h
    exact (ih (manager.confirmRetiredPeer other).2 h.2).trans (confirmRetiredPeer_other manager h.1)

theorem confirmAll_unlinked (manager : PeerLinkManager) (peerIds : List String)
    (h : manager.links.get peerId=none) : entryOf (manager.confirmAll peerIds) peerId=entryOf manager peerId := by
  induction peerIds generalizing manager with
  | nil => rfl
  | cons other peerIds ih =>
    rw [confirmAll,foldl_cons]
    by_cases hself : peerId=other
    · subst hself
      rw [confirmRetiredPeer_unlinked manager h]
      exact ih manager h
    have hent:=confirmRetiredPeer_other manager hself
    exact (ih (manager.confirmRetiredPeer other).2 ((Prod.mk.inj hent).1.trans h)).trans hent

theorem confirmAll_self (manager : PeerLinkManager) {peerIds : List String}
    {link : PeerLinkView} (hmem : peerId∈peerIds) (hlink : manager.links.get peerId=some link)
    (hret : link.membership = .retired) : entryOf (manager.confirmAll peerIds) peerId=(none,none) := by
  induction peerIds generalizing manager with
  | nil => cases hmem
  | cons other peerIds ih =>
    by_cases hself : peerId=other
    · subst hself
      have hrem : entryOf (manager.confirmRetiredPeer peerId).2 peerId=(none,none) := by
        rw [confirmRetiredPeer,hlink]
        simp [entryOf,hret]
      exact (confirmAll_unlinked _ peerIds (Prod.mk.inj hrem).1).trans hrem
    · have hent:=confirmRetiredPeer_other manager hself
      exact ih (manager.confirmRetiredPeer other).2 ((mem_cons.mp hmem).resolve_left hself)
        ((Prod.mk.inj hent).1.trans hlink)

def MembershipCycle.has (cycle : MembershipCycle) (peerId : String) : Bool :=
  cycle.snapshot.any fun peer => peer.peerId=peerId

section Cycle
variable {manager : PeerLinkManager} (cycle : MembershipCycle)

theorem mem_presentPeers {peerId : String} : peerId∈manager.presentPeers cycle.snapshot ↔
      peerId≠manager.localPeer.peerId ∧ cycle.has peerId=true := by
  rw [presentPeers,MembershipCycle.has,mem_map,any_eq_true]
  constructor
  · grind
  rintro ⟨hloc,peer,hpeer,hid⟩
  obtain rfl := of_decide_eq_true hid
  exact ⟨peer,mem_filter.mpr ⟨hpeer,decide_eq_true hloc⟩,rfl⟩

theorem mem_linkedPeers {peerId : String} :
    peerId∈manager.linkedPeers ↔ ∃ link, manager.links.get peerId=some link := by
  rw [linkedPeers,mem_mergeSort,mem_map]
  constructor
  · rintro ⟨⟨peerId,link⟩,hmem,rfl⟩
    exact ⟨link,mem_pairs.mp hmem⟩
  rintro ⟨link,hlink⟩
  exact ⟨(peerId,link),mem_pairs.mpr hlink,rfl⟩

theorem linkedPeers_nodup : manager.linkedPeers.Nodup :=
  (mergeSort_perm _ _).nodup_iff.mpr manager.links.pairs_nodup

inductive CycleEffect (manager : PeerLinkManager) (cycle : MembershipCycle) (peerId : String)
    (result : PeerLinkManager.CycleResult) : Prop
  | present {peer : PeerDescriptor} {link : PeerLinkView}
      (hpresent : peerId ∈ manager.presentPeers cycle.snapshot)
      (hlink : result.manager.links.get peerId=some link)
      (hlanes : link.lanes=(manager.desired peer).lanes) (hmembership : link.membership = .present)
      (hclock : result.manager.firstAbsentAt.get peerId=none) (hretired : peerId ∉ result.retired)
  | unlinked (habsent : peerId ∉ manager.presentPeers cycle.snapshot)
      (hbefore : manager.links.get peerId=none) (hlink : result.manager.links.get peerId=none)
      (hclock : result.manager.firstAbsentAt.get peerId=manager.firstAbsentAt.get peerId)
      (hretired : peerId ∉ result.retired)
  | missed {link link' : PeerLinkView} (habsent : peerId ∉ manager.presentPeers cycle.snapshot)
      (hbefore : manager.links.get peerId=some link)
      (hlink : result.manager.links.get peerId=some link') (hlanes : link'.lanes=link.lanes)
      (hclock : result.manager.firstAbsentAt.get peerId=some (missedSince manager cycle.now peerId))
      (hretired : peerId ∈ result.retired ↔ goneFor manager cycle.now cycle.connectivityFor peerId=true)
      (hmembership : peerId ∈ result.retired → link'.membership = .retired)
  | dropped {link : PeerLinkView} (habsent : peerId ∉ manager.presentPeers cycle.snapshot)
      (hbefore : manager.links.get peerId=some link)
      (hlink : result.manager.links.get peerId=none)
      (hclock : result.manager.firstAbsentAt.get peerId=none) (hretired : peerId ∈ result.retired)
      (hgone : goneFor manager cycle.now cycle.connectivityFor peerId=true)
      (hconfirmed : cycle.confirms peerId=true)

/-- The manager after the two loops of `apply_snapshot_at`, and the Peers it retires. -/
def applied (manager : PeerLinkManager) (cycle : MembershipCycle) : PeerLinkManager × List String :=
  let manager':=(PeerLinkManager.applyPeers cycle.snapshot manager).1
  PeerLinkManager.missPeers (manager.presentPeers cycle.snapshot) cycle.now cycle.connectivityFor
    manager'.linkedPeers manager'

theorem applied_setup (manager : PeerLinkManager) : SameSetup manager (applied manager cycle).1 :=
  (applyPeers_setup cycle.snapshot manager).trans (missPeers_setup _ _)

theorem applied_other {peerId : String} (h : peerId∈manager.presentPeers cycle.snapshot ∨
      (applyPeers cycle.snapshot manager).1.links.get peerId=none) :
    entryOf (applied manager cycle).1 peerId=entryOf (applyPeers cycle.snapshot manager).1 peerId ∧
      peerId∉(applied manager cycle).2 :=
  missPeers_other _ _ _ _ _ (.inr h)

theorem runCycle_eq (hnew : manager.retiredPeers=[]) :
    manager.runCycle cycle=⟨(applied manager cycle).1.confirmAll
        ((applied manager cycle).2.filter cycle.confirms),
      (applyPeers cycle.snapshot manager).2,(applied manager cycle).2⟩ := by
  have hnone : (applied manager cycle).1.retiredPeers=[] := (applied_setup cycle manager).retired.trans hnew
  have hsame : { (applied manager cycle).1 with retiredPeers := [] }=(applied manager cycle).1 := by
    rw [← hnone]
  have hret : (applied manager cycle).1.retiredPeers++(applied manager cycle).2 =
      (applied manager cycle).2 := by
    rw [hnone,nil_append]
  have hcycle : manager.runCycle cycle =
      ⟨{ (applied manager cycle).1 with retiredPeers := [] }.confirmAll
        (((applied manager cycle).1.retiredPeers++(applied manager cycle).2).filter cycle.confirms),
      (applyPeers cycle.snapshot manager).2,
      (applied manager cycle).1.retiredPeers++(applied manager cycle).2⟩ := rfl
  rw [hcycle,hsame,hret]

theorem runCycle_setup (hnew : manager.retiredPeers=[]) :
    SameSetup manager (manager.runCycle cycle).manager := by
  have hsetup:=applied_setup cycle manager
  rw [runCycle_eq cycle hnew]
  exact hsetup.trans (confirmAll_setup _ _ (hsetup.retired.trans hnew))

theorem runCycle_effect (hnew : manager.retiredPeers=[]) (peerId : String) :
    CycleEffect manager cycle peerId (manager.runCycle cycle) := by
  have hsetup:=applyPeers_setup cycle.snapshot manager
  rw [runCycle_eq cycle hnew]
  by_cases hhere : peerId∈manager.presentPeers cycle.snapshot
  · obtain ⟨⟨_,-,link,hlink,hlanes,hmember⟩,hclk⟩:=applyPeers_present manager hhere
    obtain ⟨hent,hnot⟩:=applied_other cycle (.inl hhere)
    have hunsure : peerId∉(applied manager cycle).2.filter cycle.confirms :=
      fun hmem => hnot (mem_filter.mp hmem).1
    obtain ⟨hlink',hclk'⟩:=Prod.mk.inj ((confirmAll_other (applied manager cycle).1 hunsure).trans hent)
    exact .present hhere (hlink'.trans hlink) hlanes hmember (hclk'.trans hclk) hnot
  · have hent:=applyPeers_absent manager hhere
    obtain ⟨hlink,hclk⟩:=Prod.mk.inj hent
    cases hbef : manager.links.get peerId with
    | none =>
      rw [hbef] at hlink
      obtain ⟨hent',hnot⟩:=applied_other cycle (.inr hlink)
      have hent'':=confirmAll_unlinked (applied manager cycle).1
        ((applied manager cycle).2.filter cycle.confirms) ((Prod.mk.inj hent').1.trans hlink)
      obtain ⟨hlink',hclk'⟩:=Prod.mk.inj (hent''.trans (hent'.trans hent))
      exact .unlinked hhere hbef (hlink'.trans hbef) hclk' hnot
    | some link =>
      rw [hbef] at hlink
      obtain ⟨hlink',hclk',hret⟩:=missPeers_self cycle.now cycle.connectivityFor
        linkedPeers_nodup
        (applyPeers cycle.snapshot manager).1 (hsetup.retired.trans hnew)
        (mem_linkedPeers.mpr ⟨link,hlink⟩) hlink hhere
      have hsince : missedSince (applyPeers cycle.snapshot manager).1 cycle.now peerId =
          missedSince manager cycle.now peerId := by
        rw [missedSince,missedSince,hclk]
      have hgone : goneFor (applyPeers cycle.snapshot manager).1 cycle.now
          cycle.connectivityFor peerId=goneFor manager cycle.now cycle.connectivityFor peerId := by
        rw [goneFor,goneFor,hsince]
      rw [hgone] at hlink' hret
      rw [hsince] at hclk'
      by_cases hsure : peerId∈(applied manager cycle).2.filter cycle.confirms
      · obtain ⟨hmem,hconfirms⟩:=mem_filter.mp hsure
        have hyes:=hret.mp hmem
        obtain ⟨hlink'',hclk''⟩:=Prod.mk.inj (confirmAll_self (applied manager cycle).1 hsure hlink'
          (by rw [if_pos hyes]))
        exact .dropped hhere hbef hlink'' hclk'' hmem hyes hconfirms
      · obtain ⟨hlink'',hclk''⟩:=Prod.mk.inj (confirmAll_other (applied manager cycle).1 hsure)
        refine .missed hhere hbef (hlink''.trans hlink') rfl (hclk''.trans hclk') hret ?_
        intro hmem
        exact if_pos (hret.mp hmem)

end Cycle

/-- The time of the first of the latest snapshots that all lack the Peer; the
latest cycle comes first. -/
def absentSince (peerId : String) : List MembershipCycle → Option ℕ
  | [] => none
  | cycle::earlier =>
    if cycle.has peerId then none else some ((absentSince peerId earlier).getD cycle.now)

/-- The Peer is missing from all snapshots since one that is `grace` old. -/
def AbsentFor (grace : ℕ) (peerId : String) (cycles : List MembershipCycle) (now : ℕ) : Prop :=
  ∃ earlier first later, cycles=earlier++first::later ∧ first.now+grace≤now ∧
    ∀ cycle ∈ first::later, cycle.has peerId=false

section Clock
variable {peerId : String} {cycles : List MembershipCycle}

theorem absentSince_mem {t : ℕ} (h : absentSince peerId cycles=some t) : ∃ cycle∈cycles, cycle.now=t := by
  induction cycles generalizing t with
  | nil => cases h
  | cons cycle cycles =>
    rw [absentSince] at h
    split at h
    · cases h
    have ht:=Option.some.inj h
    cases hpast : absentSince peerId cycles with
    | none => simp_all
    | some => simp_all

theorem absentFor_iff {grace now : ℕ} (htimes : cycles.Pairwise fun a b => a.now≤b.now) :
    AbsentFor grace peerId cycles now ↔
      ∃ t, absentSince peerId cycles.reverse=some t ∧ t+grace≤now := by
  induction cycles using List.reverseRecOn with
  | nil =>
    constructor
    · rintro ⟨earlier,first,later,heq,-⟩
      simp at heq
    rintro ⟨t,ht,-⟩
    cases ht
  | append_singleton cycles last ih =>
    obtain ⟨hpast,-,hlast⟩:=pairwise_append.mp htimes
    rw [AbsentFor,exists_split_concat,reverse_append,reverse_singleton,singleton_append,absentSince]
    cases hhas : last.has peerId with
    | true =>
      grind
    | false =>
      have hstep : (∃ earlier first later, cycles=earlier++first::later ∧ first.now+grace≤now ∧
          ∀ cycle∈first::(later++[last]), cycle.has peerId=false) ↔ AbsentFor grace peerId cycles now := by
        simp [AbsentFor,or_imp,forall_and,hhas]
      rw [hstep,ih hpast]
      cases hsince : absentSince peerId cycles.reverse with
      | none => simp [hhas]
      | some =>
        obtain ⟨c,hc,rfl⟩:=absentSince_mem hsince
        have hle:=hlast c (mem_reverse.mp hc) last (mem_singleton_self _)
        simp only [mem_singleton,forall_eq,hhas,and_true,Bool.false_eq_true,if_false,Option.getD_some,
          Option.some.injEq,exists_eq_left']
        omega

end Clock

structure Kept (localPeer : PeerDescriptor) (n : ℕ) (past : List MembershipCycle)
    (manager : PeerLinkManager) : Prop where
  self : manager.localPeer=localPeer
  count : manager.configuredReplicaCount=n
  taken : manager.retiredPeers=[]
  not_self : manager.links.get localPeer.peerId=none
  lanes : ∀ peerId link, manager.links.get peerId=some link →
    link.lanes.length=n ∧ ∀ (i : ℕ) (lane : PeerLaneView), link.lanes[i]?=some lane → lane.index=i
  clock : ∀ peerId link, manager.links.get peerId=some link →
    manager.firstAbsentAt.get peerId=absentSince peerId past.reverse

section Run
variable {localPeer : PeerDescriptor} {n : ℕ} {past : List MembershipCycle} {manager : PeerLinkManager}

theorem Kept.start (h : PeerLinkManager.new localPeer n = .ok manager) : Kept localPeer n [] manager := by
  obtain ⟨-,h⟩:=ite_error_eq_ok.mp h
  obtain rfl := Except.ok.inj h
  refine ⟨rfl,rfl,rfl,get_empty _,?_,?_⟩
  · intro peerId link hlink
    simp at hlink
  intro peerId link hlink
  simp at hlink

variable {peerId : String}

theorem Kept.has_eq_false (h : Kept localPeer n past manager) {cycle : MembershipCycle}
    {link : PeerLinkView} (hlink : manager.links.get peerId=some link)
    (habs : peerId∉manager.presentPeers cycle.snapshot) : cycle.has peerId=false := by
  rw [mem_presentPeers,not_and,Bool.not_eq_true] at habs
  refine habs ?_
  rintro rfl
  rw [h.self,h.not_self] at hlink
  cases hlink

theorem Kept.cycle (h : Kept localPeer n past manager) (cycle : MembershipCycle) :
    Kept localPeer n (past++[cycle]) (manager.runCycle cycle).manager := by
  have hsetup:=runCycle_setup cycle h.taken
  have heff:=runCycle_effect cycle h.taken
  refine ⟨hsetup.localPeer.trans h.self,hsetup.count.trans h.count,hsetup.retired.trans h.taken,
    ?_,?_,?_⟩
  · cases heff localPeer.peerId with
    | present hhere => exact absurd (congrArg _ h.self.symm) ((mem_presentPeers cycle).mp hhere).1
    | unlinked habs hbef hlink | dropped habs hbef hlink => exact hlink
    | missed habs hbef =>
      rw [h.not_self] at hbef
      cases hbef
  · intro peerId link' hlink'
    cases heff peerId with
    | @present peer link hhere hlink hlanes =>
      obtain rfl := Option.some.inj (hlink.symm.trans hlink')
      rw [hlanes,desired,h.count]
      exact ⟨length_buildPeerLink n _ _,fun i lane hlane => (buildPeerLink_lane n hlane).1⟩
    | unlinked habs hbef hlink | dropped habs hbef hlink =>
      rw [hlink] at hlink'
      cases hlink'
    | @missed link₀ link₁ habs hbef hlink hlanes =>
      obtain rfl := Option.some.inj (hlink.symm.trans hlink')
      rw [hlanes]
      exact h.lanes peerId link₀ hbef
  · intro peerId link' hlink'
    rw [reverse_append,reverse_singleton,singleton_append,absentSince]
    cases heff peerId with
    | present hhere hlink hlanes hmember hclk =>
      rw [if_pos ((mem_presentPeers cycle).mp hhere).2]
      exact hclk
    | unlinked habs hbef hlink | dropped habs hbef hlink =>
      rw [hlink] at hlink'
      cases hlink'
    | @missed link₀ link₁ habs hbef hlink hlanes hclk =>
      rw [if_neg (by rw [h.has_eq_false hbef habs]; exact Bool.false_ne_true),hclk,missedSince,
        h.clock peerId link₀ hbef]

theorem kept_run (h : PeerLinkManager.new localPeer n = .ok manager) (past : List MembershipCycle) :
    Kept localPeer n past (manager.runCycles past) := by
  induction past using List.reverseRecOn with
  | nil => exact .start h
  | append_singleton past cycle ih =>
    rw [runCycles,foldl_append]
    exact ih.cycle cycle

theorem Kept.retired_iff (h : Kept localPeer n past manager) (cycle : MembershipCycle)
    (htimes : (past++[cycle]).Pairwise fun a b => a.now≤b.now) (peerId : String) :
    peerId∈(manager.runCycle cycle).retired ↔ (manager.links.get peerId).isSome ∧
        AbsentFor ABSENCE_GRACE peerId (past++[cycle]) cycle.now ∧
        (cycle.connectivityFor peerId).healthyDirect=false ∧
        (cycle.connectivityFor peerId).usableExactRelay=false := by
  rw [absentFor_iff htimes,reverse_append,reverse_singleton,singleton_append,absentSince]
  have hlkd : ∀ link, manager.links.get peerId=some link →
      peerId∉manager.presentPeers cycle.snapshot →
      (goneFor manager cycle.now cycle.connectivityFor peerId=true ↔
        (∃ t, (if cycle.has peerId then none
            else some ((absentSince peerId past.reverse).getD cycle.now))=some t ∧
          t+ABSENCE_GRACE≤cycle.now) ∧
        (cycle.connectivityFor peerId).healthyDirect=false ∧
        (cycle.connectivityFor peerId).usableExactRelay=false) := by
    intro link hlink habs
    rw [if_neg (by rw [h.has_eq_false hlink habs]; exact Bool.false_ne_true),
      ← h.clock peerId link hlink]
    have hgrace : ∀ t, ABSENCE_GRACE≤cycle.now-t ↔ t+ABSENCE_GRACE≤cycle.now := by
      rw [ABSENCE_GRACE]
      omega
    simp only [goneFor,hgrace,missedSince,Bool.and_eq_true,decide_eq_true_eq,Bool.not_eq_true',
      Option.some.injEq,exists_eq_left',and_assoc]
  cases runCycle_effect cycle h.taken peerId with
  | present hhere hlink hlanes hmember hclk hret =>
    rw [if_pos ((mem_presentPeers cycle).mp hhere).2]
    simp [hret]
  | unlinked habs hbef hlink hclk hret => simp [hret,hbef]
  | missed habs hbef hlink hlanes hclk hret =>
    rw [hret,hlkd _ hbef habs,hbef]
    simp
  | dropped => simp_all

variable {cycle : MembershipCycle}

section
variable (h : Kept localPeer n past manager)
include h

theorem Kept.unconfirmed
    (hret : peerId∈(manager.runCycle cycle).retired) (hconfirms : cycle.confirms peerId=false) :
    ∃ link, (manager.runCycle cycle).manager.links.get peerId=some link ∧ link.membership = .retired := by
  cases runCycle_effect cycle h.taken peerId with
  | present hhere hlink hlanes hmember hclk hnot
  | unlinked habs hbef hlink hclk hnot => exact absurd hret hnot
  | missed habs hbef hlink hlanes hclk hiff hmember => exact ⟨_,hlink,hmember hret⟩
  | dropped habs hbef hlink hclk hmem hgone hsure =>
    rw [hconfirms] at hsure
    cases hsure

theorem Kept.reappeared (hhas : cycle.has peerId=true) (hloc : peerId≠localPeer.peerId) :
    (∃ link, (manager.runCycle cycle).manager.links.get peerId=some link ∧
      link.membership = .present) ∧
    (manager.runCycle cycle).manager.firstAbsentAt.get peerId=none := by
  have hhere : peerId∈manager.presentPeers cycle.snapshot := by
    rw [mem_presentPeers,h.self]
    exact ⟨hloc,hhas⟩
  cases runCycle_effect cycle h.taken peerId with
  | present hmem hlink hlanes hmember hclk => exact ⟨⟨_,hlink,hmember⟩,hclk⟩
  | unlinked habs | missed habs | dropped habs => exact absurd hhere habs

theorem Kept.commands_iff (cycle : MembershipCycle)
    (lane : PeerLaneView) : .ensureLane lane∈(manager.runCycle cycle).commands ↔
      ∃ before peer after, cycle.snapshot=before++peer::after ∧
        peer.peerId≠localPeer.peerId ∧ lane∈(buildPeerLink localPeer peer n).lanes ∧
        ((storedLanes manager before peer.peerId).bind fun lanes => lanes[lane.index]?)≠some lane := by
  rw [runCycle_eq cycle h.taken,applyPeers_commands]
  simp only [desired,h.self,h.count]

end

end Run

/-- Over every sequence of cycles at nondecreasing times: the lanes of the links,
who is reported, and which lanes are ensured. -/
theorem membership_cycles {localPeer : PeerDescriptor} {n : ℕ} {manager : PeerLinkManager}
    (hnew : PeerLinkManager.new localPeer n = .ok manager) (past : List MembershipCycle)
    (cycle : MembershipCycle) (htimes : (past ++ [cycle]).Pairwise fun a b => a.now ≤ b.now) :
    (∀ peerId link, ((manager.runCycles past).runCycle cycle).manager.links.get peerId = some link →
      link.lanes.length = n ∧
        ∀ (i : ℕ) (lane : PeerLaneView), link.lanes[i]? = some lane → lane.index = i) ∧
    (∀ peerId, peerId ∈ ((manager.runCycles past).runCycle cycle).retired ↔
      ((manager.runCycles past).links.get peerId).isSome ∧
        AbsentFor ABSENCE_GRACE peerId (past ++ [cycle]) cycle.now ∧
        (cycle.connectivityFor peerId).healthyDirect = false ∧
        (cycle.connectivityFor peerId).usableExactRelay = false) ∧
    (∀ peerId ∈ ((manager.runCycles past).runCycle cycle).retired, cycle.confirms peerId = false →
      ∃ link, ((manager.runCycles past).runCycle cycle).manager.links.get peerId = some link ∧
        link.membership = .retired) ∧
    (∀ peerId, cycle.has peerId = true → peerId ≠ localPeer.peerId →
      (∃ link, ((manager.runCycles past).runCycle cycle).manager.links.get peerId = some link ∧
        link.membership = .present) ∧
      ((manager.runCycles past).runCycle cycle).manager.firstAbsentAt.get peerId = none) ∧
    ∀ lane, .ensureLane lane ∈ ((manager.runCycles past).runCycle cycle).commands ↔
      ∃ before peer after, cycle.snapshot = before ++ peer :: after ∧
        peer.peerId ≠ localPeer.peerId ∧ lane ∈ (buildPeerLink localPeer peer n).lanes ∧
        ((storedLanes (manager.runCycles past) before peer.peerId).bind
          fun lanes => lanes[lane.index]?) ≠ some lane := by
  have h:=kept_run hnew past
  refine ⟨(h.cycle cycle).lanes,h.retired_iff cycle htimes,?_,?_,h.commands_iff cycle⟩
  · intro peerId hret hsure
    exact h.unconfirmed hret hsure
  intro peerId hhas hloc
  exact h.reappeared hhas hloc

def unreachable : String → PeerConnectivity := fun _ => ⟨false,false⟩

theorem membership_cycles_laptop :
    laptopPeer.peerId ∈ (((PeerLinkManager.mk deskPeer 2 .empty .empty []).runCycles
      [⟨[deskPeer, laptopPeer], 0, unreachable, fun _ => true⟩,
        ⟨[deskPeer], 5, unreachable, fun _ => true⟩]).runCycle
      ⟨[], 5 + ABSENCE_GRACE, unreachable, fun _ => false⟩).retired := by
  refine ((membership_cycles (n := 2) (rfl : PeerLinkManager.new deskPeer 2 = .ok _) _ _ (by decide)).2.1 _).mpr ⟨?_,?_⟩
  · decide +kernel
  refine ⟨⟨[_],_,[_],rfl,le_rfl,?_⟩,rfl,rfl⟩
  decide

end Lantunnel.Client
