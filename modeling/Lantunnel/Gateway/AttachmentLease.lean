import Lantunnel.Gateway.Attachment
import Lantunnel.Lib.Machine
import Lantunnel.Lib.TextCuts

/-!
# Leases and permits of the attachment limiter

Any interleaving of `try_acquire` and of drops of the permits it returned
(tp-gateway/src/lib.rs:595-690).
-/

namespace Lantunnel.Gateway
open Lib RustStd V2PeerAttachmentLimiter List

theorem v2ReplicaFamilyForTunnel_eq {tunnelId replicaId family : String}
    (h : v2ReplicaFamilyForTunnel tunnelId replicaId=some family) :
    ∃ parts, parseReplicaId replicaId=some parts ∧ parts.family=family ∧
      family=tunnelId ++ "-" ++ parts.random := by
  obtain ⟨parts,hparts,h⟩:=Option.bind_eq_some_iff.mp h
  obtain ⟨_,hrest,h⟩:=Option.bind_eq_some_iff.mp h
  obtain ⟨_,hrandom,h⟩:=Option.bind_eq_some_iff.mp h
  obtain ⟨hsame,h⟩:=Option.ite_none_right_eq_some.mp h
  cases h
  refine ⟨parts,hparts,rfl,?_⟩
  rw [stripPrefix_eq_some_iff] at hrest hrandom
  rw [← String.toList_inj,hrest,hrandom,hsame]
  simp

theorem v2ReplicaFamilyForTunnel_tunnel {tunnelId tunnelId' replicaId family family' : String}
    (h : v2ReplicaFamilyForTunnel tunnelId replicaId=some family)
    (h' : v2ReplicaFamilyForTunnel tunnelId' replicaId=some family') : tunnelId'=tunnelId := by
  obtain ⟨parts,hparts,hfam,htext⟩:=v2ReplicaFamilyForTunnel_eq h
  obtain ⟨parts',hparts',hfam',htext'⟩:=v2ReplicaFamilyForTunnel_eq h'
  obtain rfl : parts'=parts := Option.some.inj (hparts'.symm.trans hparts)
  have hsame : tunnelId' ++ "-" ++ parts'.random=tunnelId ++ "-" ++ parts'.random := by
    rw [← htext,← htext',← hfam,← hfam']
  simpa [← String.toList_inj] using hsame

structure Attachments where
  live : V2PeerAttachmentLimiter
  permits : List AuthenticatedPeerV2

inductive AttachmentEvent
  | tryAcquire (tunnelId peerId replicaId : String)
  | drop (permit : AuthenticatedPeerV2)

def Attachments.step (maxPerPeer : ℕ) (s : Attachments) :
    AttachmentEvent → Attachments × List V2PeerAttachmentReject
  | .tryAcquire tunnelId peerId replicaId =>
    match s.live.tryAcquire maxPerPeer tunnelId peerId replicaId with
    | .error reject => (s,[reject])
    | .ok live => (⟨live,⟨tunnelId,peerId,replicaId⟩::s.permits⟩,[])
  | .drop permit =>
    (⟨s.live.release permit.tunnelId permit.peerId permit.replicaId,s.permits.erase permit⟩,[])

def attachmentMachine (maxPerPeer : ℕ) :
    Machine Attachments AttachmentEvent V2PeerAttachmentReject where
  init := ⟨Table.empty,[]⟩
  enabled := fun s e => ∀ permit, e = .drop permit → permit ∈ s.permits
  step := Attachments.step maxPerPeer

def Attachments.permitIds (s : Attachments) (tunnelId peerId : String) : List String :=
  (s.permits.filter fun permit => permit.tunnelId=tunnelId ∧ permit.peerId=peerId).map
    (·.replicaId)

def Attachments.liveReplicaIds (s : Attachments) (tunnelId peerId : String) : List String :=
  ((s.live.get (tunnelId,peerId)).map (·.liveReplicaIds)).getD []

structure V2PeerFamilyLease.Valid (maxPerPeer : ℕ) (tunnelId : String)
    (lease : V2PeerFamilyLease) : Prop where
  nonempty : lease.liveReplicaIds ≠ []
  nodup : lease.liveReplicaIds.Nodup
  length_le : lease.liveReplicaIds.length≤ maxPerPeer
  family_eq : ∀ replicaId ∈ lease.liveReplicaIds,
    v2ReplicaFamilyForTunnel tunnelId replicaId=some lease.family

def V2PeerAttachmentLimiter.Valid (maxPerPeer : ℕ) (live : V2PeerAttachmentLimiter) : Prop :=
  ∀ key lease, live.get key=some lease → lease.Valid maxPerPeer key.1

structure Attachments.Valid (maxPerPeer : ℕ) (s : Attachments) : Prop where
  nodup : s.permits.Nodup
  holds_iff : ∀ permit, s.live.Holds permit ↔ permit ∈ s.permits
  leases : s.live.Valid maxPerPeer

section
variable {maxPerPeer : ℕ} {live live' : V2PeerAttachmentLimiter} {tunnelId peerId replicaId : String}

theorem V2PeerAttachmentLimiter.Valid.tryAcquire (hlive : live.Valid maxPerPeer)
    (h : live.tryAcquire maxPerPeer tunnelId peerId replicaId = .ok live') :
    live'.Valid maxPerPeer := by
  intro key lease hget
  obtain ⟨family,ids,hfam,hids,hnew,hmax,rfl⟩:=tryAcquire_eq_ok h
  rcases Table.get_of_get_insert hget with hget | ⟨rfl,rfl⟩
  · exact hlive key lease hget
  have hold : ids.Nodup ∧ ∀ r∈ids, v2ReplicaFamilyForTunnel tunnelId r=some family := by
    rcases hids with hkey | ⟨-,rfl⟩
    · exact ⟨(hlive _ _ hkey).nodup,(hlive _ _ hkey).family_eq⟩
    · simp
  exact ⟨cons_ne_nil _ _,nodup_cons.mpr ⟨hnew,hold.1⟩,hmax,forall_mem_cons.mpr ⟨hfam,hold.2⟩⟩

theorem V2PeerAttachmentLimiter.Valid.release (hlive : live.Valid maxPerPeer) :
    (live.release tunnelId peerId replicaId).Valid maxPerPeer := by
  intro key lease hget
  unfold V2PeerAttachmentLimiter.release at hget
  rcases hkey : live.get (tunnelId,peerId) with - | old
  · exact hlive key lease (by simpa only [hkey] using hget)
  simp only [hkey] at hget
  split_ifs at hget with hemp
  · exact hlive key lease (Table.get_of_get_remove hget)
  rcases Table.get_of_get_insert hget with hget | ⟨rfl,rfl⟩
  · exact hlive key lease hget
  have hold:=hlive _ old hkey
  refine ⟨by simpa [List.isEmpty_iff] using hemp,hold.nodup.filter _,?_,?_⟩
  · exact (length_filter_le _ _).trans hold.length_le
  · exact fun r hr => hold.family_eq r (mem_of_mem_filter hr)

theorem Attachments.Valid.step {s : Attachments} (hs : s.Valid maxPerPeer) {e : AttachmentEvent}
    (he : ∀ permit, e = .drop permit → permit∈s.permits) :
    (s.step maxPerPeer e).1.Valid maxPerPeer := by
  cases e with
  | tryAcquire tunnelId peerId replicaId =>
    rw [Attachments.step]
    cases hacq : s.live.tryAcquire maxPerPeer tunnelId peerId replicaId with
    | error => exact hs
    | ok =>
      obtain ⟨_,hholds⟩:=holds_tryAcquire hacq
      refine ⟨nodup_cons.mpr ⟨?_,hs.nodup⟩,?_,hs.leases.tryAcquire hacq⟩
      · rwa [← hs.holds_iff]
      intro permit
      rw [hholds,hs.holds_iff,mem_cons]
  | drop =>
    refine ⟨hs.nodup.erase _,?_,hs.leases.release⟩
    intro other
    rw [Attachments.step,hs.nodup.mem_erase_iff,← hs.holds_iff]
    exact holds_release

theorem attachments_valid {s : Attachments} {tr : List V2PeerAttachmentReject}
    (h : (attachmentMachine maxPerPeer).Run s tr) : s.Valid maxPerPeer := by
  refine h.invariant (fun s _ => s.Valid maxPerPeer) ?_ fun _ _ _ hs he => hs.step he
  exact ⟨nodup_nil,by simp [attachmentMachine,V2PeerAttachmentLimiter.Holds],
    fun key lease hget => by simp [attachmentMachine] at hget⟩

variable {s : Attachments} (hs : s.Valid maxPerPeer)
include hs

theorem Attachments.Valid.mem_permitIds :
    replicaId∈s.permitIds tunnelId peerId ↔ s.live.Holds ⟨tunnelId,peerId,replicaId⟩ := by
  rw [hs.holds_iff]
  constructor
  · intro h
    obtain ⟨_,hmem,rfl⟩:=mem_map.mp h
    obtain ⟨hpermit,hkey⟩:=mem_filter.mp hmem
    obtain ⟨rfl,rfl⟩:=of_decide_eq_true hkey
    exact hpermit
  · intro h
    exact mem_map.mpr ⟨_,mem_filter.mpr ⟨h,by simp⟩,rfl⟩

theorem Attachments.Valid.permitIds_nodup : (s.permitIds tunnelId peerId).Nodup := by
  refine (nodup_map_iff_inj_on (hs.nodup.filter _)).mpr ?_
  rintro ⟨_,_⟩ _ ⟨_,_⟩ hy hsame
  simp_all

theorem Attachments.Valid.liveReplicaIds_perm :
    (s.liveReplicaIds tunnelId peerId).Perm (s.permitIds tunnelId peerId) := by
  have hnd : (s.liveReplicaIds tunnelId peerId).Nodup := by
    rw [liveReplicaIds]
    cases hget : s.live.get (tunnelId,peerId) with
    | none => exact nodup_nil
    | some lease => exact (hs.leases _ lease hget).nodup
  refine (perm_ext_iff_of_nodup hnd hs.permitIds_nodup).mpr ?_
  intro r
  rw [hs.mem_permitIds,liveReplicaIds,V2PeerAttachmentLimiter.Holds]
  cases s.live.get (tunnelId,peerId) <;> simp

end

/-- After any interleaving, the live Replica ids of a Peer are those of its
permits that are still out. -/
theorem live_replica_ids_of_permits {maxPerPeer : ℕ} {s : Attachments}
    {tr : List V2PeerAttachmentReject} (h : (attachmentMachine maxPerPeer).Run s tr)
    (tunnelId peerId : String) :
    (s.liveReplicaIds tunnelId peerId).Perm (s.permitIds tunnelId peerId) ∧
      (s.permitIds tunnelId peerId).Nodup ∧ (s.permitIds tunnelId peerId).length ≤ maxPerPeer ∧
      (∃ family, ∀ replicaId ∈ s.permitIds tunnelId peerId,
        v2ReplicaFamilyForTunnel tunnelId replicaId = some family ∧
          ∀ tunnelId' family', v2ReplicaFamilyForTunnel tunnelId' replicaId = some family' →
            tunnelId' = tunnelId) ∧
      (s.live.contains (tunnelId, peerId) = true ↔ s.permitIds tunnelId peerId ≠ []) ∧
      (s.permitIds tunnelId peerId = [] → 0 < maxPerPeer → ∀ replicaId family,
        v2ReplicaFamilyForTunnel tunnelId replicaId = some family →
          (s.step maxPerPeer (.tryAcquire tunnelId peerId replicaId)).1.permitIds tunnelId peerId =
            [replicaId]) ∧
      ∀ e, (s.step maxPerPeer e).2 ≠ [] → (s.step maxPerPeer e).1 = s := by
  have hs:=attachments_valid h
  have hperm : (s.liveReplicaIds tunnelId peerId).Perm (s.permitIds tunnelId peerId) :=
    hs.liveReplicaIds_perm
  have hnd : (s.permitIds tunnelId peerId).Nodup := hs.permitIds_nodup
  have hsame : ∀ e, (s.step maxPerPeer e).2≠[] → (s.step maxPerPeer e).1=s := by
    rintro (⟨t,p,r⟩ | permit) hout
    · rw [Attachments.step] at hout ⊢
      cases hacq : s.live.tryAcquire maxPerPeer t p r with
      | error => rfl
      | ok => simp [hacq] at hout
    · exact absurd rfl hout
  rcases hget : s.live.get (tunnelId,peerId) with - | lease
  · have hnone : s.permitIds tunnelId peerId=[] := by
      simpa [Attachments.liveReplicaIds,hget] using hperm.symm
    refine ⟨hperm,hnd,by simp [hnone],⟨"",by simp [hnone]⟩,
      by simp [hnone,Table.contains,hget],?_,hsame⟩
    intro _ hmax replicaId family hfam
    have hmax' : maxPerPeer≠0 := by omega
    have hacq : s.live.tryAcquire maxPerPeer tunnelId peerId replicaId =
        .ok (s.live.insert (tunnelId,peerId) ⟨family,[replicaId]⟩) := by
      simp [tryAcquire,hfam,hget,hmax',okOr,bind,Except.bind]
    rw [Attachments.step,hacq]
    simpa [Attachments.permitIds] using hnone
  · have hlease:=hs.leases _ lease hget
    have hids : lease.liveReplicaIds.Perm (s.permitIds tunnelId peerId) := by
      simpa [Attachments.liveReplicaIds,hget] using hperm
    have hsome : s.permitIds tunnelId peerId≠[] := by
      intro hnil
      exact hlease.nonempty (hnil ▸ hids).eq_nil
    refine ⟨hperm,hnd,hids.length_eq ▸ hlease.length_le,⟨lease.family,?_⟩,
      by simp [hsome,Table.contains,hget],fun hnil => absurd hnil hsome,hsame⟩
    intro replicaId hmem
    have hfam:=hlease.family_eq replicaId (hids.mem_iff.mpr hmem)
    exact ⟨hfam,fun _ _ h' => v2ReplicaFamilyForTunnel_tunnel hfam h'⟩

theorem live_replica_ids_of_permits_two : ∃ s tr, (attachmentMachine 2).Run s tr ∧
    s.permitIds "t" "p" = ["t-00000001-1"] ∧
      (s.liveReplicaIds "t" "p").Perm (s.permitIds "t" "p") := by
  have hrun:=Machine.Run.exec (.init (M := attachmentMachine 2))
    [.tryAcquire "t" "p" "t-00000001-0",.tryAcquire "t" "p" "t-00000001-1",
      .tryAcquire "t" "p" "t-00000002-0",.drop ⟨"t","p","t-00000001-0"⟩]
    ⟨nofun,nofun,nofun,by
      rintro _ ⟨⟩
      decide,trivial⟩
  exact ⟨_,_,hrun,by decide,(live_replica_ids_of_permits hrun "t" "p").1⟩

end Lantunnel.Gateway
