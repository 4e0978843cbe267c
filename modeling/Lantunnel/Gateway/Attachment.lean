import Lantunnel.Lib.RustNet
import Lantunnel.Lib.Table

/-!
# Attachments and the per-Peer attachment limiter

The identity a Gateway proves for an attachment (tp-gateway/src/client_conn.rs:109-152),
runtime Replica ids (tp-gateway/src/lib.rs:1014-1045) and the limiter that admits
at most one attachment of a Peer under one Replica id (lib.rs:594-690).
-/

namespace Lantunnel.Gateway
open Lib RustStd RustNet

/-! ### Attachments (client_conn.rs:109-152) -/

structure AuthenticatedPeerV2 where
  tunnelId : String
  peerId : String
  replicaId : String
  deriving DecidableEq

structure TransportCapabilities where
  tcpFlowStreamV1 : Bool
  routeBindControlV1 : Bool
  deriving DecidableEq

/-- An `Arc<ClientConn>`: `addr` is its allocation, which pointer comparison
compares; `tunnelId`, `clientId` and `peerAddr` are the fields of its `params`. -/
structure ClientConn where
  addr : ℕ
  tunnelId : String
  clientId : String
  peerAddr : SocketAddr
  authenticatedPeerV2 : AuthenticatedPeerV2
  capabilities : TransportCapabilities
  deriving DecidableEq

def ClientConn.ptrEq (a b : ClientConn) : Bool := a.addr=b.addr

/-! ### Replica ids (lib.rs:1014-1045) -/

structure ReplicaIdParts where
  family : String
  random : String

def isReplicaIndex (index : String) : Bool :=
  index = "0" || (index ≠ "" && index.toList.head? ≠ some '0' && index.toList.all Char.isDigit)

def parseReplicaId (clientId : String) : Option ReplicaIdParts := do
  let (family,index) ← rsplitOnce '-' clientId
  let (_,random) ← rsplitOnce '-' family
  if family = "" || random = "" || (asBytes random).length ≠ 8
      || !random.toList.all Char.isAlphanum || !isReplicaIndex index then
    none
  else
    some ⟨family,random⟩

def v2ReplicaFamilyForTunnel (tunnelId replicaId : String) : Option String := do
  let parts ← parseReplicaId replicaId
  let rest ← stripPrefix tunnelId parts.family
  let random ← stripPrefix "-" rest
  if random=parts.random then some parts.family else none

example : v2ReplicaFamilyForTunnel "t" "t-00000001-0" = some "t-00000001" ∧
    v2ReplicaFamilyForTunnel "t" "t-00000001-01" = none ∧
    v2ReplicaFamilyForTunnel "u" "t-00000001-0" = none := by decide

/-! ### The limiter (lib.rs:594-690) -/

structure V2PeerFamilyLease where
  family : String
  liveReplicaIds : List String
  deriving DecidableEq

inductive V2PeerAttachmentReject
  | invalidReplicaId
  | differentFamily
  | duplicateReplicaId
  | capacity
  deriving DecidableEq

abbrev V2PeerAttachmentLimiter := Table (String × String) V2PeerFamilyLease

namespace V2PeerAttachmentLimiter

def tryAcquire (live : V2PeerAttachmentLimiter) (maxPerPeer : ℕ)
    (tunnelId peerId replicaId : String) :
    Except V2PeerAttachmentReject V2PeerAttachmentLimiter := do
  let family ← okOr .invalidReplicaId (v2ReplicaFamilyForTunnel tunnelId replicaId)
  match live.get (tunnelId,peerId) with
  | some lease =>
    if lease.family ≠ family then .error .differentFamily
    else if lease.liveReplicaIds.contains replicaId then .error .duplicateReplicaId
    else if maxPerPeer≤lease.liveReplicaIds.length then .error .capacity
    else
      .ok (live.insert (tunnelId,peerId)
        { lease with liveReplicaIds := replicaId::lease.liveReplicaIds })
  | none =>
    if maxPerPeer=0 then .error .capacity
    else .ok (live.insert (tunnelId,peerId) ⟨family,[replicaId]⟩)

def release (live : V2PeerAttachmentLimiter) (tunnelId peerId replicaId : String) :
    V2PeerAttachmentLimiter :=
  match live.get (tunnelId,peerId) with
  | none => live
  | some lease =>
    let remaining:=lease.liveReplicaIds.filter (· ≠ replicaId)
    if remaining.isEmpty then live.remove (tunnelId,peerId)
    else live.insert (tunnelId,peerId) { lease with liveReplicaIds := remaining }

def Holds (live : V2PeerAttachmentLimiter) (peer : AuthenticatedPeerV2) : Prop :=
  ∃ lease, live.get (peer.tunnelId,peer.peerId)=some lease ∧
    peer.replicaId ∈ lease.liveReplicaIds

variable {tunnelId peerId replicaId : String} {live live' : V2PeerAttachmentLimiter}

theorem holds_insert {lease : V2PeerFamilyLease} {peer : AuthenticatedPeerV2} :
    Holds (live.insert (tunnelId,peerId) lease) peer ↔
      if peer.tunnelId=tunnelId ∧ peer.peerId=peerId then
        peer.replicaId∈lease.liveReplicaIds
      else Holds live peer := by
  simp only [Holds,Table.get_insert,Prod.mk.injEq]
  split_ifs <;> simp

theorem tryAcquire_eq_ok {maxPerPeer : ℕ}
    (h : live.tryAcquire maxPerPeer tunnelId peerId replicaId = .ok live') :
    ∃ family ids, v2ReplicaFamilyForTunnel tunnelId replicaId=some family ∧
      (live.get (tunnelId,peerId)=some ⟨family,ids⟩ ∨ live.get (tunnelId,peerId)=none ∧ ids=[]) ∧
      replicaId∉ids ∧ ids.length< maxPerPeer ∧
      live'=live.insert (tunnelId,peerId) ⟨family,replicaId::ids⟩ := by
  obtain ⟨_,hfam,h⟩:=bind_eq_ok.mp h
  rw [okOr_eq_ok] at hfam
  rcases hget : live.get (tunnelId,peerId) with - | ⟨_,_⟩
  · grind
  · grind

theorem holds_tryAcquire {maxPerPeer : ℕ}
    (h : live.tryAcquire maxPerPeer tunnelId peerId replicaId = .ok live') :
    ¬ Holds live ⟨tunnelId,peerId,replicaId⟩ ∧
      ∀ peer, Holds live' peer ↔ peer=⟨tunnelId,peerId,replicaId⟩ ∨ Holds live peer := by
  obtain ⟨_,ids,-,hids,_,-,rfl⟩:=tryAcquire_eq_ok h
  have hheld : ∀ r, Holds live ⟨tunnelId,peerId,r⟩ ↔ r∈ids := by
    rcases hids with hget | ⟨hget,rfl⟩ <;> simp [Holds,hget]
  refine ⟨by rwa [hheld],?_⟩
  rintro ⟨_,_⟩
  rw [holds_insert,AuthenticatedPeerV2.mk.injEq]
  split_ifs with hkey
  · obtain ⟨rfl,rfl⟩:=hkey
    simp [hheld]
  constructor
  · exact .inr
  rintro (⟨rfl,rfl,-⟩ | hold)
  · exact absurd ⟨rfl,rfl⟩ hkey
  · exact hold

theorem holds_release {peer : AuthenticatedPeerV2} :
    Holds (live.release tunnelId peerId replicaId) peer ↔
      peer≠⟨tunnelId,peerId,replicaId⟩ ∧ Holds live peer := by
  obtain ⟨t,p,r⟩:=peer
  unfold release
  rcases hget : live.get (tunnelId,peerId) with - | lease
  · constructor
    · intro hold
      refine ⟨?_,hold⟩
      rintro ⟨rfl,rfl,rfl⟩
      simp [Holds,hget] at hold
    · exact And.right
  · by_cases hkey : t=tunnelId ∧ p=peerId
    · obtain ⟨rfl,rfl⟩:=hkey
      have hremain : r∈lease.liveReplicaIds.filter (· ≠ replicaId) ↔
          r≠replicaId ∧ r∈lease.liveReplicaIds := by
        simp [and_comm]
      dsimp only
      split_ifs with hemp
      · rw [List.isEmpty_iff] at hemp
        rw [hemp] at hremain
        simpa [Holds,hget] using hremain
      · simpa [Holds,hget] using hremain
    · have hoth : Holds (if (lease.liveReplicaIds.filter (· ≠ replicaId)).isEmpty then
          live.remove (tunnelId,peerId) else live.insert (tunnelId,peerId)
            { lease with liveReplicaIds := lease.liveReplicaIds.filter (· ≠ replicaId) })
          ⟨t,p,r⟩ ↔ Holds live ⟨t,p,r⟩ := by
        split_ifs
        · simp [Holds,Table.get_remove,hkey]
        · rw [holds_insert,if_neg hkey]
      rw [hoth]
      constructor
      · simp_all
      · exact And.right

end V2PeerAttachmentLimiter

end Lantunnel.Gateway
