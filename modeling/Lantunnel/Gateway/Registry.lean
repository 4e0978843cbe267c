import Lantunnel.Gateway.Attachment

/-!
# The peer registry and the directory of attachments

The registry keeps, for each Replica of a tunnel, the endpoint it was last seen at and
the stable Peer id it proved (tp-gateway/src/p2p.rs).
-/

namespace Lantunnel.Gateway
open Lib FieldCodec RustNet

/-! ### The peer registry (p2p.rs:8-120) -/

structure PeerEndpoint where
  publicAddr : SocketAddr
  locals : List SocketAddr
  natHint : UInt8
  certFp : Bytes
  lastSeen : ℕ

structure PeerRegistry where
  inner : Table (String × String) PeerEndpoint
  stablePeerByReplica : Table (String × String) String

structure AnnounceAck where
  publicIp : String
  publicPort : UInt16
  serverTimeMs : ℤ

namespace PeerRegistry

def empty : PeerRegistry := ⟨.empty,.empty⟩

def upsert (registry : PeerRegistry) (tunnelId clientId : String) (ep : PeerEndpoint) :
    PeerRegistry :=
  { registry with inner := registry.inner.insert (tunnelId,clientId) ep }

def get (registry : PeerRegistry) (tunnelId clientId : String) : Option PeerEndpoint :=
  registry.inner.get (tunnelId,clientId)

def remove (registry : PeerRegistry) (tunnelId clientId : String) : PeerRegistry where
  inner := registry.inner.remove (tunnelId,clientId)
  stablePeerByReplica := registry.stablePeerByReplica.remove (tunnelId,clientId)

def bindV2Identity (registry : PeerRegistry) (tunnelId peerId replicaId : String) :
    PeerRegistry :=
  { registry with
    stablePeerByReplica := registry.stablePeerByReplica.insert (tunnelId,replicaId) peerId }

def stablePeerId (registry : PeerRegistry) (tunnelId replicaId : String) : Option String :=
  registry.stablePeerByReplica.get (tunnelId,replicaId)

/-- The cutoff is `now - ttl`; it is moved to the other side of the comparison
because an instant may lie before the origin of the model's clock. -/
def evictOlderThan (registry : PeerRegistry) (now ttl : ℕ) : PeerRegistry :=
  let inner:=registry.inner.retain fun _ ep => decide (now<ep.lastSeen+ttl)
  { inner
    stablePeerByReplica := registry.stablePeerByReplica.retain fun key _ => inner.contains key }

end PeerRegistry

def handleAnnounce (registry : PeerRegistry) (now : ℕ) (observed : SocketAddr)
    (tunnelId clientId : String) (locals : List (String × UInt16)) (natHint : UInt8)
    (certFp : Bytes) (serverTimeMs : ℤ) : PeerRegistry × AnnounceAck :=
  let localsSa:=locals.filterMap fun (ip,port) => (parseIpAddr ip).map fun ip => .new ip port
  (registry.upsert tunnelId clientId ⟨observed,localsSa,natHint,certFp,now⟩,
    ⟨observed.ip.toString,observed.port,serverTimeMs⟩)

namespace PeerRegistry
variable {registry : PeerRegistry} {tunnelId clientId t r : String}

@[simp] theorem stablePeerId_upsert {ep : PeerEndpoint} :
    (registry.upsert tunnelId clientId ep).stablePeerId t r=registry.stablePeerId t r := rfl

theorem stablePeerId_remove : (registry.remove tunnelId clientId).stablePeerId t r =
      if t=tunnelId ∧ r=clientId then none else registry.stablePeerId t r := by
  simp only [stablePeerId,remove,Table.get_remove,Prod.mk.injEq]

theorem stablePeerId_bindV2Identity {peerId : String} :
    (registry.bindV2Identity tunnelId peerId clientId).stablePeerId t r =
      if t=tunnelId ∧ r=clientId then some peerId else registry.stablePeerId t r := by
  simp only [stablePeerId,bindV2Identity,Table.get_insert,Prod.mk.injEq]

def Fresh (registry : PeerRegistry) (now ttl : ℕ) (tunnelId clientId : String) : Prop :=
  ∃ ep, registry.get tunnelId clientId=some ep ∧ now<ep.lastSeen+ttl

instance (registry : PeerRegistry) (now ttl : ℕ) (tunnelId clientId : String) :
    Decidable (registry.Fresh now ttl tunnelId clientId) :=
  decidable_of_iff ((registry.get tunnelId clientId).any fun ep => now<ep.lastSeen+ttl) <| by
    unfold Fresh
    cases registry.get tunnelId clientId <;> simp

theorem stablePeerId_evictOlderThan {now ttl : ℕ} {peerId : String} :
    (registry.evictOlderThan now ttl).stablePeerId t r=some peerId ↔
      registry.stablePeerId t r=some peerId ∧ registry.Fresh now ttl t r := by
  have hkept : (registry.inner.retain fun _ ep => decide (now<ep.lastSeen+ttl)).contains (t,r)
      = true ↔ registry.Fresh now ttl t r := by
    simp only [Table.contains,Table.get_retain,Fresh,PeerRegistry.get]
    cases registry.inner.get (t,r) <;> simp
  simp only [stablePeerId,evictOlderThan,Table.get_retain,Option.filter_eq_some_iff,hkept]

end PeerRegistry

/-! ### The directory (lib.rs:578-592) -/

/-- How far `run_client_session` has come for an attachment: its readers run;
they ended and its flow tables are cleared; it returned and dropped its permit;
the last `Arc` is gone. -/
inductive Phase
  | running
  | stopped
  | finished
  | dropped
  deriving DecidableEq

structure Attachment where
  conn : ClientConn
  phase : Phase

structure Directory where
  attachments : Table ℕ Attachment
  nextAddr : ℕ
  clients : Table String (List ClientConn)
  peers : PeerRegistry
  limiter : V2PeerAttachmentLimiter

namespace Directory

def empty : Directory := ⟨.empty,0,.empty,.empty,.empty⟩

def phase (d : Directory) (addr : ℕ) : Option Phase := (d.attachments.get addr).map (·.phase)

def upgrade (d : Directory) (conn : ClientConn) : Option ClientConn :=
  match d.phase conn.addr with
  | none | some .dropped => none
  | some _ => some conn

def registered (d : Directory) (tunnelId : String) : List ClientConn :=
  (d.clients.get tunnelId).getD []

theorem forall_registered {d : Directory} {P : String → ClientConn → Prop} :
    (∀ t, ∀ c∈d.registered t, P t c) ↔ ∀ entry∈d.clients.pairs, ∀ c∈entry.2, P entry.1 c := by
  constructor
  · intro h entry hent c hc
    refine h entry.1 c ?_
    rw [registered,Table.mem_pairs.mp hent]
    exact hc
  · intro h t c hc
    unfold registered at hc
    rcases hget : d.clients.get t with - | list
    · rw [hget] at hc
      cases hc
    rw [hget] at hc
    exact h (t,list) (Table.mem_pairs.mpr hget) c hc

end Directory

end Lantunnel.Gateway
