import Lantunnel.Gateway.Runtime

/-!
# Attachments, permits and identities over whole runs

What a step may do to the directory, and the facts every reachable directory keeps: a
registered attachment is live and holds its permit, no two live attachments share an
identity, and an identity in the registry is that of a registered attachment.
-/

namespace Lantunnel.Gateway
open Lib Core PeerRegistry V2PeerAttachmentLimiter List

def Phase.holdsPermit : Phase → Bool
  | running | stopped => true
  | finished | dropped => false

namespace Directory

def Live (d : Directory) (c : ClientConn) : Prop :=
  ∃ phase, d.attachments.get c.addr=some ⟨c,phase⟩ ∧ phase.holdsPermit=true

structure WellFormed (d : Directory) : Prop where
  known : ∀ addr a, d.attachments.get addr=some a → a.conn.addr=addr ∧ addr<d.nextAddr ∧
    a.conn.authenticatedPeerV2.tunnelId=a.conn.tunnelId ∧
    a.conn.authenticatedPeerV2.replicaId=a.conn.clientId
  registered_live : ∀ t, ∀ c ∈ d.registered t, c.tunnelId=t ∧ d.Live c
  live_holds : ∀ c, d.Live c → d.limiter.Holds c.authenticatedPeerV2
  live_unique : ∀ a b, d.Live a → d.Live b → a.authenticatedPeerV2=b.authenticatedPeerV2 → a=b
  stable_registered : ∀ t r p, d.peers.stablePeerId t r=some p →
    ∃ c ∈ d.registered t, c.authenticatedPeerV2=⟨t,p,r⟩

theorem conn_eq_some {d : Directory} {addr : ℕ} {phases : List Phase} {c : ClientConn} :
    d.conn addr phases=some c ↔ ∃ phase∈phases, d.attachments.get addr=some ⟨c,phase⟩ := by
  rw [conn,Option.bind_eq_some_iff]
  constructor
  · rintro ⟨⟨_,phase⟩,hget,hph⟩
    split_ifs at hph with hmem
    cases hph
    exact ⟨phase,hmem,hget⟩
  · simp_all

theorem WellFormed.live_identity {d : Directory} (wf : d.WellFormed) {c : ClientConn}
    (hc : d.Live c) : c.authenticatedPeerV2.tunnelId=c.tunnelId ∧
      c.authenticatedPeerV2.replicaId=c.clientId := by
  obtain ⟨_,hget,-⟩:=hc
  exact (wf.known _ _ hget).2.2

theorem wellFormed_empty : empty.WellFormed where
  known := by simp [empty]
  registered_live := by simp [empty,registered]
  live_holds := by simp [empty,Live]
  live_unique := by simp [empty,Live]
  stable_registered := by simp [empty,PeerRegistry.empty,PeerRegistry.stablePeerId]

/-- One constructor for each way a step changes the directory. -/
inductive Change (cfg : GatewayP2pConfig) (now : ℕ) (d : Directory) : Directory → Prop
  | same : Change cfg now d d
  | admitted {d' : Directory} (params : AuthParams) (h : admitSession cfg d now params = .ok d') :
    Change cfg now d d'
  | announced (t r : String) (ep : PeerEndpoint) :
    Change cfg now d { d with peers := d.peers.upsert t r ep }
  | unregistered (c : ClientConn) (phase : Phase) (h : d.attachments.get c.addr=some ⟨c,phase⟩) :
    Change cfg now d (d.unregister c)
  | stopped (c : ClientConn) (h : d.attachments.get c.addr=some ⟨c,.running⟩) :
    Change cfg now d (d.setPhase c .stopped)
  | finished (c : ClientConn) (h : d.attachments.get c.addr=some ⟨c,.stopped⟩)
    (hgone : c ∉ d.registered c.tunnelId) :
    Change cfg now d { d.setPhase c .finished with
      limiter := d.limiter.release c.authenticatedPeerV2.tunnelId c.authenticatedPeerV2.peerId
        c.authenticatedPeerV2.replicaId }
  | dropped (c : ClientConn) (h : d.attachments.get c.addr=some ⟨c,.finished⟩) :
    Change cfg now d (d.setPhase c .dropped)
  | swept : Change cfg now d { d with peers := d.peers.evictOlderThan now cfg.peerIdle }

section Effects
variable {cfg : GatewayP2pConfig} {now : ℕ} {d : Directory}

theorem registered_register (c : ClientConn) (t : String) : (register d c).registered t =
      if t=c.tunnelId then d.registered t++[c] else d.registered t := by
  simp only [registered,register,Table.get_insert]
  split_ifs with h
  · rw [Option.getD_some,h]
  · rfl

theorem registered_unregister (c : ClientConn) (t : String) : (d.unregister c).registered t =
      if t=c.tunnelId then (d.registered t).filter fun x => !x.ptrEq c else d.registered t := by
  unfold unregister registered
  rcases hget : d.clients.get c.tunnelId with - | list
  · split_ifs with h
    · simp [h,hget]
    · rfl
  dsimp only
  by_cases h : t=c.tunnelId
  · subst h
    rw [if_pos rfl]
    split_ifs with hemp
    · rw [List.isEmpty_iff] at hemp
      simp [hget,hemp]
    · simp [hget]
  · split_ifs
    · rw [Table.get_remove,if_neg h]
    · rw [Table.get_insert,if_neg h]

theorem unregister_attachments (c : ClientConn) :
    (d.unregister c).attachments=d.attachments ∧ (d.unregister c).nextAddr=d.nextAddr ∧
      (d.unregister c).limiter=d.limiter := by
  unfold unregister
  split <;> exact ⟨rfl,rfl,rfl⟩

variable {c x : ClientConn} {phase phase' : Phase}

theorem mem_registered_unregister {t : String} : x∈(d.unregister c).registered t ↔
      x∈d.registered t ∧ ¬ (t=c.tunnelId ∧ x.addr=c.addr) := by
  rw [registered_unregister]
  split_ifs with h <;> simp [h,ClientConn.ptrEq]

/-- Unregistering an attachment deletes the identity stored under its Replica id
whenever some attachment of its tunnel is registered. -/
theorem stablePeerId_unregister (c : ClientConn) (t r : String) :
    (d.unregister c).peers.stablePeerId t r =
      if d.clients.get c.tunnelId≠none ∧ t=c.tunnelId ∧ r=c.clientId then none
      else d.peers.stablePeerId t r := by
  unfold unregister
  rcases hget : d.clients.get c.tunnelId with - | list
  · simp
  · simp [stablePeerId_remove]

theorem live_setPhase : (d.setPhase c phase).Live x ↔
      if x.addr=c.addr then x=c ∧ phase.holdsPermit=true else d.Live x := by
  unfold Live setPhase
  split_ifs with h
  · simp only [h,Table.get_insert_self,Option.some.injEq,Attachment.mk.injEq]
    constructor
    · simp_all
    rintro ⟨rfl,hp⟩
    exact ⟨phase,⟨rfl,rfl⟩,hp⟩
  · simp only [Table.get_insert,if_neg h]

theorem live_iff_of_get (hget : d.attachments.get c.addr=some ⟨c,phase⟩) (haddr : x.addr=c.addr) :
    d.Live x ↔ x=c ∧ phase.holdsPermit=true := by
  unfold Live
  rw [haddr,hget]
  simp only [Option.some.injEq,Attachment.mk.injEq]
  constructor
  · rintro ⟨p,⟨rfl,rfl⟩,hp⟩
    exact ⟨rfl,hp⟩
  rintro ⟨rfl,hp⟩
  exact ⟨phase,⟨rfl,rfl⟩,hp⟩

theorem live_setPhase_same (hget : d.attachments.get c.addr=some ⟨c,phase⟩)
    (hsame : phase'.holdsPermit=phase.holdsPermit) : (d.setPhase c phase').Live x ↔ d.Live x := by
  rw [live_setPhase]
  split_ifs with h
  · rw [live_iff_of_get hget h,hsame]
  · rfl

theorem known_setPhase (wf : d.WellFormed)
    (hget : d.attachments.get c.addr=some ⟨c,phase⟩) (addr : ℕ) (a : Attachment)
    (ha : (d.setPhase c phase').attachments.get addr=some a) : a.conn.addr=addr ∧ addr<d.nextAddr ∧
      a.conn.authenticatedPeerV2.tunnelId=a.conn.tunnelId ∧
      a.conn.authenticatedPeerV2.replicaId=a.conn.clientId := by
  simp only [setPhase,Table.get_insert] at ha
  split_ifs at ha with h
  · cases ha
    rw [h]
    exact wf.known _ ⟨c,phase⟩ hget
  · exact wf.known _ _ ha

theorem wellFormed_setPhase (wf : d.WellFormed)
    (hget : d.attachments.get c.addr=some ⟨c,phase⟩)
    (hsame : phase'.holdsPermit=phase.holdsPermit) : (d.setPhase c phase').WellFormed where
  known := known_setPhase wf hget
  registered_live := by
    intro t x hx
    obtain ⟨ht,hlive⟩:=wf.registered_live t x hx
    exact ⟨ht,(live_setPhase_same hget hsame).mpr hlive⟩
  live_holds := by
    intro x hx
    exact wf.live_holds x ((live_setPhase_same hget hsame).mp hx)
  live_unique := by
    intro a b ha hb
    exact wf.live_unique a b ((live_setPhase_same hget hsame).mp ha)
      ((live_setPhase_same hget hsame).mp hb)
  stable_registered := wf.stable_registered

theorem admitSession_eq_ok {d' : Directory} {params : AuthParams} (h : admitSession cfg d now params = .ok d') :
    ∃ limiter peers, d.limiter.tryAcquire cfg.maxReplicasPerPeer params.tunnelId params.peerId
        params.clientId = .ok limiter ∧ (∀ t r, peers.stablePeerId t r =
        if t=params.tunnelId ∧ r=params.clientId then some params.peerId
        else d.peers.stablePeerId t r) ∧
      d'=register ⟨d.attachments.insert d.nextAddr ⟨params.conn d.nextAddr,.running⟩,
        d.nextAddr+1,d.clients,peers,limiter⟩ (params.conn d.nextAddr) := by
  obtain ⟨limiter,hacq,h⟩:=RustStd.bind_eq_ok.mp h
  refine ⟨limiter,_,hacq,?_,(Except.ok.inj h).symm⟩
  intro t r
  rw [stablePeerId_bindV2Identity,stablePeerId_upsert]
  rfl

theorem wellFormed_admission (wf : d.WellFormed) {d' : Directory} {params : AuthParams}
    (h : admitSession cfg d now params = .ok d') : d'.WellFormed := by
  obtain ⟨limiter,peers,hacq,hstable,rfl⟩:=admitSession_eq_ok h
  obtain ⟨hnew,hholds⟩:=holds_tryAcquire hacq
  set conn := params.conn d.nextAddr with hconn
  have hfr : ∀ x, d.Live x → x.addr≠d.nextAddr := by
    rintro x ⟨phase,hget,-⟩
    have := (wf.known _ _ hget).2.1
    omega
  have hget : ∀ addr, (d.attachments.insert d.nextAddr ⟨conn,.running⟩).get addr =
      if addr=d.nextAddr then some ⟨conn,.running⟩ else d.attachments.get addr :=
    fun addr => Table.get_insert _ _ _ _
  have hlive : ∀ x, (register ⟨d.attachments.insert d.nextAddr ⟨conn,.running⟩,d.nextAddr+1,
      d.clients,peers,limiter⟩ conn).Live x ↔ x=conn ∨ d.Live x := by
    intro x
    unfold Live
    simp only [register,hget]
    constructor
    · grind
    · rintro (rfl | hx)
      · exact ⟨.running,if_pos rfl,rfl⟩
      have hne:=hfr x hx
      obtain ⟨phase,hx,hph⟩:=hx
      exact ⟨phase,by rw [if_neg hne,hx],hph⟩
  refine ⟨?_,?_,?_,?_,?_⟩
  · intro addr a ha
    simp only [register,hget] at ha ⊢
    split_ifs at ha with haddr
    · cases ha
      exact ⟨haddr.symm,by omega,rfl,rfl⟩
    obtain ⟨h1,_,h3⟩:=wf.known _ _ ha
    exact ⟨h1,by omega,h3⟩
  · intro t x hx
    rw [registered_register] at hx
    rw [hlive]
    split_ifs at hx with ht
    · rcases mem_append.mp hx with hx | hx
      · exact ⟨(wf.registered_live t x hx).1,.inr (wf.registered_live t x hx).2⟩
      rw [mem_singleton] at hx
      exact ⟨by rw [hx,ht],.inl hx⟩
    · exact ⟨(wf.registered_live t x hx).1,.inr (wf.registered_live t x hx).2⟩
  · intro x hx
    rw [hlive] at hx
    refine (hholds _).mpr ?_
    rcases hx with rfl | hx
    · exact .inl rfl
    · exact .inr (wf.live_holds x hx)
  · have hoth : ∀ x, d.Live x → x.authenticatedPeerV2≠conn.authenticatedPeerV2 := by
      intro x hx heq
      have hold:=wf.live_holds x hx
      rw [heq] at hold
      exact hnew hold
    intro a b ha hb heq
    rw [hlive] at ha hb
    rcases ha with rfl | ha <;> rcases hb with rfl | hb
    · rfl
    · exact absurd heq.symm (hoth b hb)
    · exact absurd heq (hoth a ha)
    · exact wf.live_unique a b ha hb heq
  · intro t r p hp
    change peers.stablePeerId t r=some p at hp
    rw [hstable] at hp
    rw [registered_register]
    split_ifs at hp with hkey
    · obtain ⟨rfl,rfl⟩:=hkey
      cases hp
      exact ⟨conn,by rw [if_pos (by rw [hconn]; rfl)]; simp,rfl⟩
    obtain ⟨x,hx,hid⟩:=wf.stable_registered t r p hp
    refine ⟨x,?_,hid⟩
    split_ifs
    · exact mem_append.mpr (.inl hx)
    · exact hx

theorem wellFormed_unregister (wf : d.WellFormed)
    (hget : d.attachments.get c.addr=some ⟨c,phase⟩) : (d.unregister c).WellFormed := by
  obtain ⟨hattach,hnext,hlim⟩:=unregister_attachments (d := d) c
  have hlive : ∀ x, (d.unregister c).Live x ↔ d.Live x := by
    intro x
    unfold Live
    rw [hattach]
  refine ⟨?_,?_,?_,?_,?_⟩
  · rw [hattach,hnext]
    exact wf.known
  · intro t x hx
    rw [hlive]
    exact wf.registered_live t x (mem_registered_unregister.mp hx).1
  · intro x hx
    rw [hlim]
    exact wf.live_holds x ((hlive x).mp hx)
  · intro a b ha hb
    exact wf.live_unique a b ((hlive a).mp ha) ((hlive b).mp hb)
  · intro t r p hp
    rw [stablePeerId_unregister] at hp
    split_ifs at hp with hkey
    obtain ⟨x,hx,hid⟩:=wf.stable_registered t r p hp
    refine ⟨x,mem_registered_unregister.mpr ⟨hx,?_⟩,hid⟩
    rintro ⟨ht,haddr⟩
    -- the witness would be the leaving attachment, whose identity is deleted
    have hxc : x=c := by
      obtain ⟨_,hx',-⟩:=(wf.registered_live t x hx).2
      rw [haddr,hget] at hx'
      cases hx'
      rfl
    subst hxc
    have hrep:=(wf.known _ _ hget).2.2.2
    refine hkey ⟨?_,ht,?_⟩
    · intro hnone
      rw [← ht] at hnone
      simp [registered,hnone] at hx
    · rw [← hrep,hid]

theorem wellFormed_finish (wf : d.WellFormed) (hget : d.attachments.get c.addr=some ⟨c,.stopped⟩)
    (hgone : c∉d.registered c.tunnelId) : WellFormed { d.setPhase c .finished with
      limiter := d.limiter.release c.authenticatedPeerV2.tunnelId c.authenticatedPeerV2.peerId
        c.authenticatedPeerV2.replicaId } := by
  have hcLive : d.Live c := ⟨.stopped,hget,rfl⟩
  have hlive : ∀ x, (d.setPhase c .finished).Live x ↔ d.Live x ∧ x≠c := by
    intro x
    rw [live_setPhase]
    split_ifs with h
    · rw [live_iff_of_get hget h]
      simp [Phase.holdsPermit]
    constructor
    · grind
    · exact And.left
  refine ⟨known_setPhase wf hget,?_,?_,?_,wf.stable_registered⟩
  · intro t x hx
    obtain ⟨ht,hxLive⟩:=wf.registered_live t x hx
    refine ⟨ht,(hlive x).mpr ⟨hxLive,?_⟩⟩
    rintro rfl
    exact hgone (ht ▸ hx)
  · intro x hx
    obtain ⟨hxLive,hne⟩:=(hlive x).mp hx
    refine holds_release.mpr ⟨?_,wf.live_holds x hxLive⟩
    intro heq
    exact hne (wf.live_unique x c hxLive hcLive heq)
  · intro a b ha hb
    exact wf.live_unique a b ((hlive a).mp ha).1 ((hlive b).mp hb).1

theorem Change.wellFormed {d' : Directory} (h : Change cfg now d d') (wf : d.WellFormed) :
    d'.WellFormed := by
  cases h with
  | same => exact wf
  | admitted params h => exact wellFormed_admission wf h
  | announced =>
    exact ⟨wf.known,wf.registered_live,wf.live_holds,wf.live_unique,wf.stable_registered⟩
  | unregistered c phase h => exact wellFormed_unregister wf h
  | stopped c h => exact wellFormed_setPhase wf h rfl
  | finished c h hgone => exact wellFormed_finish wf h hgone
  | dropped c h => exact wellFormed_setPhase wf h rfl
  | swept =>
    refine ⟨wf.known,wf.registered_live,wf.live_holds,wf.live_unique,?_⟩
    intro t r p hp
    exact wf.stable_registered t r p (stablePeerId_evictOlderThan.mp hp).1

end Effects

end Directory

namespace GatewayState
variable {cfg : GatewayP2pConfig} {g : GatewayState} {tr : List Output}
open Directory

theorem get_of_conn (wf : g.directory.WellFormed) {addr : ℕ} {phases : List Phase}
    {c : ClientConn} (h : g.directory.conn addr phases=some c) :
    c.addr=addr ∧ ∃ phase∈phases, g.directory.attachments.get c.addr=some ⟨c,phase⟩ := by
  obtain ⟨phase,hmem,hget⟩:=conn_eq_some.mp h
  have haddr : c.addr=addr := (wf.known _ _ hget).1
  exact ⟨haddr,phase,hmem,by rw [haddr,hget]⟩

theorem announce_directory (cfg : GatewayP2pConfig) (d : Directory) (now : ℕ) (env : Env)
    (self : ClientConn) (locals : List (String × UInt16)) (natHint : NatHint)
    (certFp : CertFingerprint) : (announce cfg d now env self locals natHint certFp).1=d ∨
      ∃ ep, (announce cfg d now env self locals natHint certFp).1 =
        { d with peers := d.peers.upsert self.tunnelId self.clientId ep } := by
  unfold announce
  split
  · exact .inl rfl
  · exact .inr ⟨_,rfl⟩

theorem step_change (wf : g.directory.WellFormed) {e : ℕ × Event} (he : Enabled cfg g e) :
    Change cfg e.1 g.directory (g.step cfg e).1.directory := by
  obtain ⟨now,ev⟩:=e
  have hen:=he.2
  change Change cfg now g.directory (g.stepOf cfg now ev).1
  cases ev with
  | admission params =>
    simp only [stepOf]
    split
    · next d h => exact .admitted params h
    · exact .same
  | message addr msg env =>
    simp only [stepOf]
    split
    · exact .same
    next self hself =>
    split
    · obtain h | ⟨_,h⟩:=announce_directory cfg g.directory now env self _ _ _ <;>
        rw [h]
      · exact .same
      · exact .announced _ _ _
    · exact .same
  | tcpFlow =>
    simp only [stepOf]
    split <;> exact .same
  | flow =>
    simp only [stepOf]
    split <;> exact .same
  | unregister =>
    simp only [stepOf]
    split
    · exact .same
    next c hc =>
    obtain ⟨-,phase,-,hget⟩:=get_of_conn wf hc
    exact .unregistered c phase hget
  | stop =>
    simp only [stepOf]
    split
    · exact .same
    next c hc =>
    obtain ⟨-,_,hmem,hget⟩:=get_of_conn wf hc
    rw [mem_singleton] at hmem
    exact .stopped c (hmem ▸ hget)
  | finish =>
    simp only [stepOf]
    split
    · exact .same
    next c hc =>
    obtain ⟨-,_,hmem,hget⟩:=get_of_conn wf hc
    rw [mem_singleton] at hmem
    exact .finished c (hmem ▸ hget) (hen c hc)
  | drop =>
    simp only [stepOf]
    split
    · exact .same
    next c hc =>
    obtain ⟨-,_,hmem,hget⟩:=get_of_conn wf hc
    rw [mem_singleton] at hmem
    exact .dropped c (hmem ▸ hget)
  | sweep => exact .swept

theorem wellFormed_of_run (h : (machine cfg).Run g tr) : g.directory.WellFormed := by
  refine h.invariant (fun g _ => g.directory.WellFormed) wellFormed_empty ?_
  intro g tr e wf he
  exact (step_change wf he).wellFormed wf

end GatewayState

/-- The registry knows the attachment under its own identity. -/
def Directory.Bound (d : Directory) (c : ClientConn) : Prop :=
  d.peers.stablePeerId c.authenticatedPeerV2.tunnelId c.authenticatedPeerV2.replicaId =
    some c.authenticatedPeerV2.peerId

def Directory.AllBound (d : Directory) : Prop := ∀ t, ∀ c ∈ d.registered t, d.Bound c

/-- The steps that cannot lose the identity of a registered attachment: a sweep
while every registered endpoint is fresh, an admission under a Replica id no
registered attachment of the tunnel uses, and an unregistration whose Replica
id no other registered attachment of the tunnel uses. -/
def KeepsIdentities (cfg : GatewayP2pConfig) (g : GatewayState) (e : ℕ × Event) : Prop :=
  let d:=g.directory
  match e.2 with
  | .sweep => ∀ t, ∀ c ∈ d.registered t, d.peers.Fresh e.1 cfg.peerIdle c.tunnelId c.clientId
  | .admission params =>
    (d.limiter.tryAcquire cfg.maxReplicasPerPeer params.tunnelId params.peerId
      params.clientId).isOk=true →
    ∀ c ∈ d.registered params.tunnelId, c.clientId ≠ params.clientId
  | .unregister addr => ∀ conn, d.conn addr [.running,.stopped,.finished]=some conn →
    ∀ c ∈ d.registered conn.tunnelId, c.clientId=conn.clientId → c.addr=conn.addr
  | _ => True

namespace Directory
variable {cfg : GatewayP2pConfig} {now : ℕ} {d : Directory}

theorem allBound_empty : empty.AllBound := by
  intro t c hc
  simp [empty,registered] at hc

section
variable (wf : d.WellFormed) (hall : d.AllBound)
include wf hall

theorem allBound_sweep : AllBound { d with peers :=d.peers.evictOlderThan now cfg.peerIdle } ↔
      ∀ t, ∀ c∈d.registered t, d.peers.Fresh now cfg.peerIdle c.tunnelId c.clientId := by
  have hone : ∀ t, ∀ c∈d.registered t,
      (Bound { d with peers := d.peers.evictOlderThan now cfg.peerIdle } c ↔
        d.peers.Fresh now cfg.peerIdle c.tunnelId c.clientId) := by
    intro t c hc
    obtain ⟨htun,hrep⟩:=wf.live_identity (wf.registered_live t c hc).2
    have hbd:=hall t c hc
    unfold Bound at hbd ⊢
    rw [stablePeerId_evictOlderThan,htun,hrep]
    rw [htun,hrep] at hbd
    exact and_iff_right hbd
  constructor
  · intro h t c hc
    exact (hone t c hc).mp (h t c hc)
  intro h t c hc
  exact (hone t c hc).mpr (h t c hc)

theorem allBound_admission {d' : Directory}
    {params : AuthParams} (h : admitSession cfg d now params = .ok d') :
    d'.AllBound ↔ ∀ c∈d.registered params.tunnelId, c.clientId≠params.clientId := by
  obtain ⟨_,peers,hacq,hstable,rfl⟩:=admitSession_eq_ok h
  obtain ⟨hnew,-⟩:=holds_tryAcquire hacq
  constructor
  · intro hall' c hc hcl
    obtain ⟨htun,hlive⟩:=wf.registered_live _ c hc
    obtain ⟨hid,hrep⟩:=wf.live_identity hlive
    have hbd : Bound _ c := hall' params.tunnelId c (by
      rw [registered_register,if_pos (show params.tunnelId=(params.conn _).tunnelId from rfl)]
      exact mem_append.mpr (.inl hc))
    change peers.stablePeerId _ _=_ at hbd
    rw [hstable,if_pos ⟨hid.trans htun,hrep.trans hcl⟩] at hbd
    -- the older attachment would hold the very permit that was just given out
    refine hnew ?_
    have hold:=wf.live_holds c hlive
    have heq : c.authenticatedPeerV2=⟨params.tunnelId,params.peerId,params.clientId⟩ := by
      rw [← hid.trans htun,← hrep.trans hcl,Option.some.inj hbd]
    rwa [heq] at hold
  · intro hunused t c hc
    change peers.stablePeerId _ _=_
    rw [hstable]
    rw [registered_register] at hc
    have hold : c∈d.registered t → (if c.authenticatedPeerV2.tunnelId=params.tunnelId ∧
        c.authenticatedPeerV2.replicaId=params.clientId then some params.peerId
        else d.peers.stablePeerId c.authenticatedPeerV2.tunnelId c.authenticatedPeerV2.replicaId) =
        some c.authenticatedPeerV2.peerId := by
      intro hc
      obtain ⟨htun,hlive⟩:=wf.registered_live t c hc
      obtain ⟨hid,hrep⟩:=wf.live_identity hlive
      rw [if_neg]
      · exact hall t c hc
      rintro ⟨h1,h2⟩
      rw [hid,htun] at h1
      exact hunused c (h1 ▸ hc) (hrep ▸ h2)
    split_ifs at hc with ht
    · rcases mem_append.mp hc with hc | hc
      · exact hold hc
      rw [mem_singleton] at hc
      rw [hc]
      exact if_pos ⟨rfl,rfl⟩
    · exact hold hc

theorem allBound_unregister (conn : ClientConn) : (d.unregister conn).AllBound ↔
      ∀ c∈d.registered conn.tunnelId, c.clientId=conn.clientId → c.addr=conn.addr := by
  have hone : ∀ t, ∀ c∈d.registered t, ((d.unregister conn).Bound c ↔
      ¬ (c.tunnelId=conn.tunnelId ∧ c.clientId=conn.clientId)) := by
    intro t c hc
    obtain ⟨htun,hlive⟩:=wf.registered_live t c hc
    obtain ⟨hid,hrep⟩:=wf.live_identity hlive
    have hbd:=hall t c hc
    unfold Bound at hbd ⊢
    rw [stablePeerId_unregister,hbd,hid,hrep]
    split_ifs with hkey
    · simp [hkey.2]
    constructor
    · intro _ hsame
      refine hkey ⟨?_,hsame⟩
      intro hnone
      rw [← hsame.1,htun] at hnone
      simp [registered,hnone] at hc
    · intro _
      rfl
  constructor
  · intro h c hc hcl
    by_contra haddr
    have hstill : c∈(d.unregister conn).registered conn.tunnelId :=
      mem_registered_unregister.mpr ⟨hc,fun hsame => haddr hsame.2⟩
    exact (hone _ c hc).mp (h _ c hstill) ⟨(wf.registered_live _ c hc).1,hcl⟩
  · intro h t c hc
    obtain ⟨hc,hstays⟩:=mem_registered_unregister.mp hc
    refine (hone t c hc).mpr ?_
    rintro ⟨htun,hcl⟩
    have ht : t=conn.tunnelId := (wf.registered_live t c hc).1.symm.trans htun
    exact hstays ⟨ht,h c (ht ▸ hc) hcl⟩

end

end Directory

theorem p2pV2TargetInTunnel_isSome {d : Directory} (wf : d.WellFormed) {t : String}
    {source target : ClientConn} (hsrc : source∈d.registered t)
    (htgt : target∈d.registered t) (hboundSource : d.Bound source)
    (hbound : d.Bound target)
    (hpeers : source.authenticatedPeerV2.peerId≠target.authenticatedPeerV2.peerId) :
    (p2pV2TargetInTunnel d source target.authenticatedPeerV2.peerId).isSome=true := by
  obtain ⟨htun,hlive⟩:=wf.registered_live t source hsrc
  obtain ⟨hid,hrep⟩:=wf.live_identity hlive
  obtain ⟨htun',hlive'⟩:=wf.registered_live t target htgt
  obtain ⟨hid',hrep'⟩:=wf.live_identity hlive'
  unfold Directory.Bound at hboundSource hbound
  rw [hid',htun',hrep'] at hbound
  unfold p2pV2TargetInTunnel
  rw [if_neg (by simp [hid,hrep,hpeers,← hboundSource]),find?_isSome]
  refine ⟨target,mem_reverse.mpr ?_,?_⟩
  · rw [hid,htun]
    exact htgt
  · simp [hid,hid',htun,htun',hrep',hbound]

namespace GatewayState
variable {cfg : GatewayP2pConfig} {g : GatewayState} {tr : List Output}
open Directory

theorem step_allBound_iff (wf : g.directory.WellFormed) (hall : g.directory.AllBound)
    {e : ℕ × Event} : (g.step cfg e).1.directory.AllBound ↔ KeepsIdentities cfg g e := by
  obtain ⟨now,ev⟩:=e
  change (g.stepOf cfg now ev).1.AllBound ↔ _
  cases ev with
  | admission params =>
    simp only [stepOf,KeepsIdentities]
    rcases hacq : g.directory.limiter.tryAcquire cfg.maxReplicasPerPeer params.tunnelId
        params.peerId params.clientId with reason | limiter
    · have herr : admitSession cfg g.directory now params = .error reason := by
        unfold admitSession
        rw [hacq]
        rfl
      rw [herr]
      simp [Except.isOk,Except.toBool,hall]
    · obtain ⟨d',hok⟩ : ∃ d', admitSession cfg g.directory now params = .ok d' := by
        unfold admitSession
        rw [hacq]
        exact ⟨_,rfl⟩
      rw [hok]
      simp only [Except.isOk,Except.toBool,true_imp_iff]
      exact allBound_admission wf hall hok
  | message addr msg env =>
    simp only [stepOf,KeepsIdentities,iff_true]
    split
    · exact hall
    split
    · obtain h | ⟨_,h⟩:=announce_directory cfg g.directory now env _ _ _ _ <;> rw [h]
      · exact hall
      · exact hall
    · exact hall
  | tcpFlow =>
    simp only [stepOf,KeepsIdentities,iff_true]
    split <;> exact hall
  | flow =>
    simp only [stepOf,KeepsIdentities,iff_true]
    split <;> exact hall
  | unregister addr =>
    simp only [stepOf,KeepsIdentities]
    rcases hconn : g.directory.conn addr [.running,.stopped,.finished] with - | conn
    · simp [hall]
    simp only [Option.some.injEq,forall_eq']
    exact allBound_unregister wf hall conn
  | stop =>
    simp only [stepOf,KeepsIdentities,iff_true]
    split <;> exact hall
  | finish =>
    simp only [stepOf,KeepsIdentities,iff_true]
    split <;> exact hall
  | drop =>
    simp only [stepOf,KeepsIdentities,iff_true]
    split <;> exact hall
  | sweep => exact allBound_sweep wf hall

/-- In every run whose steps keep identities, each registered attachment is
bound to its own identity and so is never refused as a relay endpoint for lack
of one; and each such state has no other way to lose an identity. -/
theorem registered_bound_of_keepsIdentities
    (h : ((machine cfg).restrict (KeepsIdentities cfg)).Run g tr) :
    (∀ t, ∀ c ∈ g.directory.registered t,
      g.directory.peers.stablePeerId c.tunnelId c.clientId = some c.authenticatedPeerV2.peerId) ∧
    (∀ t, ∀ source ∈ g.directory.registered t, ∀ target ∈ g.directory.registered t,
      source.authenticatedPeerV2.peerId ≠ target.authenticatedPeerV2.peerId →
      (p2pV2TargetInTunnel g.directory source target.authenticatedPeerV2.peerId).isSome = true) ∧
    ∀ e, (g.step cfg e).1.directory.AllBound ↔ KeepsIdentities cfg g e := by
  have wf : g.directory.WellFormed := wellFormed_of_run h.of_restrict
  have hall : g.directory.AllBound := by
    refine (h.invariant (fun g _ => g.directory.WellFormed ∧ g.directory.AllBound) ?_ ?_).2
    · exact ⟨wellFormed_empty,allBound_empty⟩
    intro g tr e hinv he
    obtain ⟨hen,hkeeps⟩:=he
    exact ⟨(step_change hinv.1 hen).wellFormed hinv.1,
      (step_allBound_iff hinv.1 hinv.2).mpr hkeeps⟩
  refine ⟨?_,?_,fun e => step_allBound_iff wf hall⟩
  · intro t c hc
    obtain ⟨hid,hrep⟩:=wf.live_identity (wf.registered_live t c hc).2
    rw [← hid,← hrep]
    exact hall t c hc
  · intro t source hsrc target htgt hpeers
    exact p2pV2TargetInTunnel_isSome wf hsrc htgt (hall t source hsrc)
      (hall t target htgt) hpeers

def defaultConfig : GatewayP2pConfig := ⟨true,120000000000,8⟩

def quietEnv : Env := ⟨.ok (),false,false,true,.ok (),true,true,true,true,0⟩

def firstSession : AuthParams :=
  ⟨"t","t-00000001-0","peer-a",.v4 0x01020304 9,⟨true,true⟩⟩

def announceOfFirst : Event :=
  .message 0 (.p2pAnnounce "" "" [] .unknown (Vector.replicate 32 0)) quietEnv

def announcedRun : List (ℕ × Event) :=
  [(0,.admission firstSession),(30000000000,announceOfFirst),(120000000000,.sweep)]

def silentRun : List (ℕ × Event) :=
  [(0,.admission firstSession),(120000000000,.sweep),(121000000000,announceOfFirst)]

theorem registered_bound_announcedRun :
    ∃ g tr, ((machine defaultConfig).restrict (KeepsIdentities defaultConfig)).Run g tr ∧
      g.directory.registered "t" = [firstSession.conn 0] ∧
      g.directory.peers.stablePeerId "t" "t-00000001-0" = some "peer-a" := by
  have hacc : ((machine defaultConfig).restrict (KeepsIdentities defaultConfig)).Accepts .empty
      announcedRun := by
    refine ⟨⟨⟨by decide,trivial⟩,?_⟩,⟨⟨by decide,trivial⟩,trivial⟩,⟨⟨by decide,rfl⟩,?_⟩,
      trivial⟩
    · intro _ c hc
      cases hc
    · exact forall_registered.mpr (by decide)
  have hrun:=Machine.Run.exec .init announcedRun hacc
  have hreg : (((machine defaultConfig).restrict (KeepsIdentities defaultConfig)).exec .empty
      announcedRun).1.directory.registered "t" = [firstSession.conn 0] := by decide
  refine ⟨_,_,hrun,hreg,?_⟩
  refine (registered_bound_of_keepsIdentities hrun).1 "t" (firstSession.conn 0) ?_
  exact hreg ▸ mem_singleton_self _

theorem silentRun_loses_identity :
    ∃ g tr, (machine defaultConfig).Run g tr ∧ ∃ c ∈ g.directory.registered "t",
      c = firstSession.conn 0 ∧ (g.directory.peers.get c.tunnelId c.clientId).isSome = true ∧
      g.directory.peers.stablePeerId c.tunnelId c.clientId = none := by
  refine ⟨_,_,Machine.Run.exec .init silentRun ⟨?_,?_,?_,trivial⟩,firstSession.conn 0,?_⟩
  · exact ⟨by decide,trivial⟩
  · exact ⟨by decide,rfl⟩
  · exact ⟨by decide,trivial⟩
  · decide

end GatewayState

end Lantunnel.Gateway
