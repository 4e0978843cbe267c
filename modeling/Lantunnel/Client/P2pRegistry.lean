import Lantunnel.Lib.Occupancy
import Lantunnel.Client.P2pSessions

/-!
# P2P sessions of a Client (tp-client/src/engine.rs)

The engine keeps a `MultiSession` for each relay session. A negotiated session is
reserved first, which refuses a relation with an eligible session or another
reservation, and installed later; the watchdog lifts quarantines without looking.
-/

namespace Lantunnel.Client
open Lib RustStd MultiSession List Function Table
open Core (SessionId)

/-! ### The engine's sessions (engine.rs:1110-1120, 1187-1192, 1295-1317) -/

structure ReplicaMultiSession where
  clientId : String
  -- the identity of the `Arc<MultiSession>`
  multi : ℕ
  relayActive : Bool
  relayAcceptsNewFlows : Bool
  transportGeneration : ℕ

structure PendingP2pInstall where
  multi : ℕ
  peerClientId : String
  relationKey : Option PeerRelationKey

structure P2pRegistry where
  multis : ℕ → MultiSession
  replicaSessions : List ReplicaMultiSession
  -- `Engine::multi`
  anchor : Option ℕ
  p2pAnchorClientId : Option String
  p2pPendingInstalls : Table SessionId PendingP2pInstall
  -- the source's counter wraps, which only moves the turn
  p2pInstallRr : ℕ
  -- the identity of the next `Arc<Session>`
  nextSession : ℕ

namespace P2pRegistry
variable (self : P2pRegistry)

def new : P2pRegistry := ⟨fun _ => .newWithRelayOnly,[],none,none,.empty,0,0⟩

def onMulti (multi : ℕ) (f : MultiSession → MultiSession) : P2pRegistry :=
  { self with multis := Function.update self.multis multi (f (self.multis multi)) }

def uniqueP2pMultis : List ℕ :=
  (self.replicaSessions.map (·.multi)++self.anchor.toList).foldl
    (fun multis multi => if multis.contains multi then multis else multis++[multi]) []

/-! ### Reservations (engine.rs:4788-4880, 5140-5176) -/

def hasEligibleP2pRelation (relationKey : PeerRelationKey) : Bool :=
  self.uniqueP2pMultis.any fun multi => (self.multis multi).hasEligibleP2pRelation relationKey

def hasLiveOrPendingP2pRelation (relationKey : PeerRelationKey) : Bool :=
  (self.p2pPendingInstalls.pairs.any fun pending => pending.2.relationKey=some relationKey) ||
    self.hasEligibleP2pRelation relationKey

def pickP2pInstallMultiSession (preferredClientId : Option String) : Option ℕ × ℕ :=
  match preferredClientId with
  | some clientId =>
    ((self.replicaSessions.find? fun entry =>
      entry.relayActive && entry.relayAcceptsNewFlows && entry.clientId=clientId).map (·.multi),
      self.p2pInstallRr)
  | none =>
    let relaySessions:=self.replicaSessions.filter fun entry =>
      entry.relayActive && entry.relayAcceptsNewFlows
    if relaySessions=[] then (self.anchor,self.p2pInstallRr)
    else
      ((relaySessions[self.p2pInstallRr % relaySessions.length]?).map (·.multi),self.p2pInstallRr+1)

def reserveP2pSessionInstallForRelation (sessionId : SessionId) (preferredClientId peerClientId : Option String)
    (relationKey : Option PeerRelationKey) (permit : Bool) : Bool × P2pRegistry :=
  if relationKey.any self.hasLiveOrPendingP2pRelation then (false,self)
  else
    match self.pickP2pInstallMultiSession preferredClientId with
    | (none,rr) => (false,{ self with p2pInstallRr := rr })
    | (some multi,rr) =>
      let peerClientId:=(peerClientId.filter fun id => trim id ≠ "").getD (sessionIdText sessionId)
      if peerClientId ≠ sessionIdText sessionId ∧ !permit then (false,{ self with p2pInstallRr := rr })
      else
        (true,{ self with
          p2pInstallRr := rr
          p2pPendingInstalls := self.p2pPendingInstalls.insert sessionId ⟨multi,peerClientId,relationKey⟩ })

/-- Also `expire_p2p_session_install`. -/
def unreserveP2pSessionInstall (sessionId : SessionId) : P2pRegistry :=
  { self with p2pPendingInstalls := self.p2pPendingInstalls.remove sessionId }

def updateP2pPendingPeerClientId (sessionId : SessionId) (peerClientId : String) : P2pRegistry :=
  let peerClientId:=trim peerClientId
  match self.p2pPendingInstalls.get sessionId with
  | some pending =>
    if peerClientId = "" then self
    else { self with
      p2pPendingInstalls := self.p2pPendingInstalls.insert sessionId { pending with peerClientId } }
  | none => self

/-! ### Installing (engine.rs:8144-8262) -/

structure InstallEnv where
  requireReservation : Bool
  -- the task is cancelled before the install, or right after it
  cancelled : Bool
  cancelledLate : Bool
  groupContext : Bool
  -- the relay context of a session that comes without a reservation
  relayContext : Option ℕ

def targetIsLive (multi : ℕ) : Bool :=
  self.anchor=some multi || self.replicaSessions.any fun entry => entry.multi=multi

def installPending (sessionId : SessionId) (pending : PendingP2pInstall) (env : InstallEnv) :
    Except String Unit × P2pRegistry :=
  if !self.targetIsLive pending.multi then (.error "stale MultiSession for P2P install",self)
  else if !env.groupContext then
    (.error "no live group context/access policy for proxy session",self)
  else
    match (self.multis pending.multi).installP2pSessionForRelation sessionId pending.peerClientId
        self.nextSession pending.relationKey with
    | .error error => (.error error,{ self with nextSession := self.nextSession+1 })
    | .ok multi =>
      let installed:=self.onMulti pending.multi fun _ => multi
      let installed:={ installed with nextSession := self.nextSession+1 }
      if env.cancelledLate then
        (.error "P2P install cancelled",
          installed.onMulti pending.multi fun multi => (multi.closeP2pSessionForHandle self.nextSession).2)
      else (.ok (),installed)

def installP2pSessionInner (sessionId : SessionId) (env : InstallEnv) : Except String Unit × P2pRegistry :=
  if env.cancelled then (.error "P2P install cancelled",self.unreserveP2pSessionInstall sessionId)
  else
    match self.p2pPendingInstalls.get sessionId with
    | some pending => (self.unreserveP2pSessionInstall sessionId).installPending sessionId pending env
    | none =>
      if env.requireReservation then (.error "no live reservation for P2P install",self)
      else
        match env.relayContext with
        | none => (.error "no live MultiSession for P2P install",self)
        | some multi => self.installPending sessionId ⟨multi,sessionIdText sessionId,none⟩ env

/-! ### Closing (engine.rs:3770-3820, 5065-5088, 8091-8107) -/

def closeP2pSessionById (sessionId : SessionId) : P2pRegistry :=
  match (self.anchor.toList++self.replicaSessions.map (·.multi)).find? fun multi =>
      (self.multis multi).p2pSessions.contains sessionId with
  | some multi => self.onMulti multi fun multi => (multi.closeP2pSession sessionId).2
  | none => self

def retireOverlayPeer (peerId : String) : P2pRegistry :=
  let peerFamily:=replicaFamilyId peerId
  let stale:=fun (pending : PendingP2pInstall) =>
    replicaFamilyId pending.peerClientId=peerFamily ∨
      pending.relationKey.any fun relation =>
        relation.firstPeerFamily=peerFamily || relation.secondPeerFamily=peerFamily
  (self.anchor.toList++self.replicaSessions.map (·.multi)).foldl
    (fun self multi => self.onMulti multi fun multi => multi.closeP2pSessionsForPeer peerId)
    { self with p2pPendingInstalls := self.p2pPendingInstalls.retain fun _ pending => !stale pending }

def disconnect : P2pRegistry :=
  let closed:=(self.anchor.toList++self.replicaSessions.map (·.multi)).foldl
    (fun self multi => self.onMulti multi MultiSession.closeAllP2p) self
  { closed with
    replicaSessions := [], anchor := none, p2pAnchorClientId := none, p2pPendingInstalls := .empty,
    p2pInstallRr := 0 }

/-! ### Relay sessions come and go (engine.rs:4110-4193, 4241-4357) -/

def registerReplicaMultiSession (clientId : String) (multi transportGeneration : ℕ) : P2pRegistry :=
  let sessions:=self.replicaSessions.filter fun entry =>
    !(entry.clientId=clientId && entry.transportGeneration=transportGeneration && entry.multi=multi)
  let anchorId:=self.p2pAnchorClientId.getD clientId
  { self with
    replicaSessions := sessions++[⟨clientId,multi,true,true,transportGeneration⟩]
    p2pAnchorClientId := some anchorId
    anchor := if anchorId=clientId then some multi else self.anchor }

/-- A `MultiSession` that still has P2P sessions is kept without its relay. -/
def unregisterRelayClosedMultiSession (clientId : String) (multi : ℕ) : P2pRegistry :=
  let ours:=fun (entry : ReplicaMultiSession) => entry.clientId=clientId && entry.multi=multi
  { self with
    replicaSessions :=
      if (self.multis multi).p2pSessionCount=0 then self.replicaSessions.filter fun entry => !ours entry
      else self.replicaSessions.map fun entry =>
        if ours entry then { entry with relayActive := false, relayAcceptsNewFlows := false } else entry
    anchor := if self.anchor=some multi then none else self.anchor }

def setRelayAcceptsNewFlows (clientId : String) (transportGeneration multi : ℕ) (value : Bool) : P2pRegistry :=
  { self with
    replicaSessions := self.replicaSessions.map fun entry =>
      if entry.clientId=clientId && entry.transportGeneration=transportGeneration &&
          entry.multi=multi && (!value || entry.relayActive) then
        { entry with relayAcceptsNewFlows := value }
      else entry }

def resetReplicaSessionsForConnect (anchorClientId : Option String) : P2pRegistry :=
  let sessions:=self.replicaSessions.filter fun entry => 0<(self.multis entry.multi).p2pSessionCount
  { self with
    replicaSessions := sessions.map fun entry =>
      { entry with relayActive := false, relayAcceptsNewFlows := false }
    p2pInstallRr := 0
    p2pPendingInstalls := .empty
    p2pAnchorClientId := anchorClientId
    anchor := none }

end P2pRegistry

inductive P2pEvent
  | reserve (sessionId : SessionId) (preferredClientId peerClientId : Option String)
      (relationKey : Option PeerRelationKey) (permit : Bool)
  | unreserve (sessionId : SessionId)
  | updatePeer (sessionId : SessionId) (peerClientId : String)
  | install (sessionId : SessionId) (env : P2pRegistry.InstallEnv)
  | watchdog (multi sendShell : ℕ) (config : LinkWatchdogConfig)
      (snapshot recheckSnapshot : LinkWatchdogSnapshot)
  | closeById (sessionId : SessionId)
  | closeForHandle (multi session : ℕ)
  | retire (peerId : String)
  | register (clientId : String) (multi transportGeneration : ℕ)
  | relayClosed (clientId : String) (multi : ℕ)
  | relayUsable (clientId : String) (transportGeneration multi : ℕ) (value : Bool)
  | reset (anchorClientId : Option String)
  | disconnect

inductive P2pReport
  | reserved (sessionId : SessionId) (accepted : Bool)
  | installed (sessionId : SessionId) (result : Except String Unit)

open P2pRegistry in
def stepP2p (self : P2pRegistry) : P2pEvent → P2pRegistry × List P2pReport
  | .reserve sessionId preferredClientId peerClientId relationKey permit =>
    let (accepted,self):=self.reserveP2pSessionInstallForRelation sessionId preferredClientId peerClientId
      relationKey permit
    (self,[.reserved sessionId accepted])
  | .unreserve sessionId => (self.unreserveP2pSessionInstall sessionId,[])
  | .updatePeer sessionId peerClientId => (self.updateP2pPendingPeerClientId sessionId peerClientId,[])
  | .install sessionId env =>
    let (result,self):=self.installP2pSessionInner sessionId env
    (self,[.installed sessionId result])
  | .watchdog multi sendShell config snapshot recheckSnapshot =>
    (self.onMulti multi fun multi => multi.runP2pLinkWatchdog sendShell config snapshot recheckSnapshot,[])
  | .closeById sessionId => (self.closeP2pSessionById sessionId,[])
  | .closeForHandle multi session =>
    (self.onMulti multi fun multi => (multi.closeP2pSessionForHandle session).2,[])
  | .retire peerId => (self.retireOverlayPeer peerId,[])
  | .register clientId multi transportGeneration =>
    (self.registerReplicaMultiSession clientId multi transportGeneration,[])
  | .relayClosed clientId multi => (self.unregisterRelayClosedMultiSession clientId multi,[])
  | .relayUsable clientId transportGeneration multi value =>
    (self.setRelayAcceptsNewFlows clientId transportGeneration multi value,[])
  | .reset anchorClientId => (self.resetReplicaSessionsForConnect anchorClientId,[])
  | .disconnect => (self.disconnect,[])

def p2pMachine : Machine P2pRegistry P2pEvent P2pReport where
  init := .new
  enabled := fun _ _ => True
  step := stepP2p

/-- Two installed sessions of a relation that take new flows are one. -/
def P2pRegistry.OneLive (self : P2pRegistry) : Prop :=
  ∀ relationKey multi multi' sessionId sessionId', (self.multis multi).Eligible relationKey sessionId →
    (self.multis multi').Eligible relationKey sessionId' → multi=multi' ∧ sessionId=sessionId'

/-- A recovered session finds its relation neither live nor pending. -/
def RecoversAlone (self : P2pRegistry) : P2pEvent → Prop
  | .watchdog multi sendShell config snapshot _ =>
    evaluateLinkWatchdog .p2p config snapshot = .keep →
      ∀ sessionId entry relationKey, (self.multis multi).entryForHandle sendShell=some (sessionId,entry) →
        entry.acceptsNewFlows=false → entry.relationKey=some relationKey →
          self.hasLiveOrPendingP2pRelation relationKey=false
  | _ => True

inductive P2pPlace
  | live (multi : ℕ) (sessionId : SessionId)
  | pending (sessionId : SessionId)

namespace P2pRegistry
variable {r r' : P2pRegistry}

def relays (r : P2pRegistry) : List ReplicaMultiSession × Option ℕ := (r.replicaSessions,r.anchor)

def Reserved (r : P2pRegistry) (relationKey : PeerRelationKey) (sessionId : SessionId) : Prop :=
  ∃ pending, r.p2pPendingInstalls.get sessionId=some pending ∧ pending.relationKey=some relationKey

/-- The reservations and, if they count, the sessions. -/
def occupancy (live : Bool) (r : P2pRegistry) : Occupancy PeerRelationKey P2pPlace
  | relationKey, .live multi sessionId => live=true ∧ (r.multis multi).Eligible relationKey sessionId
  | relationKey, .pending sessionId => r.Reserved relationKey sessionId

/-- Sessions stand in registered `MultiSession`s. -/
structure Inv (live : Bool) (r : P2pRegistry) : Prop where
  registered : ∀ multi sessionId entry, (r.multis multi).p2pSessions.get sessionId=some entry →
    ∃ replica ∈ r.replicaSessions, replica.multi=multi
  anchored : ∀ multi, r.anchor=some multi → ∃ replica ∈ r.replicaSessions, replica.multi=multi
  keyed : ∀ multi, (r.multis multi).Keyed
  sole : (r.occupancy live).Sole

variable {live : Bool} {multi : ℕ} {relationKey : PeerRelationKey} {f : MultiSession → MultiSession}

theorem mem_uniqueP2pMultis :
    multi∈r.uniqueP2pMultis ↔ multi∈r.replicaSessions.map (·.multi)++r.anchor.toList := by
  have hfold : ∀ (l acc : List ℕ),
      multi∈l.foldl (fun multis m => if multis.contains m then multis else multis++[m]) acc ↔
        multi∈acc ∨ multi∈l := by
    intro l
    induction l with
    | nil => simp
    | cons m l ih =>
      intro acc
      rw [foldl_cons,ih]
      split
      · rename_i hmem
        have hmem:=contains_iff_mem.mp hmem
        constructor
        · rintro (h | h)
          · exact .inl h
          · exact .inr (mem_cons_of_mem _ h)
        rintro (h | h)
        · exact .inl h
        rcases mem_cons.mp h with rfl | h
        · exact .inl hmem
        · exact .inr h
      · simp [or_assoc]
  rw [uniqueP2pMultis,hfold]
  simp

theorem free_of_not_liveOrPending (hinv : r.Inv live) {counted : Bool}
    (h : r.hasLiveOrPendingP2pRelation relationKey=false) (place : P2pPlace) :
    ¬r.occupancy counted relationKey place := by
  rw [hasLiveOrPendingP2pRelation,Bool.or_eq_false_iff,any_eq_false,hasEligibleP2pRelation,
    any_eq_false] at h
  intro hpl
  cases place with
  | pending sessionId =>
    obtain ⟨pending,hget,hkey⟩:=hpl
    exact h.1 (sessionId,pending) (mem_pairs.mpr hget) (decide_eq_true hkey)
  | live multi sessionId =>
    refine h.2 multi ?_ (hasEligibleP2pRelation_iff.mpr ⟨sessionId,hpl.2⟩)
    obtain ⟨-,entry,hget,-⟩:=hpl
    obtain ⟨_,hrep,rfl⟩:=hinv.registered multi sessionId entry hget
    rw [mem_uniqueP2pMultis]
    exact mem_append_left _ (mem_map_of_mem hrep)

theorem Inv.new : Inv live .new := by
  refine ⟨?_,?_,?_,?_⟩
  · intro multi sessionId entry hget
    cases hget
  · intro multi hanc
    cases hanc
  · intro multi sessionId entry hget
    cases hget
  · intro relationKey place place' hpl
    cases place with
    | live =>
      obtain ⟨-,_,hget,-⟩:=hpl
      cases hget
    | pending =>
      obtain ⟨_,hget,-⟩:=hpl
      cases hget

/-- Sessions and reservations were dropped, or quarantined. -/
structure Yields (r r' : P2pRegistry) : Prop where
  multis : ∀ multi, (r.multis multi).Yields (r'.multis multi)
  pending : ∀ sessionId pending', r'.p2pPendingInstalls.get sessionId=some pending' →
    ∃ pending, r.p2pPendingInstalls.get sessionId=some pending ∧
      pending'.relationKey=pending.relationKey

theorem Yields.occupancy (h : r.Yields r') : (r.occupancy live).Leaves (r'.occupancy live) := by
  intro relationKey place hpl
  cases place with
  | live multi => exact hpl.imp_right (h.multis multi).eligible
  | pending sessionId =>
    obtain ⟨pending',hget',hkey'⟩:=hpl
    obtain ⟨pending,hget,hkey⟩:=h.pending sessionId pending' hget'
    exact ⟨pending,hget,hkey.symm.trans hkey'⟩

theorem Yields.refl (r : P2pRegistry) : r.Yields r :=
  ⟨fun _ => .refl _,fun _ pending h => ⟨pending,h,rfl⟩⟩

theorem Yields.trans {r'' : P2pRegistry} (h : r.Yields r') (h' : r'.Yields r'') : r.Yields r'' := by
  refine ⟨fun multi => (h.multis multi).trans (h'.multis multi),?_⟩
  intro sessionId pending'' hget
  obtain ⟨pending',hget',hkey'⟩:=h'.pending sessionId pending'' hget
  obtain ⟨pending,hget₀,hkey⟩:=h.pending sessionId pending' hget'
  exact ⟨pending,hget₀,hkey'.trans hkey⟩

theorem onMulti_yields (r : P2pRegistry)
    (hf : (r.multis multi).Yields (f (r.multis multi))) : r.Yields (r.onMulti multi f) := by
  refine ⟨fun m => ?_,fun _ pending h => ⟨pending,h,rfl⟩⟩
  by_cases hm : m=multi
  · subst hm
    simpa [onMulti] using hf
  have hmulti : (r.onMulti multi f).multis m=r.multis m := update_of_ne hm _ _
  rw [hmulti]
  exact .refl _

theorem foldl_yields (hf : ∀ multi : MultiSession, multi.Yields (f multi))
    (multis : List ℕ) (r : P2pRegistry) :
    r.Yields (multis.foldl (fun r multi => r.onMulti multi f) r) := by
  induction multis generalizing r with
  | nil => exact .refl r
  | cons multi multis ih => exact (r.onMulti_yields (hf _)).trans (ih _)

section
variable (r : P2pRegistry)

theorem unreserve_yields (sessionId : SessionId) :
    r.Yields (r.unreserveP2pSessionInstall sessionId) :=
  ⟨fun _ => .refl _,fun _ pending h => ⟨pending,get_of_get_remove h,rfl⟩⟩

theorem updatePeer_yields (sessionId : SessionId) (peerClientId : String) :
    r.Yields (r.updateP2pPendingPeerClientId sessionId peerClientId) := by
  simp only [updateP2pPendingPeerClientId]
  split
  · rename_i pending hpend
    split
    · exact .refl r
    refine ⟨fun _ => .refl _,fun key pending' hget => ?_⟩
    rcases get_of_get_insert hget with hold | ⟨rfl,rfl⟩
    · exact ⟨pending',hold,rfl⟩
    · exact ⟨pending,hpend,rfl⟩
  · exact .refl r

theorem closeById_yields (sessionId : SessionId) : r.Yields (r.closeP2pSessionById sessionId) := by
  rw [closeP2pSessionById]
  split
  · exact r.onMulti_yields (closeP2pSession_yields _ _)
  · exact .refl r

theorem retire_yields (peerId : String) : r.Yields (r.retireOverlayPeer peerId) := by
  refine Yields.trans ?_ (foldl_yields (fun multi => multi.closeP2pSessionsForPeer_yields peerId) _ _)
  refine ⟨fun _ => .refl _,fun sessionId pending hget => ⟨pending,?_,rfl⟩⟩
  rw [get_retain] at hget
  exact (Option.filter_eq_some_iff.mp hget).1

theorem disconnect_yields : r.Yields r.disconnect := by
  have hcls:=foldl_yields closeAllP2p_yields
    (r.anchor.toList++r.replicaSessions.map (·.multi)) r
  refine ⟨hcls.multis,fun sessionId pending hget => ?_⟩
  cases hget

end

theorem reserve_change (hinv : r.Inv live) (sessionId : SessionId) (preferredClientId peerClientId : Option String)
    (relationKey : Option PeerRelationKey) (permit : Bool) :
    (r.occupancy live).Change ((r.reserveP2pSessionInstallForRelation sessionId preferredClientId
      peerClientId relationKey permit).2.occupancy live) := by
  rw [reserveP2pSessionInstallForRelation]
  split
  · exact .leave (.refl _)
  rename_i hfree
  split
  · exact .leave (.refl _)
  dsimp only
  split
  · exact .leave (.refl _)
  cases hkey : relationKey with
  | none =>
    refine .leave fun key place hpl => ?_
    cases place with
    | live => exact hpl
    | pending =>
      obtain ⟨pending,hget,hrel⟩:=hpl
      rcases get_of_get_insert hget with hold | ⟨rfl,rfl⟩
      · exact ⟨pending,hold,hrel⟩
      · cases hrel
  | some newKey =>
    rw [hkey,Option.any_some,Bool.not_eq_true] at hfree
    refine .enter newKey (.pending sessionId) (free_of_not_liveOrPending hinv hfree) ?_
    intro key place hpl
    cases place with
    | live => exact .inl hpl
    | pending =>
      obtain ⟨pending,hget,hrel⟩:=hpl
      rcases get_of_get_insert hget with hold | ⟨rfl,rfl⟩
      · exact .inl ⟨pending,hold,hrel⟩
      · exact .inr ⟨(Option.some.inj hrel).symm,rfl⟩

inductive Installs (r : P2pRegistry) (sessionId : SessionId) (pending : PendingP2pInstall)
    (r' : P2pRegistry) : Prop
  | refused (h : r.Yields r')
  | done (hlive : r.targetIsLive pending.multi=true)
      (hmulti : ∀ multi, multi ≠ pending.multi → r'.multis multi=r.multis multi)
      (hget : ∀ key entry, (r'.multis pending.multi).p2pSessions.get key=some entry →
        (r.multis pending.multi).p2pSessions.get key=some entry ∨
          key=sessionId ∧ entry.sessionId=sessionId ∧ entry.relationKey=pending.relationKey)
      (hpending : r'.p2pPendingInstalls=r.p2pPendingInstalls)

section
variable (r : P2pRegistry) (sessionId : SessionId) (pending : PendingP2pInstall) (env : InstallEnv)

theorem installPending_relays : (r.installPending sessionId pending env).2.relays=r.relays := by
  rw [installPending]
  split
  · rfl
  split
  · rfl
  split
  · rfl
  split <;> rfl

theorem installPending_installs : r.Installs sessionId pending (r.installPending sessionId pending env).2 := by
  rw [installPending]
  split
  · exact .refused (.refl r)
  rename_i hlive
  rw [Bool.not_eq_true',Bool.not_eq_false] at hlive
  split
  · exact .refused (.refl r)
  split
  · exact .refused ⟨fun _ => .refl _,fun _ pending h => ⟨pending,h,rfl⟩⟩
  rename_i installed hinstall
  have hget : ∀ key entry, installed.p2pSessions.get key=some entry →
      (r.multis pending.multi).p2pSessions.get key=some entry ∨
        key=sessionId ∧ entry.sessionId=sessionId ∧ entry.relationKey=pending.relationKey := by
    intro key entry hent
    rcases installP2pSessionForRelation_get hinstall hent with ⟨-,hold⟩ | hnew
    · exact .inl hold
    · exact .inr hnew
  split
  · refine .done hlive (fun multi hne => ?_) (fun key entry hent => ?_) rfl
    · simp [onMulti,update_of_ne hne]
    -- the new session is closed again
    have hcls:=installed.closeP2pSessionForHandle_get r.nextSession
    simp only [onMulti,update_self] at hent
    exact hget key entry (hcls key entry hent)
  · refine .done hlive (fun multi hne => ?_) (fun key entry hent => ?_) rfl
    · simp [onMulti,update_of_ne hne]
    simp only [onMulti,update_self] at hent
    exact hget key entry hent

end

theorem Installs.occupancy {sessionId : SessionId} {pending : PendingP2pInstall}
    (h : r.Installs sessionId pending r') {place : P2pPlace}
    (hpl : r'.occupancy live relationKey place) : r.occupancy live relationKey place ∨
      pending.relationKey=some relationKey ∧ place = .live pending.multi sessionId := by
  cases h with
  | refused hyield => exact .inl (hyield.occupancy relationKey place hpl)
  | done hlive hmulti hget hpend =>
    cases place with
    | pending =>
      obtain ⟨other,hoth,hkey⟩:=hpl
      rw [hpend] at hoth
      exact .inl ⟨other,hoth,hkey⟩
    | live multi key =>
      obtain ⟨hon,entry,hent,hkey,hacc⟩:=hpl
      by_cases hm : multi=pending.multi
      · subst hm
        rcases hget key entry hent with hold | ⟨rfl,-,hrel⟩
        · exact .inl ⟨hon,entry,hold,hkey,hacc⟩
        · exact .inr ⟨hrel.symm.trans hkey,rfl⟩
      · rw [hmulti multi hm] at hent
        exact .inl ⟨hon,entry,hent,hkey,hacc⟩

theorem install_change (r : P2pRegistry) (sessionId : SessionId) (env : InstallEnv) :
    (r.occupancy live).Change ((r.installP2pSessionInner sessionId env).2.occupancy live) := by
  rw [installP2pSessionInner]
  split
  · exact .leave (r.unreserve_yields sessionId).occupancy
  split
  · rename_i pending hpend
    have hinstall:=(r.unreserveP2pSessionInstall sessionId).installPending_installs sessionId pending env
    have hleave : (r.occupancy live).Leaves _ := (r.unreserve_yields sessionId).occupancy
    cases hkey : pending.relationKey with
    | none =>
      refine .leave fun relationKey place hpl => ?_
      rcases hinstall.occupancy hpl with hold | ⟨hnew,-⟩
      · exact hleave relationKey place hold
      rw [hkey] at hnew
      cases hnew
    | some key =>
      -- the session takes the place of its reservation
      refine .move key (.pending sessionId) (.live pending.multi sessionId) ⟨pending,hpend,hkey⟩ ?_
      intro relationKey place hpl
      rcases hinstall.occupancy hpl with hold | ⟨hnew,rfl⟩
      · refine .inl ⟨hleave relationKey place hold,?_⟩
        rintro ⟨-,rfl⟩
        obtain ⟨other,hoth,-⟩:=hold
        have hnone:=get_remove_self r.p2pPendingInstalls sessionId
        exact absurd (hnone.symm.trans hoth) (Option.some_ne_none other).symm
      · simp_all
  · split
    · exact .leave (.refl _)
    split
    · exact .leave (.refl _)
    refine .leave fun relationKey place hpl => ?_
    rcases (r.installPending_installs sessionId _ env).occupancy hpl with hold | ⟨hnew,-⟩
    · exact hold
    · cases hnew

theorem onMulti_occupancy {place : P2pPlace}
    (h : (r.onMulti multi f).occupancy live relationKey place) : r.occupancy live relationKey place ∨
      live=true ∧ ∃ sessionId, place = .live multi sessionId ∧
        (f (r.multis multi)).Eligible relationKey sessionId := by
  cases place with
  | pending => exact .inl h
  | live other sessionId =>
    by_cases hm : other=multi
    · subst hm
      simp only [occupancy,onMulti,update_self] at h
      exact .inr ⟨h.1,sessionId,rfl,h.2⟩
    have hsame : (r.onMulti multi f).multis other=r.multis other := update_of_ne hm _ _
    rw [occupancy,hsame] at h
    exact .inl h

variable {snapshot recheckSnapshot : LinkWatchdogSnapshot}

theorem watchdog_change (hinv : r.Inv live) {sendShell : ℕ} {config : LinkWatchdogConfig}
    (h : live=true → RecoversAlone r (.watchdog multi sendShell config snapshot recheckSnapshot)) :
    (r.occupancy live).Change ((r.onMulti multi fun multi =>
      multi.runP2pLinkWatchdog sendShell config snapshot recheckSnapshot).occupancy live) := by
  by_cases hon : live=true
  swap
  · exact .leave fun key place hpl => (onMulti_occupancy hpl).resolve_right fun hlive => hon hlive.1
  by_cases hdecide : evaluateLinkWatchdog .p2p config snapshot = .keep
  · by_cases hback : ∃ sessionId entry relationKey,
        (r.multis multi).entryForHandle sendShell=some (sessionId,entry) ∧
          entry.acceptsNewFlows=false ∧ entry.relationKey=some relationKey
    · -- the recovered session enters a free relation
      obtain ⟨sessionId,entry,relationKey,hent,hflag,hkey⟩:=hback
      have hfree:=h hon hdecide sessionId entry relationKey hent hflag hkey
      refine .enter relationKey (.live multi sessionId) (free_of_not_liveOrPending hinv hfree) ?_
      intro key place hpl
      rcases onMulti_occupancy hpl with hold | ⟨-,id,rfl,heligible⟩
      · exact .inl hold
      rcases (r.multis multi).runP2pLinkWatchdog_eligible hdecide heligible with
        hold | ⟨entry',hent',-,hkey'⟩
      · exact .inl ⟨hon,hold⟩
      obtain ⟨rfl,rfl⟩:=Prod.mk.inj (Option.some.inj (hent.symm.trans hent'))
      exact .inr ⟨Option.some.inj (hkey'.symm.trans hkey),rfl⟩
    · refine .leave fun key place hpl => ?_
      rcases onMulti_occupancy hpl with hold | ⟨-,id,rfl,heligible⟩
      · exact hold
      rcases (r.multis multi).runP2pLinkWatchdog_eligible hdecide heligible with
        hold | ⟨entry',hent',hflag',hkey'⟩
      · exact ⟨hon,hold⟩
      · exact absurd ⟨id,entry',key,hent',hflag',hkey'⟩ hback
  · exact .leave (r.onMulti_yields ((r.multis multi).runP2pLinkWatchdog_yields hdecide)).occupancy

/-- The registered relay sessions were not touched, and no session was installed. -/
structure SameRelays (r r' : P2pRegistry) : Prop where
  replicaSessions : r'.replicaSessions=r.replicaSessions
  anchor : r'.anchor=r.anchor
  get : ∀ multi sessionId entry', (r'.multis multi).p2pSessions.get sessionId=some entry' →
    ∃ entry, (r.multis multi).p2pSessions.get sessionId=some entry ∧ entry'.sessionId=entry.sessionId

theorem Yields.sameRelays (h : r.Yields r') (hrel : r'.relays=r.relays) : r.SameRelays r' := by
  refine ⟨congrArg Prod.fst hrel,congrArg Prod.snd hrel,fun multi sessionId entry' hget => ?_⟩
  obtain ⟨entry,hold,hid,-⟩:=h.multis multi sessionId entry' hget
  exact ⟨entry,hold,hid⟩

theorem Inv.of_sameRelays (hinv : r.Inv live) (h : r.SameRelays r')
    (hc : (r.occupancy live).Change (r'.occupancy live)) :
    r'.Inv live := by
  refine ⟨?_,?_,?_,hinv.sole.change hc⟩
  · intro multi sessionId entry' hget
    obtain ⟨entry,hold,-⟩:=h.get multi sessionId entry' hget
    rw [h.replicaSessions]
    exact hinv.registered multi sessionId entry hold
  · rw [h.replicaSessions,h.anchor]
    exact hinv.anchored
  · intro multi sessionId entry' hget
    obtain ⟨entry,hold,hid⟩:=h.get multi sessionId entry' hget
    exact hid.trans (hinv.keyed multi sessionId entry hold)

theorem Inv.yields (hinv : r.Inv live) (h : r.Yields r') (hrel : r'.relays=r.relays) : r'.Inv live :=
  hinv.of_sameRelays (h.sameRelays hrel) (.leave h.occupancy)

theorem foldl_onMulti_relays (multis : List ℕ) (r : P2pRegistry) :
    (multis.foldl (fun r multi => r.onMulti multi f) r).relays=r.relays := by
  induction multis generalizing r with
  | nil => rfl
  | cons multi multis ih => exact ih (r.onMulti multi f)

theorem updatePeer_relays (r : P2pRegistry) (sessionId : SessionId) (peerClientId : String) :
    (r.updateP2pPendingPeerClientId sessionId peerClientId).relays=r.relays := by
  rw [updateP2pPendingPeerClientId]
  split
  · split <;> rfl
  · rfl

theorem closeById_relays (r : P2pRegistry) (sessionId : SessionId) :
    (r.closeP2pSessionById sessionId).relays=r.relays := by
  rw [closeP2pSessionById]
  split <;> rfl

theorem watchdog_get {sendShell other : ℕ} {config : LinkWatchdogConfig} {sessionId : SessionId}
    {entry' : P2pSessionEntry} (h : ((r.onMulti multi fun multi =>
      multi.runP2pLinkWatchdog sendShell config snapshot recheckSnapshot).multis other).p2pSessions.get
        sessionId=some entry') :
    ∃ entry, (r.multis other).p2pSessions.get sessionId=some entry ∧ entry'.sessionId=entry.sessionId := by
  by_cases hm : other=multi
  · subst hm
    simp only [onMulti,update_self] at h
    exact (r.multis other).runP2pLinkWatchdog_get h
  · simp only [onMulti,update_of_ne hm] at h
    exact ⟨entry',h,rfl⟩

section
variable (hinv : r.Inv live)
include hinv

theorem Inv.watchdog {sendShell : ℕ} {config : LinkWatchdogConfig}
    (h : live=true → RecoversAlone r (.watchdog multi sendShell config snapshot recheckSnapshot)) :
    (r.onMulti multi fun multi =>
      multi.runP2pLinkWatchdog sendShell config snapshot recheckSnapshot).Inv live :=
  hinv.of_sameRelays ⟨rfl,rfl,fun _ _ _ hget => watchdog_get hget⟩ (watchdog_change hinv h)

theorem Inv.reserve (sessionId : SessionId) (preferredClientId peerClientId : Option String)
    (relationKey : Option PeerRelationKey) (permit : Bool) :
    (r.reserveP2pSessionInstallForRelation sessionId preferredClientId peerClientId relationKey
      permit).2.Inv live := by
  refine hinv.of_sameRelays ?_ (reserve_change hinv ..)
  rw [reserveP2pSessionInstallForRelation]
  split
  · exact ⟨rfl,rfl,fun _ _ entry h => ⟨entry,h,rfl⟩⟩
  split
  · exact ⟨rfl,rfl,fun _ _ entry h => ⟨entry,h,rfl⟩⟩
  dsimp only
  split <;> exact ⟨rfl,rfl,fun _ _ entry h => ⟨entry,h,rfl⟩⟩

theorem Inv.of_installs {sessionId : SessionId} {pending : PendingP2pInstall}
    (h : r.Installs sessionId pending r') (hrel : r'.relays=r.relays) (hsole : (r'.occupancy live).Sole) :
    r'.Inv live := by
  cases h with
  | refused hyield => exact hinv.yields hyield hrel
  | done hlive hmulti hget =>
    obtain ⟨hreps,hanc⟩:=Prod.mk.inj hrel
    refine ⟨?_,?_,?_,hsole⟩
    · intro multi key entry hent
      rw [hreps]
      by_cases hm : multi=pending.multi
      · subst hm
        rw [targetIsLive,Bool.or_eq_true,decide_eq_true_eq,any_eq_true] at hlive
        rcases hlive with hlive | ⟨replica,hrep,hlive⟩
        · exact hinv.anchored pending.multi hlive
        · exact ⟨replica,hrep,of_decide_eq_true hlive⟩
      · rw [hmulti multi hm] at hent
        exact hinv.registered multi key entry hent
    · rw [hreps,hanc]
      exact hinv.anchored
    · intro multi key entry hent
      by_cases hm : multi=pending.multi
      · subst hm
        rcases hget key entry hent with hold | ⟨rfl,hid,-⟩
        · exact hinv.keyed _ key entry hold
        · exact hid
      · rw [hmulti multi hm] at hent
        exact hinv.keyed multi key entry hent

theorem Inv.install (sessionId : SessionId) (env : InstallEnv) :
    (r.installP2pSessionInner sessionId env).2.Inv live := by
  have hsole:=hinv.sole.change (r.install_change sessionId env)
  have hunreserved : (r.unreserveP2pSessionInstall sessionId).Inv live :=
    hinv.yields (r.unreserve_yields sessionId) rfl
  revert hsole
  rw [installP2pSessionInner]
  split
  · exact fun _ => hunreserved
  split
  · exact hunreserved.of_installs (installPending_installs ..) (installPending_relays ..)
  · split
    · exact fun _ => hinv
    split
    · exact fun _ => hinv
    exact hinv.of_installs (installPending_installs ..) (installPending_relays ..)

theorem Inv.relays (hmulti : r'.multis=r.multis)
    (hpend : ∀ sessionId pending, r'.p2pPendingInstalls.get sessionId=some pending →
      r.p2pPendingInstalls.get sessionId=some pending) (hkept : ∀ replica∈r.replicaSessions,
      (∃ sessionId entry, (r.multis replica.multi).p2pSessions.get sessionId=some entry) →
        ∃ replica'∈r'.replicaSessions, replica'.multi=replica.multi)
    (hanc : ∀ multi, r'.anchor=some multi → ∃ replica∈r'.replicaSessions, replica.multi=multi) :
    r'.Inv live := by
  have hyield : r.Yields r' :=
    ⟨fun multi => by rw [hmulti]; exact .refl _,fun _ pending h => ⟨pending,hpend _ _ h,rfl⟩⟩
  refine ⟨?_,hanc,?_,hinv.sole.change (.leave hyield.occupancy)⟩
  · intro multi sessionId entry hget
    rw [hmulti] at hget
    obtain ⟨replica,hrep,rfl⟩:=hinv.registered multi sessionId entry hget
    exact hkept replica hrep ⟨sessionId,entry,hget⟩
  · intro multi
    rw [hmulti]
    exact hinv.keyed multi

theorem Inv.register (clientId : String) (multi transportGeneration : ℕ) :
    (r.registerReplicaMultiSession clientId multi transportGeneration).Inv live := by
  have hkept : ∀ replica∈r.replicaSessions,
      ∃ replica'∈(r.registerReplicaMultiSession clientId multi transportGeneration).replicaSessions,
        replica'.multi=replica.multi := by
    intro replica hrep
    by_cases hm : replica.multi=multi
    · exact ⟨_,mem_append_right _ (mem_singleton_self _),hm.symm⟩
    refine ⟨replica,mem_append_left _ (mem_filter.mpr ⟨hrep,?_⟩),rfl⟩
    simp [hm]
  refine hinv.relays rfl (fun _ _ h => h) (fun replica hrep _ => hkept replica hrep) ?_
  intro other hanc
  rw [registerReplicaMultiSession] at hanc
  split at hanc
  · obtain rfl := Option.some.inj hanc
    exact ⟨_,mem_append_right _ (mem_singleton_self _),rfl⟩
  obtain ⟨replica,hrep,rfl⟩:=hinv.anchored other hanc
  exact hkept replica hrep

end

theorem ne_of_p2pSessionCount_eq_zero {self : MultiSession} (h : self.p2pSessionCount=0)
    {sessionId : SessionId} {entry : P2pSessionEntry} :
    self.p2pSessions.get sessionId≠some entry := by
  intro hget
  have hmem:=mem_pairs.mpr hget
  rw [eq_nil_of_length_eq_zero h] at hmem
  cases hmem

theorem Inv.relayClosed (hinv : r.Inv live) (clientId : String) (multi : ℕ) :
    (r.unregisterRelayClosedMultiSession clientId multi).Inv live := by
  have hkept : ∀ replica∈r.replicaSessions,
      replica.multi≠multi ∨ (r.multis multi).p2pSessionCount≠0 →
      ∃ replica'∈(r.unregisterRelayClosedMultiSession clientId multi).replicaSessions,
        replica'.multi=replica.multi := by
    intro replica hrep hstays
    rw [unregisterRelayClosedMultiSession]
    split
    · grind
    · refine ⟨_,mem_map_of_mem hrep,?_⟩
      split <;> rfl
  refine hinv.relays rfl (fun _ _ h => h) ?_ ?_
  · rintro replica hrep ⟨_,_,hget⟩
    by_cases hm : replica.multi=multi
    · refine hkept replica hrep (.inr fun hcnt => ?_)
      rw [hm] at hget
      exact ne_of_p2pSessionCount_eq_zero hcnt hget
    · exact hkept replica hrep (.inl hm)
  · intro other hanc
    rw [unregisterRelayClosedMultiSession] at hanc
    dsimp only at hanc
    split at hanc
    · cases hanc
    rename_i hne
    obtain ⟨replica,hrep,rfl⟩:=hinv.anchored other hanc
    refine hkept replica hrep (.inl fun hm => hne ?_)
    rw [← hm]
    exact hanc

theorem Inv.relayUsable (hinv : r.Inv live) (clientId : String) (transportGeneration multi : ℕ) (value : Bool) :
    (r.setRelayAcceptsNewFlows clientId transportGeneration multi value).Inv live := by
  have hkept : ∀ replica∈r.replicaSessions,
      ∃ replica'∈(r.setRelayAcceptsNewFlows clientId transportGeneration multi value).replicaSessions,
        replica'.multi=replica.multi := by
    intro replica hrep
    refine ⟨_,mem_map_of_mem hrep,?_⟩
    split <;> rfl
  refine hinv.relays rfl (fun _ _ h => h) (fun replica hrep _ => hkept replica hrep) ?_
  intro other hanc
  obtain ⟨replica,hrep,rfl⟩:=hinv.anchored other hanc
  exact hkept replica hrep

theorem Inv.reset (hinv : r.Inv live) (anchorClientId : Option String) :
    (r.resetReplicaSessionsForConnect anchorClientId).Inv live := by
  refine hinv.relays rfl ?_ ?_ ?_
  · intro sessionId pending hget
    cases hget
  · rintro replica hrep ⟨_,_,hget⟩
    have hcnt : 0<(r.multis replica.multi).p2pSessionCount := by
      rw [Nat.pos_iff_ne_zero]
      exact fun h => ne_of_p2pSessionCount_eq_zero h hget
    exact ⟨_,mem_map_of_mem (mem_filter.mpr ⟨hrep,decide_eq_true hcnt⟩),rfl⟩
  · intro multi hanc
    cases hanc

theorem foldl_closeAllP2p_get {multis : List ℕ} (hmem : multi∈multis) (r : P2pRegistry)
    (hk : ∀ multi, (r.multis multi).Keyed) (sessionId : SessionId) :
    ((multis.foldl (fun r multi => r.onMulti multi closeAllP2p) r).multis multi).p2pSessions.get
      sessionId=none := by
  induction multis generalizing r with
  | nil => cases hmem
  | cons first multis ih =>
    rcases mem_cons.mp hmem with rfl | hmem
    · -- what is closed stays closed
      have hnone : ((r.onMulti multi closeAllP2p).multis multi).p2pSessions.get sessionId=none := by
        simp only [onMulti,update_self]
        exact closeAllP2p_get (hk multi) sessionId
      have hrest:=foldl_yields closeAllP2p_yields multis (r.onMulti multi closeAllP2p)
      cases hget : (((multi::multis).foldl (fun r multi => r.onMulti multi closeAllP2p)
          r).multis multi).p2pSessions.get sessionId with
      | none => rfl
      | some entry =>
        obtain ⟨_,hold,-⟩:=hrest.multis multi sessionId entry hget
        rw [hnone] at hold
        cases hold
    · have hfst:=r.onMulti_yields (closeAllP2p_yields (r.multis first))
      exact ih hmem _ fun multi => (hfst.multis multi).keyed (hk multi)

theorem Inv.disconnect (hinv : r.Inv live) : r.disconnect.Inv live := by
  have hyield:=r.disconnect_yields
  refine ⟨?_,?_,fun multi => (hyield.multis multi).keyed (hinv.keyed multi),
    hinv.sole.change (.leave hyield.occupancy)⟩
  · intro multi sessionId entry hget
    obtain ⟨entry',hold,-⟩:=hyield.multis multi sessionId entry hget
    obtain ⟨_,hrep,rfl⟩:=hinv.registered multi sessionId entry' hold
    have hnone:=foldl_closeAllP2p_get (mem_append_right r.anchor.toList
      (mem_map_of_mem (f := (·.multi)) hrep)) r hinv.keyed sessionId
    exact absurd (hnone.symm.trans hget) (Option.some_ne_none entry).symm
  · intro multi hanc
    cases hanc

theorem Inv.step (hinv : r.Inv live) (event : P2pEvent) (h : live=true → RecoversAlone r event) :
    (stepP2p r event).1.Inv live := by
  cases event with
  | reserve => exact hinv.reserve ..
  | unreserve sessionId => exact hinv.yields (r.unreserve_yields sessionId) rfl
  | updatePeer sessionId peerClientId =>
    exact hinv.yields (r.updatePeer_yields sessionId peerClientId) (r.updatePeer_relays ..)
  | install sessionId env => exact hinv.install sessionId env
  | watchdog => exact hinv.watchdog h
  | closeById sessionId =>
    exact hinv.yields (r.closeById_yields sessionId) (r.closeById_relays sessionId)
  | closeForHandle multi session =>
    have hcls:=(r.multis multi).closeP2pSessionForHandle_yields session
    exact hinv.yields (r.onMulti_yields (f := fun multi => (multi.closeP2pSessionForHandle session).2) hcls) rfl
  | retire peerId =>
    exact hinv.yields (r.retire_yields peerId) (foldl_onMulti_relays ..)
  | register clientId multi transportGeneration => exact hinv.register clientId multi transportGeneration
  | relayClosed clientId multi => exact hinv.relayClosed clientId multi
  | relayUsable => exact hinv.relayUsable ..
  | reset anchorClientId => exact hinv.reset anchorClientId
  | disconnect => exact hinv.disconnect

theorem Inv.oneLive (hinv : r.Inv true) : r.OneLive := by
  intro relationKey multi multi' sessionId sessionId' h h'
  have hpl:=hinv.sole relationKey (.live multi sessionId) (.live multi' sessionId') ⟨rfl,h⟩ ⟨rfl,h'⟩
  injection hpl with hmulti hsess
  exact ⟨hmulti,hsess⟩

end P2pRegistry

/-- While recovered sessions find their relation neither live nor pending, no
relation ever has two sessions that take new flows. -/
theorem one_live_session {r : P2pRegistry} {tr : List P2pReport}
    (h : (p2pMachine.restrict RecoversAlone).Run r tr) : r.OneLive := by
  have hinv : r.Inv true := by
    refine Machine.Run.invariant (fun r _ => r.Inv true) P2pRegistry.Inv.new ?_ h
    intro r tr event hinv hen
    exact hinv.step event fun _ => hen.2
  exact hinv.oneLive

def officeRelation : PeerRelationKey := ⟨"peer-a","peer-b",0⟩

def firstGeneration : SessionId := Vector.replicate 16 1

def secondGeneration : SessionId := Vector.replicate 16 2

def negotiated : P2pRegistry.InstallEnv := ⟨true,false,false,true,none⟩

def quarantined : List P2pEvent :=
  [.register "client-0" 0 0,.reserve firstGeneration none (some "peer-b") (some officeRelation) true,
    .install firstGeneration negotiated,.watchdog 0 0 .production ⟨5000,0,0,1,0⟩ ⟨5000,0,0,1,0⟩]

def recovered : P2pEvent := .watchdog 0 0 .production ⟨9000,8000,8000,1,0⟩ ⟨9000,8000,8000,1,0⟩

def replaced : List P2pEvent :=
  quarantined++[.reserve secondGeneration none (some "peer-b") (some officeRelation) true,
    .install secondGeneration negotiated,recovered]

theorem recovery_revives_replaced : ¬(p2pMachine.exec p2pMachine.init replaced).1.OneLive := by
  intro h
  have hfst : ((p2pMachine.exec p2pMachine.init replaced).1.multis 0).Eligible officeRelation
      firstGeneration := by
    decide
  have hsnd : ((p2pMachine.exec p2pMachine.init replaced).1.multis 0).Eligible officeRelation
      secondGeneration := by
    decide
  have hsame:=(h officeRelation 0 0 firstGeneration secondGeneration hfst hsnd).2
  exact absurd hsame (by decide)

theorem one_live_session_recovered :
    ((p2pMachine.exec p2pMachine.init (quarantined ++ [recovered])).1.multis 0).Eligible officeRelation
        firstGeneration ∧
      (p2pMachine.exec p2pMachine.init (quarantined ++ [recovered])).1.OneLive := by
  refine ⟨by decide,?_⟩
  refine one_live_session (Machine.Run.exec .init (quarantined++[recovered]) ?_)
  refine ⟨⟨trivial,trivial⟩,⟨trivial,trivial⟩,⟨trivial,trivial⟩,⟨trivial,?_⟩,⟨trivial,?_⟩,trivial⟩
  · intro hkeep
    exact absurd hkeep (by decide)
  intro _ sessionId entry relationKey hent _ hkey
  have hrel : ((p2pMachine.exec p2pMachine.init quarantined).1.multis 0).entryForHandle 0 =
      some (firstGeneration,⟨firstGeneration,"peer-b",0,some officeRelation,false⟩) := by
    decide
  obtain ⟨rfl,rfl⟩:=Prod.mk.inj (Option.some.inj (hent.symm.trans hrel))
  obtain rfl := Option.some.inj hkey
  have hfree : (p2pMachine.exec p2pMachine.init quarantined).1.hasLiveOrPendingP2pRelation
      officeRelation=false := by
    decide
  exact hfree

end Lantunnel.Client
