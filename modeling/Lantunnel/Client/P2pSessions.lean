import Lantunnel.Client.PeerLinkNegotiation

/-!
# P2P sessions of a Replica (tp-client/src/p2p/session.rs, link/watchdog.rs)

A `MultiSession` keeps the P2P sessions installed beside one relay session.
-/

namespace Lantunnel.Client
open Lib RustStd Table
open Core (SessionId)

/-! ### The registry (session.rs:78, 113-165) -/

structure P2pSessionEntry where
  sessionId : SessionId
  peerClientId : String
  -- the identity of the `Arc<Session>`
  session : ℕ
  relationKey : Option PeerRelationKey
  acceptsNewFlows : Bool
  deriving DecidableEq

structure P2pCandidatePath where
  sessionId : SessionId
  peerClientId : String
  peerFamily : String
  session : ℕ

def DEFAULT_MAX_P2P_SESSIONS_PER_REPLICA : ℕ := 128

structure MultiSession where
  p2pSessions : Table SessionId P2pSessionEntry
  maxP2pSessions : ℕ

def sessionIdText (sessionId : SessionId) : String :=
  "SessionId([" ++ ", ".intercalate (sessionId.toList.map fun byte => toString byte.toNat) ++ "])"

namespace MultiSession
variable (self : MultiSession)

def newWithRelayOnly : MultiSession := ⟨.empty,DEFAULT_MAX_P2P_SESSIONS_PER_REPLICA⟩

def entries : List P2pSessionEntry := self.p2pSessions.pairs.map Prod.snd

def p2pSessionCount : ℕ := self.p2pSessions.pairs.length

def entryForHandle (session : ℕ) : Option (SessionId × P2pSessionEntry) :=
  self.p2pSessions.pairs.find? fun entry => entry.2.session=session

/-! ### Installing (session.rs:503-573) -/

def hasEligibleP2pRelation (relationKey : PeerRelationKey) : Bool :=
  self.entries.any fun entry => entry.relationKey=some relationKey && entry.acceptsNewFlows

def occupiedByAnother (sessionId : SessionId) (relationKey : PeerRelationKey) : Bool :=
  self.entries.any fun entry =>
    entry.sessionId ≠ sessionId && entry.relationKey=some relationKey && entry.acceptsNewFlows

def installP2pSessionForRelation (sessionId : SessionId) (peerClientId : String) (session : ℕ)
    (relationKey : Option PeerRelationKey) : Except String MultiSession :=
  let peerClientId:=if trim peerClientId = "" then sessionIdText sessionId else peerClientId
  if relationKey.any (self.occupiedByAnother sessionId) then
    .error "P2P relation already active for another generation"
  else if !self.p2pSessions.contains sessionId && self.maxP2pSessions≤ self.p2pSessionCount then
    .error ("P2P session registry full (" ++ toString self.maxP2pSessions ++ ") for relay replica")
  else
    .ok { self with
      p2pSessions := self.p2pSessions.insert sessionId
        ⟨sessionId,peerClientId,session,relationKey,true⟩ }

/-! ### Closing (session.rs:575-701, 786-805) -/

def closeP2pSession (sessionId : SessionId) : Bool × MultiSession :=
  (self.p2pSessions.contains sessionId,{ self with p2pSessions := self.p2pSessions.remove sessionId })

def closeP2pSessionsForPeer (peerFamily : String) : MultiSession :=
  let peerFamily:=replicaFamilyId peerFamily
  let sessionIds:=(self.entries.filter fun entry => replicaFamilyId entry.peerClientId=peerFamily).map
    (·.sessionId)
  sessionIds.foldl (fun self sessionId => { self with
    p2pSessions := self.p2pSessions.removeIf sessionId fun entry =>
      replicaFamilyId entry.peerClientId=peerFamily }) self

def closeP2pSessionForHandle (session : ℕ) : Bool × MultiSession :=
  match self.entryForHandle session with
  | none => (false,self)
  | some (_,entry) =>
    (true,{ self with
      p2pSessions := self.p2pSessions.removeIf entry.sessionId fun entry => entry.session=session })

def closeAllP2p : MultiSession :=
  (self.entries.map (·.sessionId)).foldl (fun self sessionId => (self.closeP2pSession sessionId).2) self

/-! ### Quarantine (session.rs:704-734) -/

def swapAcceptsNewFlows (session : ℕ) (value : Bool) : Option Bool × MultiSession :=
  match self.entryForHandle session with
  | none => (none,self)
  | some (key,entry) =>
    (some entry.acceptsNewFlows,{ self with
      p2pSessions := self.p2pSessions.insert key { entry with acceptsNewFlows := value } })

def markP2pSessionUnusableForNewFlowsForHandle (session : ℕ) : Bool × MultiSession :=
  let (previous,self):=self.swapAcceptsNewFlows session false
  (previous.getD false,self)

def markP2pSessionUsableForNewFlowsForHandle (session : ℕ) : Bool × MultiSession :=
  let (previous,self):=self.swapAcceptsNewFlows session true
  ((previous.map not).getD false,self)

/-! ### Views (session.rs:425-466, 747-753) -/

def p2pPeerClientIdForHandle (session : ℕ) : Option String :=
  ((self.entryForHandle session).map (·.2.peerClientId)).filter fun peer =>
    peer ≠ "__legacy_single_p2p_peer__" && trim peer ≠ ""

def p2pCandidatePaths : List P2pCandidatePath :=
  (self.entries.filter (·.acceptsNewFlows)).map fun entry =>
    ⟨entry.sessionId,entry.peerClientId,replicaFamilyId entry.peerClientId,entry.session⟩

def candidatePathsForPeer (peerFamily : String) : List P2pCandidatePath :=
  let peerFamily:=replicaFamilyId peerFamily
  self.p2pCandidatePaths.filter fun candidate => candidate.peerFamily=peerFamily

end MultiSession

/-! ### The watchdog (link/watchdog.rs, engine.rs:2007-2165) -/

inductive LinkKind
  | relay
  | p2p

/-- Times in milliseconds. -/
structure LinkWatchdogConfig where
  ackStaleAfter : ℕ
  activeNoLinkProgressGrace : ℕ

def LinkWatchdogConfig.production : LinkWatchdogConfig := ⟨3000,30000⟩

inductive LinkWatchdogCloseReason
  | relayActive
  | p2pActive
  | p2pIdle
  deriving DecidableEq

inductive LinkWatchdogDecision
  | keep
  | keepIdleStale
  | keepActiveTcpPinned
  | close (reason : LinkWatchdogCloseReason)
  deriving DecidableEq

structure LinkWatchdogSnapshot where
  nowMs : ℕ
  lastAckMs : ℕ
  lastLinkProgressMs : ℕ
  activeTcpFlows : ℕ
  activeUdpFlows : ℕ

def evaluateLinkWatchdog (kind : LinkKind) (config : LinkWatchdogConfig) (snapshot : LinkWatchdogSnapshot) :
    LinkWatchdogDecision :=
  let ackAgeMs:=snapshot.nowMs-snapshot.lastAckMs
  let noLinkProgressMs:=snapshot.nowMs-snapshot.lastLinkProgressMs
  if ackAgeMs<config.ackStaleAfter ∨ noLinkProgressMs<config.ackStaleAfter then .keep
  else if snapshot.activeTcpFlows>0 then .keepActiveTcpPinned
  else if snapshot.activeUdpFlows=0 then
    match kind with
    | .relay => .keepIdleStale
    | .p2p => .close .p2pIdle
  else
    match kind with
    | .p2p => .close .p2pActive
    | .relay =>
      if noLinkProgressMs<config.activeNoLinkProgressGrace then .keep else .close .relayActive

/-- One round of `run_p2p_link_watchdog`; a decision to close is taken again on a
second snapshot. -/
def MultiSession.runP2pLinkWatchdog (self : MultiSession) (sendShell : ℕ) (config : LinkWatchdogConfig)
    (snapshot recheckSnapshot : LinkWatchdogSnapshot) : MultiSession :=
  match self.p2pPeerClientIdForHandle sendShell with
  | none => self
  | some _ =>
    match evaluateLinkWatchdog .p2p config snapshot with
    | .keep => (self.markP2pSessionUsableForNewFlowsForHandle sendShell).2
    | .keepActiveTcpPinned | .keepIdleStale =>
      (self.markP2pSessionUnusableForNewFlowsForHandle sendShell).2
    | .close _ =>
      match evaluateLinkWatchdog .p2p config recheckSnapshot with
      | .close _ => (self.closeP2pSessionForHandle sendShell).2
      | _ => self

namespace MultiSession
variable {self self' self'' : MultiSession}

/-- The session is installed for the relation and takes new flows. -/
def Eligible (self : MultiSession) (relationKey : PeerRelationKey) (sessionId : SessionId) : Prop :=
  ∃ entry, self.p2pSessions.get sessionId=some entry ∧ entry.relationKey=some relationKey ∧
    entry.acceptsNewFlows=true

instance (self : MultiSession) (relationKey : PeerRelationKey) (sessionId : SessionId) :
    Decidable (self.Eligible relationKey sessionId) :=
  decidable_of_iff ((self.p2pSessions.get sessionId).any fun entry =>
      entry.relationKey=some relationKey && entry.acceptsNewFlows) (by
    cases hget : self.p2pSessions.get sessionId with
    | none => simp [Eligible,hget]
    | some entry => simp [Eligible,hget])

def Yields (self self' : MultiSession) : Prop :=
  ∀ sessionId entry', self'.p2pSessions.get sessionId=some entry' →
    ∃ entry, self.p2pSessions.get sessionId=some entry ∧ entry'.sessionId=entry.sessionId ∧
      entry'.relationKey=entry.relationKey ∧
      (entry'.acceptsNewFlows=true → entry.acceptsNewFlows=true)

def Keyed (self : MultiSession) : Prop :=
  ∀ sessionId entry, self.p2pSessions.get sessionId=some entry → entry.sessionId=sessionId

theorem Yields.refl (self : MultiSession) : self.Yields self :=
  fun _ entry h => ⟨entry,h,rfl,rfl,id⟩

theorem Yields.trans (h : self.Yields self') (h' : self'.Yields self'') : self.Yields self'' := by
  intro sessionId entry'' hget
  obtain ⟨entry',hget',hid',hkey',hacc'⟩:=h' sessionId entry'' hget
  obtain ⟨entry,hget₀,hid,hkey,hacc⟩:=h sessionId entry' hget'
  exact ⟨entry,hget₀,hid'.trans hid,hkey'.trans hkey,fun ha => hacc (hacc' ha)⟩

theorem Yields.of_get (h : ∀ sessionId entry, self'.p2pSessions.get sessionId=some entry →
    self.p2pSessions.get sessionId=some entry) : self.Yields self' :=
  fun sessionId entry hget => ⟨entry,h sessionId entry hget,rfl,rfl,id⟩

theorem Yields.foldl {α : Type} {f : MultiSession → α → MultiSession}
    (hf : ∀ (self : MultiSession) (a : α), self.Yields (f self a)) (l : List α) (self : MultiSession) : self.Yields (l.foldl f self) := by
  induction l generalizing self with
  | nil => exact .refl self
  | cons a l ih => exact (hf self a).trans (ih (f self a))

variable {relationKey : PeerRelationKey} {sessionId key : SessionId} {entry : P2pSessionEntry}
  {session sendShell : ℕ} {config : LinkWatchdogConfig}
  {snapshot recheckSnapshot : LinkWatchdogSnapshot}

theorem Yields.eligible (h : self.Yields self')
    (he : self'.Eligible relationKey sessionId) : self.Eligible relationKey sessionId := by
  obtain ⟨entry',hget',hkey',hacc'⟩:=he
  obtain ⟨entry,hget,-,hkey,hacc⟩:=h sessionId entry' hget'
  exact ⟨entry,hget,hkey.symm.trans hkey',hacc hacc'⟩

theorem Yields.keyed (h : self.Yields self') (hk : self.Keyed) : self'.Keyed := by
  intro sessionId entry' hget'
  obtain ⟨entry,hget,hid,-⟩:=h sessionId entry' hget'
  exact hid.trans (hk sessionId entry hget)

theorem mem_entries :
    entry∈self.entries ↔ ∃ sessionId, self.p2pSessions.get sessionId=some entry := by
  rw [entries,List.mem_map]
  constructor
  · rintro ⟨⟨sessionId,entry⟩,hmem,rfl⟩
    exact ⟨sessionId,mem_pairs.mp hmem⟩
  rintro ⟨sessionId,hget⟩
  exact ⟨(sessionId,entry),mem_pairs.mpr hget,rfl⟩

theorem hasEligibleP2pRelation_iff :
    self.hasEligibleP2pRelation relationKey=true ↔ ∃ sessionId, self.Eligible relationKey sessionId := by
  rw [hasEligibleP2pRelation,List.any_eq_true]
  constructor
  · rintro ⟨entry,hmem,htest⟩
    obtain ⟨sessionId,hget⟩:=mem_entries.mp hmem
    rw [Bool.and_eq_true,decide_eq_true_eq] at htest
    exact ⟨sessionId,entry,hget,htest⟩
  · rintro ⟨sessionId,entry,hget,hkey,hacc⟩
    refine ⟨entry,mem_entries.mpr ⟨sessionId,hget⟩,?_⟩
    rw [Bool.and_eq_true,decide_eq_true_eq]
    exact ⟨hkey,hacc⟩

theorem entryForHandle_get
    (h : self.entryForHandle session=some (key,entry)) : self.p2pSessions.get key=some entry :=
  mem_pairs.mp (List.mem_of_find?_eq_some h)

theorem closeP2pSession_yields (self : MultiSession) (sessionId : SessionId) :
    self.Yields (self.closeP2pSession sessionId).2 :=
  .of_get fun _ _ h => get_of_get_remove h

theorem get_of_get_removeIf {test : P2pSessionEntry → Bool}
    (h : (self.p2pSessions.removeIf sessionId test).get key=some entry) :
    self.p2pSessions.get key=some entry := by
  rw [get_removeIf] at h
  split at h
  · simp_all
  · exact h

section
variable (self : MultiSession)

theorem closeP2pSessionsForPeer_yields (peerFamily : String) :
    self.Yields (self.closeP2pSessionsForPeer peerFamily) :=
  .foldl (fun _ _ => .of_get fun _ _ h => get_of_get_removeIf h) _ _

theorem closeAllP2p_yields : self.Yields self.closeAllP2p :=
  .foldl closeP2pSession_yields _ _

theorem closeP2pSessionForHandle_get (session : ℕ) (sessionId : SessionId) (entry : P2pSessionEntry)
    (h : (self.closeP2pSessionForHandle session).2.p2pSessions.get sessionId=some entry) :
    self.p2pSessions.get sessionId=some entry := by
  rw [closeP2pSessionForHandle] at h
  split at h
  · exact h
  · exact get_of_get_removeIf h

theorem closeP2pSessionForHandle_yields (session : ℕ) :
    self.Yields (self.closeP2pSessionForHandle session).2 :=
  .of_get (self.closeP2pSessionForHandle_get session)

theorem markUnusable_yields (session : ℕ) :
    self.Yields (self.markP2pSessionUnusableForNewFlowsForHandle session).2 := by
  simp only [markP2pSessionUnusableForNewFlowsForHandle,swapAcceptsNewFlows]
  split
  · exact .refl self
  rename_i key entry hent
  intro sessionId entry' hget
  rcases get_of_get_insert hget with hold | ⟨rfl,rfl⟩
  · exact ⟨entry',hold,rfl,rfl,id⟩
  · exact ⟨entry,entryForHandle_get hent,rfl,rfl,fun h => absurd h Bool.false_ne_true⟩

theorem swapAcceptsNewFlows_get {value : Bool} {entry' : P2pSessionEntry}
    (h : (self.swapAcceptsNewFlows session value).2.p2pSessions.get sessionId=some entry') :
    ∃ entry, self.p2pSessions.get sessionId=some entry ∧ entry'.sessionId=entry.sessionId := by
  rw [swapAcceptsNewFlows] at h
  split at h
  · exact ⟨entry',h,rfl⟩
  rename_i key entry hent
  rcases get_of_get_insert h with hold | ⟨rfl,rfl⟩
  · exact ⟨entry',hold,rfl⟩
  · exact ⟨entry,entryForHandle_get hent,rfl⟩

end

theorem closeAllP2p_get (hk : self.Keyed) (sessionId : SessionId) :
    self.closeAllP2p.p2pSessions.get sessionId=none := by
  have hfold : ∀ (ids : List SessionId) (self : MultiSession) (entry : P2pSessionEntry),
      (ids.foldl (fun self id => (self.closeP2pSession id).2) self).p2pSessions.get sessionId=some entry →
        self.p2pSessions.get sessionId=some entry ∧ sessionId∉ids := by
    intro ids
    induction ids with
    | nil => exact fun self entry h => ⟨h,List.not_mem_nil⟩
    | cons id ids ih =>
      intro self entry h
      obtain ⟨hget,hnot⟩:=ih _ entry h
      have hne : sessionId≠id := by
        rintro rfl
        have hnone:=get_remove_self self.p2pSessions sessionId
        exact absurd (hnone.symm.trans hget) (Option.some_ne_none entry).symm
      exact ⟨get_of_get_remove hget,List.not_mem_cons_of_ne_of_not_mem hne hnot⟩
  cases hget : self.closeAllP2p.p2pSessions.get sessionId with
  | none => rfl
  | some entry =>
    obtain ⟨hget,hnot⟩:=hfold _ self entry hget
    have hmem : entry.sessionId∈self.entries.map (·.sessionId) :=
      List.mem_map_of_mem (mem_entries.mpr ⟨sessionId,hget⟩)
    rw [hk sessionId entry hget] at hmem
    exact absurd hmem hnot

section
variable (self : MultiSession)

theorem markUsable_eligible
    (h : (self.markP2pSessionUsableForNewFlowsForHandle session).2.Eligible relationKey sessionId) :
    self.Eligible relationKey sessionId ∨
      ∃ entry, self.entryForHandle session=some (sessionId,entry) ∧
        entry.acceptsNewFlows=false ∧ entry.relationKey=some relationKey := by
  simp only [markP2pSessionUsableForNewFlowsForHandle,swapAcceptsNewFlows] at h
  split at h
  · exact .inl h
  rename_i key entry hent
  obtain ⟨entry',hget,hkey,hacc⟩:=h
  rcases get_of_get_insert hget with hold | ⟨rfl,rfl⟩
  · exact .inl ⟨entry',hold,hkey,hacc⟩
  cases hflag : entry.acceptsNewFlows with
  | true => exact .inl ⟨entry,entryForHandle_get hent,hkey,hflag⟩
  | false => exact .inr ⟨entry,hent,hflag,hkey⟩

theorem runP2pLinkWatchdog_yields (h : evaluateLinkWatchdog .p2p config snapshot ≠ .keep) :
    self.Yields (self.runP2pLinkWatchdog sendShell config snapshot recheckSnapshot) := by
  rw [runP2pLinkWatchdog]
  split
  · exact .refl self
  split
  · exact absurd ‹_› h
  · exact self.markUnusable_yields sendShell
  · exact self.markUnusable_yields sendShell
  split
  · exact self.closeP2pSessionForHandle_yields sendShell
  · exact .refl self

theorem runP2pLinkWatchdog_eligible (h : evaluateLinkWatchdog .p2p config snapshot = .keep)
    (he : (self.runP2pLinkWatchdog sendShell config snapshot recheckSnapshot).Eligible relationKey sessionId) :
    self.Eligible relationKey sessionId ∨
      ∃ entry, self.entryForHandle sendShell=some (sessionId,entry) ∧
        entry.acceptsNewFlows=false ∧ entry.relationKey=some relationKey := by
  rw [runP2pLinkWatchdog,h] at he
  split at he
  · exact .inl he
  · exact self.markUsable_eligible he

theorem runP2pLinkWatchdog_get {entry' : P2pSessionEntry}
    (hget : (self.runP2pLinkWatchdog sendShell config snapshot recheckSnapshot).p2pSessions.get sessionId =
      some entry') :
    ∃ entry, self.p2pSessions.get sessionId=some entry ∧ entry'.sessionId=entry.sessionId := by
  by_cases h : evaluateLinkWatchdog .p2p config snapshot = .keep
  · rw [runP2pLinkWatchdog,h] at hget
    split at hget
    · exact ⟨entry',hget,rfl⟩
    · exact self.swapAcceptsNewFlows_get hget
  · obtain ⟨entry,hold,hid,-⟩:=self.runP2pLinkWatchdog_yields h sessionId entry' hget
    exact ⟨entry,hold,hid⟩

end

theorem installP2pSessionForRelation_get {peerClientId : String}
    {relationKey : Option PeerRelationKey}
    (h : self.installP2pSessionForRelation sessionId peerClientId session relationKey = .ok self')
    (hget : self'.p2pSessions.get key=some entry) :
    (key≠sessionId ∧ self.p2pSessions.get key=some entry) ∨
      key=sessionId ∧ entry.sessionId=sessionId ∧ entry.relationKey=relationKey := by
  obtain ⟨-,h⟩:=ite_error_eq_ok.mp h
  obtain ⟨-,h⟩:=ite_error_eq_ok.mp h
  obtain rfl := Except.ok.inj h
  rw [get_insert] at hget
  split at hget
  · grind
  · exact .inl ⟨‹_›,hget⟩

end MultiSession

end Lantunnel.Client
