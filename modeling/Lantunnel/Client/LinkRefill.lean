import Lantunnel.Client.P2pRegistry

/-!
# Refill permits (tp-client/src/engine.rs:1600-1675, 4789-5013)

A reservation for a Peer known by name takes a permit of the refill limiter. Permits are
acquired and dropped at any time beside the reservations.
-/

namespace Lantunnel.Client
open Lib RustStd MultiSession List Table Option P2pRegistry
open Core (SessionId)

structure LinkRefillKey where
  endpointAFamily : String
  endpointBFamily : String
  deriving DecidableEq

def LinkRefillKey.p2p (localClientId peerClientId : String) : LinkRefillKey :=
  let localFamily:=replicaFamilyId localClientId
  let peerFamily:=replicaFamilyId peerClientId
  if strLt peerFamily localFamily then ⟨peerFamily,localFamily⟩ else ⟨localFamily,peerFamily⟩

structure LinkRefillLimiter where
  inFlight : Table LinkRefillKey ℕ

namespace LinkRefillLimiter
variable (self : LinkRefillLimiter) (key : LinkRefillKey)

def tryAcquire (maxLinks currentLinks : ℕ) : Option LinkRefillLimiter :=
  let pending:=(self.inFlight.get key).getD 0
  if maxLinks≤currentLinks+pending then none else some ⟨self.inFlight.insert key (pending+1)⟩

def release : LinkRefillLimiter :=
  match self.inFlight.get key with
  | some count =>
    if count-1=0 then ⟨self.inFlight.remove key⟩ else ⟨self.inFlight.insert key (count-1)⟩
  | none => self

def Counts (permits : List LinkRefillKey) : Prop :=
  ∀ key, (self.inFlight.get key).getD 0=permits.count key

variable {self key} {permits : List LinkRefillKey} {limiter : LinkRefillLimiter} {most links : ℕ}

theorem Counts.acquire (h : self.Counts permits) (hacq : self.tryAcquire key most links=some limiter) :
    limiter.Counts (key::permits) ∧ links+(key::permits).count key≤ most := by
  rw [tryAcquire,ite_none_left_eq_some,h key] at hacq
  obtain ⟨_,hlim⟩:=hacq
  cases hlim
  refine ⟨fun other => ?_,by rw [count_cons_self]; omega⟩
  by_cases ho : other=key
  · simp [ho]
  · rw [get_insert_ne _ _ ho,h other,count_cons_of_ne (Ne.symm ho)]

theorem Counts.release (h : self.Counts permits) (hmem : key∈permits) :
    (self.release key).Counts (permits.erase key) := by
  intro other
  have hpos:=count_pos_iff.mpr hmem
  have hkey:=h key
  rw [LinkRefillLimiter.release]
  cases hget : self.inFlight.get key with
  | none =>
    rw [hget,getD_none] at hkey
    omega
  | some =>
    by_cases ho : other=key
    · dsimp only
      split <;> simp_all
    · rw [count_erase_of_ne ho,← h other]
      dsimp only
      split <;> simp [get_remove,get_insert,ho]

end LinkRefillLimiter

namespace P2pRegistry

def currentP2pLinkCountForRelation (self : P2pRegistry) (key : LinkRefillKey) : ℕ :=
  ((self.uniqueP2pMultis.flatMap fun multi => (self.multis multi).entries).filter fun entry =>
    let peerFamily:=replicaFamilyId entry.peerClientId
    peerFamily=key.endpointAFamily || peerFamily=key.endpointBFamily).length

/-- A reservation has a fresh id, of no session and no other reservation. -/
def FreshId (r : P2pRegistry) : P2pEvent → Prop
  | .reserve id .. => r.p2pPendingInstalls.get id=none ∧ ∀ multi, (r.multis multi).p2pSessions.get id=none
  | _ => True

def Apart (r : P2pRegistry) : Prop := ∀ id multi,
  r.p2pPendingInstalls.get id=none ∨ (r.multis multi).p2pSessions.get id=none

variable {r r' : P2pRegistry} {id : SessionId}

theorem Apart.of_get (h : r.Apart)
    (hget : ∀ multi id entry', (r'.multis multi).p2pSessions.get id=some entry' →
      ∃ entry, (r.multis multi).p2pSessions.get id=some entry ∧ entry'.sessionId=entry.sessionId)
    (hpend : ∀ id pending', r'.p2pPendingInstalls.get id=some pending' →
      ∃ pending, r.p2pPendingInstalls.get id=some pending ∧ pending'.relationKey=pending.relationKey) :
    r'.Apart := by
  intro id multi
  have hold:=h id multi
  cases hp : r'.p2pPendingInstalls.get id with
  | none => exact .inl rfl
  | some pending' =>
    obtain ⟨_,_,-⟩:=hpend id pending' hp
    cases he : (r'.multis multi).p2pSessions.get id with
    | none => exact .inr rfl
    | some => grind

theorem Apart.yields (h : r.Apart) (hy : r.Yields r') : r'.Apart := by
  refine h.of_get (fun multi id entry' hget => ?_) hy.pending
  obtain ⟨entry,hold,hid,-⟩:=hy.multis multi id entry' hget
  exact ⟨entry,hold,hid⟩

theorem Apart.installs {pending : PendingP2pInstall} (h : r.Apart) (hi : r.Installs id pending r')
    (hnone : r.p2pPendingInstalls.get id=none) : r'.Apart := by
  cases hi with
  | refused hyield => exact h.yields hyield
  | done =>
    intro id' multi
    have hold:=h id' multi
    cases he : (r'.multis multi).p2pSessions.get id' <;> grind

theorem Apart.install (h : r.Apart) (id : SessionId) (env : InstallEnv) :
    (r.installP2pSessionInner id env).2.Apart := by
  have hunreserved:=h.yields (r.unreserve_yields id)
  rw [installP2pSessionInner]
  split
  · exact hunreserved
  split
  · exact hunreserved.installs (installPending_installs ..) (get_remove_self ..)
  split
  · exact h
  split
  · exact h
  · exact h.installs (installPending_installs ..) ‹_›

theorem Apart.step (h : r.Apart) (event : P2pEvent) (hnew : r.FreshId event) :
    (stepP2p r event).1.Apart := by
  cases event with
  | reserve =>
    simp only [stepP2p,reserveP2pSessionInstallForRelation]
    split
    · exact h
    split
    · exact h
    split
    · exact h
    intro id' multi
    have hold:=h id' multi
    have hfr:=hnew.2 multi
    grind [get_insert]
  | unreserve id => exact h.yields (r.unreserve_yields id)
  | updatePeer id peer => exact h.yields (r.updatePeer_yields id peer)
  | install id env => exact h.install id env
  | watchdog => exact h.of_get (fun _ _ _ hget => watchdog_get hget) fun _ pending hget => ⟨pending,hget,rfl⟩
  | closeById id => exact h.yields (r.closeById_yields id)
  | closeForHandle multi session =>
    exact h.yields (r.onMulti_yields (f := fun multi => (multi.closeP2pSessionForHandle session).2)
      (closeP2pSessionForHandle_yields _ session))
  | retire peerId => exact h.yields (r.retire_yields peerId)
  | register | relayClosed | relayUsable => exact h
  | reset => exact fun _ _ => .inl rfl
  | disconnect => exact h.yields r.disconnect_yields

theorem free_of_reserved {pref peer : Option String} {rel : Option PeerRelationKey} {permit : Bool}
    (h : (r.reserveP2pSessionInstallForRelation id pref peer rel permit).1=true) :
    rel.any r.hasLiveOrPendingP2pRelation=false := by
  rw [reserveP2pSessionInstallForRelation] at h
  split at h
  · cases h
  · simp_all

end P2pRegistry

structure P2pInstalls where
  registry : P2pRegistry
  linkRefillLimiter : LinkRefillLimiter
  -- the keys of the permits that are not dropped yet
  permits : List LinkRefillKey

inductive RefillEvent
  | p2p (event : P2pEvent)
  | acquire (localClientId peerClientId : String) (maxLinks : ℕ)
  | dropPermit (key : LinkRefillKey)

namespace P2pInstalls
variable (self : P2pInstalls)

def tryAcquire (key : LinkRefillKey) (maxLinks : ℕ) : Option LinkRefillLimiter :=
  self.linkRefillLimiter.tryAcquire key maxLinks (self.registry.currentP2pLinkCountForRelation key)

def step : RefillEvent → P2pInstalls × List P2pReport
  | .p2p event => ({ self with registry := (stepP2p self.registry event).1 },(stepP2p self.registry event).2)
  | .acquire localClientId peerClientId maxLinks =>
    let key:=LinkRefillKey.p2p localClientId peerClientId
    match self.tryAcquire key maxLinks with
    | some limiter => (⟨self.registry,limiter,key::self.permits⟩,[])
    | none => (self,[])
  | .dropPermit key =>
    (⟨self.registry,self.linkRefillLimiter.release key,self.permits.erase key⟩,[])

def Enabled : RefillEvent → Prop
  | .p2p event => self.registry.FreshId event
  | .acquire .. => True
  | .dropPermit key => key ∈ self.permits

def machine : Machine P2pInstalls RefillEvent P2pReport := ⟨⟨.new,⟨.empty⟩,[]⟩,Enabled,step⟩

structure Inv (s : P2pInstalls) : Prop where
  registry : s.registry.Inv false
  apart : s.registry.Apart
  counts : s.linkRefillLimiter.Counts s.permits

variable {self}

theorem Inv.step (h : self.Inv) (event : RefillEvent) (hen : self.Enabled event) :
    (self.step event).1.Inv := by
  cases event with
  | p2p event => exact ⟨h.registry.step event fun hon => absurd hon Bool.false_ne_true,h.apart.step event hen,h.counts⟩
  | acquire =>
    simp only [P2pInstalls.step]
    split
    · rename_i hacq
      exact ⟨h.registry,h.apart,(h.counts.acquire hacq).1⟩
    · exact h
  | dropPermit => exact ⟨h.registry,h.apart,h.counts.release hen⟩

/-- Over every run a relation has one reservation at most, and a new permit keeps its link
within the maximum. -/
theorem pending_installs_bounded {tr : List P2pReport} (h : machine.Run self tr) :
    (∀ relationKey id id', self.registry.Reserved relationKey id → self.registry.Reserved relationKey id' →
      id = id') ∧ self.registry.Apart ∧
    (∀ key, (self.linkRefillLimiter.inFlight.get key).getD 0 = self.permits.count key) ∧
    (∀ id preferredClientId peerClientId relationKey permit,
      (self.registry.reserveP2pSessionInstallForRelation id preferredClientId peerClientId (some relationKey)
        permit).1 = true →
      ∀ id' multi, ¬self.registry.Reserved relationKey id' ∧
        ¬(self.registry.multis multi).Eligible relationKey id') ∧
    ∀ key maxLinks limiter, self.tryAcquire key maxLinks = some limiter →
      self.registry.currentP2pLinkCountForRelation key + (key :: self.permits).count key ≤ maxLinks := by
  have hinv : self.Inv :=
    Machine.Run.invariant (fun s _ => s.Inv) ⟨.new,fun _ _ => .inl rfl,fun _ => rfl⟩
      (fun _ _ event hs hen => hs.step event hen) h
  refine ⟨fun relationKey id id' hid hid' => ?_,hinv.apart,hinv.counts,?_,fun _ _ _ hacq => ?_⟩
  · exact P2pPlace.pending.inj (hinv.registry.sole relationKey (.pending id) (.pending id') hid hid')
  · intro id preferredClientId peerClientId relationKey permit hacc id' multi
    have hnot : ∀ place, ¬self.registry.occupancy true relationKey place :=
      free_of_not_liveOrPending hinv.registry (free_of_reserved hacc)
    exact ⟨hnot (.pending id'),fun heligible => hnot (.live multi id') ⟨rfl,heligible⟩⟩
  · exact (hinv.counts.acquire hacq).2

theorem pending_installs_bounded_acquired :
    let s := (machine.exec machine.init [.p2p (.register "client-0" 0 0),.acquire "client-0" "peer-b" 3,
      .p2p (.reserve firstGeneration none (some "peer-b") (some officeRelation) true)]).1
    s.registry.Reserved officeRelation firstGeneration ∧ s.registry.Apart := by
  refine ⟨⟨_,rfl,rfl⟩,(pending_installs_bounded (.exec .init _ ?_)).2.1⟩
  exact ⟨trivial,trivial,⟨rfl,fun _ => rfl⟩,trivial⟩

end P2pInstalls

end Lantunnel.Client
