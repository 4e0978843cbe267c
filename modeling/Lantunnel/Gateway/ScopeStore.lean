import Lantunnel.Lib.Table
import Lantunnel.Core.Provisioning

/-!
# The Gateway's Scopes (tp-gateway/src/scope.rs)

The Tunnels a Gateway admits, from static files and from Platform snapshots.
-/

namespace Lantunnel.Gateway
open Lib RustStd Core

structure ScopePartitions where
  staticScopes : Table String GatewayScopeFileV2
  managedScopes : Table String GatewayScopeFileV2
  -- the issuer key first seen for a Tunnel
  seenIssuers : Table String String

inductive ScopeStoreError
  | duplicateManagedTunnelId (tunnelId : String)
  | sourceConflict (tunnelId : String)
  | issuerReplacement (tunnelId : String)
  | invalidProvisioning (error : ProvisioningError)
  deriving DecidableEq

def ScopeStoreError.text : ScopeStoreError → String
  | duplicateManagedTunnelId tunnelId => "duplicate managed Scope for Tunnel " ++ tunnelId
  | sourceConflict tunnelId =>
    "Tunnel " ++ tunnelId ++ " cannot be present in static and managed Scope sources"
  | issuerReplacement tunnelId =>
    "Tunnel " ++ tunnelId ++ " issuer replacement requires a new Tunnel ID"
  | invalidProvisioning error => error.text

structure ManagedScopeReplace where
  count : ℕ
  removedIds : List String

structure StaticScopeReload where
  count : ℕ
  removedIds : List String

namespace ScopePartitions

def empty : ScopePartitions := ⟨.empty,.empty,.empty⟩

variable (p : Primitives) (store : ScopePartitions)

def get (tunnelId : String) : Option GatewayScopeFileV2 :=
  (store.staticScopes.get tunnelId).or (store.managedScopes.get tunnelId)

def contains (tunnelId : String) : Bool := (store.get tunnelId).isSome

def managedCandidate (scopes : List GatewayScopeFileV2) :
    Except ScopeStoreError (Table String GatewayScopeFileV2) :=
  scopes.foldlM (fun candidate scope => do
    let _ ← (scope.verify p).mapError ScopeStoreError.invalidProvisioning
    if candidate.contains scope.tunnelId then .error (.duplicateManagedTunnelId scope.tunnelId)
    else .ok (candidate.insert scope.tunnelId scope)) .empty

/-- What a writer checks of a Scope of its candidate against the other
partition and the issuers seen. -/
def checkScope (other : Table String GatewayScopeFileV2) (tunnelId : String)
    (scope : GatewayScopeFileV2) : Except ScopeStoreError Unit :=
  if other.contains tunnelId then .error (.sourceConflict tunnelId)
  else if (store.seenIssuers.get tunnelId).any fun issuer => issuer ≠ scope.tunnelSigningPublicKey
  then .error (.issuerReplacement tunnelId)
  else .ok ()

def removedIds (scopes candidate : Table String GatewayScopeFileV2) : List String :=
  ((scopes.pairs.map Prod.fst).filter fun tunnelId => !candidate.contains tunnelId).mergeSort strLe

def rememberIssuer (seen : Table String String) (entry : String × GatewayScopeFileV2) :
    Table String String :=
  if seen.contains entry.1 then seen else seen.insert entry.1 entry.2.tunnelSigningPublicKey

def rememberIssuers (candidate : Table String GatewayScopeFileV2) : Table String String :=
  candidate.pairs.foldl rememberIssuer store.seenIssuers

def replaceManagedSnapshot (scopes : List GatewayScopeFileV2) :
    Except ScopeStoreError ManagedScopeReplace × ScopePartitions :=
  match managedCandidate p scopes with
  | .error error => (.error error,store)
  | .ok candidate =>
    match candidate.pairs.forM fun entry => store.checkScope store.staticScopes entry.1 entry.2 with
    | .error error => (.error error,store)
    | .ok () =>
      (.ok ⟨candidate.pairs.length,removedIds store.managedScopes candidate⟩,
        { store with
          seenIssuers := store.rememberIssuers candidate
          managedScopes := candidate })

def managedSnapshot : List GatewayScopeFileV2 :=
  (store.managedScopes.pairs.map Prod.snd).mergeSort fun a b => strLe a.tunnelId b.tunnelId

/-- `reload_static` with the directory it has loaded. -/
def reloadStatic (candidate : Table String GatewayScopeFileV2) :
    Except ScopeStoreError StaticScopeReload × ScopePartitions :=
  match candidate.pairs.forM fun entry => store.checkScope store.managedScopes entry.1 entry.2 with
  | .error error => (.error error,store)
  | .ok () =>
    (.ok ⟨candidate.pairs.length,removedIds store.staticScopes candidate⟩,
      { store with
        seenIssuers := store.rememberIssuers candidate
        staticScopes := candidate })

section Writers
variable {p store}

theorem managedCandidate_pairs {scopes : List GatewayScopeFileV2}
    {candidate : Table String GatewayScopeFileV2} (h : managedCandidate p scopes = .ok candidate) :
    candidate.pairs=(scopes.map fun scope => (scope.tunnelId,scope)).reverse := by
  suffices hfold : ∀ (acc : Table String GatewayScopeFileV2), scopes.foldlM (fun candidate scope => do
      let _ ← (scope.verify p).mapError ScopeStoreError.invalidProvisioning
      if candidate.contains scope.tunnelId then .error (.duplicateManagedTunnelId scope.tunnelId)
      else .ok (candidate.insert scope.tunnelId scope)) acc = .ok candidate →
      candidate.pairs=(scopes.map fun scope => (scope.tunnelId,scope)).reverse++acc.pairs by
    have hpairs:=hfold .empty h
    rwa [Table.pairs_empty,List.append_nil] at hpairs
  clear h
  induction scopes with
  | nil =>
    intro acc h
    obtain rfl := Except.ok.inj h
    rfl
  | cons scope scopes ih =>
    intro acc h
    obtain ⟨_,hnext,h⟩:=bind_eq_ok.mp h
    obtain ⟨⟨⟩,-,hnext⟩:=bind_eq_ok.mp hnext
    obtain ⟨hnew,hnext⟩:=ite_error_eq_ok.mp hnext
    obtain rfl := Except.ok.inj hnext
    have hnone : acc.get scope.tunnelId=none := by
      exact Option.not_isSome_iff_eq_none.mp hnew
    rw [ih _ h,Table.pairs_insert_of_get_eq_none _ hnone]
    simp

theorem replaceManagedSnapshot_cases (p : Primitives) (store : ScopePartitions)
    (scopes : List GatewayScopeFileV2) :
    (∃ error, store.replaceManagedSnapshot p scopes=(.error error,store)) ∨
      ∃ candidate replaced, managedCandidate p scopes = .ok candidate ∧
        store.replaceManagedSnapshot p scopes=(.ok replaced,{ store with
            seenIssuers := store.rememberIssuers candidate, managedScopes := candidate }) := by
  cases hcand : managedCandidate p scopes with
  | error error => exact .inl ⟨error,by rw [replaceManagedSnapshot,hcand]⟩
  | ok candidate =>
    cases hchks : candidate.pairs.forM fun entry =>
      store.checkScope store.staticScopes entry.1 entry.2 with
    | error error => exact .inl ⟨error,by simp only [replaceManagedSnapshot,hcand,hchks]⟩
    | ok u =>
      exact .inr ⟨candidate,⟨candidate.pairs.length,removedIds store.managedScopes candidate⟩,rfl,
        by simp only [replaceManagedSnapshot,hcand,hchks]⟩

theorem managedSnapshot_of_replaced {scopes : List GatewayScopeFileV2}
    (hsort : scopes.Pairwise fun a b => strLt a.tunnelId b.tunnelId=true)
    {candidate : Table String GatewayScopeFileV2}
    (hcand : managedCandidate p scopes = .ok candidate) (seen : Table String String) :
    managedSnapshot { store with seenIssuers := seen, managedScopes := candidate }=scopes := by
  refine mergeSort_of_strictlySorted hsort ?_
  rw [managedCandidate_pairs hcand,List.map_reverse,List.map_map]
  have hid : (Prod.snd ∘ fun scope : GatewayScopeFileV2 => (scope.tunnelId,scope))=id := rfl
  rw [hid,List.map_id]
  exact List.reverse_perm scopes

theorem reloadStatic_managedScopes (candidate : Table String GatewayScopeFileV2) :
    (store.reloadStatic candidate).2.managedScopes=store.managedScopes := by
  unfold reloadStatic
  split <;> rfl

end Writers

end ScopePartitions

end Lantunnel.Gateway
