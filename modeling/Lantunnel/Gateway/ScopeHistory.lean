import Lantunnel.Gateway.ScopeStore

/-!
# Scopes over a whole run (tp-gateway/src/scope.rs:119-227)

Loading the static directory, and the store under any sequence of static reloads and
managed snapshots.
-/

namespace Lantunnel.Gateway
open Lib RustStd Core ScopePartitions Table List

/-! ### The static directory (scope.rs:160-227) -/

def MAX_SCOPE_FILE_BYTES : ℕ := 64*1024

structure PathStat where
  isSymlink : Bool
  isDir : Bool
  isFile : Bool
  len : ℕ

/-- An entry of the directory: its path and extension, and the answers of the
file system for it. An error is its text. -/
structure DirectoryEntry where
  path : String
  extension : Option String
  stat : Except String PathStat
  contents : Except String FieldCodec.Bytes

/-- `entries` is what `read_dir` yields, up to the first entry it fails on. -/
structure ScopeDirectory where
  path : String
  stat : Except String PathStat
  entries : Except String (List DirectoryEntry)

inductive StaticLoadError
  | readDirectory (path source : String)
  | readScope (path source : String)
  | unsafePath (path : String)
  | invalidScope (path message : String)
  | duplicateTunnelId (tunnelId : String)
  deriving DecidableEq

section Load
variable (p : Primitives) (fromYaml : FieldCodec.Bytes → Except String GatewayScopeFileV2)

def readScopeFile (entry : DirectoryEntry) : Except StaticLoadError GatewayScopeFileV2 := do
  let metadata ← entry.stat.mapError fun source => .readScope entry.path source
  if metadata.isSymlink || !metadata.isFile || MAX_SCOPE_FILE_BYTES< metadata.len then
    .error (.unsafePath entry.path)
  else
    let bytes ← entry.contents.mapError fun source => .readScope entry.path source
    let scope ← (fromYaml bytes).mapError fun source => .invalidScope entry.path source
    let _ ← (scope.verify p).mapError fun source => .invalidScope entry.path source.text
    .ok scope

def scopePaths (entries : List DirectoryEntry) : List DirectoryEntry :=
  (entries.filter fun entry => entry.extension=some "scope").mergeSort fun a b => strLe a.path b.path

def loadStaticDirectory (directory : ScopeDirectory) :
    Except StaticLoadError (Table String GatewayScopeFileV2) := do
  let metadata ← directory.stat.mapError fun source => .readDirectory directory.path source
  if metadata.isSymlink || !metadata.isDir then .error (.unsafePath directory.path)
  else
    let entries ← directory.entries.mapError fun source => .readDirectory directory.path source
    (scopePaths entries).foldlM (fun scopes entry => do
      let scope ← readScopeFile p fromYaml entry
      if scopes.contains scope.tunnelId then .error (.duplicateTunnelId scope.tunnelId)
      else .ok (scopes.insert scope.tunnelId scope)) .empty

/-! ### Calls (scope.rs:67-157) -/

inductive ScopeCall
  | reloadStatic (directory : ScopeDirectory)
  | replaceManagedSnapshot (scopes : List GatewayScopeFileV2)

/-- The Scopes of a call that succeeds, by their Tunnels, and what it removed. -/
inductive ScopeAnswer
  | loadFailed (error : StaticLoadError)
  | refused (error : ScopeStoreError)
  | accepted (count : ℕ) (removedIds : List String)

def callScopes (store : ScopePartitions) : ScopeCall → ScopeAnswer × ScopePartitions
  | .reloadStatic directory =>
    match loadStaticDirectory p fromYaml directory with
    | .error error => (.loadFailed error,store)
    | .ok candidate =>
      match store.reloadStatic candidate with
      | (.error error,store) => (.refused error,store)
      | (.ok reload,store) => (.accepted reload.count reload.removedIds,store)
  | .replaceManagedSnapshot scopes =>
    match store.replaceManagedSnapshot p scopes with
    | (.error error,store) => (.refused error,store)
    | (.ok replaced,store) => (.accepted replaced.count replaced.removedIds,store)

def runScopes (calls : List ScopeCall) : ScopePartitions :=
  calls.foldl (fun store call => (callScopes p fromYaml store call).2) .empty

end Load

def ScopeCall.Brings (p : Primitives) (fromYaml : FieldCodec.Bytes → Except String GatewayScopeFileV2)
    (scope : GatewayScopeFileV2) : ScopeCall → Prop
  | reloadStatic directory => ∃ entries, directory.entries = .ok entries ∧
    ∃ entry ∈ entries, entry.extension=some "scope" ∧ readScopeFile p fromYaml entry = .ok scope
  | replaceManagedSnapshot scopes => scope ∈ scopes

def ScopeCall.own (call : ScopeCall) (store : ScopePartitions) : Table String GatewayScopeFileV2 :=
  match call with
  | reloadStatic _ => store.staticScopes
  | replaceManagedSnapshot _ => store.managedScopes

def ScopeCall.other (call : ScopeCall) (store : ScopePartitions) : Table String GatewayScopeFileV2 :=
  match call with
  | reloadStatic _ => store.managedScopes
  | replaceManagedSnapshot _ => store.staticScopes

section Candidates
variable {p : Primitives} {fromYaml : FieldCodec.Bytes → Except String GatewayScopeFileV2}

theorem forM_eq_ok {ε α : Type} {f : α → Except ε Unit} {l : List α} :
    l.forM f = .ok () ↔ ∀ x∈l, f x = .ok () := by
  induction l with
  | nil => simp [pure,Except.pure]
  | cons x l ih =>
    have hcons : (x::l).forM f=f x >>= fun _ => l.forM f := rfl
    rw [hcons,bind_eq_ok,forall_mem_cons,← ih]
    constructor
    · rintro ⟨⟨⟩,hx,hl⟩
      exact ⟨hx,hl⟩
    rintro ⟨hx,hl⟩
    exact ⟨(),hx,hl⟩

variable {candidate : Table String GatewayScopeFileV2}

theorem managedCandidate_get {scopes : List GatewayScopeFileV2}
    (h : managedCandidate p scopes = .ok candidate) (tunnelId : String)
    (scope : GatewayScopeFileV2) :
    candidate.get tunnelId=some scope ↔ scope∈scopes ∧ scope.tunnelId=tunnelId := by
  rw [← mem_pairs,managedCandidate_pairs h,mem_reverse,mem_map]
  constructor
  · simp
  · rintro ⟨hs,rfl⟩
    exact ⟨scope,hs,rfl⟩

theorem loadLoop_get {entries : List DirectoryEntry} {acc : Table String GatewayScopeFileV2}
    (h : entries.foldlM (fun scopes entry => do
      let scope ← readScopeFile p fromYaml entry
      if scopes.contains scope.tunnelId then .error (.duplicateTunnelId scope.tunnelId)
      else .ok (scopes.insert scope.tunnelId scope)) acc = .ok candidate)
    (tunnelId : String) (scope : GatewayScopeFileV2) :
    candidate.get tunnelId=some scope ↔ acc.get tunnelId=some scope ∨
      (∃ entry∈entries, readScopeFile p fromYaml entry = .ok scope) ∧ scope.tunnelId=tunnelId := by
  induction entries generalizing acc with
  | nil =>
    obtain rfl := Except.ok.inj h
    simp
  | cons entry entries ih =>
    obtain ⟨_,hnext,h⟩:=bind_eq_ok.mp h
    obtain ⟨first,_,hnext⟩:=bind_eq_ok.mp hnext
    obtain ⟨hnew,hnext⟩:=ite_error_eq_ok.mp hnext
    obtain rfl := Except.ok.inj hnext
    have hnone : acc.get first.tunnelId=none := by
      exact Option.not_isSome_iff_eq_none.mp hnew
    rw [ih h,get_insert]
    constructor
    · grind
    · grind

theorem loadStaticDirectory_get {directory : ScopeDirectory}
    (h : loadStaticDirectory p fromYaml directory = .ok candidate) (tunnelId : String)
    (scope : GatewayScopeFileV2) : candidate.get tunnelId=some scope ↔
      (ScopeCall.reloadStatic directory).Brings p fromYaml scope ∧ scope.tunnelId=tunnelId := by
  obtain ⟨_,-,h⟩:=bind_eq_ok.mp h
  obtain ⟨-,h⟩:=ite_error_eq_ok.mp h
  obtain ⟨entries,hents,h⟩:=bind_eq_ok.mp h
  have hok : directory.entries = .ok entries := by
    cases hdir : directory.entries with
    | error => rw [hdir] at hents; cases hents
    | ok => rw [hdir] at hents; cases hents; rfl
  rw [loadLoop_get h,get_empty,ScopeCall.Brings,hok]
  simp [scopePaths,and_assoc]

end Candidates

theorem rememberIssuer_get {seen : Table String String} {entry : String × GatewayScopeFileV2}
    (h : seen.get entry.1=none ∨ seen.get entry.1=some entry.2.tunnelSigningPublicKey)
    (tunnelId : String) : (rememberIssuer seen entry).get tunnelId =
      if tunnelId=entry.1 then some entry.2.tunnelSigningPublicKey else seen.get tunnelId := by
  rw [rememberIssuer,Table.contains]
  rcases h with hnone | hsome
  · rw [hnone,Option.isSome_none,if_neg Bool.false_ne_true,get_insert]
  rw [hsome,Option.isSome_some,if_pos rfl]
  split
  · rename_i hid
    rw [hid,hsome]
  · rfl

theorem rememberIssuers_get {store : ScopePartitions} {candidate : Table String GatewayScopeFileV2}
    (hchk : ∀ tunnelId scope, candidate.get tunnelId=some scope →
      store.seenIssuers.get tunnelId=none ∨
        store.seenIssuers.get tunnelId=some scope.tunnelSigningPublicKey) :
    (∀ tunnelId issuer, store.seenIssuers.get tunnelId=some issuer →
      (store.rememberIssuers candidate).get tunnelId=some issuer) ∧
    ∀ tunnelId scope, candidate.get tunnelId=some scope →
      (store.rememberIssuers candidate).get tunnelId=some scope.tunnelSigningPublicKey := by
  -- over the entries still to come: a key has one entry, so no later one meets another issuer
  have hfold : ∀ (entries : List (String × GatewayScopeFileV2)) (seen : Table String String),
      (∀ entry∈entries, candidate.get entry.1=some entry.2) →
      (∀ tunnelId scope, candidate.get tunnelId=some scope →
        seen.get tunnelId=none ∨ seen.get tunnelId=some scope.tunnelSigningPublicKey) →
      (∀ tunnelId issuer, seen.get tunnelId=some issuer →
        (entries.foldl rememberIssuer seen).get tunnelId=some issuer) ∧
      ∀ entry∈entries,
        (entries.foldl rememberIssuer seen).get entry.1=some entry.2.tunnelSigningPublicKey := by
    intro entries
    induction entries with
    | nil => simp
    | cons entry entries ih =>
      intro seen hents hseen
      have hent:=hents entry (mem_cons_self ..)
      have hget:=rememberIssuer_get (hseen _ _ hent)
      obtain ⟨hkept,hadded⟩:=ih (rememberIssuer seen entry)
        (fun e he => hents e (mem_cons_of_mem _ he)) (by
          grind)
      refine ⟨?_,?_⟩
      · grind
      · grind
  obtain ⟨hkept,hadded⟩:=hfold candidate.pairs store.seenIssuers
    (fun entry hent => mem_pairs.mp hent) hchk
  exact ⟨hkept,fun tunnelId scope hscope => hadded (tunnelId,scope) (mem_pairs.mpr hscope)⟩

def ScopePartitions.Holds (store : ScopePartitions) (tunnelId : String) (scope : GatewayScopeFileV2) :
    Prop :=
  store.staticScopes.get tunnelId=some scope ∨ store.managedScopes.get tunnelId=some scope

/-- No Tunnel is in both partitions, and each one's issuer is remembered. -/
structure ScopePartitions.Consistent (store : ScopePartitions) : Prop where
  apart : ∀ tunnelId,
    store.staticScopes.get tunnelId=none ∨ store.managedScopes.get tunnelId=none
  seen : ∀ tunnelId scope, store.Holds tunnelId scope →
    store.seenIssuers.get tunnelId=some scope.tunnelSigningPublicKey

section Calls
variable {p : Primitives} {fromYaml : FieldCodec.Bytes → Except String GatewayScopeFileV2}
  {store : ScopePartitions}

variable {tunnelId : String}

theorem mem_removedIds {scopes candidate : Table String GatewayScopeFileV2} :
    tunnelId∈removedIds scopes candidate ↔
      scopes.contains tunnelId=true ∧ candidate.contains tunnelId=false := by
  rw [removedIds,mem_mergeSort,mem_filter,Bool.not_eq_true']
  refine and_congr_left' ?_
  rw [Table.contains,Option.isSome_iff_exists,mem_map]
  constructor
  · rintro ⟨⟨_,scope⟩,hmem,rfl⟩
    exact ⟨scope,mem_pairs.mp hmem⟩
  rintro ⟨scope,hget⟩
  exact ⟨(tunnelId,scope),mem_pairs.mpr hget,rfl⟩

theorem removedIds_nodup (scopes candidate : Table String GatewayScopeFileV2) :
    (removedIds scopes candidate).Nodup := by
  rw [removedIds,(mergeSort_perm _ _).nodup_iff]
  exact scopes.pairs_nodup.filter _

theorem checkScope_eq_ok {other : Table String GatewayScopeFileV2}
    {scope : GatewayScopeFileV2} (h : store.checkScope other tunnelId scope = .ok ()) :
    other.get tunnelId=none ∧ (store.seenIssuers.get tunnelId=none ∨
      store.seenIssuers.get tunnelId=some scope.tunnelSigningPublicKey) := by
  obtain ⟨hoth,h⟩:=ite_error_eq_ok.mp h
  obtain ⟨_,-⟩:=ite_error_eq_ok.mp h
  refine ⟨?_,?_⟩
  · exact Option.not_isSome_iff_eq_none.mp hoth
  cases hseen : store.seenIssuers.get tunnelId with
  | none => exact .inl rfl
  | some => simp_all

/-- A call that is refused changes nothing; one that is accepted replaces its
own partition by what it brings. -/
inductive ScopeEffect (p : Primitives)
    (fromYaml : FieldCodec.Bytes → Except String GatewayScopeFileV2) (store : ScopePartitions)
    (call : ScopeCall) : ScopeAnswer × ScopePartitions → Prop
  | loadFailed (error : StaticLoadError) : ScopeEffect p fromYaml store call (.loadFailed error,store)
  | refused (error : ScopeStoreError) : ScopeEffect p fromYaml store call (.refused error,store)
  | accepted (candidate : Table String GatewayScopeFileV2) (store' : ScopePartitions)
    (hbrings : ∀ tunnelId scope, candidate.get tunnelId=some scope ↔
      call.Brings p fromYaml scope ∧ scope.tunnelId=tunnelId)
    (hchecked : ∀ tunnelId scope, candidate.get tunnelId=some scope →
      (call.other store).get tunnelId=none ∧ (store.seenIssuers.get tunnelId=none ∨
        store.seenIssuers.get tunnelId=some scope.tunnelSigningPublicKey))
    (hown : call.own store'=candidate) (hother : call.other store'=call.other store)
    (hseen : store'.seenIssuers=store.rememberIssuers candidate) :
    ScopeEffect p fromYaml store call
      (.accepted candidate.pairs.length (ScopePartitions.removedIds (call.own store) candidate),store')

theorem callScopes_effect (p : Primitives)
    (fromYaml : FieldCodec.Bytes → Except String GatewayScopeFileV2) (store : ScopePartitions)
    (call : ScopeCall) : ScopeEffect p fromYaml store call (callScopes p fromYaml store call) := by
  cases call with
  | reloadStatic directory =>
    rw [callScopes]
    cases hload : loadStaticDirectory p fromYaml directory with
    | error error => exact .loadFailed error
    | ok candidate =>
      dsimp only
      rw [reloadStatic]
      cases hchks : candidate.pairs.forM fun entry =>
        store.checkScope store.managedScopes entry.1 entry.2 with
      | error error => exact .refused error
      | ok u =>
        refine .accepted candidate _ (loadStaticDirectory_get hload) ?_ rfl rfl rfl
        intro tunnelId scope hget
        exact checkScope_eq_ok (forM_eq_ok.mp hchks _ (mem_pairs.mpr hget))
  | replaceManagedSnapshot scopes =>
    rw [callScopes,replaceManagedSnapshot]
    cases hcand : managedCandidate p scopes with
    | error error => exact .refused error
    | ok candidate =>
      dsimp only
      cases hchks : candidate.pairs.forM fun entry =>
        store.checkScope store.staticScopes entry.1 entry.2 with
      | error error => exact .refused error
      | ok u =>
        refine .accepted candidate _ (managedCandidate_get hcand) ?_ rfl rfl rfl
        intro tunnelId scope hget
        exact checkScope_eq_ok (forM_eq_ok.mp hchks _ (mem_pairs.mpr hget))

theorem holds_iff (call : ScopeCall) {scope : GatewayScopeFileV2} : store.Holds tunnelId scope ↔
      (call.own store).get tunnelId=some scope ∨ (call.other store).get tunnelId=some scope := by
  cases call with
  | reloadStatic => exact Iff.rfl
  | replaceManagedSnapshot => exact or_comm

theorem apart_iff (call : ScopeCall) :
    (store.staticScopes.get tunnelId=none ∨ store.managedScopes.get tunnelId=none) ↔
      ((call.own store).get tunnelId=none ∨ (call.other store).get tunnelId=none) := by
  cases call with
  | reloadStatic => exact Iff.rfl
  | replaceManagedSnapshot => exact or_comm

def KeepsIssuers (store store' : ScopePartitions) : Prop :=
  ∀ tunnelId issuer, store.seenIssuers.get tunnelId=some issuer →
    store'.seenIssuers.get tunnelId=some issuer

theorem ScopeEffect.consistent {call : ScopeCall} {result : ScopeAnswer × ScopePartitions}
    (h : ScopeEffect p fromYaml store call result) (hstore : store.Consistent) :
    result.2.Consistent ∧ KeepsIssuers store result.2 := by
  cases h with
  | loadFailed error | refused error => exact ⟨hstore,fun _ _ h => h⟩
  | accepted candidate store' hbring hchk hown hoth hseen =>
    obtain ⟨hkept,hadded⟩:=rememberIssuers_get fun id scope hget => (hchk id scope hget).2
    refine ⟨⟨?_,?_⟩,?_⟩
    · intro tunnelId
      rw [apart_iff call,hown,hoth]
      cases hget : candidate.get tunnelId with
      | none => exact .inl rfl
      | some scope => exact .inr (hchk tunnelId scope hget).1
    · intro tunnelId scope hholds
      rw [holds_iff call,hown,hoth] at hholds
      rw [hseen]
      rcases hholds with hget | hget
      · exact hadded tunnelId scope hget
      · exact hkept tunnelId _ (hstore.seen tunnelId scope ((holds_iff call).mpr (.inr hget)))
    · intro tunnelId issuer hiss
      rw [hseen]
      exact hkept tunnelId issuer hiss

theorem run_consistent (p : Primitives)
    (fromYaml : FieldCodec.Bytes → Except String GatewayScopeFileV2) (hstore : store.Consistent)
    (calls : List ScopeCall) :
    let store' := calls.foldl (fun store call => (callScopes p fromYaml store call).2) store
    store'.Consistent ∧ KeepsIssuers store store' := by
  induction calls generalizing store with
  | nil => exact ⟨hstore,fun _ _ h => h⟩
  | cons call calls ih =>
    obtain ⟨hnext,hkeeps⟩:=(callScopes_effect p fromYaml store call).consistent hstore
    obtain ⟨hlast,hkeeps'⟩:=ih hnext
    exact ⟨hlast,fun id issuer h => hkeeps' id issuer (hkeeps id issuer h)⟩

theorem empty_consistent : ScopePartitions.empty.Consistent := by
  refine ⟨fun tunnelId => .inl (get_empty tunnelId),?_⟩
  rintro tunnelId scope (h | h)
  · cases h
  cases h

end Calls

theorem scope_store_history (p : Primitives)
    (fromYaml : FieldCodec.Bytes → Except String GatewayScopeFileV2) (calls later : List ScopeCall)
    (call : ScopeCall) :
    let store := runScopes p fromYaml calls
    let answer := (callScopes p fromYaml store call).1
    let next := (callScopes p fromYaml store call).2
    (∀ tunnelId,
      ¬ (store.staticScopes.contains tunnelId=true ∧ store.managedScopes.contains tunnelId=true)) ∧
    (∀ tunnelId scope scope', store.Holds tunnelId scope →
      (runScopes p fromYaml (calls++later)).Holds tunnelId scope' →
      scope'.tunnelSigningPublicKey=scope.tunnelSigningPublicKey) ∧
    ((∀ count removedIds, answer ≠ .accepted count removedIds) → next=store) ∧
    ∀ count removedIds, answer = .accepted count removedIds →
      call.other next=call.other store ∧
      (∀ tunnelId scope, (call.own next).get tunnelId=some scope ↔
        call.Brings p fromYaml scope ∧ scope.tunnelId=tunnelId) ∧
      removedIds.Nodup ∧ ∀ tunnelId, tunnelId∈removedIds ↔
        (call.own store).contains tunnelId=true ∧ (call.own next).contains tunnelId=false := by
  dsimp only
  obtain ⟨hstore,-⟩:=run_consistent p fromYaml empty_consistent calls
  have heff:=callScopes_effect p fromYaml (runScopes p fromYaml calls) call
  generalize callScopes p fromYaml (runScopes p fromYaml calls) call=result at heff ⊢
  refine ⟨?_,?_,?_,?_⟩
  · rintro tunnelId ⟨hstatic,hmanaged⟩
    rw [Table.contains,runScopes] at hstatic hmanaged
    rcases hstore.apart tunnelId with h | h
    · rw [h] at hstatic
      cases hstatic
    rw [h] at hmanaged
    cases hmanaged
  · intro tunnelId scope scope' hscope hscope'
    obtain ⟨hlast,hkeeps⟩:=run_consistent p fromYaml hstore later
    rw [runScopes,foldl_append] at hscope'
    have hlater:=hkeeps tunnelId _ (hstore.seen tunnelId scope hscope)
    rw [hlast.seen tunnelId scope' hscope'] at hlater
    exact Option.some.inj hlater
  · intro hans
    cases heff with
    | loadFailed error | refused error => rfl
    | accepted => exact absurd rfl (hans _ _)
  · intro count removedIds hans
    cases heff with
    | loadFailed error | refused error => cases hans
    | accepted candidate store' hbring hchk hown hoth =>
      obtain ⟨rfl,rfl⟩:=ScopeAnswer.accepted.inj hans
      refine ⟨hoth,?_,removedIds_nodup _ _,?_⟩
      · rw [hown]
        exact hbring
      intro tunnelId
      rw [hown]
      exact mem_removedIds

end Lantunnel.Gateway
