import Lantunnel.Gateway.Attachment
import Lantunnel.Lib.TextCuts

/-!
# Replica ids of a Client (tp-client/src/p2p/replica.rs:1-83)

A Replica id is `<tunnel>-<eight alphanumerics>-< index>`; everything before the index is
its family.
-/

namespace Lantunnel.Client
open Lib.RustStd

structure ReplicaIdParts where
  family : String
  random : String
  index : ℕ

def isReplicaIndex (index : String) : Bool :=
  index = "0" || (index ≠ "" && index.toList.head? ≠ some '0' && index.toList.all Char.isDigit)

def parseReplicaId (clientId : String) : Option ReplicaIdParts := do
  let (family,index) ← rsplitOnce '-' clientId
  let (_,random) ← rsplitOnce '-' family
  if family = "" || random = "" || (asBytes random).length ≠ 8
      || !random.toList.all Char.isAlphanum || !isReplicaIndex index then
    none
  else
    let index ← parseUnsigned (2^64) index
    some ⟨family,random,index⟩

def replicaSeedForTunnel (tunnelId clientId : String) : Option String := do
  let parts ← parseReplicaId clientId
  if parts.family=tunnelId ++ "-" ++ parts.random then some parts.random else none

def replicaIndex (clientId : String) : Option ℕ := (parseReplicaId clientId).map (·.index)

def replicaIdForIndex (clientId : String) (index : ℕ) : Option String :=
  (parseReplicaId clientId).map fun parts => parts.family ++ "-" ++ toString index

def replicaFamilyId (clientId : String) : String :=
  match parseReplicaId clientId with
  | some parts => parts.family ++ "-0"
  | none => clientId

def sameReplicaFamily (a b : String) : Bool :=
  match parseReplicaId a, parseReplicaId b with
  | some a, some b => a.family=b.family
  | _, _ => false

theorem parseReplicaId_family {clientId : String} {parts : ReplicaIdParts}
    (h : parseReplicaId clientId=some parts) :
    parseReplicaId (parts.family ++ "-0")=some { parts with index := 0 } := by
  obtain ⟨⟨family,_⟩,_,h⟩:=Option.bind_eq_some_iff.mp h
  obtain ⟨⟨_,_⟩,hrandom,h⟩:=Option.bind_eq_some_iff.mp h
  dsimp only at h hrandom
  split at h
  · cases h
  rename_i hchks
  obtain ⟨n,-,h⟩:=Option.bind_eq_some_iff.mp h
  obtain rfl := Option.some.inj h
  have hspl : rsplitOnce '-' (family ++ "-0")=some (family,"0") := by
    rw [rsplitOnce_eq_some_iff,String.toList_append]
    exact ⟨rfl,by decide⟩
  have hnumber : parseUnsigned (2^64) "0" = some 0 := by decide
  have hzero : isReplicaIndex "0" = true := by decide
  simp only [Bool.or_eq_true,not_or] at hchks
  obtain ⟨⟨⟨⟨hemp,hnone⟩,hlen⟩,hletter⟩,-⟩:=hchks
  simp only [parseReplicaId,hspl,Option.bind_eq_bind,Option.bind_some,hrandom,hzero,hnumber]
  simp [hemp,hnone,hlen,hletter]

@[simp] theorem replicaFamilyId_idem (clientId : String) :
    replicaFamilyId (replicaFamilyId clientId)=replicaFamilyId clientId := by
  cases hparse : parseReplicaId clientId with
  | none => simp [replicaFamilyId,hparse]
  | some parts =>
    have hfam : replicaFamilyId clientId=parts.family ++ "-0" := by simp [replicaFamilyId,hparse]
    rw [hfam,replicaFamilyId,parseReplicaId_family hparse]

def usizeIndex (clientId : String) : Option ℕ :=
  (rsplitOnce '-' clientId).bind fun (_,index) => parseUnsigned (2^64) index

theorem parseReplicaId_eq (clientId : String) : parseReplicaId clientId =
    (Gateway.parseReplicaId clientId).bind fun parts =>
      (usizeIndex clientId).map (⟨parts.family,parts.random,·⟩) := by
  unfold parseReplicaId Gateway.parseReplicaId usizeIndex
  rw [show Gateway.isReplicaIndex=isReplicaIndex from rfl]
  cases rsplitOnce '-' clientId with
  | none => rfl
  | some cut =>
    simp only [Option.bind_eq_bind,Option.bind_some]
    cases rsplitOnce '-' cut.1 with
    | none => rfl
    | some =>
      simp only [Option.bind_some]
      split
      · rfl
      · cases parseUnsigned (2^64) cut.2 <;> rfl

theorem v2ReplicaFamilyForTunnel_eq (tunnelId replicaId : String) :
    Gateway.v2ReplicaFamilyForTunnel tunnelId replicaId =
      (Gateway.parseReplicaId replicaId).bind fun parts =>
        if parts.family=tunnelId ++ "-" ++ parts.random then some parts.family else none := by
  refine congrArg _ (funext fun parts => Option.ext fun family => ?_)
  simp only [Option.bind_eq_bind,Option.bind_eq_some_iff,stripPrefix_eq_some_iff,
    Option.ite_none_right_eq_some]
  constructor
  · rintro ⟨_,hrest,_,hrandom,rfl,hsome⟩
    refine ⟨String.toList_inj.mp ?_,hsome⟩
    rw [hrest,hrandom]
    simp
  · rintro ⟨hfam,hsome⟩
    refine ⟨"-" ++ parts.random,?_,parts.random,by simp,rfl,hsome⟩
    rw [hfam]
    simp

/-- Client and Gateway read an id alike unless its index is no `usize`, and so do the
functions that compare families. -/
theorem replica_ids_agree_iff (tunnelId : String) :
    (∀ id, Gateway.v2ReplicaFamilyForTunnel tunnelId id =
      (replicaSeedForTunnel tunnelId id).map (tunnelId ++ "-" ++ ·) ↔
        (Gateway.v2ReplicaFamilyForTunnel tunnelId id ≠ none → usizeIndex id ≠ none)) ∧
    (∀ id, replicaFamilyId (replicaFamilyId id) = replicaFamilyId id) ∧
    ∀ a b family family', Gateway.v2ReplicaFamilyForTunnel tunnelId a = some family →
      Gateway.v2ReplicaFamilyForTunnel tunnelId b = some family' →
      (sameReplicaFamily a b = true ↔
        family = family' ∧ usizeIndex a ≠ none ∧ usizeIndex b ≠ none) := by
  refine ⟨?_,replicaFamilyId_idem,?_⟩
  · intro id
    rw [v2ReplicaFamilyForTunnel_eq,replicaSeedForTunnel,parseReplicaId_eq]
    cases Gateway.parseReplicaId id with
    | none => simp
    | some parts =>
      cases usizeIndex id <;> by_cases hfam : parts.family=tunnelId ++ "-" ++ parts.random <;>
        simp [hfam]
  · intro a b family family' ha hb
    rw [v2ReplicaFamilyForTunnel_eq] at ha hb
    obtain ⟨_,hparts,ha⟩:=Option.bind_eq_some_iff.mp ha
    obtain ⟨_,hparts',hb⟩:=Option.bind_eq_some_iff.mp hb
    obtain ⟨-,ha⟩:=Option.ite_none_right_eq_some.mp ha
    obtain ⟨-,hb⟩:=Option.ite_none_right_eq_some.mp hb
    cases ha
    cases hb
    rw [sameReplicaFamily,parseReplicaId_eq,parseReplicaId_eq,hparts,hparts']
    cases usizeIndex a <;> cases usizeIndex b <;> simp

theorem replica_index_overflow :
    Gateway.v2ReplicaFamilyForTunnel "t" "t-AbC12345-18446744073709551616" = some "t-AbC12345" ∧
      replicaSeedForTunnel "t" "t-AbC12345-18446744073709551616" = none := by
  decide

end Lantunnel.Client
