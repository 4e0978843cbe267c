import Lantunnel.Client.PeerRuntime

/-!
# The order of exporters (tp-client/src/peer_runtime.rs:187-293, 317-338)

Under any sequence of calls the exporters of a prefix are the origins that have it
ready, by the call since which they have.
-/

namespace Lantunnel.Client
open Lib RustStd List PeerGossipDirectoryV2 Table

abbrev ExportTable := Table LanExportPrefixV2 (List String)

def listed (order : ExportTable) (block : LanExportPrefixV2) : List String := (order.get block).getD []

def NoneEmpty (order : ExportTable) : Prop := ∀ block, order.get block ≠ some []

section Tables
variable {order : ExportTable}

theorem listed_removeFromOrder (block : LanExportPrefixV2) (origin : String)
    (b : LanExportPrefixV2) : listed (removeFromOrder order block origin) b =
      if b=block then (listed order b).filter (· ≠ origin) else listed order b := by
  rw [removeFromOrder]
  cases hget : order.get block with
  | none =>
    dsimp only
    split
    · rename_i hb
      rw [hb,listed,hget]
      rfl
    · rfl
  | some =>
    dsimp only
    split
    · rename_i hemp
      rw [listed,get_remove]
      split
      · rename_i hb
        rw [hb,listed,hget,Option.getD_some,hemp,Option.getD_none]
      · rfl
    · rw [listed,get_insert]
      split
      · rename_i hb
        rw [hb,listed,hget,Option.getD_some,Option.getD_some]
      · rfl

theorem noneEmpty_removeFromOrder (h : NoneEmpty order) (block : LanExportPrefixV2) (origin : String) :
    NoneEmpty (removeFromOrder order block origin) := by
  intro b
  rw [removeFromOrder]
  split
  · exact h b
  dsimp only
  split
  · rw [get_remove]
    split
    · exact fun hnone => by cases hnone
    · exact h b
  · rename_i hne
    rw [get_insert]
    split
    · exact fun hsome => hne (Option.some.inj hsome)
    · exact h b

theorem listed_addToOrder (block : LanExportPrefixV2) (origin : String) (b : LanExportPrefixV2) :
    listed (addToOrder order block origin) b =
      if b=block ∧ origin∉listed order b then listed order b++[origin] else listed order b := by
  rw [addToOrder]
  split
  · rename_i hmem
    rw [listed,get_insert]
    split
    · rename_i hb
      rw [hb,if_neg (fun hnot => hnot.2 hmem)]
      rfl
    rename_i hb
    rw [if_neg (fun hnot => hb hnot.1)]
    rfl
  · rename_i hnew
    rw [listed,get_insert]
    split
    · rename_i hb
      rw [hb,if_pos ⟨rfl,hnew⟩]
      rfl
    rename_i hb
    rw [if_neg (fun hnot => hb hnot.1)]
    rfl

theorem noneEmpty_addToOrder (h : NoneEmpty order) (block : LanExportPrefixV2) (origin : String) :
    NoneEmpty (addToOrder order block origin) := by
  intro b
  rw [addToOrder]
  split
  · rename_i hmem
    rw [get_insert]
    split
    · grind
    · exact h b
  · rw [get_insert]
    split
    · exact fun hemp => by simpa using Option.some.inj hemp
    · exact h b

theorem removeAll (h : NoneEmpty order) (origin : String) (blocks : List LanExportPrefixV2) :
    let order' := blocks.foldl (fun order block => removeFromOrder order block origin) order
    NoneEmpty order' ∧ ∀ b, listed order' b =
      if b∈blocks then (listed order b).filter (· ≠ origin) else listed order b := by
  induction blocks generalizing order with
  | nil => exact ⟨h,fun b => by simp⟩
  | cons block blocks ih =>
    obtain ⟨hemp,hlist⟩:=ih (noneEmpty_removeFromOrder h block origin)
    refine ⟨hemp,?_⟩
    intro b
    rw [foldl_cons,hlist b,listed_removeFromOrder]
    by_cases hb : b=block <;> simp [hb]

theorem addAll (h : NoneEmpty order) (origin : String) (blocks : List LanExportPrefixV2) :
    let order' := blocks.foldl (fun order block => addToOrder order block origin) order
    NoneEmpty order' ∧ ∀ b, listed order' b =
      if b∈blocks ∧ origin∉listed order b then listed order b++[origin] else listed order b := by
  induction blocks generalizing order with
  | nil => exact ⟨h,fun b => by simp⟩
  | cons block blocks ih =>
    obtain ⟨hemp,hlist⟩:=ih (noneEmpty_addToOrder h block origin)
    refine ⟨hemp,?_⟩
    intro b
    rw [foldl_cons,hlist b,listed_addToOrder]
    by_cases hb : b=block
    · by_cases hmem : origin∈listed order b <;> simp [hb,hb ▸ hmem]
    · simp [hb]

end Tables

inductive DirectoryCall
  | replaceOrigin (originPeerId : String) (record : PeerRuntimeRecordV2)
  | removeOrigin (originPeerId : String)

def callDirectory (directory : PeerGossipDirectoryV2) : DirectoryCall → PeerGossipDirectoryV2
  | .replaceOrigin originPeerId record =>
    match directory.replaceOrigin originPeerId record with
    | .ok directory' => directory'
    | .error _ => directory
  | .removeOrigin originPeerId => (directory.removeOrigin originPeerId).2

def runDirectory (calls : List DirectoryCall) : PeerGossipDirectoryV2 := calls.foldl callDirectory .empty

/-- The record of the origin's last accepted `replace_origin`, if no `remove_origin` came
after it. -/
def currentRecord (calls : List DirectoryCall) (origin : String) : Option PeerRuntimeRecordV2 :=
  calls.foldl (fun current call =>
    match call with
    | .replaceOrigin o record =>
      if o=origin ∧ validateOrigin o = .ok () then some record else current
    | .removeOrigin o => if o=origin then none else current) none

def HasReady (calls : List DirectoryCall) (origin : String) (block : LanExportPrefixV2) : Prop :=
  ∃ record, currentRecord calls origin=some record ∧
    ∃ e ∈ record.lanExports, e.block=block ∧ e.ready=true

def ReadyAt (directory : PeerGossipDirectoryV2) (origin : String) (block : LanExportPrefixV2) : Prop :=
  ∃ record, directory.records.get origin=some record ∧
    ∃ e ∈ record.lanExports, e.block=block ∧ e.ready=true

theorem mem_readyPrefixes {record : PeerRuntimeRecordV2} {block : LanExportPrefixV2} :
    block∈readyPrefixes record ↔ ∃ e∈record.lanExports, e.block=block ∧ e.ready=true := by
  rw [readyPrefixes,mem_dedup,mem_map]
  constructor
  · grind
  rintro ⟨e,he,rfl,hrdy⟩
  exact ⟨e,mem_filter.mpr ⟨he,hrdy⟩,rfl⟩

theorem mem_ready_iff {directory : PeerGossipDirectoryV2} {origin : String}
    {block : LanExportPrefixV2} :
    block∈((directory.records.get origin).map readyPrefixes).getD [] ↔
      ReadyAt directory origin block := by
  rw [ReadyAt]
  cases directory.records.get origin with
  | none => simp
  | some => simp [mem_readyPrefixes]

/-- The lists hold the origins that have the prefix ready, each once. -/
structure ListsReady (directory : PeerGossipDirectoryV2) : Prop where
  none_empty : NoneEmpty directory.order
  nodup : ∀ block, (directory.exporters block).Nodup
  ready : ∀ block origin, origin ∈ directory.exporters block ↔ ReadyAt directory origin block

/-- Nothing, or one origin gets another record or none: it leaves the lists of
the prefixes it no longer has ready and enters those of the new ones at the end. -/
def Moves (directory directory' : PeerGossipDirectoryV2) : Prop :=
  directory'=directory ∨ ∃ origin, NoneEmpty directory'.order ∧
    (∀ other ≠ origin, directory'.records.get other=directory.records.get other) ∧
    ∀ block,
      (ReadyAt directory' origin block → ReadyAt directory origin block →
        directory'.exporters block=directory.exporters block) ∧
      (ReadyAt directory' origin block → ¬ ReadyAt directory origin block →
        directory'.exporters block=directory.exporters block++[origin]) ∧
      (¬ ReadyAt directory' origin block →
        directory'.exporters block=(directory.exporters block).filter (· ≠ origin))

section Calls
variable {directory : PeerGossipDirectoryV2}

theorem filter_ne_eq_self {l : List String} {origin : String} (h : origin∉l) :
    l.filter (· ≠ origin)=l := by
  rw [filter_eq_self]
  intro other hoth
  rw [decide_eq_true_eq]
  rintro rfl
  exact h hoth

variable {directory' : PeerGossipDirectoryV2}

theorem replaceOrigin_moves (h : ListsReady directory) {origin : String} {record : PeerRuntimeRecordV2}
    (hcall : directory.replaceOrigin origin record = .ok directory') : Moves directory directory' := by
  obtain ⟨_,-,hcall⟩:=bind_eq_ok.mp hcall
  obtain rfl := Except.ok.inj hcall
  obtain ⟨hemp,hrem⟩:=removeAll h.none_empty origin
    ((((directory.records.get origin).map readyPrefixes).getD []).filter (· ∉ readyPrefixes record))
  obtain ⟨hemp',hadded⟩:=addAll hemp origin ((readyPrefixes record).filter
    (· ∉ ((directory.records.get origin).map readyPrefixes).getD []))
  generalize List.foldl (fun order removed => removeFromOrder order removed origin) directory.order
    _=order₁ at *
  generalize List.foldl (fun order added => addToOrder order added origin) order₁ _=order₂ at *
  have hnext : ∀ block, ReadyAt ⟨directory.records.insert origin record,order₂⟩ origin block ↔
      block∈readyPrefixes record := by
    intro block
    rw [mem_readyPrefixes,ReadyAt]
    simp [get_insert_self]
  refine .inr ⟨origin,hemp',fun other hne => get_insert_ne _ _ hne,?_⟩
  intro block
  have hbef : origin∈listed directory.order block ↔ ReadyAt directory origin block :=
    h.ready block origin
  have hexport : exporters
      ⟨directory.records.insert origin record,order₂⟩ block=listed order₂ block := rfl
  have hleft : block∈(((directory.records.get origin).map readyPrefixes).getD []).filter
      (· ∉ readyPrefixes record) ↔ ReadyAt directory origin block ∧ block∉readyPrefixes record := by
    rw [mem_filter,mem_ready_iff,decide_eq_true_eq]
  have henter : block∈(readyPrefixes record).filter
      (· ∉ ((directory.records.get origin).map readyPrefixes).getD []) ↔
        block∈readyPrefixes record ∧ ¬ ReadyAt directory origin block := by
    rw [mem_filter,decide_eq_true_eq,mem_ready_iff]
  have hkept : ¬ (ReadyAt directory origin block ∧ block∉readyPrefixes record) →
      listed order₁ block=listed directory.order block := by
    intro hnot
    rw [hrem,if_neg (fun hmem => hnot (hleft.mp hmem))]
  rw [hnext,hexport,hadded]
  refine ⟨?_,?_,?_⟩
  · intro haft hrdy
    rw [if_neg (fun hnot => (henter.mp hnot.1).2 hrdy)]
    exact hkept fun hnot => hnot.2 haft
  · intro haft hrdy
    have hsame:=hkept fun hnot => hrdy hnot.1
    have hnew : origin∉listed order₁ block := by
      rw [hsame,hbef]
      exact hrdy
    rw [if_pos ⟨henter.mpr ⟨haft,hrdy⟩,hnew⟩,hsame]
    rfl
  · intro haft
    rw [if_neg (fun hnot => haft (henter.mp hnot.1).1),hrem]
    by_cases hrdy : ReadyAt directory origin block
    · rw [if_pos (hleft.mpr ⟨hrdy,haft⟩)]
      rfl
    rw [if_neg (fun hnot => hrdy (hleft.mp hnot).1)]
    exact (filter_ne_eq_self fun hmem => hrdy (hbef.mp hmem)).symm

theorem removeOrigin_moves (h : ListsReady directory) (origin : String) :
    Moves directory (directory.removeOrigin origin).2 := by
  rw [removeOrigin]
  cases hrec : directory.records.get origin with
  | none => exact .inl rfl
  | some record =>
    obtain ⟨hemp,hrem⟩:=removeAll h.none_empty origin (readyPrefixes record)
    dsimp only at hemp hrem ⊢
    generalize List.foldl (fun order block => removeFromOrder order block origin) directory.order
      (readyPrefixes record)=order₁ at *
    have hgone : ∀ block, ¬ ReadyAt ⟨directory.records.remove origin,order₁⟩ origin block := by
      rintro block ⟨_,hget,-⟩
      rw [get_remove_self] at hget
      cases hget
    have hbef : ∀ block, block∈readyPrefixes record ↔ ReadyAt directory origin block := by
      intro block
      rw [← mem_ready_iff,hrec]
      rfl
    refine .inr ⟨origin,hemp,?_,?_⟩
    · intro other hne
      rw [get_remove,if_neg hne]
    intro block
    refine ⟨fun haft => absurd haft (hgone block),fun haft => absurd haft (hgone block),?_⟩
    intro _
    have hexport : exporters
        ⟨directory.records.remove origin,order₁⟩ block=listed order₁ block := rfl
    rw [hexport,hrem]
    split
    · rfl
    rename_i hrdy
    rw [hbef] at hrdy
    exact (filter_ne_eq_self fun hmem => hrdy ((h.ready block origin).mp hmem)).symm

theorem callDirectory_moves (h : ListsReady directory) (call : DirectoryCall) :
    Moves directory (callDirectory directory call) := by
  cases call with
  | replaceOrigin origin record =>
    rw [callDirectory]
    cases hcall : directory.replaceOrigin origin record with
    | error => exact .inl rfl
    | ok => exact replaceOrigin_moves h hcall
  | removeOrigin origin => exact removeOrigin_moves h origin

theorem ReadyAt.congr {other : String}
    (h : directory'.records.get other=directory.records.get other) (block : LanExportPrefixV2) :
    ReadyAt directory' other block ↔ ReadyAt directory other block := by
  rw [ReadyAt,ReadyAt,h]

theorem Moves.listsReady (h : ListsReady directory)
    (hmoves : Moves directory directory') : ListsReady directory' := by
  rcases hmoves with rfl | ⟨origin,hemp,hoths,hlists⟩
  · exact h
  refine ⟨hemp,?_,?_⟩
  · intro block
    obtain ⟨hkeeps,henter,hleave⟩:=hlists block
    by_cases haft : ReadyAt directory' origin block
    · by_cases hbef : ReadyAt directory origin block
      · rw [hkeeps haft hbef]
        exact h.nodup block
      rw [henter haft hbef]
      rw [← concat_eq_append]
      exact List.Nodup.concat (fun hmem => hbef ((h.ready block origin).mp hmem)) (h.nodup block)
    · rw [hleave haft]
      exact (h.nodup block).filter _
  · intro block other
    obtain ⟨hkeeps,henter,hleave⟩:=hlists block
    by_cases hoth : other=origin
    · subst hoth
      by_cases haft : ReadyAt directory' other block
      · by_cases hbef : ReadyAt directory other block
        · rw [hkeeps haft hbef,h.ready]
          exact ⟨fun _ => haft,fun _ => hbef⟩
        rw [henter haft hbef]
        simp [haft]
      · rw [hleave haft]
        simp [haft]
    · rw [ReadyAt.congr (hoths other hoth),← h.ready]
      by_cases haft : ReadyAt directory' origin block
      · by_cases hbef : ReadyAt directory origin block
        · rw [hkeeps haft hbef]
        rw [henter haft hbef]
        simp [hoth]
      · rw [hleave haft]
        simp [hoth]

end Calls

def ReadySince (calls : List DirectoryCall) (origin : String) (block : LanExportPrefixV2) (n : ℕ) :
    Prop :=
  n<calls.length ∧ ¬ HasReady (calls.take n) origin block ∧
    ∀ m, n< m → m≤calls.length → HasReady (calls.take m) origin block

def ReadyBefore (calls : List DirectoryCall) (block : LanExportPrefixV2) (a b : String) : Prop :=
  ∃ n m, ReadySince calls a block n ∧ ReadySince calls b block m ∧ n< m

section History
variable {calls : List DirectoryCall} {call : DirectoryCall} {block : LanExportPrefixV2}

theorem runDirectory_concat (calls : List DirectoryCall) (call : DirectoryCall) :
    runDirectory (calls++[call])=callDirectory (runDirectory calls) call := by
  rw [runDirectory,foldl_append]
  rfl

theorem records_runDirectory (calls : List DirectoryCall) (origin : String) :
    (runDirectory calls).records.get origin=currentRecord calls origin := by
  induction calls using List.reverseRecOn with
  | nil => rfl
  | append_singleton calls call ih =>
    rw [runDirectory_concat,currentRecord,foldl_append,foldl_cons,foldl_nil,← currentRecord,← ih]
    cases call with
    | replaceOrigin o =>
      rw [callDirectory,replaceOrigin]
      cases hval : validateOrigin o with
      | error => simp [bind,Except.bind,hval]
      | ok =>
        simp only [bind,Except.bind,get_insert]
        by_cases ho : origin=o
        · simp [ho,hval]
        · simp [ho,Ne.symm ho]
    | removeOrigin o =>
      rw [callDirectory,removeOrigin]
      cases hrec : (runDirectory calls).records.get o with
      | none => grind
      | some =>
        simp only [get_remove]
        by_cases ho : origin=o <;> simp [ho,eq_comm]

theorem hasReady_iff {origin : String} :
    HasReady calls origin block ↔ ReadyAt (runDirectory calls) origin block := by
  rw [HasReady,ReadyAt,records_runDirectory]

theorem ReadySince.concat {origin : String} {n : ℕ} (h : ReadySince calls origin block n)
    (hrdy : HasReady (calls++[call]) origin block) :
    ReadySince (calls++[call]) origin block n := by
  obtain ⟨_,_,_⟩:=h
  refine ⟨?_,?_,?_⟩
  · rw [length_append]
    omega
  · rwa [take_append_of_le_length (by omega)]
  intro m hm hlen
  rw [length_append,length_singleton] at hlen
  rcases Nat.lt_or_ge calls.length m with hlast | hle
  · have hm' : m=(calls++[call]).length := by
      rw [length_append,length_singleton]
      omega
    rwa [hm',take_length]
  · grind

theorem readySince_last {origin : String} (hbef : ¬ HasReady calls origin block)
    (haft : HasReady (calls++[call]) origin block) :
    ReadySince (calls++[call]) origin block calls.length := by
  refine ⟨?_,?_,?_⟩
  · rw [length_append,length_singleton]
    omega
  · rwa [take_append_of_le_length (Nat.le_refl _),take_length]
  intro m hm hlen
  have hm' : m=(calls++[call]).length := by
    rw [length_append,length_singleton] at hlen ⊢
    omega
  rwa [hm',take_length]

/-- What is known of the directory after the calls. -/
structure InOrder (calls : List DirectoryCall) : Prop where
  lists : ListsReady (runDirectory calls)
  since : ∀ block origin, origin ∈ (runDirectory calls).exporters block →
    ∃ n, ReadySince calls origin block n
  sorted : ∀ block, ((runDirectory calls).exporters block).Pairwise (ReadyBefore calls block)

theorem InOrder.nil : InOrder [] := by
  have hnone : ∀ block, (runDirectory []).exporters block=[] := by
    intro block
    rfl
  have hrdy : ∀ block origin, ¬ HasReady [] origin block := by
    rintro block origin ⟨_,hget,-⟩
    cases hget
  refine ⟨⟨?_,?_,?_⟩,?_,?_⟩
  · intro block
    exact fun h => by cases h
  · intro block
    exact nodup_nil
  · intro block origin
    exact ⟨fun h => absurd h not_mem_nil,fun h => absurd h (hrdy block origin)⟩
  · intro block origin h
    cases h
  · intro block
    exact List.Pairwise.nil

theorem InOrder.kept (h : InOrder calls) {kept : List String}
    (hsub : kept.Sublist ((runDirectory calls).exporters block))
    (hrdy : ∀ origin∈kept, HasReady (calls++[call]) origin block) :
    kept.Pairwise (ReadyBefore (calls++[call]) block) := by
  refine ((h.sorted block).sublist hsub).imp_of_mem ?_
  rintro a b ha hb ⟨n,m,hn,hm,hlt⟩
  exact ⟨n,m,hn.concat (hrdy a ha),hm.concat (hrdy b hb),hlt⟩

theorem InOrder.concat (h : InOrder calls) (call : DirectoryCall) : InOrder (calls++[call]) := by
  have hmoves:=callDirectory_moves h.lists call
  rw [← runDirectory_concat] at hmoves
  have hlists:=hmoves.listsReady h.lists
  have hrdy : ∀ block, ∀ origin∈(runDirectory (calls++[call])).exporters block,
      HasReady (calls++[call]) origin block :=
    fun block origin hmem => hasReady_iff.mpr ((hlists.ready block origin).mp hmem)
  refine ⟨hlists,?_,?_⟩
  · intro block origin hmem
    have haft:=hrdy block origin hmem
    by_cases hbef : HasReady calls origin block
    · obtain ⟨n,hn⟩:=h.since block origin ((h.lists.ready block origin).mpr (hasReady_iff.mp hbef))
      exact ⟨n,hn.concat haft⟩
    · exact ⟨calls.length,readySince_last hbef haft⟩
  · intro block
    have hmem:=hrdy block
    rcases hmoves with hsame | ⟨origin,-,-,hchg⟩
    · rw [hsame] at hmem ⊢
      exact h.kept (List.Sublist.refl _) hmem
    simp only [← hasReady_iff] at hchg
    obtain ⟨hkeeps,henter,hleave⟩:=hchg block
    by_cases haft : HasReady (calls++[call]) origin block
    · by_cases hbef : HasReady calls origin block
      · rw [hkeeps haft hbef] at hmem ⊢
        exact h.kept (List.Sublist.refl _) hmem
      rw [henter haft hbef] at hmem ⊢
      refine pairwise_append.mpr ⟨?_,pairwise_singleton _ _,?_⟩
      · exact h.kept (List.Sublist.refl _) fun o ho => hmem o (mem_append_left _ ho)
      -- the origin that enters is the last one to
      intro a ha b hb
      obtain rfl := mem_singleton.mp hb
      obtain ⟨n,hn⟩:=h.since block a ha
      exact ⟨n,calls.length,hn.concat (hmem a (mem_append_left _ ha)),
        readySince_last hbef haft,hn.1⟩
    · rw [hleave haft] at hmem ⊢
      exact h.kept filter_sublist hmem

theorem inOrder (calls : List DirectoryCall) : InOrder calls := by
  induction calls using List.reverseRecOn with
  | nil => exact .nil
  | append_singleton calls call ih => exact ih.concat call

theorem exporters_resent {origin : String} {record : PeerRuntimeRecordV2}
    (hcurrent : currentRecord calls origin=some record) (block : LanExportPrefixV2) :
    (runDirectory (calls++[.replaceOrigin origin record])).exporters block =
      (runDirectory calls).exporters block := by
  have hrec:=(records_runDirectory calls origin).trans hcurrent
  rw [runDirectory_concat,callDirectory]
  cases hcall : (runDirectory calls).replaceOrigin origin record with
  | error => rfl
  | ok =>
    obtain ⟨_,-,hcall⟩:=bind_eq_ok.mp hcall
    obtain rfl := Except.ok.inj hcall
    have hnone : (readyPrefixes record).filter (· ∉ readyPrefixes record)=[] := by
      rw [filter_eq_nil_iff]
      simp
    rw [exporters,hrec,Option.map_some,Option.getD_some,hnone]
    rfl

end History

theorem export_order (calls : List DirectoryCall) (block : LanExportPrefixV2) :
    let directory := runDirectory calls
    (directory.exporters block).Nodup ∧
    (∀ origin, origin∈directory.exporters block ↔ HasReady calls origin block) ∧
    (∀ origin∈directory.exporters block, ∃ n, ReadySince calls origin block n) ∧
    (directory.exporters block).Pairwise (ReadyBefore calls block) ∧
    directory.order.get block≠some [] ∧
    ∀ origin record, currentRecord calls origin=some record →
      (runDirectory (calls++[.replaceOrigin origin record])).exporters block =
        directory.exporters block := by
  have h:=inOrder calls
  refine ⟨h.lists.nodup block,fun origin => ?_,h.since block,h.sorted block,
    h.lists.none_empty block,fun _ _ hrec => exporters_resent hrec block⟩
  rw [hasReady_iff]
  exact h.lists.ready block origin

end Lantunnel.Client
