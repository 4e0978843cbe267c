import Lantunnel.Client.PeerRuntime

/-!
# Runtime records (tp-client/src/peer_runtime.rs:60-179)

A record is its exports in order, one for each prefix. The record to publish is resolved
from the prefixes the owner typed and those of the connected networks.
-/

namespace Lantunnel.Client
open Lib RustStd RustNet FieldCodec List
open Core (Primitives)

theorem routeLe_antisymm {a b : LanExportPrefixV2} (hab : routeLe a b=true)
    (hba : routeLe b a=true) : a=b := by
  cases a
  cases b
  simp only [routeLe,Bool.or_eq_true,Bool.and_eq_true,decide_eq_true_eq,BitVec.lt_def,
    ← BitVec.toNat_inj,LanExportPrefixV2.mk.injEq] at *
  omega

namespace PeerRuntimeRecordV2
variable {record record' : PeerRuntimeRecordV2} {l l' : List LanExportV2}

theorem distinct_iff (h : l.Pairwise fun a b => routeLe a.block b.block=true) :
    (l.zip l.tail).any (fun pair => pair.1.block=pair.2.block)=false ↔ (l.map (·.block)).Nodup := by
  induction l with
  | nil => simp
  | cons a l ih =>
    cases l with
    | nil => simp
    | cons b l =>
      obtain ⟨ha,hl⟩:=pairwise_cons.mp h
      -- what has the prefix of the head stands behind the next export, which then has it too
      have hmem : a.block∈(b::l).map (·.block) ↔ a.block=b.block := by
        constructor
        · intro hm
          obtain ⟨c,hc,hac⟩:=mem_map.mp hm
          rcases mem_cons.mp hc with rfl | hc
          · exact hac.symm
          · exact routeLe_antisymm (ha b (mem_cons_self ..)) (hac ▸ rel_of_pairwise_cons hl hc)
        · intro hab
          simp [hab]
      rw [map_cons,nodup_cons,hmem,← ih hl]
      simp

theorem new_eq_ok_iff : new l = .ok record ↔ l.length≤MAX_LAN_EXPORTS_PER_PEER_V2 ∧
    (l.map (·.block)).Nodup ∧ record=⟨l.mergeSort fun a b => routeLe a.block b.block⟩ := by
  have hperm:=mergeSort_perm l fun a b => routeLe a.block b.block
  rw [new,ite_error_eq_ok,ite_error_eq_ok,Nat.not_lt,Bool.not_eq_true,distinct_iff (pairwise_sorted l),
    (hperm.map _).nodup_iff,Except.ok.injEq,eq_comm (a := record)]

theorem new_of_perm (h : new l = .ok record) (hperm : l'.Perm l) : new l' = .ok record := by
  obtain ⟨hlen,hnd,rfl⟩:=new_eq_ok_iff.mp h
  refine new_eq_ok_iff.mpr ⟨hperm.length_eq ▸ hlen,(hperm.map _).nodup_iff.mpr hnd,congrArg mk ?_⟩
  refine (mergeSort_of_perm (fun a b c => @routeLe_trans a.block b.block c.block)
    (fun _ _ => routeLe_total _ _) (fun a ha b hb hab hba => ?_) hperm).symm
  exact inj_on_of_nodup_map hnd ha hb (routeLe_antisymm hab hba)

theorem eq_of_mem_iff (h : new l = .ok record) (h' : new l' = .ok record')
    (hmem : ∀ e, e∈record.lanExports ↔ e∈record'.lanExports) : record=record' := by
  have hperm : l'.Perm l := by
    obtain ⟨-,hnd,rfl⟩:=new_eq_ok_iff.mp h
    obtain ⟨-,hnd',rfl⟩:=new_eq_ok_iff.mp h'
    simp only [mem_mergeSort] at hmem
    exact (perm_ext_iff_of_nodup (.of_map _ hnd') (.of_map _ hnd)).mpr fun e => (hmem e).symm
  exact Except.ok.inj ((new_of_perm h hperm).symm.trans h')

theorem decodeExports_append {chunk : Bytes} (hlen : chunk.length=6) {rest : Bytes} :
    decodeExports (chunk++rest) = .ok l ↔
      ∃ e tail, decodeExports chunk = .ok [e] ∧ decodeExports rest = .ok tail ∧ l=e::tail := by
  match chunk with
  | [a,b,c,d,prefixLen,ready] =>
    simp only [cons_append,nil_append,decodeExports,bind_eq_ok]
    constructor
    · grind
    · rintro ⟨_,tail,⟨block,hblock,flag,hflag,_,hnone,he⟩,htail,rfl⟩
      cases hnone
      cases he
      exact ⟨block,hblock,flag,hflag,tail,htail,rfl⟩

theorem decodeExports_perm {chunks chunks' : List Bytes} (hperm : chunks.Perm chunks')
    (hlen : ∀ c∈chunks, c.length=6) (h : decodeExports chunks.flatten = .ok l) :
    ∃ l', decodeExports chunks'.flatten = .ok l' ∧ l'.Perm l := by
  induction hperm generalizing l with
  | nil => exact ⟨l,h,.refl l⟩
  | cons c _ ih =>
    have hc:=hlen c (mem_cons_self ..)
    obtain ⟨e,tail,he,htail,rfl⟩:=(decodeExports_append hc).mp h
    obtain ⟨tail',htail',hp⟩:=ih (fun c hc => hlen c (mem_cons_of_mem _ hc)) htail
    exact ⟨e::tail',(decodeExports_append hc).mpr ⟨e,tail',he,htail',rfl⟩,hp.cons e⟩
  | swap c d =>
    have hd:=hlen d (mem_cons_self ..)
    have hc:=hlen c (mem_cons_of_mem _ (mem_cons_self ..))
    obtain ⟨e,_,he,hrest,rfl⟩:=(decodeExports_append hd).mp h
    obtain ⟨e',tail,he',htail,rfl⟩:=(decodeExports_append hc).mp hrest
    exact ⟨_,(decodeExports_append hc).mpr ⟨e',_,he',(decodeExports_append hd).mpr ⟨e,tail,he,htail,rfl⟩,rfl⟩,
      .swap ..⟩
  | trans => grind

theorem encodeExport_inj {e e' : LanExportV2} (h : e.block.prefixLen<256)
    (h' : e'.block.prefixLen<256) (heq : encodeExport e=encodeExport e') : e=e' := by
  obtain ⟨hocts,hrest⟩:=append_inj heq (by simp [octets])
  obtain ⟨⟨_,_⟩,ready⟩:=e
  obtain ⟨⟨_,_⟩,ready'⟩:=e'
  have hlen:=congrArg UInt8.toNat (cons_eq_cons.mp hrest).1
  rw [UInt8.toNat_ofNat_of_lt' h,UInt8.toNat_ofNat_of_lt' h'] at hlen
  obtain rfl:=octets_inj hocts
  cases ready <;> cases ready' <;> simp_all

/-- The lengths of prefixes are bytes. -/
def ByteLengths (l : List LanExportV2) : Prop := ∀ e ∈ l, e.block.prefixLen<256

theorem flatMap_encodeExport_inj (h : ByteLengths l) (h' : ByteLengths l')
    (hlen : l.length=l'.length) (heq : l.flatMap encodeExport=l'.flatMap encodeExport) : l=l' := by
  induction l generalizing l' with
  | nil => exact (length_eq_zero_iff.mp hlen.symm).symm
  | cons e l ih =>
    cases l' with
    | nil => cases hlen
    | cons =>
      obtain ⟨hhead,htail⟩:=append_inj heq (by simp [encodeExport,octets])
      obtain ⟨he,hl⟩:=forall_mem_cons.mp h
      obtain ⟨he',hl'⟩:=forall_mem_cons.mp h'
      rw [encodeExport_inj he he' hhead,ih hl hl' (Nat.succ.inj hlen) htail]

theorem runtime_record_codec (p : Primitives) :
    (∀ l record, new l = .ok record → (decode record.encode = .ok record ↔
      ∀ e ∈ l, LanExportPrefixV2.new e.block.network e.block.prefixLen = .ok e.block)) ∧
    (∀ encoded record, decode encoded = .ok record → new record.lanExports = .ok record ∧
      ∀ first (chunks chunks' : List Bytes), encoded=first::chunks.flatten → (∀ c ∈ chunks, c.length=6) →
        chunks.Perm chunks' → decode (first::chunks'.flatten) = .ok record) ∧
    ∀ l l' record record', ByteLengths l → ByteLengths l' → new l = .ok record → new l' = .ok record' →
      (p.sha256 record.encode=p.sha256 record'.encode → record.encode=record'.encode) →
      (record.hash p=record'.hash p ↔ ∀ e, e ∈ record.lanExports ↔ e ∈ record'.lanExports) := by
  refine ⟨fun l record hnew => ⟨fun hdec e he => ?_,fun hblocks => decode_encode (valid_of_new hblocks hnew)⟩,
    fun encoded record hdec => ⟨(valid_of_decode hdec).made,?_⟩,?_⟩
  · obtain ⟨-,-,rfl⟩:=new_eq_ok_iff.mp hnew
    exact (valid_of_decode hdec).blocks e (mem_mergeSort.mpr he)
  · rintro first chunks chunks' rfl hlen hperm
    rw [decode,ite_error_eq_ok,bind_eq_ok] at hdec ⊢
    obtain ⟨hcount,l,hl,hnew⟩:=hdec
    obtain ⟨l',hl',hp⟩:=decodeExports_perm hperm hlen hl
    rw [length_cons,hperm.flatten.length_eq,← length_cons] at hcount
    exact ⟨hcount,l',hl',new_of_perm hnew hp⟩
  · intro l l' record record' hbytes hbytes' hnew hnew' hsha
    refine ⟨fun hhash => ?_,fun hmem => by rw [eq_of_mem_iff hnew hnew' hmem]⟩
    have henc:=hsha hhash
    have hlen : record.lanExports.length=record'.lanExports.length := by
      have htot:=congrArg List.length henc
      rw [length_encode,length_encode] at htot
      omega
    obtain ⟨-,-,rfl⟩:=new_eq_ok_iff.mp hnew
    obtain ⟨-,-,rfl⟩:=new_eq_ok_iff.mp hnew'
    have heq:=flatMap_encodeExport_inj (fun e he => hbytes e (mem_mergeSort.mp he))
      (fun e he => hbytes' e (mem_mergeSort.mp he)) hlen (cons_eq_cons.mp henc).2
    simp [heq]

theorem runtime_record_foreign_prefix :
    ∃ record, new [⟨⟨0x08080800,24⟩,true⟩] = .ok record ∧ decode record.encode ≠ .ok record := by
  refine ⟨⟨[⟨⟨0x08080800,24⟩,true⟩]⟩,by simp [new,MAX_LAN_EXPORTS_PER_PEER_V2],?_⟩
  decide

end PeerRuntimeRecordV2

/-! ### The record to publish (peer_runtime.rs:128-179) -/

structure LocalLanExportConfigV2 where
  configured : List LanExportPrefixV2
  autoCurrentLan : Bool

/-- One round of either loop, with `seen` and `exports`; once the record is full nothing is
pushed any more. -/
def pushExport (ready : LanExportPrefixV2 → Bool) (state : List LanExportPrefixV2 × List LanExportV2)
    (block : LanExportPrefixV2) : List LanExportPrefixV2 × List LanExportV2 :=
  if state.2.length=MAX_LAN_EXPORTS_PER_PEER_V2 ∨ block ∈ state.1 then state
  else (state.1++[block],state.2++[⟨block,ready block⟩])

/-- An error is the panic of `expect`. -/
def LocalLanExportConfigV2.resolve (config : LocalLanExportConfigV2)
    (connectedLans : Option (List LanExportPrefixV2)) : Except PeerRuntimeErrorV2 PeerRuntimeRecordV2 :=
  let state:=config.configured.foldl
    (pushExport fun block => connectedLans.any fun connected => block ∈ connected) ([],[])
  let state:=if config.autoCurrentLan then (connectedLans.getD []).foldl (pushExport fun _ => true) state
    else state
  PeerRuntimeRecordV2.new state.2

section Distinct
variable {α : Type} [DecidableEq α] (l : List α)

theorem eraseDups_concat (a : α) :
    (l++[a]).eraseDups=if a∈l then l.eraseDups else l.eraseDups.concat a := by
  rw [eraseDups_append]
  split <;> simp_all [List.removeAll,eraseDups_cons]

theorem nodup_eraseDups : l.eraseDups.Nodup := by
  induction l using List.reverseRecOn with
  | nil => simp
  | append_singleton l a ih =>
    rw [eraseDups_concat]
    split
    · exact ih
    · exact ih.concat (mt mem_eraseDups.mp ‹_›)

end Distinct

theorem foldl_pushExport (ready : LanExportPrefixV2 → Bool) (l : List LanExportPrefixV2) :
    l.foldl (pushExport ready) ([],[])=(l.eraseDups.take MAX_LAN_EXPORTS_PER_PEER_V2,
      (l.eraseDups.take MAX_LAN_EXPORTS_PER_PEER_V2).map fun block => ⟨block,ready block⟩) := by
  induction l using List.reverseRecOn with
  | nil => rfl
  | append_singleton l block ih =>
    rw [foldl_append,foldl_cons,foldl_nil,ih,pushExport,eraseDups_concat,length_map,length_take]
    by_cases hfull : MAX_LAN_EXPORTS_PER_PEER_V2≤l.eraseDups.length
    · grind
    · rw [take_of_length_le (by omega)]
      by_cases hmem : block∈l
      · rw [if_pos (.inr (mem_eraseDups.mpr hmem)),if_pos hmem,take_of_length_le (by omega)]
      · rw [if_neg (not_or.mpr ⟨by omega,mt mem_eraseDups.mp hmem⟩),if_neg hmem,
          take_of_length_le (by rw [length_concat]; omega)]
        simp

theorem resolve_spec (config : LocalLanExportConfigV2)
    (connectedLans : Option (List LanExportPrefixV2)) :
    ∃ record, config.resolve connectedLans = .ok record ∧
      record.lanExports.length ≤ MAX_LAN_EXPORTS_PER_PEER_V2 ∧
      (record.lanExports.map (·.block)).Nodup ∧
      (∀ block ∈ config.configured.eraseDups.take MAX_LAN_EXPORTS_PER_PEER_V2,
        ⟨block, block ∈ connectedLans.getD []⟩ ∈ record.lanExports) ∧
      ∀ e ∈ record.lanExports, e.block ∉ config.configured.eraseDups.take MAX_LAN_EXPORTS_PER_PEER_V2 →
        config.autoCurrentLan = true ∧ e.block ∈ connectedLans.getD [] ∧ e.ready = true ∧
          (config.configured ++ connectedLans.getD []).eraseDups.idxOf e.block <
            MAX_LAN_EXPORTS_PER_PEER_V2 := by
  -- the two loops are one loop over both lists
  obtain ⟨more,hmore,hres⟩ : ∃ more,
      (more≠[] → more=connectedLans.getD [] ∧ config.autoCurrentLan=true) ∧
      config.resolve connectedLans=PeerRuntimeRecordV2.new
        (((config.configured++more).eraseDups.take MAX_LAN_EXPORTS_PER_PEER_V2).map fun block =>
          ⟨block,block∈connectedLans.getD []⟩) := by
    have hready : (fun block => connectedLans.any fun connected => block∈connected)=
        fun block => decide (block∈connectedLans.getD []) := by
      cases connectedLans <;> simp
    rw [LocalLanExportConfigV2.resolve,hready]
    cases ha : config.autoCurrentLan with
    | false => exact ⟨[],fun h => absurd rfl h,by rw [append_nil,foldl_pushExport]; rfl⟩
    | true =>
      refine ⟨connectedLans.getD [],fun _ => ⟨rfl,rfl⟩,?_⟩
      have hloops:=foldl_pushExport (fun block => block∈connectedLans.getD [])
        (config.configured++connectedLans.getD [])
      rw [foldl_append] at hloops
      rw [if_pos rfl,foldl_ext _ (pushExport fun block => block∈connectedLans.getD []) _
        fun state block hb => by simp only [pushExport,hb,decide_true],hloops]
  have hnodup:=(nodup_eraseDups (config.configured++more)).sublist
    (take_sublist MAX_LAN_EXPORTS_PER_PEER_V2 _)
  obtain ⟨exports,hall⟩ : ∃ exports, exports=((config.configured++more).eraseDups.take
    MAX_LAN_EXPORTS_PER_PEER_V2).map fun block => LanExportV2.mk block (block∈connectedLans.getD []) := ⟨_,rfl⟩
  have hperm:=mergeSort_perm exports fun a b => routeLe a.block b.block
  have hlen : exports.length≤MAX_LAN_EXPORTS_PER_PEER_V2 := by simp [hall]
  have hblocks : (exports.map (·.block)).Nodup := by
    rw [hall,map_map]
    exact (map_id _).symm ▸ hnodup
  rw [← hall] at hres
  refine ⟨_,hres.trans (PeerRuntimeRecordV2.new_eq_ok_iff.mpr ⟨hlen,hblocks,rfl⟩),hperm.length_eq ▸ hlen,
    (hperm.map _).nodup_iff.mpr hblocks,fun block hb => ?_,fun e he hnot => ?_⟩
  · refine hperm.mem_iff.mpr (hall ▸ mem_map.mpr ⟨block,?_,rfl⟩)
    rw [eraseDups_append,take_append]
    exact mem_append_left _ hb
  · obtain ⟨_,hb,rfl⟩:=mem_map.mp (hall ▸ hperm.mem_iff.mp he)
    have hsplit:=hb
    rw [eraseDups_append,take_append] at hsplit
    have hin:=mem_eraseDups.mp (mem_of_mem_take ((mem_append.mp hsplit).resolve_left hnot))
    have hmem:=(mem_filter.mp hin).1
    obtain ⟨rfl,hauto⟩:=hmore (ne_nil_of_mem hmem)
    exact ⟨hauto,hmem,decide_eq_true hmem,(mem_take_iff_idxOf_lt (mem_of_mem_take hb)).mp hb⟩

end Lantunnel.Client
