import Mathlib.Data.List.Dedup
import Lantunnel.Lib.Table
import Lantunnel.Core.Provisioning
import Lantunnel.Client.NativeLanCoverage

/-!
# Peer runtime records (tp-client/src/peer_runtime.rs)

The record of a Peer's LAN Exports and its encoding (`peer_runtime.rs:60-125`), and the
directory of the records learned from other Peers, with the order of the exporters of
each prefix (`:181-358`).
-/

namespace Lantunnel.Client
open Lib RustStd RustNet FieldCodec
open List hiding Vector
open Core (Primitives)

/-! ### Records (peer_runtime.rs:60-125) -/

def MAX_LAN_EXPORTS_PER_PEER_V2 : ℕ := 64

namespace PeerRuntimeRecordV2

def new (lanExports : List LanExportV2) : Except PeerRuntimeErrorV2 PeerRuntimeRecordV2 :=
  if MAX_LAN_EXPORTS_PER_PEER_V2<lanExports.length then .error .tooManyExports
  else
    let sorted:=lanExports.mergeSort fun a b => routeLe a.block b.block
    if (sorted.zip sorted.tail).any fun pair => pair.1.block=pair.2.block then
      .error .duplicatePrefix
    else .ok ⟨sorted⟩

def encodeExport (e : LanExportV2) : Bytes :=
  octets e.block.network++[UInt8.ofNat e.block.prefixLen,if e.ready then 1 else 0]

def encode (record : PeerRuntimeRecordV2) : Bytes :=
  UInt8.ofNat record.lanExports.length::record.lanExports.flatMap encodeExport

def decodeReady (flag : UInt8) : Except PeerRuntimeErrorV2 Bool :=
  if flag=0 then .ok false else if flag=1 then .ok true else .error .invalidEncoding

/-- The chunks of six bytes; what is left at the end is not looked at. -/
def decodeExports : Bytes → Except PeerRuntimeErrorV2 (List LanExportV2)
  | a::b::c::d::prefixLen::ready::rest => do
    let block ← LanExportPrefixV2.new (BitVec.ofNat 32 (beNat [a,b,c,d])) prefixLen.toNat
    let ready ← decodeReady ready
    let exports ← decodeExports rest
    .ok (⟨block,ready⟩::exports)
  | _ => .ok []

def decode (encoded : Bytes) : Except PeerRuntimeErrorV2 PeerRuntimeRecordV2 :=
  match encoded with
  | [] => .error .invalidEncoding
  | first::rest =>
    let count:=first.toNat
    if MAX_LAN_EXPORTS_PER_PEER_V2<count ∨ encoded.length ≠ 1+count*6 then
      .error .invalidEncoding
    else do
      let exports ← decodeExports rest
      new exports

def hash (p : Primitives) (record : PeerRuntimeRecordV2) : Vector UInt8 32 := p.sha256 record.encode

end PeerRuntimeRecordV2

/-! ### The directory (peer_runtime.rs:181-293, 305-338) -/

inductive RuntimeRecordRepairV2
  | inSync
  | needFullRecord

structure PeerGossipDirectoryV2 where
  records : Table String PeerRuntimeRecordV2
  order : Table LanExportPrefixV2 (List String)

def validateOrigin (origin : String) : Except PeerRuntimeErrorV2 Unit :=
  if trim origin = "" ∨ trim origin ≠ origin then .error .invalidOrigin else .ok ()

/-- A set; the loops over it touch one prefix each, so their order is of no
account. -/
def readyPrefixes (record : PeerRuntimeRecordV2) : List LanExportPrefixV2 :=
  ((record.lanExports.filter (·.ready)).map (·.block)).dedup

def removeFromOrder (order : Table LanExportPrefixV2 (List String)) (block : LanExportPrefixV2)
    (origin : String) : Table LanExportPrefixV2 (List String) :=
  match order.get block with
  | none => order
  | some peers =>
    let peers:=peers.filter (· ≠ origin)
    if peers=[] then order.remove block else order.insert block peers

def addToOrder (order : Table LanExportPrefixV2 (List String)) (block : LanExportPrefixV2)
    (origin : String) : Table LanExportPrefixV2 (List String) :=
  let peers:=(order.get block).getD []
  if origin ∈ peers then order.insert block peers else order.insert block (peers++[origin])

namespace PeerGossipDirectoryV2

def empty : PeerGossipDirectoryV2 := ⟨.empty,.empty⟩

variable (directory : PeerGossipDirectoryV2)

def replaceOrigin (originPeerId : String) (record : PeerRuntimeRecordV2) :
    Except PeerRuntimeErrorV2 PeerGossipDirectoryV2 := do
  let _ ← validateOrigin originPeerId
  let previousReady:=((directory.records.get originPeerId).map readyPrefixes).getD []
  let nextReady:=readyPrefixes record
  let order:=(previousReady.filter (· ∉ nextReady)).foldl
    (fun order removed => removeFromOrder order removed originPeerId) directory.order
  let order:=(nextReady.filter (· ∉ previousReady)).foldl
    (fun order added => addToOrder order added originPeerId) order
  .ok ⟨directory.records.insert originPeerId record,order⟩

def removeOrigin (originPeerId : String) : Bool × PeerGossipDirectoryV2 :=
  match directory.records.get originPeerId with
  | none => (false,directory)
  | some record =>
    (true,⟨directory.records.remove originPeerId,
      (readyPrefixes record).foldl (fun order block => removeFromOrder order block originPeerId)
        directory.order⟩)

def compareDigest (p : Primitives) (originPeerId : String) (remoteHash : Vector UInt8 32) :
    RuntimeRecordRepairV2 :=
  if (directory.records.get originPeerId).any fun record => record.hash p=remoteHash then .inSync
  else .needFullRecord

def exporters (block : LanExportPrefixV2) : List String := (directory.order.get block).getD []

def record (originPeerId : String) : Option PeerRuntimeRecordV2 := directory.records.get originPeerId

end PeerGossipDirectoryV2

theorem routeLe_trans {a b c : LanExportPrefixV2} (hab : routeLe a b=true)
    (hbc : routeLe b c=true) : routeLe a c=true := by
  simp only [routeLe,Bool.or_eq_true,Bool.and_eq_true,decide_eq_true_eq,BitVec.lt_def,
    ← BitVec.toNat_inj] at *
  omega

theorem routeLe_total (a b : LanExportPrefixV2) : (routeLe a b || routeLe b a)=true := by
  simp only [routeLe,Bool.or_eq_true,Bool.and_eq_true,decide_eq_true_eq,BitVec.lt_def,
    ← BitVec.toNat_inj]
  omega

namespace PeerRuntimeRecordV2

/-- Made by `new`, of prefixes made by theirs. -/
structure Valid (record : PeerRuntimeRecordV2) : Prop where
  blocks : ∀ e ∈ record.lanExports,
    LanExportPrefixV2.new e.block.network e.block.prefixLen = .ok e.block
  made : new record.lanExports = .ok record

instance (record : PeerRuntimeRecordV2) : Decidable record.Valid :=
  decidable_of_iff ((∀ e ∈ record.lanExports,
    LanExportPrefixV2.new e.block.network e.block.prefixLen = .ok e.block) ∧
      new record.lanExports = .ok record) ⟨fun h => ⟨h.1,h.2⟩,fun h => ⟨h.blocks,h.made⟩⟩

variable {record : PeerRuntimeRecordV2}

theorem pairwise_sorted (lanExports : List LanExportV2) :
    (lanExports.mergeSort fun a b => routeLe a.block b.block).Pairwise fun a b =>
      routeLe a.block b.block=true :=
  pairwise_mergeSort
    (fun (a b c : LanExportV2) (hab : routeLe a.block b.block=true)
      (hbc : routeLe b.block c.block=true) => routeLe_trans hab hbc)
    (fun a b => routeLe_total a.block b.block) lanExports

theorem valid_of_new {lanExports : List LanExportV2}
    (hblock : ∀ e∈lanExports, LanExportPrefixV2.new e.block.network e.block.prefixLen = .ok e.block)
    (h : new lanExports = .ok record) : record.Valid := by
  obtain ⟨hcnt,h⟩:=ite_error_eq_ok.mp h
  obtain ⟨hdist,h⟩:=ite_error_eq_ok.mp h
  obtain rfl := Except.ok.inj h
  have hsort:=pairwise_sorted lanExports
  refine ⟨?_,?_⟩
  · intro e he
    exact hblock e (mem_mergeSort.mp he)
  · rw [new,length_mergeSort,if_neg hcnt,mergeSort_of_pairwise hsort,if_neg hdist]

theorem decodeExports_encode {lanExports : List LanExportV2} (hblocks : ∀ e∈lanExports,
      LanExportPrefixV2.new e.block.network e.block.prefixLen = .ok e.block) :
    decodeExports (lanExports.flatMap encodeExport) = .ok lanExports := by
  induction lanExports with
  | nil => rfl
  | cons e lanExports ih =>
    have hrest:=ih fun e' he' => hblocks e' (mem_cons_of_mem _ he')
    have hblock:=hblocks e (mem_cons_self ..)
    have hlen : e.block.prefixLen<256 := by
      have hmax:=(LanExportPrefixV2.canonical_of_new hblock).2.1
      omega
    obtain ⟨a,b,c,d,hocts⟩ : ∃ a b c d, octets e.block.network=[a,b,c,d] :=
      length_eq_four.mp (beBytes_length 4 e.block.network.toNat)
    have haddr : BitVec.ofNat 32 (beNat [a,b,c,d])=e.block.network := by
      have hlt : e.block.network.toNat<256^4 := e.block.network.isLt
      rw [← hocts,octets,beNat_beBytes,Nat.mod_eq_of_lt hlt,BitVec.ofNat_toNat,BitVec.setWidth_eq]
    rw [flatMap_cons,encodeExport,hocts]
    simp only [cons_append,nil_append,decodeExports,haddr,
      UInt8.toNat_ofNat_of_lt' hlen,hblock,hrest]
    cases e with
    | mk block ready =>
      cases ready with
      | true | false => rfl

theorem length_encode (record : PeerRuntimeRecordV2) :
    record.encode.length=1+record.lanExports.length*6 := by
  have hexport : ∀ l : List LanExportV2, (l.flatMap encodeExport).length=l.length*6 := by
    intro l
    induction l with
    | nil => rfl
    | cons e l ih =>
      have hone : (encodeExport e).length=6 := by
        rfl
      rw [flatMap_cons,length_append,ih,hone,length_cons]
      omega
  rw [encode,length_cons,hexport]
  omega

theorem decode_encode (h : record.Valid) : decode record.encode = .ok record := by
  have hcnt : ¬ MAX_LAN_EXPORTS_PER_PEER_V2<record.lanExports.length :=
    (ite_error_eq_ok.mp h.made).1
  have hnat : (UInt8.ofNat record.lanExports.length).toNat=record.lanExports.length := by
    refine UInt8.toNat_ofNat_of_lt' ?_
    rw [MAX_LAN_EXPORTS_PER_PEER_V2] at hcnt
    have hsize : UInt8.size=256 := rfl
    omega
  have hlen:=length_encode record
  rw [encode] at hlen
  rw [encode,decode,hnat,if_neg (by rw [hlen]; simp [hcnt]),decodeExports_encode h.blocks]
  exact h.made

theorem decodeExports_blocks {encoded : Bytes} {exports : List LanExportV2}
    (h : decodeExports encoded = .ok exports) :
    ∀ e∈exports, LanExportPrefixV2.new e.block.network e.block.prefixLen = .ok e.block := by
  fun_induction decodeExports encoded generalizing exports with
  | case1 a b c d prefixLen ready rest ih =>
    obtain ⟨_,hblock,h⟩:=bind_eq_ok.mp h
    obtain ⟨_,-,h⟩:=bind_eq_ok.mp h
    obtain ⟨_,htail,h⟩:=bind_eq_ok.mp h
    obtain rfl := Except.ok.inj h
    intro e he
    rcases mem_cons.mp he with rfl | he
    · exact LanExportPrefixV2.new_of_new hblock
    · exact ih htail e he
  | case2 encoded hshort =>
    obtain rfl := Except.ok.inj h
    simp

theorem valid_of_decode {encoded : Bytes} (h : decode encoded = .ok record) : record.Valid := by
  cases encoded with
  | nil => cases h
  | cons =>
    obtain ⟨-,h⟩:=ite_error_eq_ok.mp h
    obtain ⟨_,hexport,h⟩:=bind_eq_ok.mp h
    exact valid_of_new (decodeExports_blocks hexport) h

end PeerRuntimeRecordV2

end Lantunnel.Client
