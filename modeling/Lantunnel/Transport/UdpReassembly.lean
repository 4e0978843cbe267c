import Lantunnel.Transport.UdpFragmentation

/-!
# Putting fragments together (tp-transport/src/quic.rs:143-253, 1119-1166)

The datagram reader decodes each datagram and hands fragments to the reassembler, which
keeps the parts of a packet under its connection and fragment id until all have come.
-/

namespace Lantunnel.Transport
open Lib FieldCodec Core.Wire List

def UDP_FRAGMENT_REASSEMBLY_TTL : ℕ := 2*1000000000

def UDP_FRAGMENT_REASSEMBLY_MAX_ENTRIES : ℕ := 4096

structure UdpFragmentKey where
  connId : String
  fragId : UInt32
  deriving DecidableEq

structure UdpFragmentEntry where
  created : ℕ
  total : UInt8
  received : UInt8
  receivedBytes : ℕ
  parts : List (Option Bytes)
  /-- one slot for each fragment -/
  sized : parts.length=total.toNat

structure UdpFragmentReassembler where
  entries : Table UdpFragmentKey UdpFragmentEntry
  pushesSinceCleanup : UInt16

namespace UdpFragmentReassembler

def default : UdpFragmentReassembler := ⟨.empty,0⟩

/-- The order in which the entries are iterated, whatever it is. -/
structure EntryOrder where
  order : List (UdpFragmentKey × UdpFragmentEntry) → List (UdpFragmentKey × UdpFragmentEntry)
  perm : ∀ entries, (order entries).Perm entries

def cleanup (now : ℕ) (r : UdpFragmentReassembler) : UdpFragmentReassembler :=
  { r with
    entries := r.entries.retain fun _ entry => now-entry.created≤UDP_FRAGMENT_REASSEMBLY_TTL }

def oldest : List (UdpFragmentKey × UdpFragmentEntry) → Option UdpFragmentKey
  | [] => none
  | e::es =>
    some (es.foldl (fun best e => if e.2.created<best.2.created then e else best) e).1

def removeOldest (order : EntryOrder) (r : UdpFragmentReassembler) : UdpFragmentReassembler :=
  match oldest (order.order r.entries.pairs) with
  | none => r
  | some key => { r with entries := r.entries.remove key }

def full (r : UdpFragmentReassembler) : Bool :=
  r.entries.pairs.length≥UDP_FRAGMENT_REASSEMBLY_MAX_ENTRIES

/-- What each push does before it looks at its fragment. -/
def makeRoom (order : EntryOrder) (now : ℕ) (r : UdpFragmentReassembler) :
    UdpFragmentReassembler :=
  let r:={ r with pushesSinceCleanup := r.pushesSinceCleanup+1 }
  let r:=if r.pushesSinceCleanup=0 || r.full then r.cleanup now else r
  if r.full then r.removeOldest order else r

def freshEntry (now : ℕ) (fragTotal : UInt8) : UdpFragmentEntry :=
  ⟨now,fragTotal,0,0,replicate fragTotal.toNat none,length_replicate⟩

def saturatingSucc (n : UInt8) : UInt8 := if n=255 then 255 else n+1

def withPart (entry : UdpFragmentEntry) (slot : ℕ) (payload : Bytes) : UdpFragmentEntry :=
  { entry with
    received := saturatingSucc entry.received
    receivedBytes := entry.receivedBytes+payload.length
    parts := entry.parts.set slot (some payload)
    sized := by rw [length_set,entry.sized] }

def push (order : EntryOrder) (now : ℕ) (r : UdpFragmentReassembler) (connId : String)
    (fragId : UInt32) (fragIndex fragTotal : UInt8) (payload : Bytes) :
    Option BinaryMessage × UdpFragmentReassembler :=
  if fragTotal=0 ∨ fragIndex≥fragTotal then (none,r)
  else
    let r:=r.makeRoom order now
    let key:=⟨connId,fragId⟩
    let entry:=(r.entries.get key).getD (freshEntry now fragTotal)
    if entry.total ≠ fragTotal then (none,{ r with entries := r.entries.remove key })
    else
      let slot:=fragIndex.toNat
      -- `slot` is within the parts, as `sized` says
      if (entry.parts.getD slot none).isSome then
        (none,{ r with entries := r.entries.insert key entry })
      else
        let entry:=withPart entry slot payload
        if entry.receivedBytes>MAX_FRAME_LEN then
          (none,{ r with entries := r.entries.remove key })
        else if entry.received ≠ entry.total then
          (none,{ r with entries := r.entries.insert key entry })
        else
          let r:={ r with entries := r.entries.remove key }
          match entry.parts.mapM id with
          | none => (none,r)
          | some parts => (some (.udpData connId parts.flatten),r)

def readDatagram (order : EntryOrder) (now : ℕ) (r : UdpFragmentReassembler) (data : Bytes) :
    Option BinaryMessage × UdpFragmentReassembler :=
  match unpackBytes data with
  | .ok (.udpFragment connId fragId fragIndex fragTotal payload) =>
    r.push order now connId fragId fragIndex fragTotal payload
  | .ok msg => (some msg,r)
  | .error _ => (none,r)

/-- Fewer packets than the limit are held, and none of them has expired. -/
def Undisturbed (r : UdpFragmentReassembler) (now : ℕ) : Prop :=
  r.entries.pairs.length<UDP_FRAGMENT_REASSEMBLY_MAX_ENTRIES ∧
    ∀ e ∈ r.entries.pairs, now-e.2.created≤UDP_FRAGMENT_REASSEMBLY_TTL

instance (r : UdpFragmentReassembler) (now : ℕ) : Decidable (r.Undisturbed now) :=
  inferInstanceAs (Decidable (_ ∧ _))

variable {r : UdpFragmentReassembler} {order : EntryOrder} {now : ℕ} {key : UdpFragmentKey}

theorem cleanup_length (now : ℕ) (r : UdpFragmentReassembler) :
    (r.cleanup now).entries.pairs.length≤r.entries.pairs.length := by
  rw [cleanup,Table.pairs,Table.pairs,length_map,length_map]
  exact length_filter_le _ _

theorem makeRoom_get (h : r.Undisturbed now) (key : UdpFragmentKey) :
    (r.makeRoom order now).entries.get key=r.entries.get key := by
  obtain ⟨hroom,hfr⟩:=h
  have hkept : (r.entries.retain fun _ entry =>
      now-entry.created≤UDP_FRAGMENT_REASSEMBLY_TTL).get key=r.entries.get key := by
    rw [Table.get_retain]
    cases hget : r.entries.get key with
    | none => rfl
    | some entry =>
      have hent:=hfr (key,entry) (Table.mem_pairs.mpr hget)
      rw [Option.filter_some,if_pos (decide_eq_true hent)]
  have hlen:=cleanup_length now r
  have hnotFull : ∀ r' : UdpFragmentReassembler,
      r'.entries.pairs.length<UDP_FRAGMENT_REASSEMBLY_MAX_ENTRIES → r'.full≠true := by
    intro r' hr'
    rw [full,ne_eq,decide_eq_true_eq]
    omega
  rw [makeRoom]
  split
  · rw [if_neg]
    · exact hkept
    · exact hnotFull _ (Nat.lt_of_le_of_lt hlen hroom)
  · rw [if_neg]
    exact hnotFull _ hroom

theorem push_other (h : r.Undisturbed now) (connId : String) (fragId : UInt32)
    (fragIndex fragTotal : UInt8) (payload : Bytes) (hkey : key≠⟨connId,fragId⟩) :
    (r.push order now connId fragId fragIndex fragTotal payload).2.entries.get key =
      r.entries.get key := by
  have hrem : ((r.makeRoom order now).entries.remove ⟨connId,fragId⟩).get key =
      r.entries.get key := by
    rw [Table.get_remove,if_neg hkey,makeRoom_get h]
  have hins : ∀ entry, ((r.makeRoom order now).entries.insert ⟨connId,fragId⟩ entry).get key =
      r.entries.get key := by
    intro entry
    rw [Table.get_insert_ne _ _ hkey,makeRoom_get h]
  rw [push]
  dsimp only
  split
  · rfl
  split
  · exact hrem
  split
  · exact hins _
  split
  · exact hrem
  split
  · exact hins _
  · split <;> exact hrem

structure Holds (count : ℕ) (part : ℕ → Bytes) (seen : Finset ℕ) (entry : UdpFragmentEntry) :
    Prop where
  total : entry.total.toNat=count
  received : entry.received.toNat=seen.card
  receivedBytes : entry.receivedBytes=∑ i ∈ seen, (part i).length
  parts : ∀ i<count, entry.parts[i]?=some (if i ∈ seen then some (part i) else none)

def Holding (key : UdpFragmentKey) (count : ℕ) (part : ℕ → Bytes) (seen : Finset ℕ)
    (r : UdpFragmentReassembler) : Prop :=
  match r.entries.get key with
  | none => seen=∅
  | some entry => Holds count part seen entry

variable {count : ℕ} {part : ℕ → Bytes} {seen : Finset ℕ} {entry : UdpFragmentEntry}

theorem holds_fresh (now : ℕ) {fragTotal : UInt8} (h : fragTotal.toNat=count) :
    Holds count part ∅ (freshEntry now fragTotal) := by
  refine ⟨h,rfl,rfl,?_⟩
  intro i hi
  have hslots : (freshEntry now fragTotal).parts=replicate fragTotal.toNat none := rfl
  rw [hslots,getElem?_replicate,if_pos (by omega)]
  simp

theorem Holding.holds (h : Holding key count part seen r) (now : ℕ) {fragTotal : UInt8}
    (htot : fragTotal.toNat=count) :
    Holds count part seen ((r.entries.get key).getD (freshEntry now fragTotal)) := by
  rw [Holding] at h
  cases hget : r.entries.get key with
  | none =>
    rw [hget] at h
    obtain rfl : seen=∅ := h
    exact holds_fresh now htot
  | some =>
    rw [hget] at h
    exact h

theorem Holds.holding (h : Holds count part seen entry) (r : UdpFragmentReassembler) :
    Holding key count part seen { r with entries := r.entries.insert key entry } := by
  rw [Holding]
  rw [Table.get_insert_self]
  exact h

theorem Holding.congr {r' : UdpFragmentReassembler} (h : Holding key count part seen r)
    (hget : r'.entries.get key=r.entries.get key) : Holding key count part seen r' := by
  rw [Holding,hget]
  exact h

theorem toNat_saturatingSucc {n : UInt8} (h : n.toNat<255) :
    (saturatingSucc n).toNat=n.toNat+1 := by
  have hne : n≠255 := by
    rintro rfl
    exact absurd h (by decide)
  rw [saturatingSucc,if_neg hne,UInt8.toNat_add]
  have hone : (1 : UInt8).toNat=1 := rfl
  rw [hone,Nat.mod_eq_of_lt (by omega)]

theorem Holds.withPart (h : Holds count part seen entry) (hseen : seen ⊆ Finset.range count)
    (hcnt : count≤255) {i : ℕ} (hi : i<count) (hnew : i∉seen) :
    Holds count part (insert i seen) (withPart entry i (part i)) := by
  have hcard : seen.card<count := by
    have hsub : insert i seen ⊆ Finset.range count :=
      Finset.insert_subset (Finset.mem_range.mpr hi) hseen
    have hle:=Finset.card_le_card hsub
    rw [Finset.card_insert_of_notMem hnew,Finset.card_range] at hle
    omega
  refine ⟨h.total,?_,?_,?_⟩
  · rw [Finset.card_insert_of_notMem hnew,← h.received]
    refine toNat_saturatingSucc ?_
    rw [h.received]
    omega
  · rw [Finset.sum_insert hnew,← h.receivedBytes]
    exact Nat.add_comm _ _
  · intro j hj
    have hslots : entry.parts.length=count := entry.sized.trans h.total
    have hset : (UdpFragmentReassembler.withPart entry i (part i)).parts =
        entry.parts.set i (some (part i)) := rfl
    rw [hset,getElem?_set]
    by_cases hij : i=j
    · simp_all
    rw [if_neg hij,h.parts j hj]
    simp [Ne.symm hij]

theorem Holds.parts_complete (h : Holds count part (Finset.range count) entry) :
    entry.parts.mapM id=some ((range count).map part) := by
  have hparts : entry.parts=((range count).map part).map some := by
    refine ext_getElem? fun i => ?_
    by_cases hi : i<count
    · rw [h.parts i hi,if_pos (Finset.mem_range.mpr hi),getElem?_map,getElem?_map,getElem?_range hi]
      rfl
    rw [getElem?_eq_none,getElem?_eq_none]
    · simpa using hi
    rw [entry.sized,h.total]
    omega
  rw [hparts,mapM_map]
  have hsome : ∀ bytes∈(range count).map part, (id ∘ some) bytes=some bytes := fun _ _ => rfl
  rw [RustStd.mapM_eq_some_map hsome,map_id']

theorem sum_le_total (hseen : seen ⊆ Finset.range count) :
    ∑ i∈seen, (part i).length≤((range count).flatMap part).length := by
  refine (Finset.sum_le_sum_of_subset hseen).trans (le_of_eq ?_)
  rw [length_flatMap]
  rfl

theorem push_own {connId : String} {fragId : UInt32} {fragTotal : UInt8} (order : EntryOrder)
    (fragIndex : UInt8) (h : r.Undisturbed now)
    (hhold : Holding ⟨connId,fragId⟩ count part seen r) (hseen : seen ⊆ Finset.range count)
    (hcnt : count≤255) (htot : fragTotal.toNat=count) (hidx : fragIndex.toNat<count)
    (hlim : ((range count).flatMap part).length≤MAX_FRAME_LEN)
    (hmiss : seen≠Finset.range count) :
    ∃ r', r.push order now connId fragId fragIndex fragTotal (part fragIndex.toNat) =
        (if insert fragIndex.toNat seen=Finset.range count then
          some (.udpData connId ((range count).flatMap part)) else none,r') ∧
      (insert fragIndex.toNat seen≠Finset.range count →
        Holding ⟨connId,fragId⟩ count part (insert fragIndex.toNat seen) r') := by
  have hval : ¬ (fragTotal=0 ∨ fragIndex≥fragTotal) := by
    rw [not_or,ge_iff_le,UInt8.le_iff_toNat_le]
    refine ⟨?_,by omega⟩
    rintro rfl
    have hzero : (0 : UInt8).toNat=0 := rfl
    omega
  have hroom : Holding ⟨connId,fragId⟩ count part seen (r.makeRoom order now) :=
    hhold.congr (makeRoom_get h _)
  have hent:=hroom.holds now htot
  rw [push,if_neg hval]
  dsimp only
  generalize hget : ((r.makeRoom order now).entries.get ⟨connId,fragId⟩).getD
    (freshEntry now fragTotal)=entry at hent ⊢
  have hsame : entry.total=fragTotal := UInt8.toNat_inj.mp (hent.total.trans htot.symm)
  rw [if_neg (not_not.mpr hsame)]
  have hslot : entry.parts.getD fragIndex.toNat none =
      if fragIndex.toNat∈seen then some (part fragIndex.toNat) else none := by
    rw [getD_eq_getElem?_getD,hent.parts _ hidx]
    rfl
  rw [hslot]
  by_cases hold : fragIndex.toNat∈seen
  · rw [if_pos hold,Finset.insert_eq_self.mpr hold,if_neg hmiss]
    exact ⟨_,rfl,fun _ => hent.holding _⟩
  have hgrown : insert fragIndex.toNat seen ⊆ Finset.range count :=
    Finset.insert_subset (Finset.mem_range.mpr hidx) hseen
  have hins:=hent.withPart hseen hcnt hidx hold
  have hbs : ¬ (withPart entry fragIndex.toNat (part fragIndex.toNat)).receivedBytes >
      MAX_FRAME_LEN := by
    rw [hins.receivedBytes]
    exact Nat.not_lt.mpr ((sum_le_total hgrown).trans hlim)
  rw [if_neg hold,if_neg (by simp),if_neg hbs]
  have hrecv : (withPart entry fragIndex.toNat (part fragIndex.toNat)).received =
      (withPart entry fragIndex.toNat (part fragIndex.toNat)).total ↔
      insert fragIndex.toNat seen=Finset.range count := by
    rw [← UInt8.toNat_inj,hins.received,hins.total]
    constructor
    · intro heq
      refine Finset.eq_of_subset_of_card_le hgrown ?_
      rw [Finset.card_range,heq]
    · intro heq
      rw [heq,Finset.card_range]
  by_cases hdone : insert fragIndex.toNat seen=Finset.range count
  · rw [hdone] at hins
    rw [if_neg (not_not.mpr (hrecv.mpr hdone)),if_pos hdone,hins.parts_complete]
    exact ⟨_,rfl,fun hne => absurd hdone hne⟩
  · rw [if_pos (fun heq => hdone (hrecv.mp heq)),if_neg hdone]
    exact ⟨_,rfl,fun _ => hins.holding _⟩

structure FragmentPush where
  order : EntryOrder
  now : ℕ
  connId : String
  fragId : UInt32
  fragIndex : UInt8
  fragTotal : UInt8
  payload : Bytes

def machine : Machine UdpFragmentReassembler FragmentPush BinaryMessage where
  init := default
  enabled := fun _ _ => True
  step := fun r p =>
    let (msg,r):=r.push p.order p.now p.connId p.fragId p.fragIndex p.fragTotal p.payload
    (r,msg.toList)

def filled (entry : UdpFragmentEntry) : List Bytes := entry.parts.filterMap id

structure Counted (entry : UdpFragmentEntry) : Prop where
  received : entry.received.toNat=(filled entry).length
  receivedBytes : entry.receivedBytes=((filled entry).map length).sum

/-- What is held of a packet whose fragments have not all come. -/
structure Partial (entry : UdpFragmentEntry) : Prop extends Counted entry where
  slots : entry.parts.length=entry.total.toNat
  incomplete : entry.received<entry.total
  limit : entry.receivedBytes≤MAX_FRAME_LEN

structure Intact (r : UdpFragmentReassembler) : Prop where
  few : r.entries.pairs.length≤UDP_FRAGMENT_REASSEMBLY_MAX_ENTRIES
  entries : ∀ key entry, r.entries.get key=some entry → Partial entry

theorem length_pairs (t : Table UdpFragmentKey UdpFragmentEntry) :
    t.pairs.length=t.total fun _ => 1 := by
  simp [Table.total]

theorem oldest_mem {l : List (UdpFragmentKey × UdpFragmentEntry)} (h : oldest l=some key) :
    ∃ entry, (key,entry)∈l := by
  cases l with
  | nil => cases h
  | cons e es =>
    obtain rfl := Option.some.inj h
    exact ⟨_,RustStd.foldl_best_mem es e⟩

theorem removeOldest_spec (order : EntryOrder) (r : UdpFragmentReassembler) :
    (∀ key entry, (r.removeOldest order).entries.get key=some entry →
      r.entries.get key=some entry) ∧
    ((r.removeOldest order).entries.pairs.length+1≤r.entries.pairs.length ∨ r.entries.pairs=[]) := by
  rw [removeOldest]
  split
  · rename_i hnone
    refine ⟨fun _ _ h => h,.inr (perm_nil.mp ((order.perm _).symm.trans ?_))⟩
    cases horder : order.order r.entries.pairs with
    | nil => exact .nil
    | cons =>
      rw [horder] at hnone
      cases hnone
  · rename_i key hkey
    refine ⟨fun _ _ => Table.get_of_get_remove,.inl ?_⟩
    obtain ⟨_,hmem⟩:=oldest_mem hkey
    have hget:=Table.mem_pairs.mp ((order.perm _).subset hmem)
    have htot:=Table.total_remove r.entries key fun _ => 1
    rw [hget] at htot
    rw [length_pairs,length_pairs,← htot]
    rfl

theorem makeRoom_spec (h : r.Intact) (order : EntryOrder) (now : ℕ) :
    (r.makeRoom order now).entries.pairs.length<UDP_FRAGMENT_REASSEMBLY_MAX_ENTRIES ∧
      ∀ key entry, (r.makeRoom order now).entries.get key=some entry → Partial entry := by
  have hmid : ∀ r' : UdpFragmentReassembler, r'.entries=r.entries →
      (r'.cleanup now).Intact ∧ r'.Intact := by
    intro r' hr'
    have hr' : r'.Intact := ⟨hr' ▸ h.few,hr' ▸ h.entries⟩
    refine ⟨⟨(cleanup_length now r').trans hr'.few,?_⟩,hr'⟩
    intro key entry hget
    rw [cleanup,Table.get_retain] at hget
    exact hr'.entries key entry (Option.eq_some_of_filter_eq_some hget)
  have hdone : ∀ r' : UdpFragmentReassembler, r'.Intact →
      (if r'.full then r'.removeOldest order else r').entries.pairs.length<
        UDP_FRAGMENT_REASSEMBLY_MAX_ENTRIES ∧ ∀ key entry,
        (if r'.full then r'.removeOldest order else r').entries.get key=some entry →
          Partial entry := by
    intro r' hr'
    have hfew:=hr'.few
    split
    · rename_i hfull
      obtain ⟨hget,_ | hnil⟩:=removeOldest_spec order r'
      · exact ⟨by omega,fun key entry h => hr'.entries key entry (hget key entry h)⟩
      rw [full,hnil] at hfull
      exact absurd hfull (by decide)
    · rename_i hroom
      rw [full,decide_eq_true_eq] at hroom
      exact ⟨by omega,hr'.entries⟩
  refine hdone _ ?_
  split
  · exact (hmid ⟨r.entries,r.pushesSinceCleanup+1⟩ rfl).1
  · exact (hmid ⟨r.entries,r.pushesSinceCleanup+1⟩ rfl).2

theorem Counted.withPart (h : Counted entry) (hslots : entry.parts.length=entry.total.toNat)
    {slot : ℕ} (hslot : slot<entry.parts.length) (hfree : entry.parts.getD slot none=none)
    (payload : Bytes) : Counted (withPart entry slot payload) := by
  obtain ⟨a,b,hparts,hlen⟩ : ∃ a b, entry.parts=a++none::b ∧ a.length=slot := by
    refine ⟨entry.parts.take slot,entry.parts.drop (slot+1),?_,length_take_of_le hslot.le⟩
    rw [getD_eq_getElem?_getD,getElem?_eq_getElem hslot,Option.getD_some] at hfree
    rw [← hfree,cons_getElem_drop_succ,take_append_drop]
  have hset : filled (UdpFragmentReassembler.withPart entry slot payload)=
      a.filterMap id++payload::b.filterMap id := by
    change (entry.parts.set slot (some payload)).filterMap id=_
    rw [hparts,← hlen,set_append_right _ _ le_rfl]
    simp
  have hfill : filled entry=a.filterMap id++b.filterMap id := by
    rw [filled,hparts]
    simp
  have hrecv:=h.received
  have hbs:=h.receivedBytes
  rw [hfill] at hrecv hbs
  refine ⟨?_,?_⟩
  · have ha:=length_filterMap_le id a
    have hb:=length_filterMap_le id b
    have hfits:=entry.total.toNat_lt
    rw [hparts] at hslots
    simp only [length_append,length_cons] at hrecv hslots
    rw [hset]
    refine (toNat_saturatingSucc (by omega)).trans ?_
    simp only [length_append,length_cons]
    omega
  · rw [hset]
    change entry.receivedBytes+payload.length=_
    simp only [map_append,map_cons,sum_append,sum_cons] at hbs ⊢
    omega

theorem Counted.complete (h : Counted entry) (hslots : entry.parts.length=entry.total.toNat)
    (hdone : entry.received=entry.total) : ∀ part∈entry.parts, part.isSome := by
  have hlen : (entry.parts.filterMap id).length=entry.parts.length := by
    rw [hslots,← hdone]
    exact h.received.symm
  exact filterMap_length_eq_length.mp hlen

theorem Partial.fresh (now : ℕ) {fragTotal : UInt8} (h : fragTotal≠0) :
    Partial (freshEntry now fragTotal) := by
  have hnone : filled (freshEntry now fragTotal)=[] := by
    rw [filled,filterMap_eq_nil_iff]
    exact fun part hpart => (eq_of_mem_replicate hpart)
  refine ⟨⟨by rw [hnone]; rfl,by rw [hnone]; rfl⟩,(freshEntry now fragTotal).sized,?_,Nat.zero_le _⟩
  exact UInt8.pos_iff_ne_zero.mpr h

def entryFor (p : FragmentPush) (r : UdpFragmentReassembler) : UdpFragmentEntry :=
  ((r.makeRoom p.order p.now).entries.get ⟨p.connId,p.fragId⟩).getD (freshEntry p.now p.fragTotal)

theorem Intact.entryFor (h : r.Intact) {p : FragmentPush} (hp : p.fragTotal≠0) :
    Partial (r.entryFor p) := by
  rw [UdpFragmentReassembler.entryFor]
  cases hget : (r.makeRoom p.order p.now).entries.get ⟨p.connId,p.fragId⟩ with
  | none => exact .fresh p.now hp
  | some entry => exact (makeRoom_spec h p.order p.now).2 _ entry hget

theorem Intact.insert (h : r.Intact) (order : EntryOrder) (now : ℕ) (he : Partial entry) :
    Intact { r.makeRoom order now with entries := (r.makeRoom order now).entries.insert key entry } := by
  obtain ⟨hfew,hents⟩:=makeRoom_spec h order now
  refine ⟨?_,Table.forall_insert he hents⟩
  have hrem:=Table.total_remove (r.makeRoom order now).entries key fun _ => 1
  have hins:=Table.total_insert (r.makeRoom order now).entries key entry fun _ => 1
  rw [length_pairs] at hfew ⊢
  dsimp only
  omega

theorem Intact.remove (h : r.Intact) (order : EntryOrder) (now : ℕ) (key : UdpFragmentKey) :
    Intact { r.makeRoom order now with entries := (r.makeRoom order now).entries.remove key } := by
  obtain ⟨hfew,hents⟩:=makeRoom_spec h order now
  refine ⟨?_,fun k entry hget => hents k entry (Table.get_of_get_remove hget)⟩
  have hrem:=Table.total_remove (r.makeRoom order now).entries key fun _ => 1
  rw [length_pairs] at hfew ⊢
  dsimp only
  omega

/-- In the entry of its own total, a push has a slot; if it completes the counts,
every slot is filled, and if not, the entry is still a partial one. -/
theorem Partial.pushed (h : Partial entry) {fragIndex : UInt8} (hidx : ¬fragIndex≥entry.total)
    (payload : Bytes) : fragIndex.toNat<entry.parts.length ∧
      (entry.parts.getD fragIndex.toNat none=none →
        ((withPart entry fragIndex.toNat payload).received=entry.total →
          ∀ part∈(withPart entry fragIndex.toNat payload).parts, part.isSome) ∧
        ((withPart entry fragIndex.toNat payload).received≠entry.total →
          (withPart entry fragIndex.toNat payload).receivedBytes≤MAX_FRAME_LEN →
          Partial (withPart entry fragIndex.toNat payload))) := by
  have hslot : fragIndex.toNat<entry.parts.length := by
    rw [h.slots]
    rwa [ge_iff_le,UInt8.not_le,UInt8.lt_iff_toNat_lt] at hidx
  refine ⟨hslot,fun hfree => ?_⟩
  have hcount:=h.toCounted.withPart h.slots hslot hfree payload
  have hsized:=(withPart entry fragIndex.toNat payload).sized
  refine ⟨hcount.complete hsized,fun hmiss hlim => ⟨hcount,hsized,?_,hlim⟩⟩
  have hle:=length_filterMap_le id (withPart entry fragIndex.toNat payload).parts
  have hrecv : _=(filterMap id _).length := hcount.received
  have hne : (withPart entry fragIndex.toNat payload).received.toNat≠entry.total.toNat :=
    fun heq => hmiss (UInt8.toNat_inj.mp heq)
  rw [UInt8.lt_iff_toNat_lt]
  change _<entry.total.toNat
  rw [hsized] at hle
  change _≤entry.total.toNat at hle
  omega

theorem Intact.push (h : r.Intact) (p : FragmentPush) :
    (r.push p.order p.now p.connId p.fragId p.fragIndex p.fragTotal p.payload).2.Intact := by
  rw [UdpFragmentReassembler.push]
  split
  · exact h
  rename_i hval
  obtain ⟨hnonzero,hidx⟩:=not_or.mp hval
  have hent:=h.entryFor hnonzero
  rw [UdpFragmentReassembler.entryFor] at hent
  dsimp only
  split
  · exact h.remove ..
  rename_i htot
  rw [← not_not.mp htot] at hidx
  split
  · exact h.insert _ _ hent
  rename_i hfree
  have hpush:=(hent.pushed hidx p.payload).2 (by simpa using hfree)
  split
  · exact h.remove ..
  rename_i hlim
  split
  · rename_i hmiss
    exact h.insert _ _ (hpush.2 hmiss (Nat.not_lt.mp hlim))
  · split <;> exact h.remove ..

end UdpFragmentReassembler

/-- Whatever fragments come, the partial packets are few and each is what it says, and
the next fragment finds its slot; when the counts say complete, every slot is filled. -/
theorem reassembler_intact {r : UdpFragmentReassembler} {tr : List BinaryMessage}
    (h : UdpFragmentReassembler.machine.Run r tr) :
    r.Intact ∧ ∀ p : UdpFragmentReassembler.FragmentPush,
      p.fragTotal ≠ 0 → ¬p.fragIndex ≥ p.fragTotal → (r.entryFor p).total = p.fragTotal →
        p.fragIndex.toNat < (r.entryFor p).parts.length ∧
        ((r.entryFor p).parts.getD p.fragIndex.toNat none = none →
          (UdpFragmentReassembler.withPart (r.entryFor p) p.fragIndex.toNat p.payload).received =
            p.fragTotal →
          ∀ part ∈ (UdpFragmentReassembler.withPart (r.entryFor p) p.fragIndex.toNat
            p.payload).parts, part.isSome) := by
  have hr : r.Intact := by
    refine h.invariant (fun r _ => r.Intact) ⟨Nat.zero_le _,nofun⟩ ?_
    intro r tr p hr _
    exact hr.push p
  refine ⟨hr,?_⟩
  intro p hnonzero hidx htot
  rw [← htot] at hidx ⊢
  obtain ⟨hslot,hpush⟩:=(hr.entryFor hnonzero).pushed hidx p.payload
  exact ⟨hslot,fun hfree => (hpush hfree).1⟩

theorem reassembler_intact_disagreeing : ∃ r tr, UdpFragmentReassembler.machine.Run r tr ∧
    r.entries.pairs.length = 1 ∧ r.Intact := by
  have hrun:=Machine.Run.exec (.init (M := UdpFragmentReassembler.machine))
    [⟨⟨id,fun _ => .refl _⟩,0,"c",7,0,2,[1]⟩,⟨⟨id,fun _ => .refl _⟩,1,"c",7,1,3,[2]⟩,
      ⟨⟨id,fun _ => .refl _⟩,2,"c",7,1,2,[3]⟩] ⟨trivial,trivial,trivial,trivial⟩
  exact ⟨_,_,hrun,by decide,(reassembler_intact hrun).1⟩

end Lantunnel.Transport
