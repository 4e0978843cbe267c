import Lantunnel.Transport.UdpReassembly

/-!
# A fragmented datagram arrives as it was sent

The fragments of one payload reach the datagram reader in any order, repeated and among
other datagrams.
-/

namespace Lantunnel.Transport
open Lib FieldCodec Core.Wire List EvenSplit
open UdpFragmentReassembler

/-- A datagram that comes in, at a time and with some order of the entries. -/
structure Arrival where
  now : ℕ
  order : EntryOrder
  data : Bytes

def fragmentKeyOf (data : Bytes) : Option UdpFragmentKey :=
  match unpackBytes data with
  | .ok (.udpFragment connId fragId _ _ _) => some ⟨connId,fragId⟩
  | _ => none

/-- No fragment finds the reassembler full or an entry expired. -/
def RunsUndisturbed : UdpFragmentReassembler → List Arrival → Prop
  | _, [] => True
  | r, a::arrivals =>
    r.Undisturbed a.now ∧ RunsUndisturbed (r.readDatagram a.order a.now a.data).2 arrivals

instance decidableRunsUndisturbed :
    ∀ (r : UdpFragmentReassembler) (arrivals : List Arrival), Decidable (RunsUndisturbed r arrivals)
  | _, [] => isTrue trivial
  | r, a::arrivals =>
    have := decidableRunsUndisturbed (r.readDatagram a.order a.now a.data).2 arrivals
    inferInstanceAs (Decidable (_ ∧ _))

def answersTo (key : UdpFragmentKey) : UdpFragmentReassembler → List Arrival →
    List (Option BinaryMessage)
  | _, [] => []
  | r, a::arrivals =>
    let (out,r):=r.readDatagram a.order a.now a.data
    if fragmentKeyOf a.data=some key then out::answersTo key r arrivals
    else answersTo key r arrivals

def AllCame (frames : List DatagramFrame) (arrivals : List Arrival) : Prop :=
  ∀ frame ∈ frames, ∃ a ∈ arrivals, a.data=frame.packed.toBytes

instance (frames : List DatagramFrame) (arrivals : List Arrival) :
    Decidable (AllCame frames arrivals) :=
  inferInstanceAs (Decidable (∀ _ ∈ _, _))

section Reader
variable {key : UdpFragmentKey} {r : UdpFragmentReassembler} {arrivals : List Arrival}

theorem answersTo_other (h : ∀ a∈arrivals, fragmentKeyOf a.data≠some key) :
    answersTo key r arrivals=[] := by
  induction arrivals generalizing r with
  | nil => rfl
  | cons a arrivals ih =>
    rw [answersTo]
    dsimp only
    rw [if_neg (h a (mem_cons_self ..))]
    exact ih fun a' ha' => h a' (mem_cons_of_mem _ ha')

theorem readDatagram_other {order : EntryOrder} {now : ℕ} {data : Bytes} (h : r.Undisturbed now)
    (hkey : fragmentKeyOf data≠some key) :
    (r.readDatagram order now data).2.entries.get key=r.entries.get key := by
  rw [fragmentKeyOf] at hkey
  rw [readDatagram]
  split
  · rename_i connId fragId fragIndex fragTotal payload hdata
    rw [hdata] at hkey
    exact push_other h connId fragId fragIndex fragTotal payload fun heq => hkey (congrArg some heq.symm)
  · rfl
  · rfl

end Reader

section Packet
variable {connId : String} {fragId : UInt32} {payload : Bytes} {count : ℕ}

abbrev fragmentBytes (connId : String) (fragId : UInt32) (payload : Bytes) (count i : ℕ) : Bytes :=
  (fragmentFrame connId fragId payload count i).packed.toBytes

theorem unpackBytes_fragmentBytes (hid : ConnIdFits connId) (i : ℕ) :
    unpackBytes (fragmentBytes connId fragId payload count i) =
      .ok (.udpFragment connId fragId (UInt8.ofNat i) (UInt8.ofNat count)
        (part payload count i)) := by
  have hfits : Representable (.udpFragment connId fragId (UInt8.ofNat i) (UInt8.ofNat count)
      (part payload count i)) := hid
  have hdec:=unpack_pack hfits
  exact hdec

theorem fragmentKeyOf_fragmentBytes (hid : ConnIdFits connId) (i : ℕ) :
    fragmentKeyOf (fragmentBytes connId fragId payload count i)=some ⟨connId,fragId⟩ := by
  rw [fragmentKeyOf,unpackBytes_fragmentBytes hid]

theorem toNat_ofNat_small {n : ℕ} (h : n≤255) : (UInt8.ofNat n).toNat=n := by
  exact Nat.mod_eq_of_lt (by omega)

theorem fragmentBytes_inj (hid : ConnIdFits connId) {i j : ℕ} (hi : i≤255) (hj : j≤255)
    (h : fragmentBytes connId fragId payload count i=fragmentBytes connId fragId payload count j) :
    i=j := by
  have hdec:=congrArg unpackBytes h
  rw [unpackBytes_fragmentBytes hid,unpackBytes_fragmentBytes hid] at hdec
  have hidx : UInt8.ofNat i=UInt8.ofNat j := by
    injection hdec with hmsg
    injection hmsg
  rw [← toNat_ofNat_small hi,hidx,toNat_ofNat_small hj]

theorem readDatagram_own {r : UdpFragmentReassembler} (order : EntryOrder) {now : ℕ}
    {seen : Finset ℕ} (hid : ConnIdFits connId) (hcnt : count≤255) (hpos : 0<count)
    (hlim : payload.length≤MAX_FRAME_LEN) (h : r.Undisturbed now)
    (hhold : Holding ⟨connId,fragId⟩ count (part payload count) seen r)
    (hseen : seen ⊆ Finset.range count) (hmiss : seen≠Finset.range count) {i : ℕ}
    (hi : i<count) : ∃ r', r.readDatagram order now (fragmentBytes connId fragId payload count i) =
        (if insert i seen=Finset.range count then some (.udpData connId payload) else none,r') ∧
      (insert i seen≠Finset.range count →
        Holding ⟨connId,fragId⟩ count (part payload count) (insert i seen) r') := by
  have hidx:=toNat_ofNat_small (n := i) (by omega)
  have hwhole:=flatMap_part payload hpos
  have hpush:=push_own order (UInt8.ofNat i) h hhold hseen hcnt (toNat_ofNat_small hcnt)
    (by omega) (by rw [hwhole]; exact hlim) hmiss
  rw [hidx,hwhole] at hpush
  rw [readDatagram,unpackBytes_fragmentBytes hid]
  exact hpush

/-- From a state in which the parts of `seen` have come: nothing is handed on
until the others have, and then the payload. -/
theorem answersTo_own (hid : ConnIdFits connId) (hcnt : count≤255) (hpos : 0<count)
    (hlim : payload.length≤MAX_FRAME_LEN) {arrivals : List Arrival} {r : UdpFragmentReassembler}
    {seen : Finset ℕ} (hruns : RunsUndisturbed r arrivals)
    (hhold : Holding ⟨connId,fragId⟩ count (part payload count) seen r)
    (hseen : seen ⊆ Finset.range count) (hmiss : seen≠Finset.range count)
    (hown : ∀ a∈arrivals, fragmentKeyOf a.data=some ⟨connId,fragId⟩ →
      ∃ i<count, a.data=fragmentBytes connId fragId payload count i)
    (hbef : ∀ k a, arrivals[k]?=some a → fragmentKeyOf a.data=some ⟨connId,fragId⟩ →
      ∃ i<count, i∉seen ∧
        ∀ a'∈arrivals.take k, a'.data≠fragmentBytes connId fragId payload count i)
    (hall : ∀ i<count, i∈seen ∨
      ∃ a∈arrivals, a.data=fragmentBytes connId fragId payload count i) :
    ∃ k, answersTo ⟨connId,fragId⟩ r arrivals =
      List.replicate k none++[some (.udpData connId payload)] := by
  induction arrivals generalizing r seen with
  | nil => grind
  | cons a arrivals ih =>
    obtain ⟨hnow,hrest⟩:=hruns
    have hownRest : ∀ a'∈arrivals, fragmentKeyOf a'.data=some ⟨connId,fragId⟩ →
        ∃ i<count, a'.data=fragmentBytes connId fragId payload count i :=
      fun a' ha' => hown a' (mem_cons_of_mem _ ha')
    rw [answersTo]
    dsimp only
    by_cases hkey : fragmentKeyOf a.data=some ⟨connId,fragId⟩
    · obtain ⟨i,hi,hdata⟩:=hown a (mem_cons_self ..) hkey
      -- what is still missing later is missing from `seen` and is not this one
      have hbefore : ∀ k a', arrivals[k]?=some a' →
          fragmentKeyOf a'.data=some ⟨connId,fragId⟩ → ∃ j<count, j∉insert i seen ∧
            ∀ b∈arrivals.take k, b.data≠fragmentBytes connId fragId payload count j := by
        intro k a' ha' hkey'
        obtain ⟨j,hj,hnew,hnone⟩:=hbef (k+1) a' ha' hkey'
        refine ⟨j,hj,?_,fun b hb => hnone b (mem_cons_of_mem _ hb)⟩
        rw [Finset.mem_insert,not_or]
        refine ⟨?_,hnew⟩
        rintro rfl
        exact hnone a (mem_cons_self ..) hdata
      obtain ⟨_,hread,hnext⟩:=readDatagram_own a.order hid hcnt hpos hlim hnow hhold
        hseen hmiss hi
      rw [if_pos hkey,hdata,hread]
      rw [hdata,hread] at hrest
      by_cases hdone : insert i seen=Finset.range count
      · rw [if_pos hdone]
        have hnoMore : ∀ a'∈arrivals, fragmentKeyOf a'.data≠some ⟨connId,fragId⟩ := by
          intro a' ha' hkey'
          obtain ⟨k,hk⟩:=mem_iff_getElem?.mp ha'
          obtain ⟨j,hj,hnew,-⟩:=hbefore k a' hk hkey'
          rw [hdone] at hnew
          exact hnew (Finset.mem_range.mpr hj)
        rw [answersTo_other hnoMore]
        exact ⟨0,rfl⟩
      · rw [if_neg hdone]
        obtain ⟨k,hk⟩:=ih hrest (hnext hdone)
          (Finset.insert_subset (Finset.mem_range.mpr hi) hseen) hdone hownRest hbefore (by
            intro j hj
            rcases hall j hj with hmem | ⟨a',ha',hdata'⟩
            · exact .inl (Finset.mem_insert_of_mem hmem)
            rcases mem_cons.mp ha' with rfl | ha'
            · have hij:=fragmentBytes_inj hid (by omega) (by omega) (hdata.symm.trans hdata')
              exact .inl (hij ▸ Finset.mem_insert_self ..)
            · exact .inr ⟨a',ha',hdata'⟩)
        rw [hk]
        exact ⟨k+1,rfl⟩
    · rw [if_neg hkey]
      refine ih hrest (hhold.congr (readDatagram_other hnow hkey)) hseen hmiss hownRest ?_ ?_
      · intro k a' ha' hkey'
        obtain ⟨j,hj,hnew,hnone⟩:=hbef (k+1) a' ha' hkey'
        exact ⟨j,hj,hnew,fun b hb => hnone b (mem_cons_of_mem _ hb)⟩
      intro j hj
      rcases hall j hj with hmem | ⟨a',ha',hdata'⟩
      · exact .inl hmem
      rcases mem_cons.mp ha' with rfl | ha'
      · rw [hdata',fragmentKeyOf_fragmentBytes hid] at hkey
        exact absurd rfl hkey
      · exact .inr ⟨a',ha',hdata'⟩

end Packet

/-- Every fragment fits the datagram, and the fragments of a payload, in any
order, repeated before the last one and among other datagrams, give the payload
once, when the last missing one comes. -/
theorem udp_fragments_reassemble {connId : String} {fragId : UInt32} {payload : Bytes} {maxDg : ℕ}
    {frames : List DatagramFrame} (hid : ConnIdFits connId) (hlimit : payload.length ≤ MAX_FRAME_LEN)
    (hemitted : emittedFragments connId fragId payload maxDg = some frames) :
    (∀ frame ∈ frames, frame.packed.toBytes.length ≤ maxDg) ∧
      ∀ r arrivals, r.entries.get ⟨connId, fragId⟩ = none → RunsUndisturbed r arrivals →
        (∀ a ∈ arrivals, fragmentKeyOf a.data = some ⟨connId, fragId⟩ →
          ∃ frame ∈ frames, a.data = frame.packed.toBytes) →
        (∀ k a, arrivals[k]? = some a → fragmentKeyOf a.data = some ⟨connId, fragId⟩ →
          ¬ AllCame frames (arrivals.take k)) →
        AllCame frames arrivals →
        ∃ k, answersTo ⟨connId, fragId⟩ r arrivals =
          List.replicate k none ++ [some (.udpData connId payload)] := by
  obtain ⟨count,hcnt,rfl⟩:=emittedFragments_eq_some hemitted
  obtain ⟨-,hpos,hmany,-⟩:=fragmentCount_eq_some hcnt
  refine ⟨?_,?_⟩
  · intro frame hfrm
    obtain ⟨i,hi,rfl⟩:=mem_map.mp hfrm
    have hfits : (fragmentFrame connId fragId payload count i).packed.totalLen≤ maxDg :=
      fragmentFrame_fits hcnt (mem_range.mp hi)
    exact length_append.trans_le hfits
  · intro r arrivals hnone hruns hown hbef hall
    have hsta : Holding ⟨connId,fragId⟩ count (part payload count) ∅ r := by
      rw [Holding,hnone]
    have hmiss : (∅ : Finset ℕ)≠Finset.range count := by
      intro heq
      have hzero : 0∈(∅ : Finset ℕ) := heq ▸ Finset.mem_range.mpr hpos
      cases hzero
    refine answersTo_own hid hmany hpos hlimit hruns hsta (Finset.empty_subset _) hmiss ?_ ?_ ?_
    · simp_all
    · intro k a ha hkey
      have hnotAll:=hbef k a ha hkey
      rw [AllCame] at hnotAll
      push Not at hnotAll
      obtain ⟨_,hfrm,hnever⟩:=hnotAll
      obtain ⟨i,hi,rfl⟩:=mem_map.mp hfrm
      exact ⟨i,mem_range.mp hi,Finset.notMem_empty i,hnever⟩
    · intro i hi
      exact .inr (hall _ (mem_map.mpr ⟨i,mem_range.mpr hi,rfl⟩))

def moonlight : Bytes := [109,111,111,110,108,105,103,104,116]

def asStored : EntryOrder := ⟨id,fun _ => .refl _⟩

def moonArrivals : List Arrival :=
  [fragmentBytes "abcdefghijkl" 7 moonlight 2 1,fragmentBytes "abcdefghijkl" 8 moonlight 2 0,
    fragmentBytes "abcdefghijkl" 7 moonlight 2 1,fragmentBytes "abcdefghijkl" 7 moonlight 2 0].map
    fun data => ⟨0,asStored,data⟩

theorem udp_fragments_reassemble_moonlight :
    ∃ k, answersTo ⟨"abcdefghijkl", 7⟩ .default moonArrivals =
      List.replicate k none ++ [some (.udpData "abcdefghijkl" moonlight)] := by
  have hemit : emittedFragments "abcdefghijkl" 7 moonlight 25 =
      some ((List.range 2).map (fragmentFrame "abcdefghijkl" 7 moonlight 2)) := by decide
  refine (udp_fragments_reassemble ⟨by decide,by decide⟩ (by decide) hemit).2
    .default moonArrivals rfl (by decide) ?_ ?_ ?_
  · decide
  · have hlast : ∀ k<4, ¬ AllCame ((List.range 2).map (fragmentFrame "abcdefghijkl" 7 moonlight 2))
        (moonArrivals.take k) := by decide
    intro k a ha _
    exact hlast k (List.getElem?_eq_some_iff.mp ha).1
  · decide

end Lantunnel.Transport
