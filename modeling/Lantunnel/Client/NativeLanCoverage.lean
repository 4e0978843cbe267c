import Lantunnel.Lib.Covering
import Lantunnel.Client.NativeLanRoutes

/-!
# What the native LAN routes cover

Every prefix is an aligned block of addresses, and each way of cutting one leaves a list
of such blocks that covers just what it should.
-/

namespace Lantunnel.Client
open Lib AddressBlock RustNet List

namespace LanExportPrefixV2

/-- A length a LAN prefix may have, and no address bit below it. -/
def Canonical (p : LanExportPrefixV2) : Prop :=
  8≤p.prefixLen ∧ p.prefixLen≤32 ∧ p.network &&& ipv4Mask p.prefixLen=p.network

instance (p : LanExportPrefixV2) : Decidable p.Canonical := inferInstanceAs (Decidable (_ ∧ _))

def hostBits (p : LanExportPrefixV2) : ℕ := 32-p.prefixLen

variable {p q : LanExportPrefixV2} {a : Ipv4Addr}

theorem canonical_of_new {network : Ipv4Addr} {prefixLen : ℕ}
    (h : new network prefixLen = .ok p) : p.Canonical := by
  rw [new] at h
  split at h
  · cases h
  dsimp only at h
  split at h
  · cases h
  rename_i hcanon
  rw [not_not] at hcanon
  split at h
  · cases h
  cases h
  rw [hcanon]
  refine ⟨by dsimp only; omega,by dsimp only; omega,hcanon⟩

theorem new_of_new {network : Ipv4Addr} {prefixLen : ℕ} (h : new network prefixLen = .ok p) :
    new p.network p.prefixLen = .ok p := by
  have hwhole:=h
  rw [new] at h
  split at h
  · cases h
  dsimp only at h
  split at h
  · cases h
  rename_i hcanon
  rw [not_not] at hcanon
  split at h
  · cases h
  cases h
  rw [hcanon] at hwhole ⊢
  exact hwhole

theorem mask_eq_highMask {bits : ℕ} (h : bits≠0) : mask 32 bits=highMask 32 (32-bits) := by
  rw [mask,if_neg h]
  rfl

theorem Canonical.aligned (h : p.Canonical) : Aligned p.network p.hostBits := by
  obtain ⟨_,-,hnet⟩:=h
  rw [ipv4Mask,mask_eq_highMask (by omega)] at hnet
  exact and_highMask_self_iff.mp hnet

theorem canonical_of_aligned (hmin : 8≤p.prefixLen) (hmax : p.prefixLen≤32)
    (h : Aligned p.network p.hostBits) : p.Canonical := by
  refine ⟨hmin,hmax,?_⟩
  rw [ipv4Mask,mask_eq_highMask (by omega)]
  exact and_highMask_self_iff.mpr h

theorem Canonical.contains_iff (h : p.Canonical) (a : Ipv4Addr) : p.contains a=true ↔
      p.network.toNat≤a.toNat ∧ a.toNat<p.network.toNat+2^p.hostBits := by
  have hmin:=h.1
  rw [contains,decide_eq_true_eq,mask_eq_highMask (by omega)]
  exact and_highMask_eq_iff h.aligned a

theorem Canonical.contains_network (h : p.Canonical) : p.contains p.network=true := by
  have hpos : 0<2^p.hostBits := Nat.two_pow_pos _
  rw [h.contains_iff]
  omega

section
variable (hp : p.Canonical)
include hp

theorem overlap_iff (hq : q.Canonical) : v2LanPrefixesOverlap p q=true ↔
      p.network.toNat<q.network.toNat+2^q.hostBits ∧
        q.network.toNat<p.network.toNat+2^p.hostBits := by
  have hlast : ∀ r : LanExportPrefixV2, r.Canonical →
      (r.network ||| ~~~(BitVec.allOnes 32 <<< (32-r.prefixLen))).toNat =
        r.network.toNat+(2^r.hostBits-1) :=
    fun r hr => toNat_or_not_highMask hr.aligned (Nat.sub_le _ _)
  have hposp : 0<2^p.hostBits := Nat.two_pow_pos _
  have hposq : 0<2^q.hostBits := Nat.two_pow_pos _
  rw [v2LanPrefixesOverlap]
  rw [Bool.and_eq_true,decide_eq_true_eq,decide_eq_true_eq,BitVec.le_def,BitVec.le_def,hlast p hp,
    hlast q hq]
  omega

theorem overlap_iff_exists (hq : q.Canonical) :
    v2LanPrefixesOverlap p q=true ↔ ∃ a, p.contains a=true ∧ q.contains a=true := by
  rw [overlap_iff hp hq]
  constructor
  · intro hmeet
    rcases Nat.le_total p.network.toNat q.network.toNat with hle | hle
    · refine ⟨q.network,?_,hq.contains_network⟩
      rw [hp.contains_iff]
      omega
    refine ⟨p.network,hp.contains_network,?_⟩
    rw [hq.contains_iff]
    omega
  · rintro ⟨a,hpa,hqa⟩
    rw [hp.contains_iff] at hpa
    rw [hq.contains_iff] at hqa
    omega

theorem contains_of_overlap (hq : q.Canonical)
    (hover : v2LanPrefixesOverlap p q=true) (hlen : q.prefixLen≤p.prefixLen)
    (ha : p.contains a=true) : q.contains a=true := by
  obtain ⟨hlow,hhigh⟩:=(overlap_iff hp hq).mp hover
  have hbits : p.hostBits≤q.hostBits := Nat.sub_le_sub_left hlen 32
  obtain ⟨_,_⟩:=nested hp.aligned hq.aligned hbits hlow hhigh
  rw [hp.contains_iff] at ha
  rw [hq.contains_iff]
  omega

theorem contains_full_iff (hlen : p.prefixLen=32) : p.contains a=true ↔ a=p.network := by
  have hbits : p.hostBits=0 := by
    rw [hostBits,hlen]
  rw [hp.contains_iff,hbits,Nat.pow_zero,← BitVec.toNat_inj]
  omega

theorem children_spec (hlen : p.prefixLen<32) :
    ∃ left right, v2LanPrefixChildren p=some (left,right) ∧ left.Canonical ∧ right.Canonical ∧
      left.prefixLen=p.prefixLen+1 ∧ right.prefixLen=p.prefixLen+1 ∧
      ∀ a, p.contains a=true ↔ left.contains a=true ∨ right.contains a=true := by
  have hmin:=hp.1
  have hbits : p.hostBits=(32-(p.prefixLen+1))+1 := by
    rw [hostBits]
    omega
  have halign:=hp.aligned
  rw [hbits] at halign
  have hupper:=halign.toNat_upper (by omega)
  have hleft : Canonical ⟨p.network,p.prefixLen+1⟩ :=
    canonical_of_aligned (by dsimp only; omega) hlen halign.half
  have hright : Canonical ⟨p.network+1#32 <<< (32-(p.prefixLen+1)),p.prefixLen+1⟩ :=
    canonical_of_aligned (by dsimp only; omega) hlen (halign.upper (by omega))
  refine ⟨_,_,?_,hleft,hright,rfl,rfl,?_⟩
  · rw [v2LanPrefixChildren,if_neg (by omega)]
  intro a
  rw [hp.contains_iff,hleft.contains_iff,hright.contains_iff,hbits,Nat.pow_succ]
  dsimp only [hostBits]
  omega

end

end LanExportPrefixV2

section Cuts
open LanExportPrefixV2

/-- The prefixes are canonical and cover the addresses that satisfy `S`. -/
abbrev RoutesCover (routes : List LanExportPrefixV2) (S : Ipv4Addr → Prop) : Prop :=
  Covering Canonical (fun p a => p.contains a=true) routes S

variable {p left right : LanExportPrefixV2} {T : Ipv4Addr → Prop}
  {routes routes' : List LanExportPrefixV2}

theorem cover_halves
    (hspl : ∀ a, p.contains a=true ↔ left.contains a=true ∨ right.contains a=true)
    (hleft : RoutesCover routes fun a => left.contains a=true ∧ T a)
    (hright : RoutesCover routes' fun a => right.contains a=true ∧ T a) :
    RoutesCover (routes++routes') fun a => p.contains a=true ∧ T a := by
  refine (hleft.append hright).congr fun a => ?_
  rw [hspl a,or_and_right]

/-- What one level of a cut does: keep the prefix, drop it, or go on with its
halves. -/
def CutsAt (cut : ℕ → LanExportPrefixV2 → List LanExportPrefixV2) (T : Ipv4Addr → Prop)
    (levels : ℕ) (p : LanExportPrefixV2) : Prop :=
  (cut levels p=[p] ∧ ∀ a, p.contains a=true → T a) ∨
  (cut levels p=[] ∧ ∀ a, p.contains a=true → ¬ T a) ∨
  ∃ left right, v2LanPrefixChildren p=some (left,right) ∧ p.prefixLen<32 ∧
    ((cut levels p=[left,right] ∧ ∀ a, p.contains a=true → T a) ∨
      ∃ n, levels=n+1 ∧ cut levels p=cut n left++cut n right)

theorem cover_levels {cut : ℕ → LanExportPrefixV2 → List LanExportPrefixV2}
    (hcut : ∀ levels p, p.Canonical → 32≤p.prefixLen+levels → CutsAt cut T levels p)
    (levels : ℕ) (p : LanExportPrefixV2) (hp : p.Canonical) (hlevel : 32≤p.prefixLen+levels) :
    RoutesCover (cut levels p) fun a => p.contains a=true ∧ T a := by
  -- the halves are one bit longer and have one level less
  induction levels using Nat.strong_induction_on generalizing p with
  | h levels ih =>
    rcases hcut levels p hp hlevel with ⟨heq,hall⟩ | ⟨heq,hnone⟩ | ⟨left,right,hkids,hlen,h⟩
    · rw [heq]
      exact .whole hp hall
    · rw [heq]
      exact .nil fun a ⟨ha,hT⟩ => hnone a ha hT
    · obtain ⟨_,_,hkids',hleft,hright,_,_,hspl⟩ :=
        children_spec hp hlen
      rw [hkids] at hkids'
      obtain ⟨rfl,rfl⟩:=Prod.mk.inj (Option.some.inj hkids')
      rcases h with ⟨heq,hall⟩ | ⟨n,rfl,heq⟩
      · rw [heq]
        refine cover_halves hspl (.whole hleft fun a ha => ?_) (.whole hright fun a ha => ?_)
        · exact hall a ((hspl a).mpr (.inl ha))
        · exact hall a ((hspl a).mpr (.inr ha))
      · rw [heq]
        exact cover_halves hspl (ih n (Nat.lt_succ_self n) left hleft (by omega))
          (ih n (Nat.lt_succ_self n) right hright (by omega))

theorem children_of_lt {p : LanExportPrefixV2} (hlen : p.prefixLen<32) :
    ∃ left right, v2LanPrefixChildren p=some (left,right) := by
  rw [v2LanPrefixChildren,if_neg (by omega)]
  exact ⟨_,_,rfl⟩

theorem children_full {p : LanExportPrefixV2} (hlen : 32≤p.prefixLen) :
    v2LanPrefixChildren p=none := by
  rw [v2LanPrefixChildren,if_pos hlen]

theorem subtractHost_cutsAt (address : Ipv4Addr) (levels : ℕ) (p : LanExportPrefixV2)
    (hp : p.Canonical) (hlevel : 32≤p.prefixLen+levels) :
    CutsAt (subtractHost address) (· ≠ address) levels p := by
  have hmax:=hp.2.1
  cases hin : p.contains address with
  | false =>
    refine .inl ⟨?_,?_⟩
    · cases levels with
      | zero | succ levels => rw [subtractHost,hin,Bool.not_false,if_pos rfl]
    rintro a ha rfl
    rw [ha] at hin
    cases hin
  | true =>
    rcases Nat.lt_or_ge p.prefixLen 32 with hlen | hlen
    · obtain ⟨left,right,hkids⟩:=children_of_lt hlen
      refine .inr (.inr ⟨left,right,hkids,hlen,.inr ?_⟩)
      obtain ⟨n,rfl⟩ : ∃ n, levels=n+1 := ⟨levels-1,by omega⟩
      refine ⟨n,rfl,?_⟩
      rw [subtractHost,hin,Bool.not_true,if_neg Bool.false_ne_true,hkids]
    · refine .inr (.inl ⟨?_,?_⟩)
      · cases levels with
        | zero => rw [subtractHost,hin,Bool.not_true,if_neg Bool.false_ne_true]
        | succ =>
          rw [subtractHost,hin,Bool.not_true,if_neg Bool.false_ne_true,children_full hlen]
      · intro a ha hne
        rw [contains_full_iff hp (by omega)] at ha hin
        exact hne (ha.trans hin.symm)

theorem subtractPrefix_cutsAt {excluded : LanExportPrefixV2} (hexclude : excluded.Canonical)
    (levels : ℕ) (p : LanExportPrefixV2) (hp : p.Canonical) (hlevel : 32≤p.prefixLen+levels) :
    CutsAt (subtractPrefix excluded) (fun a => ¬ excluded.contains a=true) levels p := by
  have hmax:=hexclude.2.1
  cases hover : v2LanPrefixesOverlap p excluded with
  | false =>
    refine .inl ⟨?_,?_⟩
    · cases levels with
      | zero | succ levels => rw [subtractPrefix,hover,Bool.not_false,if_pos rfl]
    intro a ha hin
    rw [(overlap_iff_exists hp hexclude).mpr ⟨a,ha,hin⟩] at hover
    cases hover
  | true =>
    rcases Nat.lt_or_ge p.prefixLen excluded.prefixLen with hlen | hlen
    · obtain ⟨left,right,hkids⟩:=children_of_lt (p := p) (by omega)
      refine .inr (.inr ⟨left,right,hkids,by omega,.inr ?_⟩)
      obtain ⟨n,rfl⟩ : ∃ n, levels=n+1 := ⟨levels-1,by omega⟩
      refine ⟨n,rfl,?_⟩
      rw [subtractPrefix,hover,Bool.not_true,if_neg Bool.false_ne_true,if_neg (by omega),
        hkids]
    · refine .inr (.inl ⟨?_,?_⟩)
      · cases levels with
        | zero => rw [subtractPrefix,hover,Bool.not_true,if_neg Bool.false_ne_true]
        | succ =>
          rw [subtractPrefix,hover,Bool.not_true,if_neg Bool.false_ne_true,if_pos hlen]
      · intro a ha hout
        exact hout (contains_of_overlap hp hexclude hover hlen ha)

def ConnectedHost (connected : LanExportPrefixV2) (a : Ipv4Addr) : Prop :=
  connected.prefixLen=32 ∧ connected.network=a

theorem fragmentOne_cutsAt {connected : LanExportPrefixV2} (hconn : connected.Canonical)
    (levels : ℕ) (p : LanExportPrefixV2) (hp : p.Canonical) (hlevel : 32≤p.prefixLen+levels) :
    CutsAt (fragmentOne connected) (fun a => ¬ ConnectedHost connected a) levels p := by
  have hmax:=hp.2.1
  have hconnectedMax:=hconn.2.1
  cases hkeep : (!v2LanPrefixesOverlap p connected || decide (connected.prefixLen<p.prefixLen)) with
  | true =>
    refine .inl ⟨?_,?_⟩
    · cases levels with
      | zero | succ levels => rw [fragmentOne,hkeep,if_pos rfl]
    rintro a ha ⟨_,rfl⟩
    rw [Bool.or_eq_true,Bool.not_eq_true',decide_eq_true_eq] at hkeep
    rcases hkeep with hap | hshorter
    · rw [(overlap_iff_exists hp hconn).mpr
        ⟨connected.network,ha,hconn.contains_network⟩] at hap
      cases hap
    · omega
  | false =>
    have hboth:=hkeep
    rw [Bool.or_eq_false_iff,Bool.not_eq_false',decide_eq_false_iff_not] at hboth
    obtain ⟨hover,_⟩:=hboth
    rcases Nat.lt_or_ge p.prefixLen 32 with hshort | hfull
    · obtain ⟨left,right,hkids⟩:=children_of_lt hshort
      obtain ⟨n,rfl⟩ : ∃ n, levels=n+1 := ⟨levels-1,by omega⟩
      refine .inr (.inr ⟨left,right,hkids,hshort,?_⟩)
      by_cases hsame : p.prefixLen=connected.prefixLen
      · refine .inl ⟨?_,?_⟩
        · rw [fragmentOne,hkeep,if_neg Bool.false_ne_true,hkids]
          exact if_pos hsame
        rintro a-⟨_,-⟩
        omega
      · refine .inr ⟨n,rfl,?_⟩
        rw [fragmentOne,hkeep,if_neg Bool.false_ne_true,hkids]
        exact if_neg hsame
    · -- a single address that is connected by itself
      refine .inr (.inl ⟨?_,?_⟩)
      · cases levels with
        | zero => rw [fragmentOne,hkeep,if_neg Bool.false_ne_true]
        | succ => rw [fragmentOne,hkeep,if_neg Bool.false_ne_true,children_full hfull]
      intro a ha hnot
      refine hnot ⟨by omega,?_⟩
      have hin:=contains_of_overlap hp hconn hover (by omega) ha
      rw [contains_full_iff hconn (by omega)] at hin
      exact hin.symm

theorem withoutPrefixes_cover {excluded : List LanExportPrefixV2}
    (hexclude : ∀ e∈excluded, e.Canonical) (hp : p.Canonical) :
    RoutesCover (v2LanPrefixWithoutPrefixes p excluded)
      fun a => p.contains a=true ∧ ∀ e∈excluded, ¬ e.contains a=true :=
  Covering.foldl excluded (.singleton hp) fun e he q hq =>
    cover_levels (subtractPrefix_cutsAt (hexclude e he)) splitLevels q hq (Nat.le_add_left _ _)

theorem withoutHosts_cover (excluded : List Ipv4Addr) (hp : p.Canonical) :
    RoutesCover (v2LanPrefixWithoutHosts p excluded)
      fun a => p.contains a=true ∧ ∀ e∈excluded, a≠e :=
  Covering.foldl excluded (.singleton hp) fun e _ q hq =>
    cover_levels (subtractHost_cutsAt e) splitLevels q hq (Nat.le_add_left _ _)

theorem preferOverConnected_cover {connectedLans : List LanExportPrefixV2}
    (hconn : ∀ c∈connectedLans, c.Canonical) (hp : p.Canonical) :
    RoutesCover (v2LanPrefixesPreferOverConnected p connectedLans)
      fun a => p.contains a=true ∧ ∀ c∈connectedLans, ¬ ConnectedHost c a :=
  Covering.foldl connectedLans (.singleton hp) fun c hc q hq =>
    cover_levels (fragmentOne_cutsAt (hconn c hc)) splitLevels q hq (Nat.le_add_left _ _)

end Cuts

section Routes
variable {generation : NativeLanRouteGeneration} {localRecord : PeerRuntimeRecordV2}
  {active : List (LanExportPrefixV2 × String)} (tunnelFirst : Bool)

def ApartFrom (connectedLans : List LanExportPrefixV2) (p : LanExportPrefixV2) : Prop :=
  ∀ c ∈ connectedLans, ¬ ∃ a, p.contains a=true ∧ c.contains a=true

theorem any_overlap_eq_false_iff {connectedLans : List LanExportPrefixV2} {p : LanExportPrefixV2}
    (hconn : ∀ c∈connectedLans, c.Canonical) (hp : p.Canonical) :
    (connectedLans.any fun c => v2LanPrefixesOverlap p c)=false ↔ ApartFrom connectedLans p := by
  rw [any_eq_false]
  refine forall₂_congr fun c hc => ?_
  rw [LanExportPrefixV2.overlap_iff_exists hp (hconn c hc)]

def ShouldRoute (generation : NativeLanRouteGeneration) (localRecord : PeerRuntimeRecordV2)
    (active : List (LanExportPrefixV2 × String)) (tunnelFirst : Bool) (a : Ipv4Addr) : Prop :=
  (∃ e ∈ active, e.1.contains a=true ∧
    (tunnelFirst=false → ApartFrom generation.connectedLans e.1)) ∧
  (∀ e ∈ localRecord.lanExports, e.ready=true → ¬ e.block.contains a=true) ∧
  a ∉ generation.exclusions ∧
  (tunnelFirst=true → ∀ c ∈ generation.connectedLans, ¬ ConnectedHost c a)

theorem selected_cover (hact : ∀ e∈active, e.1.Canonical)
    (hconn : ∀ c∈generation.connectedLans, c.Canonical) :
    RoutesCover ((active.map (·.1)).filter fun p =>
        tunnelFirst || !generation.connectedLans.any fun c => v2LanPrefixesOverlap p c)
      fun a => ∃ e∈active, e.1.contains a=true ∧
        (tunnelFirst=false → ApartFrom generation.connectedLans e.1) := by
  have hpick : ∀ e∈active, (tunnelFirst ||
      !generation.connectedLans.any fun c => v2LanPrefixesOverlap e.1 c)=true ↔
      (tunnelFirst=false → ApartFrom generation.connectedLans e.1) := by
    intro e he
    rw [Bool.or_eq_true,Bool.not_eq_true',any_overlap_eq_false_iff hconn (hact e he)]
    cases tunnelFirst <;> simp
  refine ⟨?_,?_⟩
  · grind
  intro a
  constructor
  · grind
  · grind

variable (generation localRecord active) in
def unpreferred : List LanExportPrefixV2 :=
  (((active.map (·.1)).filter fun p =>
      tunnelFirst || !generation.connectedLans.any fun c => v2LanPrefixesOverlap p c).flatMap
    fun p => v2LanPrefixWithoutPrefixes p ((localRecord.lanExports.filter (·.ready)).map (·.block))).flatMap
    fun p => v2LanPrefixWithoutHosts p generation.exclusions

theorem unpreferred_cover (hact : ∀ e∈active, e.1.Canonical)
    (hloc : ∀ e∈localRecord.lanExports, e.block.Canonical)
    (hconn : ∀ c∈generation.connectedLans, c.Canonical) :
    RoutesCover (unpreferred generation localRecord active tunnelFirst)
      fun a => ((∃ e∈active, e.1.contains a=true ∧
          (tunnelFirst=false → ApartFrom generation.connectedLans e.1)) ∧
        ∀ e∈(localRecord.lanExports.filter (·.ready)).map (·.block), ¬ e.contains a=true) ∧
        ∀ e∈generation.exclusions, a≠e := by
  have hrdy : ∀ e∈(localRecord.lanExports.filter (·.ready)).map (·.block), e.Canonical := by
    intro p hp
    obtain ⟨e,he,rfl⟩:=mem_map.mp hp
    exact hloc e (mem_filter.mp he).1
  have hselect:=selected_cover tunnelFirst hact hconn
  have hlocal:=hselect.flatMap fun _ hp => withoutPrefixes_cover hrdy hp
  exact hlocal.flatMap fun _ hp => withoutHosts_cover generation.exclusions hp

theorem mem_routes_iff (q : LanExportPrefixV2) :
    q∈v2NativeLanRoutes generation localRecord active tunnelFirst ↔
      q∈(unpreferred generation localRecord active tunnelFirst).flatMap fun p =>
        if tunnelFirst then v2LanPrefixesPreferOverConnected p generation.connectedLans else [p] := by
  rw [v2NativeLanRoutes,mem_destutter_ne,mem_mergeSort]
  rfl

theorem routes_cover (hact : ∀ e∈active, e.1.Canonical)
    (hloc : ∀ e∈localRecord.lanExports, e.block.Canonical)
    (hconn : ∀ c∈generation.connectedLans, c.Canonical) :
    RoutesCover (v2NativeLanRoutes generation localRecord active tunnelFirst)
      (ShouldRoute generation localRecord active tunnelFirst) := by
  have hhosts:=unpreferred_cover tunnelFirst hact hloc hconn
  have hpref : ∀ p, p.Canonical → RoutesCover
      (if tunnelFirst then v2LanPrefixesPreferOverConnected p generation.connectedLans else [p])
      fun a => p.contains a=true ∧
        (tunnelFirst=true → ∀ c∈generation.connectedLans, ¬ ConnectedHost c a) := by
    intro p hp
    cases tunnelFirst with
    | true => exact (preferOverConnected_cover hconn hp).congr fun a => by simp
    | false => exact .whole hp fun a _ => by simp
  have hall:=hhosts.flatMap hpref
  refine (hall.of_mem_iff fun q => mem_routes_iff tunnelFirst q).congr fun a => ?_
  simp only [ShouldRoute,and_assoc,forall_mem_map,mem_filter,and_imp]
  have hex : (∀ e∈generation.exclusions, a≠e) ↔ a∉generation.exclusions :=
    ⟨fun h hmem => h a hmem rfl,fun h e he heq => h (heq ▸ he)⟩
  rw [hex]

theorem routeText_inj {p q : LanExportPrefixV2} (h : routeText p=routeText q) : p=q := by
  have hchs : ∀ r : LanExportPrefixV2, (routeText r).toList =
      (ipv4ToString r.network).toList ++ '/'::Nat.toDigits 10 r.prefixLen := by
    simp [routeText,decimal,Nat.toList_repr]
  have hslash : ∀ rest, NotDigit ('/'::rest) := by
    rintro rest c ⟨⟩
    decide
  have hread:=readIpv4Addr_toString p.network (hslash (Nat.toDigits 10 p.prefixLen))
  rw [← hchs,h,hchs,readIpv4Addr_toString q.network (hslash _)] at hread
  obtain ⟨hnet,hrest⟩:=Prod.mk.inj (Option.some.inj hread)
  have hlen : q.prefixLen=p.prefixLen := by
    rw [← Nat.ofDigitChars_ten_toDigits (n := q.prefixLen),(cons.inj hrest).2,
      Nat.ofDigitChars_ten_toDigits]
  cases p
  cases q
  exact congrArg₂ LanExportPrefixV2.mk hnet.symm hlen.symm

theorem native_lan_routes_cover (hinventory : generation.inventoryReady = true)
    (hbypass : generation.bypassReady = true) (hactive : ∀ e ∈ active, e.1.Canonical)
    (hlocal : ∀ e ∈ localRecord.lanExports, e.block.Canonical)
    (hconnected : ∀ c ∈ generation.connectedLans, c.Canonical) :
    (∀ text ∈ v2NativeLanRouteCidrs generation localRecord active tunnelFirst,
      ∃ route : LanExportPrefixV2, route.Canonical ∧ text = routeText route) ∧
    ∀ a : Ipv4Addr,
      (∃ route : LanExportPrefixV2,
        routeText route ∈ v2NativeLanRouteCidrs generation localRecord active tunnelFirst ∧
        route.contains a = true) ↔
      ShouldRoute generation localRecord active tunnelFirst a := by
  have hcover:=routes_cover tunnelFirst hactive hlocal hconnected
  have hcidrs : v2NativeLanRouteCidrs generation localRecord active tunnelFirst =
      (v2NativeLanRoutes generation localRecord active tunnelFirst).map routeText := by
    rw [v2NativeLanRouteCidrs,hinventory,hbypass]
    rfl
  rw [hcidrs]
  refine ⟨?_,?_⟩
  · intro text htext
    obtain ⟨route,hrt,rfl⟩:=mem_map.mp htext
    exact ⟨route,hcover.wellFormed route hrt,rfl⟩
  intro a
  rw [← hcover.covers a]
  refine exists_congr fun route => and_congr_left' ?_
  exact mem_map_of_injective fun _ _ => routeText_inj

def sharedLan : NativeLanRouteGeneration where
  bypassReady := true
  inventoryReady := true
  exclusions := [0xC0A84601#32]
  connectedLans := [⟨0xC0A84600#32,24⟩,⟨0xC0A84609#32,32⟩]

def sharedLanRecord : PeerRuntimeRecordV2 := ⟨[⟨⟨0xC0A84680#32,25⟩,true⟩]⟩

def sharedLanActive : List (LanExportPrefixV2 × String) := [(⟨0xC0A84600#32,24⟩,"workspace")]

theorem native_lan_routes_cover_shared :
    (∃ route : LanExportPrefixV2,
      routeText route ∈ v2NativeLanRouteCidrs sharedLan sharedLanRecord sharedLanActive true ∧
      route.contains 0xC0A84605#32 = true) ∧
    ∀ address ∈ [0xC0A84601#32, 0xC0A84609#32, 0xC0A84681#32],
      ¬ ∃ route : LanExportPrefixV2,
        routeText route ∈ v2NativeLanRouteCidrs sharedLan sharedLanRecord sharedLanActive true ∧
        route.contains address = true := by
  have hcover:=(@native_lan_routes_cover sharedLan sharedLanRecord sharedLanActive true rfl rfl (by decide) (by decide) (by decide)).2
  refine ⟨(hcover _).mpr ⟨⟨_,mem_singleton_self _,by decide,by simp⟩,by decide,by decide,
    ?_⟩,?_⟩
  · simp only [ConnectedHost]
    decide
  intro address haddr hrt
  obtain ⟨-,hloc,hexclude,hconn⟩:=(hcover address).mp hrt
  simp only [mem_cons,not_mem_nil,or_false] at haddr
  rcases haddr with rfl | rfl | rfl
  · exact hexclude (by decide)
  · exact hconn rfl ⟨0xC0A84609#32,32⟩ (by decide) ⟨rfl,rfl⟩
  · exact hloc _ (mem_singleton_self _) rfl (by decide)

end Routes

section Preferred
open LanExportPrefixV2
variable {p q c : LanExportPrefixV2}

structure PartOf (p q : LanExportPrefixV2) : Prop where
  canonical : q.Canonical
  longer : p.prefixLen≤q.prefixLen
  inside : ∀ a, q.contains a=true → p.contains a=true

theorem PartOf.refl (hp : p.Canonical) : PartOf p p := ⟨hp,Nat.le_refl _,fun _ ha => ha⟩

theorem PartOf.trans {r : LanExportPrefixV2} (h : PartOf p q) (h' : PartOf q r) : PartOf p r :=
  ⟨h'.canonical,Nat.le_trans h.longer h'.longer,fun a ha => h.inside a (h'.inside a ha)⟩

/-- Where `q` overlaps a connected LAN it is the more specific route. -/
def Preferred (c q : LanExportPrefixV2) : Prop :=
  (∃ a, q.contains a=true ∧ c.contains a=true) → c.prefixLen<q.prefixLen

theorem Preferred.part (h : Preferred c p) (hq : PartOf p q) : Preferred c q := by
  rintro ⟨a,hqa,hca⟩
  have hp : c.prefixLen<p.prefixLen := h ⟨a,hq.inside a hqa,hca⟩
  exact Nat.lt_of_lt_of_le hp hq.longer

theorem kept_preferred (hc : c.Canonical) (hp : p.Canonical)
    (hkeep : (!v2LanPrefixesOverlap p c || decide (c.prefixLen<p.prefixLen))=true) :
    Preferred c p := by
  rintro ⟨a,hpa,hca⟩
  have hover:=(overlap_iff_exists hp hc).mpr ⟨a,hpa,hca⟩
  rw [hover,Bool.not_true,Bool.false_or,decide_eq_true_eq] at hkeep
  exact hkeep

theorem fragmentOne_preferred (hc : c.Canonical) (levels : ℕ) (hp : p.Canonical) :
    ∀ q∈fragmentOne c levels p, PartOf p q ∧ Preferred c q := by
  induction levels generalizing p with
  | zero =>
    intro q hq
    rw [fragmentOne] at hq
    split at hq
    · rename_i hkeep
      obtain rfl := mem_singleton.mp hq
      exact ⟨.refl hp,kept_preferred hc hp hkeep⟩
    · cases hq
  | succ levels ih =>
    intro q hq
    rw [fragmentOne] at hq
    split at hq
    · rename_i hkeep
      obtain rfl := mem_singleton.mp hq
      exact ⟨.refl hp,kept_preferred hc hp hkeep⟩
    rcases Nat.lt_or_ge p.prefixLen 32 with hlen | hlen
    · obtain ⟨left,right,hkids,hleft,hright,_,_,hspl⟩ :=
        children_spec hp hlen
      have hleftPart : PartOf p left :=
        ⟨hleft,by omega,fun a ha => (hspl a).mpr (.inl ha)⟩
      have hhalf : PartOf p right :=
        ⟨hright,by omega,fun a ha => (hspl a).mpr (.inr ha)⟩
      rw [hkids] at hq
      dsimp only at hq
      split at hq
      · simp only [mem_cons,not_mem_nil,or_false] at hq
        rcases hq with rfl | rfl
        · exact ⟨hleftPart,fun _ => by omega⟩
        · exact ⟨hhalf,fun _ => by omega⟩
      · rcases mem_append.mp hq with hq | hq
        · obtain ⟨hpart,hpref⟩:=ih hleft q hq
          exact ⟨hleftPart.trans hpart,hpref⟩
        obtain ⟨hpart,hpref⟩:=ih hright q hq
        exact ⟨hhalf.trans hpart,hpref⟩
    · rw [children_full hlen] at hq
      cases hq

theorem preferOverConnected_preferred (connectedLans : List LanExportPrefixV2)
    (hconn : ∀ c∈connectedLans, c.Canonical) (settled : List LanExportPrefixV2)
    (routes : List LanExportPrefixV2)
    (hroutes : ∀ p∈routes, p.Canonical ∧ ∀ c∈settled, Preferred c p) : ∀ q∈connectedLans.foldl
        (fun routes connected => routes.flatMap (fragmentOne connected splitLevels)) routes,
      ∀ c∈settled++connectedLans, Preferred c q := by
  induction connectedLans generalizing settled routes with
  | nil => simp_all
  | cons connected connectedLans ih =>
    have hstep : ∀ q∈routes.flatMap (fragmentOne connected splitLevels),
        q.Canonical ∧ ∀ c∈settled++[connected], Preferred c q := by
      intro q hq
      obtain ⟨p,hp,hq⟩:=mem_flatMap.mp hq
      obtain ⟨hcanon,hsettled⟩:=hroutes p hp
      obtain ⟨hpart,_⟩:=fragmentOne_preferred
        (hconn connected (mem_cons_self ..)) splitLevels hcanon q hq
      refine ⟨hpart.canonical,?_⟩
      intro c hc
      rcases mem_append.mp hc with hc | hc
      · exact (hsettled c hc).part hpart
      · rwa [mem_singleton.mp hc]
    have hrest:=ih (fun c hc => hconn c (mem_cons_of_mem _ hc)) (settled++[connected])
      _ hstep
    intro q hq c hc
    refine hrest q hq c ?_
    rwa [append_assoc,singleton_append]

theorem tunnel_first_never_replaces {generation : NativeLanRouteGeneration}
    {localRecord : PeerRuntimeRecordV2} {active : List (LanExportPrefixV2 × String)}
    (hactive : ∀ e ∈ active, e.1.Canonical)
    (hlocal : ∀ e ∈ localRecord.lanExports, e.block.Canonical)
    (hconnected : ∀ c ∈ generation.connectedLans, c.Canonical) :
    ∀ route : LanExportPrefixV2,
      routeText route ∈ v2NativeLanRouteCidrs generation localRecord active true →
      ∀ c ∈ generation.connectedLans,
        (∃ a, route.contains a = true ∧ c.contains a = true) → c.prefixLen < route.prefixLen := by
  intro route htext c hc hover
  rw [v2NativeLanRouteCidrs] at htext
  split at htext
  · cases htext
  have hrt : route∈v2NativeLanRoutes generation localRecord active true :=
    (mem_map_of_injective fun _ _ => routeText_inj).mp htext
  rw [mem_routes_iff] at hrt
  obtain ⟨p,hp,hrt⟩:=mem_flatMap.mp hrt
  have hcanon:=(unpreferred_cover true hactive hlocal hconnected).wellFormed p hp
  have hsta : ∀ r∈[p], r.Canonical ∧ ∀ c∈([] : List LanExportPrefixV2), Preferred c r := by
    intro r hr
    obtain rfl := mem_singleton.mp hr
    exact ⟨hcanon,fun c hc => absurd hc not_mem_nil⟩
  exact preferOverConnected_preferred generation.connectedLans hconnected [] [p] hsta route hrt
    c (by rwa [nil_append]) hover

theorem tunnel_first_never_replaces_shared : ¬ routeText ⟨0xC0A84600#32, 24⟩ ∈
    v2NativeLanRouteCidrs sharedLan sharedLanRecord sharedLanActive true := by
  intro hrt
  have hlong:=@tunnel_first_never_replaces sharedLan sharedLanRecord sharedLanActive (by decide)
    (by decide) (by decide) ⟨0xC0A84600#32,24⟩ hrt ⟨0xC0A84600#32,24⟩ (by decide)
    ⟨0xC0A84600#32,by decide,by decide⟩
  exact absurd hlong (by decide)

end Preferred

end Lantunnel.Client
