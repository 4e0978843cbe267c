import Lantunnel.Client.FlowScheduler
import Mathlib.Data.Int.CardIntervalMod

/-!
# The choice among lanes

The candidates are sorted by key, so the tied ones stand in one order at every call, and
the cursor goes round them until it wraps.
-/

namespace Lantunnel.Client
open Lib RustStd List
open Core (SessionId)

/-! ### The order of keys -/

theorem compare_bytes (x y : List ℕ) :
    (if x<y then .lt else if y<x then .gt else .eq : Ordering)=compare x y := by
  induction x generalizing y with
  | nil => cases y <;> simp
  | cons a x ih =>
    cases y with
    | nil => simp
    | cons b =>
      rw [List.compare_cons_cons,← ih]
      rcases lt_trichotomy a b with hab | rfl | hab
      · simp [cons_lt_cons_iff,hab,Nat.compare_eq_lt.mpr hab]
      · simp
      · simp [cons_lt_cons_iff,hab,Nat.compare_eq_gt.mpr hab,hab.ne',Nat.lt_asymm hab]

def textCode (s : String) : List ℕ := (asBytes s).map UInt8.toNat

theorem strCmp_eq (a b : String) : strCmp a b=compare (textCode a) (textCode b) := by
  rw [← compare_bytes]
  simp only [strCmp,strLt,textCode,decide_eq_true_eq]
  congr

def optionCode {α : Type} (f : α → List ℕ) : Option α → List ℕ
  | none => []
  | some a => 0::f a

theorem optionCmp_eq {α : Type} {cmp : α → α → Ordering} {f : α → List ℕ}
    (h : ∀ a b, cmp a b=compare (f a) (f b)) (a b : Option α) :
    optionCmp cmp a b=compare (optionCode f a) (optionCode f b) := by
  cases a <;> cases b <;> simp [optionCmp,optionCode,h]

def CandidateKey.code (key : CandidateKey) : List (List ℕ) :=
  [textCode key.localClientId,[pathRank key.path],
    optionCode (fun id : SessionId => id.toList.map UInt8.toNat) key.p2pSessionId,
    optionCode textCode key.peerClientId,optionCode textCode key.peerFamily,[key.transportGeneration]]

theorem CandidateKey.cmp_eq (a b : CandidateKey) : a.cmp b=compare a.code b.code := by
  simp [cmp,code,strCmp_eq,optionCmp_eq strCmp_eq,optionCmp_eq fun _ _ => rfl]

theorem textCode_inj : Function.Injective textCode := fun _ _ h =>
  asBytes_inj (Function.Injective.list_map (fun _ _ => UInt8.toNat_inj.mp) h)

theorem optionCode_inj {α : Type} {f : α → List ℕ} (hf : Function.Injective f) :
    Function.Injective (optionCode f) := by
  rintro (_ | a) (_ | b) h
  case some.some => rw [hf (List.cons.inj h).2]
  all_goals simp_all [optionCode]

theorem CandidateKey.code_inj : Function.Injective code := by
  rintro ⟨_,pa,_⟩ ⟨_,pb,_⟩ h
  have hid : Function.Injective fun id : SessionId => id.toList.map UInt8.toNat := fun _ _ h =>
    Vector.toList_inj.mp (Function.Injective.list_map (fun _ _ => UInt8.toNat_inj.mp) h)
  simp only [code,cons.injEq,textCode_inj.eq_iff,(optionCode_inj textCode_inj).eq_iff,
    (optionCode_inj hid).eq_iff] at h
  cases pa <;> cases pb <;> simp_all [pathRank]

/-! ### The choice -/

/-- Scores are taken from a total order. -/
structure TotalScores (F : Type) [F64 F] : Prop where
  trans : ∀ a b c : F, F64.totalLe a b=true → F64.totalLe b c=true → F64.totalLe a c=true
  total : ∀ a b : F, F64.totalLe a b=true ∨ F64.totalLe b a=true
  eq_iff : ∀ a b : F, F64.eq a b=true ↔ F64.totalLe a b=true ∧ F64.totalLe b a=true

namespace ReplicaFlowScheduler
variable {F : Type} [F64 F]

theorem tied_recordOf (registry : FlowPlacementRegistry F) (id : ℕ) (flowKind : FlowKind)
    (candidates : List (PlacementCandidate F)) :
    tied (candidates.map (recordOf registry id flowKind))=tied (candidates.map (recordOf registry 0 flowKind)) := by
  simp only [tied,filter_map,map_map]
  rfl

theorem minScore_least (hF : TotalScores F) {l : List F} {least : F} (h : minScore l=some least) :
    least∈l ∧ ∀ x∈l, F64.totalLe least x=true := by
  have hrefl : ∀ a : F, F64.totalLe a a=true := fun a => (hF.total a a).elim id id
  have hstep : (fun least score : F => if F64.totalLe least score then least else score)=
      fun best y => if F64.totalLe best y=false then y else best := by
    funext a b
    cases F64.totalLe a b <;> rfl
  cases l with
  | nil => cases h
  | cons x xs =>
    obtain rfl:=Option.some.inj h
    rw [hstep]
    refine ⟨foldl_best_mem xs x,foldl_best hF.trans hrefl (fun a b => ?_) xs x⟩
    have:=hF.total a b
    grind

theorem minScore_none {records : List (PlacementDecisionRecord F)}
    (h : minScore ((records.filter fun r => r.excludedReason = .none).map (·.breakdown.totalScore))=none) :
    ∀ r∈records, r.excludedReason ≠ .none := by
  have hnil : records.filter (fun r => r.excludedReason = .none)=[] := by
    cases hl : records.filter (fun r => r.excludedReason = .none) <;> simp_all [minScore]
  simpa [filter_eq_nil_iff] using hnil

theorem tied_eq_nil (hF : TotalScores F) {records : List (PlacementDecisionRecord F)} (h : tied records=[]) :
    ∀ r∈records, r.excludedReason ≠ .none := by
  rw [tied] at h
  split at h
  · exact minScore_none ‹_›
  rename_i least hmin
  obtain ⟨hin,hle⟩:=minScore_least hF hmin
  obtain ⟨_,hfirst,rfl⟩:=mem_map.mp hin
  have hself:=hle _ hin
  exact absurd ((hF.eq_iff _ _).mpr ⟨hself,hself⟩) (filter_eq_nil_iff.mp (map_eq_nil_iff.mp h) _ hfirst)

theorem mem_tied (hF : TotalScores F) {records : List (PlacementDecisionRecord F)} {key : CandidateKey} :
    key∈tied records ↔ ∃ r∈records, r.key=key ∧ r.excludedReason = .none ∧ ∀ o∈records,
      o.excludedReason = .none → F64.totalLe r.breakdown.totalScore o.breakdown.totalScore=true := by
  rw [tied]
  split
  · have:=minScore_none ‹_›
    grind
  rename_i least hmin
  obtain ⟨_,hle⟩:=minScore_least hF hmin
  have htrans:=hF.trans
  simp only [mem_map,mem_filter,hF.eq_iff] at hle ⊢
  grind

end ReplicaFlowScheduler

open ReplicaFlowScheduler

/-- The arguments of a call. -/
structure FlowPlacing (F : Type) where
  flowKind : FlowKind
  registry : FlowPlacementRegistry F
  candidates : List (PlacementCandidate F)

namespace FlowPlacing
variable {F : Type} [F64 F] (p : FlowPlacing F) (s : ReplicaFlowScheduler)

def score (candidate : PlacementCandidate F) : F :=
  (recordOf p.registry 0 p.flowKind candidate).breakdown.totalScore

def eligible : List (PlacementCandidate F) := p.candidates.filter fun c => c.excludedReason = .none

def path : CandidatePath := if p.eligible.any fun c => c.key.path = .p2p then .p2p else .relay

def lanes : List (PlacementCandidate F) :=
  (p.candidates.filter fun c => c.key.path=p.path).mergeSort fun a b => (a.key.cmp b.key).isLE

def turns : List CandidateKey := tied (p.lanes.map (recordOf p.registry 0 p.flowKind))

def place : PlacementDecision F × ReplicaFlowScheduler := s.placeProxyFlow p.flowKind p.registry p.candidates

/-- What the call after `i` others selects. -/
def nth (i : ℕ) : Option CandidateKey := (p.place ((fun s => (p.place s).2)^[i] s)).1.selected

def cursor : ℕ := s.tieCursor p.path p.flowKind

variable {p s}

theorem place_eq : p.place s=s.placeCandidatesWithTieBreak p.flowKind p.path p.registry
    (p.candidates.filter fun c => c.key.path=p.path) := by
  rw [place,placeProxyFlow,any_filter,path,eligible,any_filter]
  simp only [Bool.and_comm]
  split <;> rfl

theorem selected_eq : (p.place s).1.selected=p.turns[p.cursor s % p.turns.length]? := by
  rw [place_eq,placeCandidatesWithTieBreak]
  rw [← lanes,select_eq,tied_recordOf]
  rfl

theorem cursor_next : p.cursor (p.place s).2=
    if p.turns.length≤1 then p.cursor s else (p.cursor s+1) % 2^64 := by
  have hset : ∀ (path : CandidatePath) (kind : FlowKind) (cursor id : ℕ),
      tieCursor { s.setTieCursor cursor path kind with nextDecisionId := id } path kind=cursor := by
    rintro (_ | _) (_ | _) cursor id <;> rfl
  rw [place_eq,placeCandidatesWithTieBreak]
  rw [← lanes,select_eq,tied_recordOf,cursor,hset]
  rfl

theorem nth_eq {i : ℕ} (h : p.cursor s+i<2^64) : p.nth s i=p.turns[(p.cursor s+i) % p.turns.length]? := by
  induction i generalizing s with
  | zero => exact selected_eq
  | succ i ih =>
    have hnext:=@cursor_next F _ p s
    rw [nth,Function.iterate_succ_apply,← nth]
    split at hnext
    · rw [ih (by omega),hnext]
      -- one lane or none: the cursor does not matter
      interval_cases hlen : p.turns.length
      · simp [length_eq_zero_iff.mp hlen]
      · simp [Nat.mod_one]
    rw [Nat.mod_eq_of_lt (by omega)] at hnext
    rw [ih (by omega),hnext,Nat.add_assoc,Nat.add_comm 1]

theorem mem_turns (hF : TotalScores F) {key : CandidateKey} : key∈p.turns ↔ ∃ c∈p.eligible,
    c.key=key ∧ c.key.path=p.path ∧
      ∀ d∈p.eligible, d.key.path=p.path → F64.totalLe (p.score c) (p.score d)=true := by
  rw [turns,mem_tied hF]
  simp only [lanes,eligible,mem_map,mem_mergeSort,mem_filter,decide_eq_true_eq]
  constructor
  · rintro ⟨_,⟨c,⟨hmem,hpath⟩,rfl⟩,hkey,hwhy,hle⟩
    exact ⟨c,⟨hmem,hwhy⟩,hkey,hpath,fun d ⟨hd,ho⟩ hdp => hle _ ⟨d,⟨hd,hdp⟩,rfl⟩ ho⟩
  · rintro ⟨c,⟨hmem,hwhy⟩,hkey,hpath,hle⟩
    refine ⟨_,⟨c,⟨hmem,hpath⟩,rfl⟩,hkey,hwhy,?_⟩
    rintro _ ⟨d,⟨hd,hdp⟩,rfl⟩ ho
    exact hle d ⟨hd,ho⟩ hdp

theorem lanes_of_perm (hkeys : (p.candidates.map (·.key)).Nodup) {l : List (PlacementCandidate F)}
    (h : l.Perm p.candidates) : FlowPlacing.place ⟨p.flowKind,p.registry,l⟩ s=p.place s := by
  have hpath : FlowPlacing.path ⟨p.flowKind,p.registry,l⟩=p.path := by
    rw [path,path,eligible,eligible,(h.filter _).any_eq]
  have hlanes : FlowPlacing.lanes ⟨p.flowKind,p.registry,l⟩=p.lanes := by
    rw [lanes,lanes,hpath]
    refine mergeSort_of_perm (fun a b c => ?_) (fun a b => ?_) (fun a ha b hb => ?_) (h.filter _)
    all_goals simp only [CandidateKey.cmp_eq]
    · exact Std.TransOrd.isLE_trans
    · rw [@Std.OrientedOrd.eq_swap _ _ _ b.key.code a.key.code]
      cases compare a.key.code b.key.code <;> rfl
    · intro hab hba
      exact inj_on_of_nodup_map hkeys (mem_of_mem_filter ha) (mem_of_mem_filter hb)
        (CandidateKey.code_inj (Std.LawfulEqOrd.eq_of_compare (Std.OrientedCmp.isLE_antisymm hab hba)))
  rw [place_eq,place_eq,placeCandidatesWithTieBreak,placeCandidatesWithTieBreak,← lanes,← lanes,hpath,hlanes]

theorem turns_nodup (hkeys : (p.candidates.map (·.key)).Nodup) : p.turns.Nodup := by
  have hkey : (p.lanes.map (recordOf p.registry 0 p.flowKind)).map (·.key)=p.lanes.map (·.key) := by
    rw [map_map]
    rfl
  have hsub : p.turns.Sublist (p.lanes.map (·.key)) := by
    rw [turns,tied,← hkey]
    split
    · exact nil_sublist _
    · exact (filter_sublist.trans filter_sublist).map _
  have hperm:=(mergeSort_perm (p.candidates.filter fun c => c.key.path=p.path) fun a b =>
    (a.key.cmp b.key).isLE).map (·.key)
  exact (hperm.nodup_iff.mpr (hkeys.sublist (filter_sublist.map _))).sublist hsub

theorem turns_close {m : ℕ} (hm : 0< m) (c n j k : ℕ) :
    Nat.count (fun i => c+i ≡ j [MOD m]) n≤Nat.count (fun i => c+i ≡ k [MOD m]) n+1 := by
  have hj:=Nat.count_add (· ≡ j [MOD m]) c n
  have hk:=Nat.count_add (· ≡ k [MOD m]) c n
  simp only [Nat.count_modEq_card _ hm] at hj hk
  split_ifs at hj hk <;> omega

theorem count_nth (hkeys : (p.candidates.map (·.key)).Nodup) {n j : ℕ} (hn : p.cursor s+n≤2^64)
    {key : CandidateKey} (hj : p.turns[j]?=some key) : Nat.count (p.nth s · = some key) n=
      Nat.count (fun i => p.cursor s+i ≡ j [MOD p.turns.length]) n := by
  have hlt:=(List.getElem?_eq_some_iff.mp hj).1
  rw [Nat.count_eq_card_filter_range,Nat.count_eq_card_filter_range]
  congr 1
  refine Finset.filter_congr fun i hi => ?_
  have:=Finset.mem_range.mp hi
  rw [nth_eq (by omega),← hj,getElem?_inj (Nat.mod_lt _ (by omega)) (turns_nodup hkeys),Nat.ModEq,
    Nat.mod_eq_of_lt hlt]

omit [F64 F] in
theorem exists_lane {c : PlacementCandidate F} (hc : c∈p.eligible) : ∃ d∈p.eligible, d.key.path=p.path := by
  rw [path]
  split
  · simp_all
  · refine ⟨c,hc,?_⟩
    cases hpath : c.key.path <;> simp_all

variable (p s) in
theorem lane_choice (hF : TotalScores F) (hkeys : (p.candidates.map (·.key)).Nodup) :
    (∀ key, (p.place s).1.selected=some key → ∃ c ∈ p.eligible, c.key=key ∧
      (key.path = .relay → ∀ d ∈ p.eligible, d.key.path ≠ .p2p) ∧
      ∀ d ∈ p.eligible, d.key.path=key.path → F64.totalLe (p.score c) (p.score d)=true) ∧
    ((p.place s).1.selected=none → p.eligible=[]) ∧
    (∀ l, l.Perm p.candidates → FlowPlacing.place ⟨p.flowKind,p.registry,l⟩ s=p.place s) ∧
    ∀ n, p.cursor s+n≤2^64 → ∀ c ∈ p.eligible, ∀ d ∈ p.eligible, c.key.path=d.key.path →
      F64.totalLe (p.score c) (p.score d)=true → F64.totalLe (p.score d) (p.score c)=true →
      Nat.count (p.nth s · = some c.key) n≤Nat.count (p.nth s · = some d.key) n+1 := by
  refine ⟨fun key hkey => ?_,fun hnone => ?_,fun l => lanes_of_perm hkeys,?_⟩
  · rw [selected_eq] at hkey
    obtain ⟨c,hc,rfl,hpc,hle⟩:=(mem_turns hF).mp (mem_of_getElem? hkey)
    refine ⟨c,hc,rfl,fun hrelay d hd hp2p => ?_,fun d hd hdp => hle d hd (hdp.trans hpc)⟩
    have hany : p.eligible.any (fun c => c.key.path = .p2p)=true := any_eq_true.mpr ⟨d,hd,by simp [hp2p]⟩
    simp [hpc,path,hany] at hrelay
  · by_contra hne
    obtain ⟨c,hc⟩:=exists_mem_of_ne_nil _ hne
    obtain ⟨d,hd,hdp⟩:=exists_lane hc
    have hnil : p.turns=[] := by
      rw [selected_eq,getElem?_eq_none_iff] at hnone
      by_contra hpos
      have:=Nat.mod_lt (p.cursor s) (length_pos_iff.mpr hpos)
      omega
    obtain ⟨hmem,hwhy⟩:=mem_filter.mp hd
    exact tied_eq_nil hF hnil _ (mem_map_of_mem (mem_mergeSort.mpr (mem_filter.mpr ⟨hmem,decide_eq_true hdp⟩)))
      (of_decide_eq_true hwhy)
  · intro n hn c hc d hd hpath hcd hdc
    by_cases hturn : c.key∈p.turns
    · have hturn' : d.key∈p.turns := by
        obtain ⟨e,he,hkey,hpe,hle⟩:=(mem_turns hF).mp hturn
        obtain rfl:=inj_on_of_nodup_map hkeys (mem_of_mem_filter he) (mem_of_mem_filter hc) hkey
        exact (mem_turns hF).mpr ⟨d,hd,rfl,hpath.symm.trans hpe,fun o ho hop => hF.trans _ _ _ hdc (hle o ho hop)⟩
      obtain ⟨j,hj⟩:=getElem?_of_mem hturn
      obtain ⟨k,hk⟩:=getElem?_of_mem hturn'
      rw [count_nth hkeys hn hj,count_nth hkeys hn hk]
      exact turns_close (length_pos_of_mem hturn) ..
    · rw [Nat.count_iff_forall_not.mpr]
      · exact Nat.zero_le _
      · intro i hi hsel
        rw [nth_eq (by omega)] at hsel
        exact hturn (mem_of_getElem? hsel)

end FlowPlacing

/-! ### Three lanes -/

theorem rational_totalScores : TotalScores ℚ where
  trans a b c hab hbc := decide_eq_true ((of_decide_eq_true hab).trans (of_decide_eq_true hbc))
  total a b := (le_total a b).imp decide_eq_true decide_eq_true
  eq_iff a b := by
    simp only [F64.eq,F64.totalLe,decide_eq_true_eq]
    exact le_antisymm_iff

def directLane (session : UInt8) (used : ℚ) : PlacementCandidate ℚ :=
  ⟨⟨"client",.p2p,some (Vector.replicate 16 session),none,none,0⟩,
    { LaneLoadSnapshot.default with streamQueueUsedRatio := some used },.none⟩

def relayLane (generation : ℕ) : PlacementCandidate ℚ := ⟨.relay "client" generation,.default,.none⟩

/-- An idle relay beside two direct sessions, whose queues are in use. -/
def mixedLanes : FlowPlacing ℚ :=
  ⟨.tcp,⟨.empty,.empty⟩,[relayLane 0,directLane 1 (19/20),directLane 2 (4/5)]⟩

theorem lane_choice_mixed : mixedLanes.score (relayLane 0) < mixedLanes.score (directLane 2 (4/5)) ∧
    mixedLanes.score (directLane 2 (4/5)) < mixedLanes.score (directLane 1 (19/20)) ∧
    (mixedLanes.place .default).1.selected = some (directLane 2 (4/5)).key := by
  have hkeys : (mixedLanes.candidates.map (·.key)).Nodup := by decide
  have hless : mixedLanes.score (directLane 2 (4/5))< mixedLanes.score (directLane 1 (19/20)) := by
    decide +kernel
  have hdirect : directLane 2 (4/5)∈mixedLanes.eligible := by simp [FlowPlacing.eligible,mixedLanes,directLane]
  obtain ⟨hbest,hsome,-,-⟩:=mixedLanes.lane_choice .default rational_totalScores hkeys
  obtain ⟨key,hkey⟩:=Option.ne_none_iff_exists'.mp fun hnone => ne_nil_of_mem hdirect (hsome hnone)
  refine ⟨by decide +kernel,hless,?_⟩
  obtain ⟨c,hc,rfl,hrelay,hle⟩:=hbest key hkey
  have hc:=mem_of_mem_filter hc
  simp only [mixedLanes,mem_cons,not_mem_nil,or_false] at hc
  rcases hc with rfl | rfl | rfl
  · exact absurd rfl (hrelay rfl _ hdirect)
  · exact absurd (of_decide_eq_true (hle _ hdirect rfl)) (not_le.mpr hless)
  · exact hkey

def threeRelays : FlowPlacing ℚ := ⟨.tcp,⟨.empty,.empty⟩,[0,1,2].map relayLane⟩

theorem lane_choice_wraps :
    let s : ReplicaFlowScheduler := ⟨1,0,0,2^64-1,0⟩
    Nat.count (threeRelays.nth s · = some (.relay "client" 0)) 2=
      Nat.count (threeRelays.nth s · = some (.relay "client" 1)) 2+2 := by
  intro s
  have hturns : threeRelays.turns=[0,1,2].map (.relay "client") := by
    rw [FlowPlacing.turns,FlowPlacing.lanes,mergeSort_of_pairwise (by decide)]
    decide +kernel
  have hfirst : threeRelays.nth s 0=some (.relay "client" 0) := by
    change (threeRelays.place s).1.selected=_
    rw [FlowPlacing.selected_eq,hturns]
    decide
  have hsecond : threeRelays.nth s 1=some (.relay "client" 0) := by
    change (threeRelays.place (threeRelays.place s).2).1.selected=_
    rw [FlowPlacing.selected_eq,FlowPlacing.cursor_next,hturns]
    decide
  simp only [Nat.count_succ,hfirst,hsecond]
  decide

end Lantunnel.Client
