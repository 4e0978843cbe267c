import Lantunnel.Transport.SchedulerEffects

/-!
# A receive that finds something queued takes something

A pop visits the associations in front of the ready list, and each visit that serves
nothing brings one head a quantum nearer to being served.
-/

namespace Lantunnel.Transport
open Lib List

namespace State
variable {config : DatagramSchedulerConfig} {s s' : State} {a : String} {quantum : ℕ}

def headBytes (s : State) (a : String) : ℕ := ((s.items a).head?.map QueueItem.bytes).getD 0

/-- What the deficit lacks, in quanta, rounded up. -/
def need (quantum : ℕ) (s : State) (a : String) : ℕ :=
  (s.headBytes a-s.deficit a+(quantum-1))/quantum

def totalNeed (quantum : ℕ) (s : State) : ℕ := (s.ready.map (s.need quantum)).sum

section
variable (h : Passed quantum a s s')
include h

theorem Passed.headBytes_eq (x : String) :
    s'.headBytes x=s.headBytes x := by
  rw [headBytes,headBytes,h.items]

theorem Passed.need_front {least : ℕ} (hq : 0<least)
    (hle : least≤quantum) : s'.need least a+1≤ s.need least a ∧ 0<s'.need least a := by
  obtain ⟨item,hitem,_⟩:=h.head
  have hbs : s.headBytes a=item.bytes := by
    rw [headBytes,hitem]
    rfl
  have hdef : s'.deficit a=s.deficit a+quantum := by
    rw [h.deficit,if_pos rfl]
  rw [need,need,h.headBytes_eq,hbs,hdef]
  constructor
  · rw [← Nat.add_div_right _ hq]
    refine Nat.div_le_div_right ?_
    omega
  · refine Nat.div_pos ?_ hq
    omega

theorem Passed.need_other {x : String} (hx : x≠a) :
    s'.need quantum x=s.need quantum x := by
  rw [need,need,h.headBytes_eq,h.deficit,if_neg hx]

theorem Passed.totalNeed_lt (hq : 0<quantum) (hnd : s.ready.Nodup) :
    s'.totalNeed quantum<s.totalNeed quantum ∧ 0<s'.totalNeed quantum := by
  obtain ⟨rest,hrdy,hrdy'⟩:=h.ready
  obtain ⟨_,_⟩:=h.need_front hq le_rfl
  rw [hrdy] at hnd
  have hoths : rest.map (s'.need quantum)=rest.map (s.need quantum) := by
    refine map_congr_left ?_
    intro x hx
    refine h.need_other ?_
    rintro rfl
    exact (nodup_cons.mp hnd).1 hx
  rw [totalNeed,totalNeed,hrdy,hrdy',map_cons,sum_cons,map_append,sum_append,hoths,
    map_singleton,sum_singleton]
  omega

theorem Passed.ready_ne_nil : s'.ready≠[] := by
  obtain ⟨_,-,hrdy'⟩:=h.ready
  rw [hrdy']
  simp

end

theorem popLoop_serves (hq : 0<quantum) (attempts : ℕ) (h : Sound config s)
    (hrdy : s.ready≠[]) (hpos : 0<attempts) (hneed : s.totalNeed quantum≤attempts) :
    (popLoop quantum attempts s).1≠none := by
  -- each attempt that serves nothing lowers both sides of `hneed` by one
  induction attempts generalizing s with
  | zero => exact absurd hpos (Nat.lt_irrefl _)
  | succ attempts ih =>
    obtain ⟨_,_,hfront⟩:=exists_cons_of_ne_nil hrdy
    rw [popLoop,hfront]
    dsimp only
    rcases visit_spec h hfront quantum with ⟨_,hvisit,hmid,hpass⟩ | ⟨_,_,hvisit,-,-⟩
    · rw [hvisit]
      obtain ⟨_,_⟩:=hpass.totalNeed_lt hq h.nodup
      exact ih hmid hpass.ready_ne_nil (by omega) (by omega)
    · rw [hvisit]
      exact Option.some_ne_none _

theorem le_foldl_max {n : ℕ} {ns : List ℕ} (best : ℕ) (h : n∈ns) : n≤ns.foldl max best := by
  have hbest : ∀ (ms : List ℕ) (b : ℕ), b≤ ms.foldl max b := by
    intro ms
    induction ms with
    | nil => exact fun b => le_rfl
    | cons m ms ih => exact fun b => (le_max_left b m).trans (ih _)
  induction ns generalizing best with
  | nil => cases h
  | cons m ns ih =>
    rcases mem_cons.mp h with rfl | h
    · exact (le_max_right best n).trans (hbest ns _)
    · exact ih _ h

theorem headBytes_le (s : State) (a : String) : s.headBytes a≤ s.maxHeadBytes := by
  rw [headBytes]
  cases hhead : (s.items a).head? with
  | none => exact Nat.zero_le _
  | some =>
    cases hget : s.queues.get a with
    | none =>
      rw [items_of_none hget] at hhead
      cases hhead
    | some q =>
      rw [items_of_get hget] at hhead
      refine le_foldl_max 0 (mem_filterMap.mpr ⟨(a,q),Table.mem_pairs.mpr hget,?_⟩)
      rw [hhead]
      rfl

theorem totalNeed_le_attempts (s : State) (quantum : ℕ) :
    s.totalNeed quantum≤ s.attempts quantum := by
  have hneed : ∀ n∈s.ready.map (s.need quantum),
      n≤ max ((s.maxHeadBytes+(quantum-1))/quantum) 1 := by
    intro n hn
    obtain ⟨a,-,rfl⟩:=mem_map.mp hn
    refine le_max_of_le_left (Nat.div_le_div_right ?_)
    have hle:=s.headBytes_le a
    omega
  have hsum:=sum_le_card_nsmul _ _ hneed
  rw [length_map,smul_eq_mul] at hsum
  rw [totalNeed,attempts]
  omega

theorem tryPopWithQuantum_serves (hq : 0<quantum) (h : Sound config s) (hrdy : s.ready≠[]) :
    (s.tryPopWithQuantum quantum).1≠none :=
  popLoop_serves hq _ h hrdy (Nat.lt_of_lt_of_le Nat.one_pos (le_max_right _ _))
    (s.totalNeed_le_attempts quantum)

/-- The attempts as the code computes them: sums and products stop at `usize::MAX`. -/
def saturatedAttempts (quantum : ℕ) (s : State) : ℕ :=
  let readyLen:=s.ready.length
  let visitsPerQueue:=max (min (s.maxHeadBytes+(quantum-1)) (2^64-1)/quantum) 1
  max (min (min (readyLen*visitsPerQueue) (2^64-1)+readyLen) (2^64-1)) 1

theorem need_le_headBytes (hq : 0<quantum) (a : String) : s.need quantum a≤ s.headBytes a := by
  rw [need,Nat.div_le_iff_le_mul_add_pred hq]
  have hmul:=Nat.le_mul_of_pos_left (s.headBytes a) hq
  omega

theorem Sound.headBytes_le_bytes (h : Sound config s) (a : String) :
    s.headBytes a≤((s.queues.get a).map (·.bytes)).getD 0 := by
  rw [headBytes]
  cases hget : s.queues.get a with
  | none =>
    rw [items_of_none hget]
    exact le_rfl
  | some q =>
    obtain ⟨item,_,hits⟩:=exists_cons_of_ne_nil (h.live hget).1
    obtain ⟨-,-,_⟩:=(h.counted hget).head hits
    rw [items_of_get hget,hits]
    change item.bytes≤q.bytes
    omega

theorem sum_bytes_le (names : List String) (hnd : names.Nodup)
    (queues : Table String AssociationQueue) :
    (names.map fun a => ((queues.get a).map (·.bytes)).getD 0).sum≤queues.total (·.bytes) := by
  induction names generalizing queues with
  | nil => exact Nat.zero_le _
  | cons a names ih =>
    obtain ⟨hnew,hrest⟩:=nodup_cons.mp hnd
    have hoths : (names.map fun x => ((queues.get x).map (·.bytes)).getD 0)=
        names.map fun x => (((queues.remove a).get x).map (·.bytes)).getD 0 := by
      refine map_congr_left ?_
      intro x hx
      rw [Table.get_remove,if_neg (ne_of_mem_of_not_mem hx hnew)]
    rw [map_cons,sum_cons,hoths,← Table.total_remove queues a]
    have hle:=ih hrest (queues.remove a)
    omega

theorem Sound.totalNeed_le_totalBytes (h : Sound config s) (hq : 0<quantum) :
    s.totalNeed quantum≤ s.totalBytes := by
  rw [h.totalBytes]
  refine le_trans (sum_le_sum ?_) (sum_bytes_le s.ready h.nodup s.queues)
  intro a _
  exact (need_le_headBytes hq a).trans (h.headBytes_le_bytes a)

theorem Sound.totalNeed_le_saturated (h : Sound config s) (hq : 0<quantum)
    (hfits : config.globalByteLimit<2^64) : s.totalNeed quantum≤ s.saturatedAttempts quantum := by
  have hbs:=(h.totalNeed_le_totalBytes hq).trans h.globalLimits.2
  have hneed : ∀ n∈s.ready.map (s.need quantum),
      n≤ max (min (s.maxHeadBytes+(quantum-1)) (2^64-1)/quantum) 1+1 := by
    intro n hn
    obtain ⟨a,-,rfl⟩:=mem_map.mp hn
    have hmax:=s.headBytes_le a
    have hhead : s.headBytes a<2^64 := by
      refine ((h.headBytes_le_bytes a).trans ?_).trans_lt hfits
      refine le_trans ?_ h.globalLimits.2
      have hall:=sum_bytes_le [a] (nodup_singleton a) s.queues
      rw [h.totalBytes]
      simpa using hall
    refine le_trans ?_ (Nat.add_le_add_right (le_max_left _ _) 1)
    rw [need,← Nat.add_div_right _ hq]
    refine Nat.div_le_div_right ?_
    omega
  have hsum:=sum_le_card_nsmul _ _ hneed
  rw [length_map,smul_eq_mul,Nat.mul_add,Nat.mul_one] at hsum
  rw [totalNeed] at hbs ⊢
  rw [saturatedAttempts]
  omega

end State

theorem Scheduler.recvBatchWithQuantum_serves {config : DatagramSchedulerConfig} {s : Scheduler}
    (h : s.state.Sound config) (hpend : s.pending=[]) {x : String}
    (hqd : s.state.items x≠[]) (quantum : ℕ) : ∃ entry state, state.Sound config ∧
      State.Pops (max quantum 1) s.state (some entry) state ∧
      s.recvBatchWithQuantum quantum=(entry.2.intoFrames,{ s with state }) := by
  have hrdy : s.state.ready≠[] := ne_nil_of_mem ((h.mem_ready_iff x).mpr hqd)
  have hserve : (s.state.tryPopWithQuantum (max quantum 1)).1≠none :=
    State.tryPopWithQuantum_serves (by omega) h hrdy
  rcases hpop : s.state.tryPopWithQuantum (max quantum 1) with ⟨item,state⟩
  obtain ⟨result,hres,hsnd,hpops⟩ :=
    State.popLoop_spec h (max quantum 1) (s.state.attempts (max quantum 1))
  rw [State.tryPopWithQuantum] at hpop
  rw [hpop] at hres hsnd hpops
  rw [State.tryPopWithQuantum,hpop] at hserve
  cases result with
  | none => exact absurd hres hserve
  | some entry =>
    obtain rfl : item=some entry.2 := hres
    refine ⟨entry,state,hsnd,hpops,?_⟩
    rw [recvBatchWithQuantum,if_neg (not_not.mpr hpend),State.tryPopWithQuantum,hpop]

end Lantunnel.Transport
