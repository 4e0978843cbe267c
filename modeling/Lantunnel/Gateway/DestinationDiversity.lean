import Lantunnel.Lib.Machine
import Lantunnel.Gateway.DestinationPolicy

/-!
# Destination diversity over runs (tp-gateway/src/lib.rs:775-850)

Beside the tracker a run keeps, for each Tunnel, when its window began by the times of
the calls, the destinations recorded since and what was decided for them. A call without
a canonical destination is allowed and touches nothing.
-/

namespace Lantunnel.Gateway
open Lib DestinationDiversityDecision DestinationDiversityTracker

abbrev DiversityLog := List (String × DestinationDiversityDecision)

structure WindowLog where
  start : ℕ
  log : DiversityLog

/-- The window of a call at `now`: the Tunnel's last if that began less than `window`
before, else one that begins with the call. -/
def windowAt (window : ℕ) (logs : String → Option WindowLog) (tunnelId : String) (now : ℕ) :
    WindowLog :=
  ((logs tunnelId).filter fun w => now-w.start<window).getD ⟨now,[]⟩

def stepDiversity (window : ℕ) (s : DestinationDiversityTracker × (String → Option WindowLog)) :
    String × String × ℕ → DestinationDiversityTracker × (String → Option WindowLog)
  | (tunnelId,address,now) =>
    let decided:=s.1.recordAt tunnelId address now
    (decided.2,match destinationKey address with
      | none => s.2
      | some destination =>
        let w:=windowAt window s.2 tunnelId now
        Function.update s.2 tunnelId (some ⟨w.start,w.log++[(destination,decided.1)]⟩))

def diversityMachine (cap window : ℕ) :
    Machine (DestinationDiversityTracker × (String → Option WindowLog)) (String × String × ℕ) Unit where
  init := (.new cap window,fun _ => none)
  enabled := fun _ _ => True
  step := fun s call => (stepDiversity window s call,[])

namespace DestinationDiversityDecision

def isBlock : DestinationDiversityDecision → Bool
  | block _ => true
  | _ => false

def isWarn : DestinationDiversityDecision → Bool
  | warn _ => true
  | _ => false

end DestinationDiversityDecision

def admitted (log : DiversityLog) : Finset String :=
  ((log.filter fun r => !r.2.isBlock).map Prod.fst).toFinset

def warnings (log : DiversityLog) : ℕ := log.countP (·.2.isWarn)

structure Follows (cap : ℕ) (entry : DestinationDiversityWindow) (w : WindowLog) : Prop where
  started : entry.startedAt=w.start
  destinations : entry.destinations=admitted w.log
  bounded : entry.destinations.card≤cap
  warned : entry.warned=true ↔ 0<cap ∧ entry.destinations.card=cap
  count : warnings w.log=entry.warned.toNat

structure Logged (cap window : ℕ) (tracker : DestinationDiversityTracker)
    (logs : String → Option WindowLog) : Prop where
  cap_eq : tracker.cap=cap
  window_eq : tracker.window=window
  follows : ∀ t, Option.Rel (Follows cap) (tracker.windows t) (logs t)

variable {cap window now : ℕ} {tunnelId address destination : String} {w : WindowLog}
  {tracker : DestinationDiversityTracker} {logs : String → Option WindowLog} {tr : List Unit}

theorem follows_nil (cap now : ℕ) : Follows cap ⟨now,∅,false⟩ ⟨now,[]⟩ :=
  ⟨rfl,rfl,Nat.zero_le _,by simp; omega,rfl⟩

theorem Logged.entryAt (h : Logged cap window tracker logs) (tunnelId : String) (now : ℕ) :
    Follows cap (tracker.entryAt tunnelId now) (windowAt window logs tunnelId now) := by
  have hrel:=h.follows tunnelId
  rw [DestinationDiversityTracker.entryAt,windowAt,h.window_eq]
  generalize tracker.windows tunnelId=entry at hrel ⊢
  generalize logs tunnelId=last at hrel ⊢
  cases hrel with
  | none => exact follows_nil cap now
  | @some entry last hfol =>
    dsimp only
    rw [hfol.started]
    split_ifs with hold
    · simpa [Option.filter_some,Nat.not_lt.mpr hold] using follows_nil cap now
    · simpa [Option.filter_some,Nat.lt_of_not_le hold] using hfol

theorem admitted_concat (log : DiversityLog) (destination : String)
    (decision : DestinationDiversityDecision) : admitted (log++[(destination,decision)]) =
      if decision.isBlock then admitted log else insert destination (admitted log) := by
  cases hb : decision.isBlock <;> ext d <;> simp [admitted,hb]

theorem Follows.record (h : Follows tracker.cap (tracker.entryAt tunnelId now) w)
    (hkey : destinationKey address=some destination) :
    ∃ entry, (tracker.recordAt tunnelId address now).2 =
        { tracker with windows := Function.update tracker.windows tunnelId (some entry) } ∧
      Follows tracker.cap entry
        ⟨w.start,w.log++[(destination,(tracker.recordAt tunnelId address now).1)]⟩ := by
  obtain ⟨hst,hdest,hb,hw,hn⟩:=h
  rw [recordAt,hkey]
  dsimp only
  split_ifs with hmem hfull hwarn
  · refine ⟨_,rfl,hst,?_,hb,hw,by simpa [warnings,isWarn] using hn⟩
    rw [hdest] at hmem
    simp [admitted_concat,isBlock,hdest,hmem]
  · exact ⟨_,rfl,hst,by simpa [admitted_concat,isBlock] using hdest,hb,hw,
      by simpa [warnings,isWarn] using hn⟩
  all_goals
    have hcard:=Finset.card_insert_of_notMem hmem
    simp only [hcard,Bool.and_eq_true,decide_eq_true_eq,Bool.not_eq_true'] at hwarn
    refine ⟨_,rfl,hst,by simp [admitted_concat,isBlock,hdest],by dsimp only; omega,?_,?_⟩
  · simp only [hcard,true_iff]
    omega
  · simpa [warnings,isWarn,hwarn.2] using hn
  · grind
  · simpa [warnings,isWarn] using hn

theorem Logged.step (h : Logged cap window tracker logs) (call : String × String × ℕ) :
    Logged cap window (stepDiversity window (tracker,logs) call).1
      (stepDiversity window (tracker,logs) call).2 := by
  obtain ⟨tunnelId,address,now⟩:=call
  rw [stepDiversity]
  cases hkey : destinationKey address with
  | none => simpa [recordAt,hkey] using h
  | some =>
    obtain ⟨rfl,hwin,hfol⟩:=h
    obtain ⟨_,hst,hnew⟩:=(Logged.entryAt ⟨rfl,hwin,hfol⟩ tunnelId now).record hkey
    dsimp only
    rw [hst]
    refine ⟨rfl,hwin,fun t => ?_⟩
    by_cases ht : t=tunnelId
    · subst ht
      simpa using Option.Rel.some hnew
    · simpa [ht] using hfol t

theorem recordAt_of_windows_eq (tracker : DestinationDiversityTracker) (now : ℕ)
    {windows : String → Option DestinationDiversityWindow}
    (hw : windows tunnelId=tracker.windows tunnelId) :
    let recorded:=recordAt { tracker with windows := windows } tunnelId address now
    recorded.1=(tracker.recordAt tunnelId address now).1 ∧
      recorded.2.windows tunnelId=(tracker.recordAt tunnelId address now).2.windows tunnelId := by
  have hent : entryAt { tracker with windows := windows } tunnelId now=tracker.entryAt tunnelId now := by
    simp only [entryAt,hw]
  simp only [recordAt,hent]
  cases destinationKey address with
  | none => exact ⟨rfl,hw⟩
  | some =>
    dsimp only
    split_ifs <;> simp

theorem windows_of_card_pos (h : 0<(tracker.entryAt tunnelId now).destinations.card) :
    tracker.windows tunnelId=some (tracker.entryAt tunnelId now) := by
  revert h
  rw [entryAt]
  cases tracker.windows tunnelId with
  | none => exact nofun
  | some => grind

theorem recordAt_block (hcap : 0<tracker.cap)
    (h : (tracker.recordAt tunnelId address now).1.isBlock=true) :
    (tracker.recordAt tunnelId address now).2.windows=tracker.windows := by
  revert h
  rw [recordAt]
  cases destinationKey address with
  | none => exact fun _ => rfl
  | some =>
    dsimp only
    split_ifs with hmem hfull
    · intro h
      cases h
    · intro _
      exact Function.update_eq_self_iff.mpr (windows_of_card_pos (hcap.trans_le hfull)).symm
    · intro h
      cases h
    · intro h
      cases h

/-- In every run, with a cap of at least one: a window admits at most `cap` destinations
and warns once it has them, and only a new destination is blocked, in a full window.
The program's cap is `DESTINATION_DIVERSITY_WARN_CAP`. -/
theorem destination_diversity (hcap : 0 < cap)
    (h : (diversityMachine cap window).Run (tracker, logs) tr) (tunnelId : String) :
    (∀ w, logs tunnelId = some w → (admitted w.log).card ≤ cap ∧
      warnings w.log = (if (admitted w.log).card = cap then 1 else 0)) ∧
    ∀ address destination now, destinationKey address = some destination →
      let decided := tracker.recordAt tunnelId address now
      let seen := admitted (windowAt window logs tunnelId now).log
      (destination ∈ seen → decided.1 = .allowed) ∧
      (decided.1.isBlock = true ↔ destination ∉ seen ∧ seen.card = cap) ∧
      (decided.1.isBlock = true → decided.2.windows = tracker.windows) ∧
      (∀ other, other ≠ tunnelId → decided.2.windows other = tracker.windows other) ∧
      ∀ windows, windows tunnelId = tracker.windows tunnelId →
        let decided' := recordAt { tracker with windows := windows } tunnelId address now
        decided'.1 = decided.1 ∧ decided'.2.windows tunnelId = decided.2.windows tunnelId := by
  have hlog : Logged cap window tracker logs :=
    Machine.Run.invariant (M := diversityMachine cap window) (fun s _ => Logged cap window s.1 s.2)
      ⟨rfl,rfl,fun _ => .none⟩ (fun _ _ call hs _ => hs.step call) h
  refine ⟨fun w hlast => ?_,fun address destination now hkey => ?_⟩
  · have hrel:=hlog.follows tunnelId
    rw [hlast] at hrel
    generalize tracker.windows tunnelId=entry at hrel
    cases hrel with
    | @some entry _ hfol =>
      refine ⟨hfol.destinations ▸ hfol.bounded,?_⟩
      rw [hfol.count,← hfol.destinations]
      have hw:=hfol.warned
      cases hold : entry.warned <;> simp_all
  have hat:=hlog.entryAt tunnelId now
  have hb:=hat.bounded
  obtain ⟨rfl,-,-⟩:=hlog
  refine ⟨?_,?_,recordAt_block hcap,?_,fun windows hw => recordAt_of_windows_eq tracker now hw⟩
  all_goals
    simp only [← hat.destinations,recordAt,hkey]
  · exact fun hmem => by rw [if_pos hmem]
  · split_ifs with hmem hfull <;> simp [isBlock,hmem] <;> omega
  · intro other hne
    split_ifs <;> simp [hne]

def cappedCalls : List (String × String × ℕ) :=
  [("t","e:1",0),("t","f:1",4),("t","h:1",5),("t","g:1",7),("t","f:1",9)]

theorem destination_diversity_capped : ∃ tracker logs w,
    (diversityMachine 1 5).Run (tracker, logs) [] ∧ logs "t" = some w ∧ w.start = 5 ∧
      w.log = [("h:1", .warn 1), ("g:1", .block 2), ("f:1", .block 2)] ∧
      (admitted w.log).card ≤ 1 := by
  have hrun:=Machine.Run.exec (M := diversityMachine 1 5) .init cappedCalls
    ⟨trivial,trivial,trivial,trivial,trivial,trivial⟩
  exact ⟨_,_,_,hrun,rfl,by decide,by decide,((destination_diversity Nat.one_pos hrun "t").1 _ rfl).1⟩

end Lantunnel.Gateway
