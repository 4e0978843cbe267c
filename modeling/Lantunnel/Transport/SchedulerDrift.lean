import Lantunnel.Transport.SchedulerFairness

/-!
# When the bytes drift apart

Two associations are filled, one with small items and one with large ones, and then
popped.
-/

namespace Lantunnel.Transport
open Lib KeyedFifo Rotation State Scheduler List

variable {config : DatagramSchedulerConfig} {least most quantum : ℕ}
  {P P' : String → QueueItem → Prop}

theorem State.enqueueGroup_fits {s : State}
    (h : s.Sound config) (iter : State.HashIter) (first : DatagramFrame) (rest : List DatagramFrame)
    (hok : admissible config first (first::rest)=true)
    (hownp : s.totalPackets+(first::rest).length≤config.perAssociationPacketLimit)
    (hownb : s.totalBytes+groupBytes (first::rest)≤config.perAssociationByteLimit)
    (hglobalp : s.totalPackets+(first::rest).length≤config.globalPacketLimit)
    (hglobalb : s.totalBytes+groupBytes (first::rest)≤config.globalByteLimit) :
    (∀ x, (s.enqueueGroup config iter false (first::rest)).2.items x =
      s.items x++if x=first.connId then [groupItem first (first::rest)] else []) ∧
    (s.enqueueGroup config iter false (first::rest)).2.totalPackets =
      s.totalPackets+(first::rest).length ∧
    (s.enqueueGroup config iter false (first::rest)).2.totalBytes =
      s.totalBytes+groupBytes (first::rest) := by
  have hopd:=(h.opened first.connId).opened
  have hits:=evicted_opened s first.connId
  obtain ⟨_,_⟩:=h.rest first.connId
  have hown : s.evictOwn config first.connId (first::rest).length (groupBytes (first::rest)) =
      ({ s with queues := s.queues.insert first.connId (s.queueOf first.connId) },0) := by
    rw [evictOwn,evictOwnLoop]
    have hq : (s.queues.get first.connId).getD .new=s.queueOf first.connId := rfl
    rw [hq,if_pos]
    constructor <;> omega
  have hglobal : ∀ s' : State, s'.totalPackets=s.totalPackets → s'.totalBytes=s.totalBytes →
      s'.evictGlobal config iter (first::rest).length (groupBytes (first::rest))=(s',0) := by
    intro s' hp hb
    rw [evictGlobal,evictGlobalLoop,if_neg]
    rw [overBudget,Bool.or_eq_true,decide_eq_true_eq,decide_eq_true_eq]
    omega
  have hres : (s.enqueueGroup config iter false (first::rest)).2 =
      push first.connId (groupItem first (first::rest)) (first::rest).length
        (groupBytes (first::rest))
        { s with queues := s.queues.insert first.connId (s.queueOf first.connId) } := by
    rw [enqueueGroup]
    dsimp only
    rw [hok,hown]
    simp_all
  have hcount:=hopd.queueOf first.connId
  rw [hres]
  refine ⟨?_,?_,?_⟩
  · intro x
    rw [push_items (groupItem_wellFormed first rest) hcount]
    rw [show items { s with queues := s.queues.insert first.connId (s.queueOf first.connId) } =
      s.items from hits.drains.eq_of_nil]
  · rw [push_eq (groupItem_wellFormed first rest) _ hcount]
  · rw [push_eq (groupItem_wellFormed first rest) _ hcount]

def datagram (connId : String) (bytes : ℕ) : DatagramFrame :=
  { udpDatagram connId [] with bytes }

def TwoSizes (least most : ℕ) : String → QueueItem → Prop :=
  fun x item => (x = "small" ∧ item.bytes=least) ∨ (x = "large" ∧ item.bytes=most)

theorem twoSizes_le (hle : least≤ most) (x : String) (item : QueueItem)
    (h : TwoSizes least most x item) : item.bytes≤ most := by
  rcases h with ⟨-,_⟩ | ⟨-,_⟩ <;> omega

def roomy (packets bytes : ℕ) : DatagramSchedulerConfig := ⟨packets,bytes,packets,bytes⟩

section Fill
variable {quantum least most : ℕ}

/-- The runs that enqueue items of the two sizes and pop. -/
abbrev filling (config : DatagramSchedulerConfig) (quantum least most : ℕ) :
    Machine Scheduler SchedulerEvent SchedulerOutput :=
  (Scheduler.machine config).restrict fun _ e => Uses quantum (TwoSizes least most) e

theorem enqueue_datagram {config : DatagramSchedulerConfig} {packets bytes size : ℕ} {s : Scheduler}
    {tr : List SchedulerOutput} {x : String}
    (hcfg : config=roomy packets bytes) (hsize : TwoSizes least most x (.single (datagram x size)))
    (hrun : (filling config quantum least most).Run s tr) (hsnd : s.state.Sound config)
    (hpkts : s.state.totalPackets+1≤packets) (hbs : s.state.totalBytes+size≤bytes)
    (hopen : s.receiverClosed=false) (hpend : s.pending=[]) :
    ∃ s' tr', (filling config quantum least most).Run s' tr' ∧ s'.state.Sound config ∧
      (∀ y, (s'.state.items y).length=(s.state.items y).length+if y=x then 1 else 0) ∧
      s'.state.totalPackets=s.state.totalPackets+1 ∧
      s'.state.totalBytes=s.state.totalBytes+size ∧ s'.receiverClosed=false ∧ s'.pending=[] := by
  have hgroup : groupBytes [datagram x size]=size := by simp [groupBytes,datagram]
  have hok : admissible config (datagram x size) [datagram x size]=true := by
    rw [admissible,hgroup,hcfg]
    simp only [all_cons,all_nil,length_singleton,Bool.and_eq_true,decide_eq_true_eq,and_true,
      true_and]
    dsimp only [roomy]
    omega
  have hfits:=enqueueGroup_fits hsnd insertionOrder (datagram x size) [] hok
    (by rw [hcfg]; exact hpkts) (by rw [hcfg,hgroup]; exact hbs)
    (by rw [hcfg]; exact hpkts) (by rw [hcfg,hgroup]; exact hbs)
  rw [← hopen,hgroup] at hfits
  obtain ⟨hits,htotal,htotalb⟩:=hfits
  obtain ⟨o,-,heff⟩:=step_effect hsnd
    (.enqueueGroup [datagram x size] insertionOrder)
  refine ⟨_,_,hrun.step (.enqueueGroup [datagram x size] insertionOrder) ⟨trivial,hsize⟩,
    heff.sound hsnd,?_,htotal,htotalb,hopen,hpend⟩
  intro y
  have hlen:=congrArg List.length (hits y)
  rw [length_append] at hlen
  refine hlen.trans (congrArg _ ?_)
  have hconn : (datagram x size).connId=x := rfl
  rw [hconn]
  split <;> rfl

theorem fill_two (quantum least most count packets bytes : ℕ) (hle : least≤ most)
    (hpkts : 2*count≤packets) (hbs : count*(2*most)≤bytes) :
    ∃ s tr, (filling (roomy packets bytes) quantum least most).Run s tr ∧
      s.state.Sound (roomy packets bytes) ∧ (s.state.items "small").length=count ∧
      (s.state.items "large").length=count ∧ s.state.totalPackets=2*count ∧
      s.state.totalBytes≤count*(2*most) ∧ s.receiverClosed=false ∧ s.pending=[] := by
  induction count with
  | zero =>
    exact ⟨_,_,.init,sound_new,rfl,rfl,rfl,Nat.zero_le _,rfl,rfl⟩
  | succ count ih =>
    have hmul : (count+1)*(2*most)=count*(2*most)+2*most := Nat.succ_mul _ _
    obtain ⟨s,_,hrun,hsnd,_,_,_,_,hopen,hpending⟩ :=
      ih (by omega) (by omega)
    obtain ⟨s1,_,hrun1,hsound1,hlen1,_,_,hopen1,hpending1⟩ :=
      enqueue_datagram rfl (.inl ⟨rfl,rfl⟩) hrun hsnd (by omega)
        (by omega : s.state.totalBytes+least≤bytes) hopen hpending
    obtain ⟨s2,tr2,hrun2,hsound,hlen2,_,_,hopen2,hpend⟩ :=
      enqueue_datagram rfl (.inr ⟨rfl,rfl⟩) hrun1 hsound1 (by omega)
        (by omega : s1.state.totalBytes+most≤bytes) hopen1 hpending1
    have hsmall2:=hlen2 "small"
    have hsmall:=hlen1 "small"
    have hlarge:=hlen2 "large"
    have hlarge1:=hlen1 "large"
    rw [if_neg (by decide)] at hsmall2 hlarge1
    rw [if_pos rfl] at hsmall hlarge
    exact ⟨s2,tr2,hrun2,hsound,by omega,by omega,by omega,by omega,hopen2,hpend⟩

end Fill

section Pop
variable {config : DatagramSchedulerConfig} {quantum least most lead count : ℕ}
  {start : Scheduler}

theorem drains_one_length {queues last : String → List QueueItem} {entry : String × QueueItem}
    (h : Drains queues [entry] last) (x : String) : (queues x).length≤(last x).length+1 := by
  rw [h.split () x,length_append]
  by_cases hx : entry.1=x
  · simp [itemsOf,settle,hx]
    omega
  · simp [itemsOf,settle,hx]

theorem pop_many (hq : 0<quantum) (hle : least≤ most) (hsnd : start.state.Sound config)
    (hkept : Kept quantum most (TwoSizes least most) start)
    (hlead : InTurn "small" "large" lead start.state.ready 0 0) (hopen : start.receiverClosed=false)
    (hpend : start.pending=[])
    (hcnt : ∀ x, x = "small" ∨ x = "large" → count≤(start.state.items x).length) (n : ℕ)
    (hn : n<count) :
    ∃ s out visits, (window config quantum (TwoSizes least most) start "small" "large").Run s out ∧
      s.state.Sound config ∧ Kept quantum most (TwoSizes least most) s ∧
      Ledger quantum (TwoSizes least most) "small" "large" lead start s out visits ∧
      n≤visits.length ∧ s.receiverClosed=false ∧ s.pending=[] ∧
      ∀ x, x = "small" ∨ x = "large" → count≤(s.state.items x).length+n := by
  induction n with
  | zero =>
    exact ⟨start,[],[],.init,hsnd,hkept,.init hlead,le_rfl,hopen,hpend,hcnt⟩
  | succ n ih =>
    obtain ⟨s,_,_,hrun,hs,hk,hledger,_,hopen,hpend,hleft⟩:=ih (by omega)
    have hfill : ∀ x, x = "small" ∨ x = "large" → s.state.items x≠[] := by
      intro x hx
      have hlen:=hleft x hx
      refine length_pos_iff.mp ?_
      omega
    obtain ⟨entry,state,hst,hpops,hrecv⟩ :=
      recvBatchWithQuantum_serves hs hpend (hfill "small" (.inl rfl)) quantum
    have hqe : max quantum 1=quantum := by omega
    rw [hqe] at hpops
    have hremain : ∀ x, x = "small" ∨ x = "large" → count≤(state.items x).length+(n+1) := by
      intro x hx
      have hlen:=hleft x hx
      have hless:=drains_one_length hpops.drains x
      omega
    have hstep : Scheduler.step config s (.recvBatch quantum) =
        ({ s with state },[.received entry.2.intoFrames]) := by
      rw [Scheduler.step,hrecv]
    have hstays : ∀ x, x = "small" ∨ x = "large" →
        StaysBacklogged config s (.recvBatch quantum) x := by
      intro x hx
      have hlen:=hremain x hx
      rw [StaysBacklogged,hstep]
      have hnone : (acceptedItems [.received entry.2.intoFrames] x).length=0 := rfl
      rw [hnone]
      dsimp only
      omega
    have hne : ∀ x, x = "small" ∨ x = "large" → state.items x≠[] := by
      intro x hx
      have hlen:=hremain x hx
      refine length_pos_iff.mp ?_
      omega
    obtain ⟨_,hnext,hmore⟩:=hledger.pop (by decide) hs hk hpend hpops
      (append_nil entry.2.intoFrames) (hne _ (.inl rfl)) (hne _ (.inr rfl))
    obtain ⟨o,-,heff⟩:=step_effect hs (.recvBatch quantum)
    have hkept':=hk.effect hq (twoSizes_le hle) hs heff rfl
    have hrun':=hrun.step (.recvBatch quantum) ⟨hopen,rfl,hstays _ (.inl rfl),hstays _ (.inr rfl)⟩
    have hstep' : (window config quantum (TwoSizes least most) start "small" "large").step s
        (.recvBatch quantum)=({ s with state },[.received entry.2.intoFrames]) := hstep
    rw [hstep'] at hrun'
    rw [hstep] at hkept'
    rw [← hpend] at hnext
    have hlong:=length_pos_iff.mpr (hmore (Option.some_ne_none _))
    refine ⟨_,_,_,hrun',hst,hkept',hnext,?_,hopen,hpend,hremain⟩
    rw [length_append]
    omega

end Pop

theorem Uses.mono
    (h : ∀ x item, P x item → P' x item) {e : SchedulerEvent} (huses : Uses quantum P e) :
    Uses quantum P' e := by
  cases e with
  | enqueueGroup frames =>
    cases frames with
    | nil => trivial
    | cons => exact h _ _ huses
  | removeAssociation => trivial
  | recv q | recvBatch q => exact huses
  | dropReceiver => trivial

theorem Turns.visits_length {lead : ℕ} {start s : State} {visits : List Visit}
    (h : Turns quantum (TwoSizes least most) "small" "large" lead start s visits) :
    visits.length=visitsTo visits "small" + visitsTo visits "large" := by
  have hoth : visits.filter (fun v => !decide (v.1 = "small")) =
      visits.filter (·.1 = "large") := by
    refine filter_congr ?_
    intro v hv
    obtain ⟨_,⟨hname,-⟩ | ⟨hname,-⟩,-⟩:=h.visits v hv
    · rw [hname]
      decide
    rw [hname]
    decide
  rw [visitsTo,visitsTo,← hoth]
  exact length_eq_length_filter_add _

theorem twoSizes_small (item : QueueItem)
    (h : TwoSizes least most "small" item) : item.bytes=least := by
  rcases h with ⟨-,hitem⟩ | ⟨hname,-⟩
  · exact hitem
  · exact absurd hname (by decide)

theorem twoSizes_large (item : QueueItem)
    (h : TwoSizes least most "large" item) : item.bytes=most := by
  rcases h with ⟨hname,-⟩ | ⟨-,hitem⟩
  · exact absurd hname (by decide)
  · exact hitem

theorem large_served {lead : ℕ} {start s : Scheduler} {visits : List Visit}
    (hle : least< most) (hunused : least<quantum) (hkept : Kept quantum most (TwoSizes least most) s)
    (h : Turns quantum (TwoSizes least most) "small" "large" lead start.state s.state visits) :
    visitsTo visits "large" * least+visitsTo visits "large" ≤ servedTo visits "large" + most := by
  have hrate : ∀ n, least<n → visitsTo visits "large" * least+visitsTo visits "large" ≤
      visitsTo visits "large" * n := by
    intro n hn
    have hmul:=Nat.mul_le_mul_left (visitsTo visits "large") (Nat.succ_le_of_lt hn)
    rwa [Nat.mul_succ] at hmul
  rcases Nat.lt_or_ge most quantum with hlt | hge
  · have hserve:=h.servedTo_eq twoSizes_large hlt.le
    have hmost:=hrate most hle
    omega
  have hbal:=h.balance "large" (.inr rfl)
  have hdef:=hkept.deficit "large" fun item hitem => (twoSizes_large item hitem).symm ▸ hge
  have hquantum:=hrate quantum hunused
  omega

theorem drift (hle : least< most) (hunused : least<quantum) (n : ℕ) : ∃ config start tr s out,
      (filling config quantum least most).Run start tr ∧
      start.state.items "small" ≠ [] ∧ start.state.items "large" ≠ [] ∧
      (window config quantum (TwoSizes least most) start "small" "large").Run s out ∧
      n+bytesFor (receivedFrames out) "small" ≤ bytesFor (receivedFrames out) "large" := by
  have hq : 0<quantum := by omega
  obtain ⟨pops,_⟩ : ∃ pops, pops=2*(n+2*most+1) := ⟨_,rfl⟩
  obtain ⟨start,tr,hrun,hsnd,hsmall,hlarge,-,-,hopen,hpend⟩ :=
    fill_two quantum least most (pops+1) _ _ hle.le le_rfl le_rfl
  have hkept:=(run_kept hq (twoSizes_le hle.le) hrun).2
  have hcnt : ∀ x, x = "small" ∨ x = "large" → pops+1≤(start.state.items x).length := by
    rintro x (rfl | rfl)
    · exact hsmall.ge
    · exact hlarge.ge
  have hfill : ∀ x, x = "small" ∨ x = "large" → start.state.items x≠[] := by
    intro x hx
    have hlen:=hcnt x hx
    refine length_pos_iff.mp ?_
    omega
  obtain ⟨_,hlead,hturn⟩:=InTurn.start ((hsnd.mem_ready_iff "small").mpr
    (hfill _ (.inl rfl))) ((hsnd.mem_ready_iff "large").mpr (hfill _ (.inr rfl))) (by decide)
  obtain ⟨s,out,_,hwindow,-,hkept',hledger,_,-,hpend',-⟩ :=
    pop_many hq hle.le hsnd hkept hturn hopen hpend hcnt pops (Nat.lt_succ_self _)
  refine ⟨_,start,tr,s,out,hrun,hfill _ (.inl rfl),hfill _ (.inr rfl),hwindow,?_⟩
  have hnothing : ∀ x, bytesFor [] x=0 := fun _ => rfl
  have hgot:=hledger.received "small"
  have hreceivedb:=hledger.received "large"
  rw [hpend,hpend',hnothing] at hgot hreceivedb
  have hserveda:=hledger.turns.servedTo_eq twoSizes_small hunused.le
  have hserve:=large_served hle hunused hkept' hledger.turns
  obtain ⟨hva,-⟩:=hledger.turns.inTurn.counts hlead
  have hmul:=mul_le_of_le_succ least hva
  have hlength:=hledger.turns.visits_length
  omega

theorem window_mono (h : ∀ x item, P x item → P' x item) {start s : Scheduler}
    {a b : String} {out : List SchedulerOutput} (hrun : (window config quantum P start a b).Run s out) :
    (window config quantum P' start a b).Run s out := by
  induction hrun with
  | init => exact .init
  | step _ e he ih => exact .step ih e ⟨he.1,he.2.1.mono h,he.2.2⟩

theorem restrict_mono (h : ∀ x item, P x item → P' x item) {s : Scheduler}
    {tr : List SchedulerOutput}
    (hrun : ((machine config).restrict fun _ e => Uses quantum P e).Run s tr) :
    ((machine config).restrict fun _ e => Uses quantum P' e).Run s tr := by
  induction hrun with
  | init => exact .init
  | step _ e he ih => exact .step ih e ⟨he.1,he.2.mono h⟩

theorem twoSizes_sized {low : ℕ} (hlow : low≤least) (hle : least≤ most) (x : String)
    (item : QueueItem) (h : TwoSizes least most x item) : Sized low most x item := by
  rcases h with ⟨-,_⟩ | ⟨-,_⟩ <;> exact ⟨by omega,by omega⟩

theorem not_fair {low : ℕ} (hlow : low≤least) (hle : least< most)
    (hunused : least<quantum) (bound : ℕ) : ¬ Fair quantum low most bound := by
  intro hfair
  obtain ⟨config,start,tr,s,out,hrun,hsmall,hlarge,hwindow,_⟩ :=
    drift hle hunused (bound+1)
  have hsized:=twoSizes_sized hlow hle.le
  obtain ⟨-,_⟩:=hfair config start tr (restrict_mono hsized hrun) "small" "large"
    (by decide) hsmall hlarge s out (window_mono hsized hwindow)
  omega

/-- For items of at least `least` and at most `most` bytes a bound on the
difference exists just if no item is smaller than the quantum or all have one
size, and then it depends on the quantum and the largest item only. -/
theorem byte_fair_iff (quantum least most : ℕ) (hq : 1 ≤ quantum) (hle : least ≤ most) :
    ((∃ bound, Fair quantum least most bound) ↔ quantum ≤ least ∨ least = most) ∧
      (quantum ≤ least ∨ least = most → Fair quantum least most (quantum + 4 * most)) := by
  refine ⟨⟨?_,fun h => ⟨_,fair_of_uniform hq h⟩⟩,fair_of_uniform hq⟩
  rintro ⟨bound,hfair⟩
  by_contra hnot
  rw [not_or] at hnot
  exact not_fair le_rfl (Nat.lt_of_le_of_ne hle hnot.2) (Nat.lt_of_not_le hnot.1) bound hfair

theorem byte_fair_iff_small : Fair 16 64 1452 (16 + 4 * 1452) :=
  (byte_fair_iff 16 64 1452 (by decide) (by decide)).2 (.inl (by decide))

theorem byte_fairness_fails : ¬ ∃ bound, Fair 1452 0 1000 bound := by
  rintro ⟨bound,hfair⟩
  exact not_fair (Nat.zero_le 100) (by decide) (by decide) bound hfair

end Lantunnel.Transport
