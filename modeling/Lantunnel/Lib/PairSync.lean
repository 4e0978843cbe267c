import Mathlib.Tactic

/-!
# Two parties that keep each other informed

Each of two parties has a value and tells the other about it over a channel of its own:
in full when its link becomes ready, when its value changes, when it is asked to, and
once in reply to the first value it is told after its link became ready.
-/

namespace Lantunnel.Lib.PairSync
open List Function

inductive Message (α η : Type)
  | full (value : α)
  | digest (hash : η)
  | need

/-- One party: its value, whether its link is ready and then whether it still
owes the reply, and what it has learned of the other. -/
structure Party (α : Type) where
  value : α
  owes : Option Bool
  learned : Option α

/-- The two parties, and what each has sent that has not arrived. -/
structure Pair (α η : Type) where
  party : Bool → Party α
  sent : Bool → List (Message α η)

inductive Event (α : Type)
  | ready (side : Bool)
  | set (side : Bool) (value : α)
  | ask (side : Bool)
  | deliver (side : Bool) (i : ℕ)

section Steps
variable {α η : Type}

namespace Party

def ready (a : Party α) : Party α × List (Message α η) :=
  ({ a with owes := some true },[.full a.value])

def set (a : Party α) (value : α) : Party α × List (Message α η) :=
  ({ a with value := value },if a.owes.isSome then [.full value] else [])

def ask (hash : α → η) (a : Party α) : List (Message α η) :=
  if a.owes.isSome then [.digest (hash a.value)] else []

def receive [DecidableEq η] (hash : α → η) (a : Party α) (message : Message α η) :
    Party α × List (Message α η) :=
  match a.owes with
  | none => (a,[])
  | some owes =>
    match message with
    | .full value =>
      ({ a with learned := some value, owes := some false },if owes then [.full a.value] else [])
    | .digest h => (a,if a.learned.map hash=some h then [] else [.need])
    | .need => (a,[.full a.value])

end Party

def Pair.act (pair : Pair α η) (side : Bool) (result : Party α × List (Message α η)) : Pair α η where
  party := Function.update pair.party side result.1
  sent := Function.update pair.sent side (pair.sent side++result.2)

def Pair.arrive (pair : Pair α η) (side : Bool) (i : ℕ) : Pair α η :=
  { pair with sent := Function.update pair.sent side ((pair.sent side).eraseIdx i) }

def Pair.step [DecidableEq η] (hash : α → η) (pair : Pair α η) : Event α → Pair α η
  | .ready side => pair.act side (pair.party side).ready
  | .set side value => pair.act side ((pair.party side).set value)
  | .ask side => pair.act side (pair.party side,(pair.party side).ask hash)
  | .deliver side i =>
    match (pair.sent side)[i]? with
    | none => pair
    | some message => (pair.arrive side i).act (!side) ((pair.party (!side)).receive hash message)

section
variable (pair : Pair α η) (side : Bool)

section
variable (result : Party α × List (Message α η))

@[simp] theorem Pair.act_party_self : (pair.act side result).party side=result.1 :=
  update_self ..

@[simp] theorem Pair.act_sent_self :
    (pair.act side result).sent side=pair.sent side++result.2 :=
  update_self ..

@[simp] theorem Pair.act_party_not :
    (pair.act side result).party (!side)=pair.party (!side) :=
  update_of_ne (Bool.not_ne_self side) ..

@[simp] theorem Pair.act_sent_not :
    (pair.act side result).sent (!side)=pair.sent (!side) :=
  update_of_ne (Bool.not_ne_self side) ..

@[simp] theorem Pair.act_not_party : (pair.act (!side) result).party side=pair.party side :=
  update_of_ne (Bool.self_ne_not side) ..

@[simp] theorem Pair.act_not_sent : (pair.act (!side) result).sent side=pair.sent side :=
  update_of_ne (Bool.self_ne_not side) ..

end

@[simp] theorem Pair.act_nothing :
    pair.act side (pair.party side,[])=pair := by
  rw [Pair.act,append_nil,update_eq_self,update_eq_self]

end

theorem Party.receive_value [DecidableEq η] (hash : α → η) (a : Party α) (message : Message α η) :
    (a.receive hash message).1.value=a.value := by
  rw [Party.receive]
  split
  · rfl
  · split <;> rfl

theorem Party.mem_receive [DecidableEq η] {hash : α → η} {a : Party α} {message m : Message α η}
    (h : m∈(a.receive hash message).2) : m = .full a.value ∨ m = .need := by
  rw [Party.receive] at h
  split at h
  · cases h
  split at h
  · simp_all
  · simp_all
  · exact .inl (mem_singleton.mp h)

section
variable (pair : Pair α η) (side : Bool) (i : ℕ)

@[simp] theorem Pair.arrive_party :
    (pair.arrive side i).party=pair.party := rfl

@[simp] theorem Pair.arrive_sent_self :
    (pair.arrive side i).sent side=(pair.sent side).eraseIdx i :=
  update_self ..

@[simp] theorem Pair.arrive_sent_not :
    (pair.arrive side i).sent (!side)=pair.sent (!side) :=
  update_of_ne (Bool.not_ne_self side) ..

end

end Steps

section Flight
variable {α η : Type}

def Message.value? : Message α η → Option α
  | .full value => some value
  | _ => none

def values (sent : List (Message α η)) : List α := sent.filterMap Message.value?

@[simp] theorem values_append (l l' : List (Message α η)) : values (l++l')=values l++values l' :=
  filterMap_append

def EndsWith (sent : List (Message α η)) (value : α) : Prop :=
  values sent=[] ∨ ∃ earlier, values sent=earlier++[value]

theorem EndsWith.append_full (sent : List (Message α η)) (value : α) :
    EndsWith (sent++[.full value]) value :=
  .inr ⟨values sent,values_append ..⟩

theorem EndsWith.append {sent sent' : List (Message α η)} {value : α} (h : EndsWith sent value)
    (h' : EndsWith sent' value) : EndsWith (sent++sent') value := by
  rcases h' with hnone | ⟨earlier,hpast⟩
  · rw [EndsWith,values_append,hnone,append_nil]
    exact h
  · exact .inr ⟨values sent++earlier,by rw [values_append,hpast,append_assoc]⟩

theorem EndsWith.tail {message : Message α η} {sent : List (Message α η)} {value : α}
    (h : EndsWith (message::sent) value) : EndsWith sent value := by
  have hspl : values (message::sent)=values [message]++values sent := values_append [message] sent
  cases message with
  | digest hash | need => exact h
  | full =>
    rcases h with hnone | ⟨earlier,hpast⟩
    · cases hnone
    cases earlier with
    | nil => exact .inl (cons.inj hpast).2
    | cons w earlier => exact .inr ⟨earlier,(cons.inj hpast).2⟩

theorem EndsWith.last {v : α} {sent : List (Message α η)} {value : α}
    (h : EndsWith (.full v::sent) value) (hlast : values sent=[]) : v=value := by
  have hspl : values (.full v::sent)=v::values sent := rfl
  rw [EndsWith,hspl,hlast] at h
  rcases h with hnone | ⟨earlier,hpast⟩
  · cases hnone
  cases earlier with
  | nil => exact (cons.inj hpast).1
  | cons =>
    have hlen:=congrArg List.length hpast
    simp at hlen

end Flight

section Flowing
variable {α η : Type} {pair : Pair α η}

/-- What holds from `side` to the other side while links only become ready and
messages arrive in order. -/
structure FlowsFrom (pair : Pair α η) (side : Bool) : Prop where
  current : EndsWith (pair.sent side) (pair.party side).value
  silent : (pair.party side).owes=none → pair.sent side=[]
  waiting : (pair.party side).owes.isSome → (pair.party !side).owes=none →
    (pair.party side).owes=some true
  told : (pair.party side).owes.isSome → (pair.party !side).owes.isSome →
    values (pair.sent side) ≠ [] ∨ (pair.party !side).learned=some (pair.party side).value ∨
      (pair.party side).owes=some true ∧ values (pair.sent !side) ≠ []

def Flowing (pair : Pair α η) : Prop := ∀ side, FlowsFrom pair side

/-- Links become ready once and messages arrive in order. -/
def Orderly (pair : Pair α η) : Event α → Prop
  | .ready side => (pair.party side).owes=none
  | .deliver _ i => i=0
  | _ => True

theorem flowing_of_side (side : Bool) (h : FlowsFrom pair side) (h' : FlowsFrom pair !side) :
    Flowing pair := by
  intro other
  rcases Bool.eq_or_eq_not other side with rfl | rfl
  · exact h
  · exact h'

theorem values_ne_nil_append {l l' : List (Message α η)} (h : values l≠[]) : values (l++l')≠[] := by
  rw [values_append]
  exact append_ne_nil_of_left_ne_nil h _

theorem values_append_full (l : List (Message α η)) (value : α) :
    values (l++[.full value])≠[] := by
  rw [values_append]
  exact append_ne_nil_of_right_ne_nil _ (cons_ne_nil _ _)

variable {side : Bool}

theorem FlowsFrom.act_sent (h : FlowsFrom pair side) {out : List (Message α η)}
    (hrdy : (pair.party side).owes.isSome) (hout : EndsWith out (pair.party side).value) :
    FlowsFrom (pair.act side (pair.party side,out)) side := by
  refine ⟨?_,?_,?_,?_⟩
  · rw [Pair.act_sent_self,Pair.act_party_self]
    exact h.current.append hout
  · rw [Pair.act_party_self]
    intro hnone
    rw [hnone] at hrdy
    cases hrdy
  · rw [Pair.act_party_self,Pair.act_party_not]
    exact h.waiting
  · rw [Pair.act_party_self,Pair.act_party_not,Pair.act_sent_self,Pair.act_sent_not]
    intro hs ho
    exact (h.told hs ho).imp_left values_ne_nil_append

theorem FlowsFrom.act_not (h : FlowsFrom pair !side)
    {result : Party α × List (Message α η)} (howes : result.1.owes=(pair.party side).owes)
    (hlrn : result.1.learned=(pair.party side).learned) :
    FlowsFrom (pair.act side result) !side := by
  refine ⟨?_,?_,?_,?_⟩
  · rw [Pair.act_sent_not,Pair.act_party_not]
    exact h.current
  · rw [Pair.act_sent_not,Pair.act_party_not]
    exact h.silent
  · have hwait:=h.waiting
    rw [Bool.not_not] at hwait ⊢
    rw [Pair.act_party_self,Pair.act_party_not,howes]
    exact hwait
  · have htold:=h.told
    rw [Bool.not_not] at htold ⊢
    rw [Pair.act_party_self,Pair.act_party_not,Pair.act_sent_self,Pair.act_sent_not,howes,hlrn]
    intro hs ho
    exact (htold hs ho).imp_right fun hrest =>
      hrest.imp_right fun howed => ⟨howed.1,values_ne_nil_append howed.2⟩

section
variable (h : Flowing pair)
include h

theorem Flowing.ready (hnew : (pair.party side).owes=none) :
    Flowing (pair.act side (pair.party side).ready) := by
  refine flowing_of_side side ⟨?_,?_,?_,?_⟩ ⟨?_,?_,?_,?_⟩
  · rw [Pair.act_sent_self,Pair.act_party_self]
    exact .append_full _ _
  · rw [Pair.act_party_self]
    exact fun hnone => by cases hnone
  · rw [Pair.act_party_self]
    exact fun _ _ => rfl
  · rw [Pair.act_sent_self]
    exact fun _ _ => .inl (values_append_full _ _)
  · rw [Pair.act_sent_not,Pair.act_party_not]
    exact (h !side).current
  · rw [Pair.act_sent_not,Pair.act_party_not]
    exact (h !side).silent
  · rw [Bool.not_not,Pair.act_party_self]
    exact fun _ hnone => by cases hnone
  · -- the other was waiting, and is told now that it can answer
    have hwait:=(h !side).waiting
    rw [Bool.not_not] at hwait ⊢
    rw [Pair.act_party_not,Pair.act_sent_self]
    exact fun hoth _ => .inr (.inr ⟨hwait hoth hnew,values_append_full _ _⟩)

theorem Flowing.set (side : Bool) (value : α) :
    Flowing (pair.act side ((pair.party side).set value)) := by
  refine flowing_of_side side ⟨?_,?_,?_,?_⟩ ((h !side).act_not rfl rfl)
  · rw [Pair.act_sent_self,Pair.act_party_self,Party.set]
    cases howes : (pair.party side).owes with
    | none =>
      rw [(h side).silent howes]
      exact .inl rfl
    | some => exact .append_full _ _
  · rw [Pair.act_sent_self,Pair.act_party_self,Party.set]
    intro hnone
    have howes : (pair.party side).owes=none := hnone
    rw [howes,(h side).silent howes]
    rfl
  · rw [Pair.act_party_self,Pair.act_party_not]
    exact (h side).waiting
  · rw [Pair.act_party_self,Pair.act_party_not,Pair.act_sent_self,Party.set]
    intro hrdy _
    have howes : (pair.party side).owes.isSome := hrdy
    rw [if_pos howes]
    exact .inl (values_append_full _ _)

theorem Flowing.ask (hash : α → η) (side : Bool) :
    Flowing (pair.act side (pair.party side,(pair.party side).ask hash)) := by
  refine flowing_of_side side ?_ ((h !side).act_not rfl rfl)
  cases howes : (pair.party side).owes with
  | some =>
    refine (h side).act_sent (by rw [howes]; rfl) ?_
    rw [Party.ask,howes]
    exact .inl rfl
  | none =>
    have hnone : (pair.party side).ask hash=[] := by
      rw [Party.ask,howes]
      rfl
    refine ⟨?_,?_,?_,?_⟩
    · rw [Pair.act_sent_self,Pair.act_party_self,(h side).silent howes,hnone]
      exact .inl rfl
    · rw [Pair.act_sent_self,(h side).silent howes,hnone]
      exact fun _ => rfl
    · simp_all
    · simp_all

theorem Flowing.receive [DecidableEq η] (hash : α → η)
    {message : Message α η} {rest : List (Message α η)} (hsent : pair.sent side=message::rest)
    {owes : Bool} (howes : (pair.party !side).owes=some owes) :
    Flowing ((pair.arrive side 0).act (!side) ((pair.party !side).receive hash message)) := by
  have hrest : (pair.arrive side 0).sent side=rest := by
    rw [Pair.arrive_sent_self,hsent]
    rfl
  have hrdy : (pair.party side).owes.isSome := by
    cases hnone : (pair.party side).owes with
    | none =>
      rw [(h side).silent hnone] at hsent
      cases hsent
    | some => rfl
  have hcur : EndsWith rest (pair.party side).value := (hsent ▸ (h side).current).tail
  have htold:=(h side).told hrdy (by rw [howes]; rfl)
  have htold':=(h !side).told
  rw [Bool.not_not,howes] at htold'
  replace htold' := htold' rfl hrdy
  rw [hsent] at htold htold'
  obtain ⟨a,out,hgot⟩ : ∃ a out, (pair.party !side).receive hash message=(a,out) := ⟨_,_,rfl⟩
  -- what the receiver has and sends after the message
  have hreceiver : a.value=(pair.party !side).value ∧ a.owes.isSome ∧
      EndsWith out (pair.party !side).value ∧
      (values rest≠[] ∨ a.learned=some (pair.party side).value ∨
        (pair.party side).owes=some true ∧ values (pair.sent (!side)++out)≠[]) ∧
      (values (pair.sent (!side)++out)≠[] ∨
        (pair.party side).learned=some (pair.party !side).value ∨
          a.owes=some true ∧ values rest≠[]) := by
    rw [Party.receive,howes] at hgot
    cases message with
    | full v =>
      obtain ⟨rfl,rfl⟩:=Prod.mk.inj hgot
      refine ⟨rfl,rfl,?_,?_,?_⟩
      · cases owes with
        | true => exact .append_full [] _
        | false => exact .inl rfl
      · by_cases hlast : values rest=[]
        · have hv : v=(pair.party side).value := (hsent ▸ (h side).current).last hlast
          exact .inr (.inl (congrArg some hv))
        · exact .inl hlast
      · rcases htold' with hsome | hlrn | ⟨howed,-⟩
        · exact .inl (values_ne_nil_append hsome)
        · exact .inr (.inl hlrn)
        obtain rfl := Option.some.inj howed
        exact .inl (values_append_full _ _)
    | digest =>
      obtain ⟨rfl,rfl⟩:=Prod.mk.inj hgot
      refine ⟨rfl,by rw [howes]; rfl,?_,?_,?_⟩
      · refine .inl ?_
        split <;> rfl
      · exact htold.imp_right fun hmore =>
          hmore.imp_right fun howed => ⟨howed.1,values_ne_nil_append howed.2⟩
      · rw [howes]
        exact htold'.imp_left values_ne_nil_append
    | need =>
      obtain ⟨rfl,rfl⟩:=Prod.mk.inj hgot
      refine ⟨rfl,by rw [howes]; rfl,.append_full [] _,?_,?_⟩
      · exact htold.imp_right fun hmore =>
          hmore.imp_right fun howed => ⟨howed.1,values_ne_nil_append howed.2⟩
      · exact .inl (values_append_full _ _)
  obtain ⟨hvalue,hstays,hout,_⟩:=hreceiver
  have hnot_none : a.owes≠none := by
    intro hnone
    rw [hnone] at hstays
    cases hstays
  have hnot_none' : (pair.party side).owes≠none := by
    intro hnone
    rw [hnone] at hrdy
    cases hrdy
  rw [hgot]
  refine flowing_of_side side ⟨?_,?_,?_,?_⟩ ⟨?_,?_,?_,?_⟩
  · simp_all
  · simp_all
  · simp_all
  · simp_all
  · rw [Pair.act_sent_self,Pair.act_party_self,Pair.arrive_sent_not,hvalue]
    exact (h !side).current.append hout
  · simp_all
  · simp_all
  · simp_all

theorem Flowing.drop {message : Message α η}
    {rest : List (Message α η)} (hsent : pair.sent side=message::rest)
    (hnone : (pair.party !side).owes=none) :
    Flowing ((pair.arrive side 0).act (!side) (pair.party !side,[])) := by
  have hrest : (pair.arrive side 0).sent side=rest := by
    rw [Pair.arrive_sent_self,hsent]
    rfl
  refine flowing_of_side side ⟨?_,?_,?_,?_⟩ ⟨?_,?_,?_,?_⟩
  · rw [Pair.act_not_sent,Pair.act_not_party,hrest]
    exact (hsent ▸ (h side).current).tail
  · rw [Pair.act_not_party]
    intro hsilent
    rw [(h side).silent hsilent] at hsent
    cases hsent
  · rw [Pair.act_party_self,Pair.act_not_party]
    exact (h side).waiting
  · simp_all
  · rw [Pair.act_sent_self,Pair.act_party_self,Pair.arrive_sent_not,append_nil]
    exact (h !side).current
  · rw [Pair.act_sent_self,Pair.arrive_sent_not,append_nil]
    exact fun _ => (h !side).silent hnone
  · simp_all
  · simp_all

theorem Flowing.step [DecidableEq η] (hash : α → η) {event : Event α}
    (horder : Orderly pair event) : Flowing (pair.step hash event) := by
  cases event with
  | ready => exact h.ready horder
  | set side value => exact h.set side value
  | ask side => exact h.ask hash side
  | deliver side i =>
    obtain rfl : i=0 := horder
    rw [Pair.step]
    cases hsent : pair.sent side with
    | nil => exact h
    | cons message =>
      rw [getElem?_cons_zero]
      cases howes : (pair.party !side).owes with
      | some => exact h.receive hash hsent howes
      | none =>
        have hdrop : (pair.party !side).receive hash message=(pair.party !side,[]) := by
          rw [Party.receive,howes]
        dsimp only
        rw [hdrop]
        exact h.drop hsent howes

theorem Flowing.settled (hrdy : ∀ side, (pair.party side).owes.isSome)
    (hquiet : ∀ side, pair.sent side=[]) (side : Bool) :
    (pair.party !side).learned=some (pair.party side).value := by
  rcases (h side).told (hrdy side) (hrdy !side) with hvals | hlrn | ⟨-,hvals⟩
  · rw [hquiet side] at hvals
    exact absurd rfl hvals
  · exact hlrn
  · rw [hquiet !side] at hvals
    exact absurd rfl hvals

end

end Flowing

section Repair
variable {α η : Type} {pair : Pair α η} {hash : α → η} {asked : Bool → Prop}

theorem mem_of_mem_or_arrived {β : Type} {l : List β} {i : ℕ} {m x : β} (hm : l[i]?=some m)
    (hx : x∈l) : x=m ∨ x∈l.eraseIdx i := by
  obtain ⟨j,hj⟩:=mem_iff_getElem?.mp hx
  by_cases hij : j=i
  · simp_all
  · exact .inr (mem_eraseIdx_iff_getElem?.mpr ⟨j,hij,hj⟩)

/-- What holds from `side` to the other side while values stay as they are. Once
a digest was sent, the value is known or something that will make it known is on
the way. -/
structure RepairsFrom (hash : α → η) (asked : Prop) (pair : Pair α η) (side : Bool) : Prop where
  ready : (pair.party side).owes.isSome
  current : ∀ message ∈ pair.sent side, message = .full (pair.party side).value ∨
    message = .digest (hash (pair.party side).value) ∨ message = .need
  apart : ∀ v, (pair.party !side).learned=some v → hash v=hash (pair.party side).value →
    v=(pair.party side).value
  told : asked → (pair.party !side).learned=some (pair.party side).value ∨
    .digest (hash (pair.party side).value) ∈ pair.sent side ∨ .need ∈ pair.sent !side ∨
      .full (pair.party side).value ∈ pair.sent side

def Repairs (hash : α → η) (asked : Bool → Prop) (pair : Pair α η) : Prop :=
  ∀ side, RepairsFrom hash (asked side) pair side

section
variable (h : Repairs hash asked pair)
include h

theorem Repairs.imp {asked' : Bool → Prop}
    (himp : ∀ side, asked' side → asked side) : Repairs hash asked' pair :=
  fun side => ⟨(h side).ready,(h side).current,(h side).apart,
    fun hasked => (h side).told (himp side hasked)⟩

theorem Repairs.ask (side : Bool) : Repairs hash (fun s => asked s ∨ s=side)
      (pair.act side (pair.party side,(pair.party side).ask hash)) := by
  have hask : (pair.party side).ask hash=[.digest (hash (pair.party side).value)] := by
    rw [Party.ask,if_pos (h side).ready]
  intro other
  rcases Bool.eq_or_eq_not other side with rfl | rfl
  · refine ⟨?_,?_,?_,?_⟩
    · rw [Pair.act_party_self]
      exact (h other).ready
    · rw [Pair.act_party_self,Pair.act_sent_self,hask]
      intro message hmem
      rcases mem_append.mp hmem with hmem | hmem
      · exact (h other).current message hmem
      · exact .inr (.inl (mem_singleton.mp hmem))
    · rw [Pair.act_party_self,Pair.act_party_not]
      exact (h other).apart
    · simp_all
  · refine ⟨?_,?_,?_,?_⟩
    · rw [Pair.act_party_not]
      exact (h !side).ready
    · rw [Pair.act_party_not,Pair.act_sent_not]
      exact (h !side).current
    · have hap:=(h !side).apart
      rw [Bool.not_not] at hap ⊢
      rw [Pair.act_party_self,Pair.act_party_not]
      exact hap
    · have htold:=(h !side).told
      rw [Bool.not_not] at htold ⊢
      simp_all

theorem Repairs.receive [DecidableEq η] {side : Bool} {i : ℕ}
    {message : Message α η} (hsent : (pair.sent side)[i]?=some message) : Repairs hash asked
      ((pair.arrive side i).act (!side) ((pair.party !side).receive hash message)) := by
  obtain ⟨_,howes⟩:=Option.isSome_iff_exists.mp (h !side).ready
  obtain ⟨a,out,hgot⟩ : ∃ a out, (pair.party !side).receive hash message=(a,out) := ⟨_,_,rfl⟩
  have hfst:=(h side).current message (mem_of_getElem? hsent)
  have htold:=(h side).told
  have htold':=(h !side).told
  rw [Bool.not_not] at htold'
  have hstays : ∀ {x : Message α η}, x∈pair.sent side → x=message ∨ x∈(pair.sent side).eraseIdx i :=
    mem_of_mem_or_arrived hsent
  have hkept : message ≠ .need → asked (!side) →
      (pair.party side).learned=some (pair.party !side).value ∨
        .digest (hash (pair.party !side).value)∈pair.sent (!side)++out ∨
        .need∈(pair.sent side).eraseIdx i ∨
          .full (pair.party !side).value∈pair.sent (!side)++out := by
    intro hne hasked
    rcases htold' hasked with hlrn | hdig | hneed | hfull
    · exact .inl hlrn
    · exact .inr (.inl (mem_append_left _ hdig))
    · exact .inr (.inr (.inl ((hstays hneed).resolve_left hne.symm)))
    · exact .inr (.inr (.inr (mem_append_left _ hfull)))
  -- what the receiver has and sends after the message
  have hreceiver : a.value=(pair.party !side).value ∧ a.owes.isSome ∧
      (∀ m∈out, m = .full (pair.party !side).value ∨ m = .need) ∧
      (∀ v, a.learned=some v → hash v=hash (pair.party side).value → v=(pair.party side).value) ∧
      (asked side → a.learned=some (pair.party side).value ∨
        .digest (hash (pair.party side).value)∈(pair.sent side).eraseIdx i ∨
        .need∈pair.sent (!side)++out ∨
          .full (pair.party side).value∈(pair.sent side).eraseIdx i) ∧
      (asked (!side) → (pair.party side).learned=some (pair.party !side).value ∨
        .digest (hash (pair.party !side).value)∈pair.sent (!side)++out ∨
        .need∈(pair.sent side).eraseIdx i ∨
          .full (pair.party !side).value∈pair.sent (!side)++out) := by
    rw [Party.receive,howes] at hgot
    cases message with
    | full v =>
      obtain rfl : v=(pair.party side).value := by
        simp_all
      obtain ⟨rfl,rfl⟩:=Prod.mk.inj hgot
      refine ⟨rfl,rfl,?_,?_,fun _ => .inl rfl,hkept nofun⟩
      · simp
      · exact fun v hv _ => (Option.some.inj hv).symm
    | digest hash' =>
      obtain rfl : hash'=hash (pair.party side).value := by
        simp_all
      obtain ⟨rfl,rfl⟩:=Prod.mk.inj hgot
      refine ⟨rfl,by rw [howes]; rfl,?_,(h side).apart,?_,hkept nofun⟩
      · simp
      · intro _
        by_cases hsync : (pair.party !side).learned.map hash=some (hash (pair.party side).value)
        · obtain ⟨v,hv,hhash⟩:=Option.map_eq_some_iff.mp hsync
          exact .inl (hv.trans (congrArg some ((h side).apart v hv hhash)))
        rw [if_neg hsync]
        exact .inr (.inr (.inl (mem_append_right _ (mem_singleton_self _))))
    | need =>
      obtain ⟨rfl,rfl⟩:=Prod.mk.inj hgot
      refine ⟨rfl,by rw [howes]; rfl,?_,(h side).apart,?_,?_⟩
      · exact fun m hm => .inl (mem_singleton.mp hm)
      · grind
      · exact fun _ => .inr (.inr (.inr (mem_append_right _ (mem_singleton_self _))))
  obtain ⟨hvalue,howed,hout,hap,htold₁,htold₂⟩:=hreceiver
  rw [hgot]
  intro other
  rcases Bool.eq_or_eq_not other side with rfl | rfl
  · refine ⟨?_,?_,?_,?_⟩
    · rw [Pair.act_not_party]
      exact (h other).ready
    · rw [Pair.act_not_party,Pair.act_not_sent,Pair.arrive_sent_self]
      exact fun m hm => (h other).current m (mem_of_mem_eraseIdx hm)
    · rw [Pair.act_not_party,Pair.act_party_self]
      exact hap
    · rw [Pair.act_not_party,Pair.act_party_self,Pair.act_not_sent,Pair.act_sent_self,
        Pair.arrive_sent_self,Pair.arrive_sent_not]
      exact htold₁
  · refine ⟨?_,?_,?_,?_⟩
    · rw [Pair.act_party_self]
      exact howed
    · rw [Pair.act_party_self,Pair.act_sent_self,Pair.arrive_sent_not,hvalue]
      intro m hm
      rcases mem_append.mp hm with hm | hm
      · exact (h !side).current m hm
      · exact (hout m hm).imp_right .inr
    · have hap':=(h !side).apart
      rw [Bool.not_not] at hap' ⊢
      rw [Pair.act_not_party,Pair.act_party_self,hvalue]
      exact hap'
    · rw [Bool.not_not,Pair.act_not_party,Pair.act_party_self,Pair.act_not_sent,Pair.act_sent_self,
        Pair.arrive_sent_self,Pair.arrive_sent_not,hvalue]
      exact htold₂

theorem Repairs.settled (hasked : ∀ side, asked side)
    (hquiet : ∀ side, pair.sent side=[]) (side : Bool) :
    (pair.party !side).learned=some (pair.party side).value := by
  rcases (h side).told (hasked side) with hlrn | hdig | hneed | hfull
  · exact hlrn
  · rw [hquiet side] at hdig
    cases hdig
  · rw [hquiet !side] at hneed
    cases hneed
  · rw [hquiet side] at hfull
    cases hfull

end

end Repair

end Lantunnel.Lib.PairSync
