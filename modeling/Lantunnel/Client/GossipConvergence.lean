import Lantunnel.Lib.Machine
import Lantunnel.Core.PeerLinkAgreement
import Lantunnel.Client.PeerGossip

/-!
# Two controllers (tp-client/src/peer_gossip.rs:56-168)

Two controllers send each other payloads over a channel in each direction, and simulate
the parties of `PairSync` step by step.
-/

namespace Lantunnel.Client
open Lib FieldCodec Function PeerGossipControllerV2
open List hiding Vector
open Core (Primitives lanPrimitives)
open PairSync (Party Message Pair)

@[ext]
structure GossipPair where
  controllers : Bool → PeerGossipControllerV2
  channels : Bool → List RelayControlPayloadV2

inductive GossipEvent
  | call (side : Bool) (call : GossipCall)
  | deliver (side : Bool) (i : ℕ)
  | lose (side : Bool) (i : ℕ)

def GossipCall.ownRecord : GossipCall → Option PeerRuntimeRecordV2
  | .setLocalRecord localRecord => some localRecord
  | _ => none

/-- The record an event gives to one side. -/
def GossipEvent.ownRecord (s : Bool) : GossipEvent → Option PeerRuntimeRecordV2
  | .call side given => if side=s then given.ownRecord else none
  | _ => none

namespace GossipPair
variable (p : Primitives) (peerId : Bool → String) (pair : GossipPair)

/-- A call on one controller; what it sends to the other goes on its channel. -/
def call (side : Bool) (call : GossipCall) : GossipPair × List (Bool × RelayControlPayloadV2) :=
  let result:=callGossip p (pair.controllers side) call
  let sent:=toward (peerId !side) result.2
  (⟨Function.update pair.controllers side result.1,
      Function.update pair.channels side (pair.channels side++sent)⟩,
    sent.map fun payload => (side,payload))

def takeOff (side : Bool) (i : ℕ) : GossipPair :=
  { pair with channels := Function.update pair.channels side ((pair.channels side).eraseIdx i) }

def step : GossipEvent → GossipPair × List (Bool × RelayControlPayloadV2)
  | .call side call => pair.call p peerId side call
  | .deliver side i =>
    match (pair.channels side)[i]? with
    | none => (pair,[])
    | some payload => (pair.takeOff side i).call p peerId (!side) (.receive (peerId side) payload)
  | .lose side i => (pair.takeOff side i,[])

def machine : Machine GossipPair GossipEvent (Bool × RelayControlPayloadV2) where
  init := pair
  enabled := fun _ _ => True
  step := step p peerId

def Ready (side : Bool) : Prop := (pair.controllers side).links.contains (peerId !side)

instance (side : Bool) : Decidable (pair.Ready peerId side) := inferInstanceAs (Decidable (_=true))

def Quiet : Prop := ∀ side, pair.channels side=[]

def learned (side : Bool) : Option PeerRuntimeRecordV2 :=
  (pair.controllers side).directory.record (peerId !side)

end GossipPair

def gossipStart (records : Bool → PeerRuntimeRecordV2) : GossipPair :=
  ⟨fun side => .new (records side),fun _ => []⟩

/-- Payloads of the Peer come over the channel, records from their constructor. -/
def GossipCall.Genuine (peer : String) : GossipCall → Prop
  | .receive remotePeerId _ => remotePeerId ≠ peer
  | .setLocalRecord localRecord => localRecord.Valid
  | _ => True

/-- The link to the Peer stays as it is, and the own record too. -/
def GossipCall.Steady (peer : String) : GossipCall → Prop
  | .linkReady remotePeerId _ => remotePeerId ≠ peer
  | .setLocalRecord _ => False
  | .pollDigests _ => True
  | .receive remotePeerId _ => remotePeerId ≠ peer
  | .linkClosed remotePeerId => remotePeerId ≠ peer

/-- Each link becomes ready once and stays, and messages arrive in order. -/
def ReadyOnce (peerId : Bool → String) (pair : GossipPair) : GossipEvent → Prop
  | .call side call => call.Genuine (peerId !side) ∧ call.Own (peerId !side) ∧
    ∀ now, call = .linkReady (peerId !side) now → ¬ pair.Ready peerId side
  | .deliver _ i => i=0
  | .lose _ _ => False

/-- Links close and become ready again, messages are lost, overtake each other or
are rejected. -/
def AnyHistory (peerId : Bool → String) (_ : GossipPair) : GossipEvent → Prop
  | .call side call => call.Genuine (peerId !side)
  | .deliver _ _ => True
  | .lose _ _ => True

/-- Digests are sent and everything is delivered, in any order. -/
def Repairing (peerId : Bool → String) (_ : GossipPair) : GossipEvent → Prop
  | .call side call => call.Steady (peerId !side)
  | .deliver _ _ => True
  | .lose _ _ => False

theorem GossipCall.Steady.own {peer : String} {call : GossipCall} (h : call.Steady peer) :
    call.Own peer := by
  cases call with
  | linkReady remotePeerId now | setLocalRecord localRecord | pollDigests now => trivial
  | receive remotePeerId payload | linkClosed remotePeerId => exact h

section Simulation
variable {p : Primitives} {peerId : Bool → String} {pair : GossipPair}
  {abs : Pair PeerRuntimeRecordV2 (Vector UInt8 32)}

structure Simulates (peerId : Bool → String) (pair : GossipPair)
    (abs : Pair PeerRuntimeRecordV2 (Vector UInt8 32)) : Prop where
  sound : ∀ side, (pair.controllers side).Sound
  view : ∀ side, abs.party side=(pair.controllers side).view (peerId !side)
  channel : ∀ side, pair.channels side=(abs.sent side).map payloadOf
  valid : ∀ side, (abs.party side).value.Valid
  sent_valid : ∀ side record, .full record ∈ abs.sent side → record.Valid

section
variable (h : Simulates peerId pair abs)
include h

theorem Simulates.call {side : Bool} {call : GossipCall}
    {result : Party PeerRuntimeRecordV2 × List GossipMessage}
    (hview : (callGossip p (pair.controllers side) call).1.view (peerId !side)=result.1)
    (hsent : toward (peerId !side) (callGossip p (pair.controllers side) call).2 =
      result.2.map payloadOf)
    (hval : result.1.value.Valid) (hsent_valid : ∀ record, .full record∈result.2 → record.Valid) :
    Simulates peerId (pair.call p peerId side call).1 (abs.act side result) := by
  have hself : (pair.call p peerId side call).1.controllers side =
      (callGossip p (pair.controllers side) call).1 := update_self ..
  have hoth : (pair.call p peerId side call).1.controllers (!side)=pair.controllers (!side) :=
    update_of_ne (Bool.not_ne_self side) ..
  have hchan : (pair.call p peerId side call).1.channels side =
      pair.channels side++result.2.map payloadOf := (update_self ..).trans (by rw [hsent])
  have hchan' : (pair.call p peerId side call).1.channels (!side)=pair.channels (!side) :=
    update_of_ne (Bool.not_ne_self side) ..
  refine ⟨?_,?_,?_,?_,?_⟩
  all_goals
    intro s
    rcases Bool.eq_or_eq_not s side with rfl | rfl
  · rw [hself]
    exact (h.sound s).call call
  · rw [hoth]
    exact h.sound !side
  · rw [hself,hview,Pair.act_party_self]
  · rw [hoth,Pair.act_party_not]
    exact h.view !side
  · rw [hchan,Pair.act_sent_self,h.channel,map_append]
  · rw [hchan',Pair.act_sent_not]
    exact h.channel !side
  · rw [Pair.act_party_self]
    exact hval
  · rw [Pair.act_party_not]
    exact h.valid !side
  · rw [Pair.act_sent_self]
    intro record hmem
    rcases mem_append.mp hmem with hmem | hmem
    · exact h.sent_valid s record hmem
    · exact hsent_valid record hmem
  · rw [Pair.act_sent_not]
    exact h.sent_valid !side

theorem Simulates.takeOff (side : Bool) (i : ℕ) :
    Simulates peerId (pair.takeOff side i) (abs.arrive side i) := by
  refine ⟨h.sound,h.view,?_,h.valid,?_⟩
  all_goals
    intro s
    rcases Bool.eq_or_eq_not s side with rfl | rfl
  · rw [Pair.arrive_sent_self,← eraseIdx_map,← h.channel]
    exact update_self ..
  · rw [Pair.arrive_sent_not,← h.channel]
    exact update_of_ne (Bool.not_ne_self side) ..
  · rw [Pair.arrive_sent_self]
    exact fun record hmem => h.sent_valid s record (mem_of_mem_eraseIdx hmem)
  · rw [Pair.arrive_sent_not]
    exact h.sent_valid !side

theorem Simulates.deliver (side : Bool) (i : ℕ) :
    Simulates peerId (pair.step p peerId (.deliver side i)).1
        (abs.step (·.hash p) (.deliver side i)) ∧
      ∀ sent∈(pair.step p peerId (.deliver side i)).2, ∀ hash, sent.2 ≠ .digest hash := by
  rw [GossipPair.step,Pair.step,h.channel,getElem?_map]
  cases hsent : (abs.sent side)[i]? with
  | none => exact ⟨h,fun _ hmem => by cases hmem⟩
  | some message =>
    have hval : ∀ record, message = .full record → record.Valid := by
      rintro record rfl
      exact h.sent_valid side record (mem_of_getElem? hsent)
    obtain ⟨hview,hout⟩:=receive_seen (p := p) (peerId side) (h.sound !side) hval
    have hparty : (pair.controllers !side).view (peerId side)=abs.party !side := by
      rw [h.view,Bool.not_not]
    rw [hparty] at hview hout
    constructor
    · refine (h.takeOff side i).call ?_ ?_ ?_ ?_
      · rw [Bool.not_not]
        exact hview
      · rw [Bool.not_not]
        exact hout
      · rw [Party.receive_value]
        exact h.valid !side
      · intro record hmem
        rcases Party.mem_receive hmem with hfull | hneed
        · rw [Message.full.inj hfull]
          exact h.valid !side
        · cases hneed
    · rintro ⟨_,_⟩ hmem
      obtain ⟨_,hpay,heq⟩:=mem_map.mp hmem
      obtain ⟨rfl,rfl⟩:=Prod.mk.inj heq
      rw [Bool.not_not] at hpay
      obtain ⟨m,hm,rfl⟩:=mem_map.mp (hout ▸ hpay)
      intro hash
      rcases Party.mem_receive hm with rfl | rfl <;> exact fun hdig => by cases hdig

theorem Simulates.own {side : Bool} {call : GossipCall}
    (hgenuine : call.Genuine (peerId !side)) (hown : call.Own (peerId !side)) :
    ∃ result, Seen p (peerId !side) (abs.party side) call result ∧
      Simulates peerId (pair.call p peerId side call).1 (abs.act side result) ∧
      (pair.call p peerId side call).2=(result.2.map payloadOf).map fun payload => (side,payload) := by
  obtain ⟨result,hseen,hview,hsent⟩:=callGossip_seen (p := p) (pair.controllers side) hown
  rw [← h.view] at hseen
  have hval : result.1.value.Valid ∧ ∀ record, .full record∈result.2 → record.Valid := by
    cases hseen with
    | nothing => exact ⟨h.valid side,fun _ hmem => by cases hmem⟩
    | ready =>
      refine ⟨h.valid side,fun record hmem => ?_⟩
      rw [Message.full.inj (mem_singleton.mp hmem)]
      exact h.valid side
    | set =>
      refine ⟨hgenuine,fun record hmem => ?_⟩
      rw [Party.set] at hmem
      split at hmem
      · rw [Message.full.inj (mem_singleton.mp hmem)]
        exact hgenuine
      · cases hmem
    | ask =>
      refine ⟨h.valid side,fun record hmem => ?_⟩
      rw [Party.ask] at hmem
      split at hmem
      · cases mem_singleton.mp hmem
      · cases hmem
  refine ⟨result,hseen,h.call hview hsent hval.1 hval.2,?_⟩
  rw [GossipPair.call,hsent]

end

end Simulation

section Runs
variable {p : Primitives} {peerId : Bool → String} {pair : GossipPair}
  {abs : Pair PeerRuntimeRecordV2 (Vector UInt8 32)}

variable {records : Bool → PeerRuntimeRecordV2} {tr : List (Bool × RelayControlPayloadV2)}

theorem Simulates.start (hval : ∀ side, (records side).Valid) :
    Simulates peerId (gossipStart records) ⟨fun side => ⟨records side,none,none⟩,fun _ => []⟩ where
  sound side := .new (records side)
  view _ := rfl
  channel _ := rfl
  valid := hval
  sent_valid _ _ hmem := by cases hmem

section
variable (h : Simulates peerId pair abs)
include h

theorem Simulates.ready_iff (side : Bool) :
    pair.Ready peerId side ↔ (abs.party side).owes.isSome := by
  rw [h.view,GossipPair.Ready,Table.contains,PeerGossipControllerV2.view,Option.isSome_map]

theorem Simulates.learned_eq (side : Bool) :
    pair.learned peerId side=(abs.party side).learned := by
  rw [h.view]
  rfl

theorem Simulates.value_eq (side : Bool) :
    (abs.party side).value=(pair.controllers side).localRecord := by
  rw [h.view]
  rfl

theorem Simulates.sent_nil (hquiet : pair.Quiet) (side : Bool) :
    abs.sent side=[] :=
  map_eq_nil_iff.mp ((h.channel side).symm.trans (hquiet side))

end

theorem flowing_start (records : Bool → PeerRuntimeRecordV2) :
    PairSync.Flowing (⟨fun side => ⟨records side,none,none⟩,fun _ => []⟩ :
      Pair PeerRuntimeRecordV2 (Vector UInt8 32)) :=
  fun _ => ⟨.inl rfl,fun _ => rfl,(fun hrdy => by cases hrdy),(fun hrdy => by cases hrdy)⟩

theorem flowing_step (h : Simulates peerId pair abs) (hflow : PairSync.Flowing abs)
    {event : GossipEvent} (honce : ReadyOnce peerId pair event) :
    ∃ abs', Simulates peerId (pair.step p peerId event).1 abs' ∧ PairSync.Flowing abs' := by
  cases event with
  | lose => exact honce.elim
  | deliver side i => exact ⟨_,(h.deliver side i).1,hflow.step _ honce⟩
  | call side =>
    obtain ⟨hgenuine,hown,hrdy⟩:=honce
    obtain ⟨_,hseen,hsim,-⟩:=h.own (p := p) hgenuine hown
    refine ⟨_,hsim,?_⟩
    cases hseen with
    | nothing => rwa [Pair.act_nothing]
    | set localRecord => exact hflow.set side localRecord
    | ask => exact hflow.ask _ side
    | ready now =>
      refine hflow.ready ?_
      rw [← Option.not_isSome_iff_eq_none,← h.ready_iff]
      exact hrdy now rfl

theorem flowing_run (hval : ∀ side, (records side).Valid)
    (hrun : (((gossipStart records).machine p peerId).restrict (ReadyOnce peerId)).Run pair tr) :
    ∃ abs, Simulates peerId pair abs ∧ PairSync.Flowing abs := by
  refine hrun.invariant (fun pair _ => ∃ abs, Simulates peerId pair abs ∧ PairSync.Flowing abs)
    ⟨_,.start hval,flowing_start records⟩ ?_
  rintro pair tr event ⟨_,hsim,hflow⟩ ⟨-,honce⟩
  exact flowing_step hsim hflow honce

theorem callGossip_localRecord (controller : PeerGossipControllerV2) (call : GossipCall) :
    (callGossip p controller call).1.localRecord=call.ownRecord.getD controller.localRecord := by
  cases call with
  | linkReady remotePeerId =>
    rw [callGossip,linkReady]
    cases validatePeerId remotePeerId with
    | error e | ok _ => rfl
  | setLocalRecord =>
    rw [callGossip,setLocalRecord]
    split
    · rename_i hsame
      exact hsame
    · rfl
  | pollDigests => rfl
  | receive remotePeerId payload =>
    rw [callGossip]
    have hrecv:=received p controller remotePeerId payload
    generalize controller.receive p remotePeerId payload=result at hrecv ⊢
    cases hrecv with
    | failed e | learned hlink hdec hreplace | compared hash hlink | needed hlink => rfl
  | linkClosed remotePeerId =>
    rw [callGossip,linkClosed]
    cases validatePeerId remotePeerId with
    | error e | ok _ => rfl

section
variable (pair : GossipPair)

theorem GossipPair.call_self (side : Bool) (call : GossipCall) :
    (pair.call p peerId side call).1.controllers side =
      (callGossip p (pair.controllers side) call).1 := update_self ..

theorem GossipPair.call_other (side : Bool) (call : GossipCall) :
    (pair.call p peerId side call).1.controllers (!side)=pair.controllers (!side) :=
  update_of_ne (Bool.not_ne_self side) ..

theorem GossipPair.call_localRecord (side s : Bool) (call : GossipCall) :
    ((pair.call p peerId side call).1.controllers s).localRecord =
      ((GossipEvent.call side call).ownRecord s).getD (pair.controllers s).localRecord := by
  rcases Bool.eq_or_eq_not s side with rfl | rfl
  · rw [call_self,callGossip_localRecord,GossipEvent.ownRecord,if_pos rfl]
  · rw [call_other,GossipEvent.ownRecord,if_neg (Bool.not_ne_self side).symm]
    rfl

theorem GossipPair.step_localRecord (event : GossipEvent) (s : Bool) :
    ((pair.step p peerId event).1.controllers s).localRecord =
      (event.ownRecord s).getD (pair.controllers s).localRecord := by
  cases event with
  | call side call => exact pair.call_localRecord side s call
  | lose => rfl
  | deliver side i =>
    rw [GossipPair.step]
    cases (pair.channels side)[i]? with
    | none => rfl
    | some =>
      dsimp only
      rw [call_localRecord,GossipEvent.ownRecord]
      exact congrArg (Option.getD · _) (ite_self none)

end

/-- What a controller gossips is the record it was given last. -/
theorem GossipPair.exec_localRecord (start pair : GossipPair) (events : List GossipEvent) (s : Bool) :
    (((start.machine p peerId).exec pair events).1.controllers s).localRecord =
      (events.filterMap (·.ownRecord s)).getLast?.getD (pair.controllers s).localRecord := by
  induction events generalizing pair with
  | nil => rfl
  | cons event events ih =>
    rw [Machine.exec]
    refine (ih _).trans ?_
    rw [filterMap_cons,show (start.machine p peerId).step pair event=pair.step p peerId event from rfl,
      step_localRecord]
    cases event.ownRecord s with
    | none => rfl
    | some =>
      rw [getLast?_cons]
      rfl

def Left (pair : GossipPair) : Prop :=
  ∀ side, (pair.controllers side).Sound ∧ (pair.controllers side).localRecord.Valid

theorem Left.call (h : Left pair) {side : Bool} {call : GossipCall}
    (hval : ∀ localRecord, call.ownRecord=some localRecord → localRecord.Valid) :
    Left (pair.call p peerId side call).1 := by
  intro s
  rcases Bool.eq_or_eq_not s side with rfl | rfl
  · rw [GossipPair.call_self]
    refine ⟨(h s).1.call call,?_⟩
    rw [callGossip_localRecord]
    cases hown : call.ownRecord with
    | none => exact (h s).2
    | some localRecord => exact hval localRecord hown
  · rw [GossipPair.call_other]
    exact h !side

theorem left_run (hval : ∀ side, (records side).Valid)
    (hrun : (((gossipStart records).machine p peerId).restrict (AnyHistory peerId)).Run pair tr) :
    Left pair := by
  refine hrun.invariant (fun pair _ => Left pair) (fun side => ⟨.new _,hval side⟩) ?_
  rintro pair tr event hleft ⟨-,hany⟩
  cases event with
  | lose => exact hleft
  | call side call =>
    refine hleft.call ?_
    intro localRecord hown
    cases call <;> cases hown
    exact hany
  | deliver side i =>
    have hdeliver : Left (pair.step p peerId (.deliver side i)).1 := by
      rw [GossipPair.step]
      cases (pair.channels side)[i]? with
      | none => exact hleft
      | some =>
        have htk : Left (pair.takeOff side i) := hleft
        exact htk.call fun _ hset => by cases hset
    exact hdeliver

theorem repairs_start (hleft : Left pair) (hrdy : ∀ side, pair.Ready peerId side)
    (hquiet : pair.Quiet) (hap : ∀ side record, pair.learned peerId (!side)=some record →
      p.Sha256Apart record.encode (pair.controllers side).localRecord.encode) :
    ∃ abs, Simulates peerId pair abs ∧ PairSync.Repairs (·.hash p) (fun _ => False) abs := by
  have hsim : Simulates peerId pair
      ⟨fun side => (pair.controllers side).view (peerId !side),fun _ => []⟩ :=
    ⟨fun side => (hleft side).1,fun _ => rfl,hquiet,fun side => (hleft side).2,
      fun _ _ hmem => by cases hmem⟩
  refine ⟨_,hsim,fun side => ⟨(hsim.ready_iff side).mp (hrdy side),(fun _ hmem => by cases hmem),
    ?_,False.elim⟩⟩
  intro record hlrn hhash
  have hval : record.Valid := (hleft !side).1.valid _ record hlrn
  have henc:=hap side record hlrn hhash
  have hdec:=PeerRuntimeRecordV2.decode_encode hval
  rw [henc,PeerRuntimeRecordV2.decode_encode (hleft side).2] at hdec
  exact (Except.ok.inj hdec).symm

theorem repairs_step (h : Simulates peerId pair abs)
    (hrep : PairSync.Repairs (·.hash p) (fun side => ∃ hash, (side,.digest hash)∈tr) abs)
    {event : GossipEvent} (hevent : Repairing peerId pair event) :
    ∃ abs', Simulates peerId (pair.step p peerId event).1 abs' ∧ PairSync.Repairs (·.hash p)
        (fun side => ∃ hash, (side,.digest hash)∈tr++(pair.step p peerId event).2) abs' ∧
      ∀ side, (abs'.party side).value=(abs.party side).value := by
  cases event with
  | lose => exact hevent.elim
  | deliver side i =>
    obtain ⟨hsim,hout⟩:=h.deliver (p := p) side i
    have hasked : ∀ s, (∃ hash, (s,.digest hash)∈tr++(pair.step p peerId (.deliver side i)).2) →
        ∃ hash, (s,.digest hash)∈tr := by
      rintro s ⟨hash,hmem⟩
      rcases mem_append.mp hmem with hmem | hmem
      · exact ⟨hash,hmem⟩
      · exact absurd rfl (hout _ hmem hash)
    refine ⟨_,hsim,?_,?_⟩
    · rw [Pair.step]
      cases hsent : (abs.sent side)[i]? with
      | none => exact hrep.imp hasked
      | some => exact (hrep.receive hsent).imp hasked
    · intro s
      rw [Pair.step]
      cases (abs.sent side)[i]? with
      | none => rfl
      | some =>
        rcases Bool.eq_or_eq_not s side with rfl | rfl
        · rw [Pair.act_not_party,Pair.arrive_party]
        · rw [Pair.act_party_self,Party.receive_value]
  | call side call =>
    have hgenuine : call.Genuine (peerId !side) := by
      cases call with
      | setLocalRecord => exact hevent.elim
      | receive => exact hevent
      | linkReady remotePeerId now | pollDigests now | linkClosed remotePeerId => trivial
    obtain ⟨_,hseen,hsim,hout⟩:=h.own (p := p) hgenuine (GossipCall.Steady.own hevent)
    refine ⟨_,hsim,?_,?_⟩
    · rw [GossipPair.step,hout]
      cases hseen with
      | nothing => simp_all
      | ready => exact absurd rfl hevent
      | set => exact hevent.elim
      | ask =>
        refine (hrep.ask side).imp ?_
        rintro s ⟨hash,hmem⟩
        rcases mem_append.mp hmem with hmem | hmem
        · exact .inl ⟨hash,hmem⟩
        obtain ⟨_,-,heq⟩:=mem_map.mp hmem
        exact .inr (Prod.mk.inj heq).1.symm
    · intro s
      cases hseen with
      | nothing => rw [Pair.act_nothing]
      | ready => exact absurd rfl hevent
      | set => exact hevent.elim
      | ask =>
        rcases Bool.eq_or_eq_not s side with rfl | rfl
        · rw [Pair.act_party_self]
        · rw [Pair.act_party_not]

theorem repairs_run (hleft : Left pair) (hrdy : ∀ side, pair.Ready peerId side) (hquiet : pair.Quiet)
    (hap : ∀ side record, pair.learned peerId (!side)=some record →
      p.Sha256Apart record.encode (pair.controllers side).localRecord.encode) {pair' : GossipPair}
    (hrun : ((pair.machine p peerId).restrict (Repairing peerId)).Run pair' tr) :
    ∃ abs, Simulates peerId pair' abs ∧
      PairSync.Repairs (·.hash p) (fun side => ∃ hash, (side,.digest hash)∈tr) abs ∧
      ∀ side, (abs.party side).value=(pair.controllers side).localRecord := by
  obtain ⟨abs,hsim,hrep⟩:=repairs_start hleft hrdy hquiet hap
  refine hrun.invariant (fun pair' tr => ∃ abs, Simulates peerId pair' abs ∧
      PairSync.Repairs (·.hash p) (fun side => ∃ hash, (side,.digest hash)∈tr) abs ∧
      ∀ side, (abs.party side).value=(pair.controllers side).localRecord)
    ⟨abs,hsim,hrep.imp fun _ hnone => by simp at hnone,hsim.value_eq⟩ ?_
  rintro pair' tr event ⟨_,hsim,hrep,hvalue⟩ ⟨-,hevent⟩
  obtain ⟨abs',hsim',hrep',hsame⟩:=repairs_step hsim hrep hevent
  exact ⟨abs',hsim',hrep',fun side => (hsame side).trans (hvalue side)⟩

end Runs

def officeRecord : PeerRuntimeRecordV2 := ⟨[⟨⟨0x0a000000,8⟩,true⟩]⟩

def gossipRecords (side : Bool) : PeerRuntimeRecordV2 := if side then officeRecord else ⟨[]⟩

def gossipNames (side : Bool) : String := if side then "office" else "home"

def gossipPrimitives : Primitives where
  __ := lanPrimitives
  sha256 bytes :=
    if bytes=officeRecord.encode then
      beVector 32 0xd289575fca28fde161e428ecb944104e3b6facf848ab7cf75a75fb272e546fec
    else beVector 32 0x6e340b9cffb37a989ca544e6bb780a2c78901d3fb33738768511a30617afa01d

theorem gossipRecords_valid (side : Bool) : (gossipRecords side).Valid := by
  cases side with
  | true =>
    refine ⟨by decide,?_⟩
    rw [gossipRecords,if_pos rfl,PeerRuntimeRecordV2.new,officeRecord,mergeSort_singleton]
    rfl
  | false =>
    refine ⟨by decide,?_⟩
    rw [gossipRecords,if_neg (by decide),PeerRuntimeRecordV2.new,mergeSort_nil]
    rfl

def overtakenEvents : List GossipEvent :=
  [.call true (.linkReady "home" 0),.deliver true 0,.call false (.linkReady "office" 0),
    .deliver false 0,.deliver true 0,.deliver false 0]

def lossyEvents : List GossipEvent :=
  [.call true (.linkReady "home" 0),.lose true 0,.call false (.linkReady "office" 0),.lose false 0]

def overtaken : GossipPair × List (Bool × RelayControlPayloadV2) :=
  ((gossipStart gossipRecords).machine gossipPrimitives gossipNames).exec (gossipStart gossipRecords)
    overtakenEvents

def lossy : GossipPair × List (Bool × RelayControlPayloadV2) :=
  ((gossipStart gossipRecords).machine gossipPrimitives gossipNames).exec (gossipStart gossipRecords)
    lossyEvents

def askedPair : GossipPair :=
  ⟨fun side => ((lossy.1.controllers side).pollDigests gossipPrimitives 40000000000).2,
    fun side => [.digest ((gossipRecords side).hash gossipPrimitives)]⟩

def repaired : GossipPair × List (Bool × RelayControlPayloadV2) :=
  (lossy.1.machine gossipPrimitives gossipNames).exec askedPair
    [.deliver true 0,.deliver false 0,.deliver true 0,.deliver false 0,.deliver true 0,
      .deliver false 0,.deliver true 0,.deliver false 0]

theorem askedPair_run :
    ((lossy.1.machine gossipPrimitives gossipNames).restrict (Repairing gossipNames)).Run askedPair
      [(true,.digest (officeRecord.hash gossipPrimitives)),
        (false,.digest ((gossipRecords false).hash gossipPrimitives))] := by
  have hfst : (lossy.1.step gossipPrimitives gossipNames (.call true (.pollDigests 40000000000))) =
      (⟨Function.update lossy.1.controllers true (askedPair.controllers true),
        Function.update lossy.1.channels true (askedPair.channels true)⟩,
        [(true,.digest (officeRecord.hash gossipPrimitives))]) := by
    rw [GossipPair.step,GossipPair.call,callGossip,toward_pollDigests]
    rfl
  have hsnd : (GossipPair.step gossipPrimitives gossipNames
      ⟨Function.update lossy.1.controllers true (askedPair.controllers true),
        Function.update lossy.1.channels true (askedPair.channels true)⟩
      (.call false (.pollDigests 40000000000))) =
      (askedPair,[(false,.digest ((gossipRecords false).hash gossipPrimitives))]) := by
    rw [GossipPair.step,GossipPair.call,callGossip,toward_pollDigests]
    refine Prod.ext (GossipPair.ext ?_ ?_) rfl
    · funext side
      cases side with
      | true | false => rfl
    funext side
    cases side with
    | true | false => rfl
  have hrun:=(Machine.Run.init (M := (lossy.1.machine gossipPrimitives gossipNames).restrict
    (Repairing gossipNames))).step (.call true (.pollDigests 40000000000)) ⟨trivial,trivial⟩
  have hstep : ((lossy.1.machine gossipPrimitives gossipNames).restrict (Repairing gossipNames)).step =
    GossipPair.step gossipPrimitives gossipNames := rfl
  have hinit : ((lossy.1.machine gossipPrimitives gossipNames).restrict (Repairing gossipNames)).init =
    lossy.1 := rfl
  rw [hstep,hinit,hfst] at hrun
  have hrun':=hrun.step (.call false (.pollDigests 40000000000)) ⟨trivial,trivial⟩
  rwa [hstep,hsnd] at hrun'

theorem overtaken_run : (((gossipStart gossipRecords).machine gossipPrimitives gossipNames).restrict
      (ReadyOnce gossipNames)).Run overtaken.1 overtaken.2 := by
  refine Machine.Run.init.exec overtakenEvents ⟨⟨trivial,trivial,trivial,?_⟩,⟨trivial,rfl⟩,
    ⟨trivial,trivial,trivial,?_⟩,⟨trivial,rfl⟩,⟨trivial,rfl⟩,⟨trivial,rfl⟩,trivial⟩
  · rintro now -
    decide
  rintro now -
  decide

theorem lossy_run : (((gossipStart gossipRecords).machine gossipPrimitives gossipNames).restrict
      (AnyHistory gossipNames)).Run lossy.1 lossy.2 := by
  exact Machine.Run.init.exec lossyEvents ⟨⟨trivial,trivial⟩,⟨trivial,trivial⟩,⟨trivial,trivial⟩,
    ⟨trivial,trivial⟩,trivial⟩

theorem repaired_run :
    ((lossy.1.machine gossipPrimitives gossipNames).restrict (Repairing gossipNames)).Run repaired.1
      ([(true,.digest (officeRecord.hash gossipPrimitives)),
        (false,.digest ((gossipRecords false).hash gossipPrimitives))]++repaired.2) := by
  rw [repaired,← Machine.exec_restrict (Repairing gossipNames)]
  exact askedPair_run.exec _ ⟨⟨trivial,trivial⟩,⟨trivial,trivial⟩,⟨trivial,trivial⟩,
    ⟨trivial,trivial⟩,⟨trivial,trivial⟩,⟨trivial,trivial⟩,⟨trivial,trivial⟩,
    ⟨trivial,trivial⟩,trivial⟩

end Lantunnel.Client
