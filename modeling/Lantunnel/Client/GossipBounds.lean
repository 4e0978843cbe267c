import Lantunnel.Client.GossipConvergence

/-!
# No echo (tp-client/src/peer_gossip.rs:56-161)

A record is answered only while the reply of the link is owed, and answering it pays it.
-/

namespace Lantunnel.Client
open Lib FieldCodec List PeerGossipControllerV2 Function
open Core (Primitives)

def runGossip (p : Primitives) (controller : PeerGossipControllerV2) (calls : List GossipCall) :
    PeerGossipControllerV2 :=
  calls.foldl (fun controller call => (callGossip p controller call).1) controller

def answersRecord (p : Primitives) (peer : String) (controller : PeerGossipControllerV2) :
    GossipCall → Bool
  | .receive remotePeerId (.runtimeRecord encoded) => remotePeerId=peer ∧
    (callGossip p controller (.receive remotePeerId (.runtimeRecord encoded))).2 ≠ []
  | _ => false

def recordReplies (p : Primitives) (peer : String) :
    PeerGossipControllerV2 → List GossipCall → ℕ
  | _, [] => 0
  | controller, call::calls =>
    (answersRecord p peer controller call).toNat +
      recordReplies p peer (callGossip p controller call).1 calls

def GossipCall.isReadyOf (peer : String) : GossipCall → Bool
  | .linkReady remotePeerId _ => remotePeerId=peer
  | _ => false

def owed (controller : PeerGossipControllerV2) (peer : String) : ℕ :=
  (((controller.links.get peer).map (·.reciprocalPending)).getD false).toNat

section Replies
variable {p : Primitives} {controller : PeerGossipControllerV2} {peer : String}

section
variable (controller : PeerGossipControllerV2) (peer : String)

theorem owed_eq_view : owed controller peer=((controller.view peer).owes.getD false).toNat :=rfl

theorem owed_le_one : owed controller peer≤1 :=
  Bool.toNat_le _

theorem receive_owed (payload : RelayControlPayloadV2) :
    owed (controller.receive p peer payload).2 peer≤owed controller peer ∧
      ∀ encoded, payload = .runtimeRecord encoded →
        (sentOf (controller.receive p peer payload).1).length +
          owed (controller.receive p peer payload).2 peer≤owed controller peer := by
  have hrecv:=received p controller peer payload
  generalize controller.receive p peer payload=result at hrecv ⊢
  cases hrecv with
  | failed => exact ⟨Nat.le_refl _,fun _ _ => by rw [sentOf,length_nil,Nat.zero_add]⟩
  | compared hash hlink | needed hlink => exact ⟨Nat.le_refl _,fun _ hpay => by cases hpay⟩
  | @learned link encoded record directory hlink hdec hreplace =>
    have hpaid : owed { controller with
        directory := directory
        links := controller.links.insert peer { link with reciprocalPending := false } } peer=0 := by
      rw [owed,Table.get_insert_self]
      rfl
    have howed : owed controller peer=link.reciprocalPending.toNat := by
      rw [owed,hlink]
      rfl
    rw [hpaid,howed]
    refine ⟨Nat.zero_le _,fun _ _ => ?_⟩
    cases link.reciprocalPending with
    | true | false => exact Nat.le_refl _

theorem answersRecord_le (encoded : Bytes) :
    (answersRecord p peer controller (.receive peer (.runtimeRecord encoded))).toNat ≤
      (sentOf (controller.receive p peer (.runtimeRecord encoded)).1).length := by
  have hone:=Bool.toNat_le (answersRecord p peer controller (.receive peer (.runtimeRecord encoded)))
  by_cases hnil : sentOf (controller.receive p peer (.runtimeRecord encoded)).1=[]
  · have hans : answersRecord p peer controller (.receive peer (.runtimeRecord encoded))=false := by
      rw [answersRecord,callGossip,hnil]
      simp
    rw [hans]
    exact Nat.zero_le _
  · have hpos:=length_pos_of_ne_nil hnil
    omega

theorem callGossip_owed (call : GossipCall) :
    (answersRecord p peer controller call).toNat+owed (callGossip p controller call).1 peer ≤
      owed controller peer+(call.isReadyOf peer).toNat := by
  -- a call of another kind than a payload of the Peer
  have hown : ∀ call : GossipCall, call.Own peer → answersRecord p peer controller call=false →
      (answersRecord p peer controller call).toNat+owed (callGossip p controller call).1 peer ≤
        owed controller peer+(call.isReadyOf peer).toNat := by
    intro call hcall hans
    obtain ⟨_,hseen,hview,-⟩:=callGossip_seen (p := p) controller hcall
    rw [hans,owed_eq_view,owed_eq_view,hview]
    cases hseen with
    | nothing => simp
    | set => simp [PairSync.Party.set]
    | ask => simp
    | ready => simp [PairSync.Party.ready,GossipCall.isReadyOf]
  cases call with
  | linkReady remotePeerId now | setLocalRecord localRecord | pollDigests now =>
    exact hown _ trivial rfl
  | receive remotePeerId payload =>
    by_cases hpeer : remotePeerId=peer
    · subst hpeer
      obtain ⟨hle,hrec⟩ :=
        receive_owed (p := p) controller remotePeerId payload
      cases payload with
      | runtimeRecord encoded =>
        have hpaid:=hrec encoded rfl
        have hans:=answersRecord_le (p := p) controller remotePeerId encoded
        have hcall : (callGossip p controller (.receive remotePeerId (.runtimeRecord encoded))).1 =
          (controller.receive p remotePeerId (.runtimeRecord encoded)).2 := rfl
        rw [hcall]
        omega
      | openFlow network address | openResponse success error | digest hash | need =>
        simpa [answersRecord,callGossip,GossipCall.isReadyOf] using hle
    · refine hown _ hpeer ?_
      cases payload with
      | runtimeRecord => simp [answersRecord,hpeer]
      | openFlow network address | openResponse success error | digest hash | need => rfl
  | linkClosed remotePeerId =>
    by_cases hpeer : remotePeerId=peer
    · subst hpeer
      have hle : owed (controller.linkClosed remotePeerId).2 remotePeerId≤owed controller remotePeerId := by
        rw [linkClosed]
        cases validatePeerId remotePeerId with
        | error => exact Nat.le_refl _
        | ok =>
          rw [owed,Table.get_remove_self]
          exact Nat.zero_le _
      simpa [answersRecord,callGossip,GossipCall.isReadyOf] using hle
    · exact hown _ hpeer rfl

theorem recordReplies_le (calls : List GossipCall) :
    recordReplies p peer controller calls≤owed controller peer+calls.countP (·.isReadyOf peer) := by
  induction calls generalizing controller with
  | nil => exact Nat.zero_le _
  | cons call calls ih =>
    have hstep:=callGossip_owed (p := p) controller peer call
    have hrest:=ih (callGossip p controller call).1
    have hcnt : (call::calls).countP (·.isReadyOf peer) =
        calls.countP (·.isReadyOf peer)+(call.isReadyOf peer).toNat := by
      rw [countP_cons]
      cases call.isReadyOf peer with
      | true | false => rfl
    rw [recordReplies,hcnt]
    omega

end

theorem runGossip_sound (h : controller.Sound) (calls : List GossipCall) :
    (runGossip p controller calls).Sound := by
  induction calls generalizing controller with
  | nil => exact h
  | cons call calls ih => exact ih (h.call call)

end Replies

/-- How many messages a payload can bring about. -/
def worth : RelayControlPayloadV2 → ℕ
  | .digest _ => 2
  | .need => 1
  | _ => 0

def GossipPair.weight (peerId : Bool → String) (pair : GossipPair) : ℕ :=
  ((pair.channels true).map worth).sum+((pair.channels false).map worth).sum +
    owed (pair.controllers true) (peerId false)+owed (pair.controllers false) (peerId true)

section Silence
variable {p : Primitives} {peerId : Bool → String} {pair : GossipPair}

theorem weight_eq (peerId : Bool → String) (pair : GossipPair) (side : Bool) :
    pair.weight peerId=((pair.channels side).map worth).sum+((pair.channels !side).map worth).sum +
      owed (pair.controllers side) (peerId !side)+owed (pair.controllers !side) (peerId side) := by
  cases side with
  | true => rfl
  | false =>
    rw [GossipPair.weight,Bool.not_false]
    omega

theorem sum_worth_eraseIdx {payload : RelayControlPayloadV2} {l : List RelayControlPayloadV2} {i : ℕ}
    (h : l[i]?=some payload) : ((l.eraseIdx i).map worth).sum+worth payload=(l.map worth).sum := by
  induction l generalizing i with
  | nil => cases h
  | cons =>
    cases i with
    | zero => grind
    | succ => grind

theorem receive_paid (controller : PeerGossipControllerV2) (peer : String)
    (payload : RelayControlPayloadV2) :
    let result := callGossip p controller (.receive peer payload)
    (toward peer result.2).length+((toward peer result.2).map worth).sum+owed result.1 peer ≤
      worth payload+owed controller peer := by
  have hrec:=(receive_owed (p := p) controller peer payload).2
  have hrecv:=received p controller peer payload
  dsimp only [callGossip]
  generalize controller.receive p peer payload=result at hrecv hrec ⊢
  cases hrecv with
  | failed e =>
    have hnone : toward peer (sentOf (.error e : Except PeerGossipErrorV2 _))=[] := rfl
    rw [hnone]
    simp
  | compared =>
    split
    · have hnone : toward peer (sentOf (.ok none : Except PeerGossipErrorV2 _))=[] := rfl
      rw [hnone]
      simp
    · rw [sentOf,Option.toList_some,toward_singleton_self]
      exact Nat.le_refl _
  | needed =>
    rw [sentOf,Option.toList_some,fullRecordFor,toward_singleton_self]
    exact Nat.le_refl _
  | @learned link encoded record directory hlink hdec hreplace =>
    have hpaid:=hrec encoded rfl
    have hworth : ∀ bytes, worth (.runtimeRecord bytes)=0 := fun _ => rfl
    dsimp only at hpaid ⊢
    split at hpaid
    · rename_i hpend
      rw [if_pos hpend,sentOf,Option.toList_some,fullRecordFor,toward_singleton_self,
        length_singleton,map_singleton,sum_singleton,hworth,
        hworth]
      rw [sentOf,Option.toList_some,length_singleton] at hpaid
      omega
    · rename_i hpend
      have hnone : toward peer (sentOf (.ok none : Except PeerGossipErrorV2 _))=[] := rfl
      rw [if_neg hpend,hnone,map_nil,length_nil,sum_nil,hworth]
      omega

theorem deliver_weight (peerId : Bool → String) (pair : GossipPair) (side : Bool) (i : ℕ) :
    (pair.step p peerId (.deliver side i)).2.length +
      (pair.step p peerId (.deliver side i)).1.weight peerId≤pair.weight peerId := by
  rw [GossipPair.step]
  cases hsent : (pair.channels side)[i]? with
  | none => exact (Nat.zero_add _).le
  | some payload =>
    dsimp only
    have hpaid:=receive_paid (p := p) (pair.controllers !side) (peerId side) payload
    have htk:=sum_worth_eraseIdx hsent
    rw [weight_eq peerId pair side,weight_eq peerId _ side,GossipPair.call]
    dsimp only [GossipPair.takeOff]
    grind

theorem deliveries_weight (deliveries : List (Bool × ℕ)) :
    ((pair.machine p peerId).exec pair (deliveries.map fun d => .deliver d.1 d.2)).2.length ≤
      pair.weight peerId := by
  have hexec : ∀ (start : GossipPair),
      (((pair.machine p peerId).exec start (deliveries.map fun d => .deliver d.1 d.2)).2).length ≤
        start.weight peerId := by
    induction deliveries with
    | nil => exact fun _ => Nat.zero_le _
    | cons d deliveries ih =>
      intro start
      have hstep:=deliver_weight (p := p) peerId start d.1 d.2
      have hrest:=ih (start.step p peerId (.deliver d.1 d.2)).1
      rw [map_cons,Machine.exec,length_append]
      have hmachine : (pair.machine p peerId).step=GossipPair.step p peerId := rfl
      rw [hmachine]
      omega
  exact hexec pair

end Silence

theorem gossip_bounded (p : Primitives) (localRecord : PeerRuntimeRecordV2) :
    (∀ calls peer, recordReplies p peer (.new localRecord) calls ≤ calls.countP (·.isReadyOf peer)) ∧
    (∀ before after peer, recordReplies p peer (runGossip p (.new localRecord) before) after ≤
      1 + after.countP (·.isReadyOf peer)) ∧
    (∀ peerId (pair : GossipPair) (deliveries : List (Bool × ℕ)),
      ((pair.machine p peerId).exec pair (deliveries.map fun d => .deliver d.1 d.2)).2.length ≤
        pair.weight peerId) ∧
    (∀ calls origin record,
      (runGossip p (.new localRecord) calls).directory.record origin = some record →
        (runGossip p (.new localRecord) calls).links.contains origin) ∧
    ∀ calls remotePeerId payload e,
      ((runGossip p (.new localRecord) calls).receive p remotePeerId payload).1 = .error e →
        ((runGossip p (.new localRecord) calls).receive p remotePeerId payload).2 =
          runGossip p (.new localRecord) calls := by
  refine ⟨?_,?_,fun _ _ => deliveries_weight,?_,?_⟩
  · intro calls peer
    have hle:=recordReplies_le (p := p) (.new localRecord) peer calls
    have hzero : owed (.new localRecord) peer=0 := rfl
    rwa [hzero,Nat.zero_add] at hle
  · intro before after peer
    have hle:=recordReplies_le (p := p) (runGossip p (.new localRecord) before) peer after
    have hone:=owed_le_one (runGossip p (.new localRecord) before) peer
    omega
  · intro calls origin record hrec
    obtain ⟨_,hlink⟩ :=
      (runGossip_sound (p := p) (.new localRecord) calls).linked origin record hrec
    rw [Table.contains,hlink]
    rfl
  · intro calls remotePeerId payload e herr
    have hrecv:=received p (runGossip p (.new localRecord) calls) remotePeerId payload
    generalize (runGossip p (.new localRecord) calls).receive p remotePeerId payload=result at *
    cases hrecv with
    | failed => rfl
    | learned hlink hdec hreplace | compared hash hlink | needed hlink => cases herr

def twoRecords : List GossipCall :=
  [.linkReady "home" 0,.receive "home" (.runtimeRecord [0]),.receive "home" (.runtimeRecord [0])]

theorem gossip_bounded_office :
    recordReplies gossipPrimitives "home" (.new officeRecord) twoRecords ≤ 1 ∧
      (runGossip gossipPrimitives (.new officeRecord) twoRecords).links.contains "home" ∧
      ((runGossip gossipPrimitives (.new officeRecord) twoRecords).receive gossipPrimitives "ghost"
        .need).2 = runGossip gossipPrimitives (.new officeRecord) twoRecords := by
  obtain ⟨hrep,-,-,hlkd,hfail⟩:=gossip_bounded gossipPrimitives officeRecord
  refine ⟨?_,?_,?_⟩
  · exact hrep twoRecords "home"
  · exact hlkd twoRecords "home" ⟨[]⟩ (by decide +kernel)
  · exact hfail twoRecords "ghost" .need .linkNotReady (by decide +kernel)

end Lantunnel.Client
