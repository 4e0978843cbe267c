import Lantunnel.Lib.EvenSplit
import Lantunnel.Core.WireRoundTrip
import Lantunnel.Transport.DatagramScheduler

/-!
# Sending UDP over datagrams (tp-transport/src/session.rs:455-592)

A message that does not fit the current datagram size is cut into as few fragments as
possible, of nearly equal size, which are enqueued as one group.
-/

namespace Lantunnel.Transport
open Lib FieldCodec RustStd Core.Wire List

def UDP_FRAGMENT_HEADER_LEN : ℕ := 20

def MAX_UDP_FRAGMENTS : ℕ := 255

/-- tp-transport/src/lib.rs:78 -/
def MAX_FRAME_LEN : ℕ := 8*1024*1024

inductive TrySendKind
  | full
  | tooLarge (len : ℕ)
  | datagramUnavailable
  | closed

/-- The counters of `UdpRouteStats` that sending a datagram touches. -/
structure UdpRouteStats where
  datagramAcceptedToScheduler : ℕ
  droppedFull : ℕ
  datagramPerAssociationEvicted : ℕ
  datagramGlobalBudgetEvicted : ℕ
  lastFallbackPackedLen : ℕ
  lastFallbackMaxDg : ℕ

def recordOversizedUdpDropOnStats (stats : UdpRouteStats) (packedLen maxDg : ℕ) : UdpRouteStats :=
  { stats with
    lastFallbackPackedLen := packedLen
    lastFallbackMaxDg := maxDg
    droppedFull := stats.droppedFull+1 }

def recordDatagramSchedulerOutcome (stats : UdpRouteStats) (outcome : DatagramEnqueueOutcome) :
    UdpRouteStats :=
  let evicted:=outcome.perAssociationEvicted+outcome.globalBudgetEvicted
  { stats with
    datagramAcceptedToScheduler := stats.datagramAcceptedToScheduler+outcome.acceptedPackets
    datagramPerAssociationEvicted :=
      stats.datagramPerAssociationEvicted+outcome.perAssociationEvicted
    datagramGlobalBudgetEvicted := stats.datagramGlobalBudgetEvicted+outcome.globalBudgetEvicted
    droppedFull := stats.droppedFull+evicted }

/-! ### The fragments (session.rs:527-579) -/

/-- How many fragments there have to be; none if the datagrams are too small or there would be
too many. -/
def fragmentCount (payloadLen maxDg : ℕ) : Option ℕ :=
  if maxDg<UDP_FRAGMENT_HEADER_LEN then none
  else
    let maxFragmentPayload:=maxDg-UDP_FRAGMENT_HEADER_LEN
    if maxFragmentPayload=0 then none
    else
      let fragmentCount:=(payloadLen+maxFragmentPayload-1)/maxFragmentPayload
      if fragmentCount=0 ∨ fragmentCount>MAX_UDP_FRAGMENTS then none
      else some fragmentCount

def fragmentMessage (connId : String) (fragId : UInt32) (payload : Bytes) (fragmentCount i : ℕ) :
    BinaryMessage :=
  let fragmentPayloadBase:=payload.length/fragmentCount
  let largerFragmentCount:=payload.length % fragmentCount
  let start:=i*fragmentPayloadBase+min i largerFragmentCount
  let fragmentLen:=fragmentPayloadBase+if i<largerFragmentCount then 1 else 0
  .udpFragment connId fragId (UInt8.ofNat i) (UInt8.ofNat fragmentCount)
    ((payload.drop start).take fragmentLen)

def fragmentFrame (connId : String) (fragId : UInt32) (payload : Bytes) (fragmentCount i : ℕ) :
    DatagramFrame :=
  let packed:=pack (fragmentMessage connId fragId payload fragmentCount i)
  ⟨connId,packed,packed.totalLen,some fragId.toUInt64⟩

/-- The loop over the fragments, which gives up at one that does not fit. -/
def fragmentFrames (connId : String) (fragId : UInt32) (payload : Bytes) (fragmentCount maxDg : ℕ) :
    Option (List DatagramFrame) :=
  (List.range fragmentCount).mapM fun i =>
    let frame:=fragmentFrame connId fragId payload fragmentCount i
    if frame.packed.totalLen>maxDg then none else some frame

def emittedFragments (connId : String) (fragId : UInt32) (payload : Bytes) (maxDg : ℕ) :
    Option (List DatagramFrame) :=
  match fragmentCount payload.length maxDg with
  | none => none
  | some count => fragmentFrames connId fragId payload count maxDg

def tryFragmentUdpToDatagrams (config : DatagramSchedulerConfig) (iter : State.HashIter)
    (dgTx : Scheduler) (stats : UdpRouteStats) (fragSeq : UInt32) (connId : String) (payload : Bytes)
    (originalPackedLen maxDg : ℕ) : Except TrySendKind Unit × Scheduler × UdpRouteStats × UInt32 :=
  match fragmentCount payload.length maxDg with
  | none =>
    (.error .full,dgTx,recordOversizedUdpDropOnStats stats originalPackedLen maxDg,fragSeq)
  | some count =>
    if dgTx.receiverClosed then (.error .closed,dgTx,stats,fragSeq)
    else
      let fragId:=fragSeq
      let fragSeq:=fragSeq+1
      match fragmentFrames connId fragId payload count maxDg with
      | none =>
        (.error .full,dgTx,recordOversizedUdpDropOnStats stats originalPackedLen maxDg,fragSeq)
      | some frames =>
        let (outcome,state):=dgTx.state.enqueueGroup config iter dgTx.receiverClosed frames
        let stats:=recordDatagramSchedulerOutcome stats outcome
        if outcome.accepted then (.ok (),{ dgTx with state },stats,fragSeq)
        else if dgTx.receiverClosed then (.error .closed,{ dgTx with state },stats,fragSeq)
        else
          (.error .full,{ dgTx with state },
            recordOversizedUdpDropOnStats stats originalPackedLen maxDg,fragSeq)

theorem fragmentMessage_eq (connId : String) (fragId : UInt32) (payload : Bytes) (count i : ℕ) :
    fragmentMessage connId fragId payload count i =
      .udpFragment connId fragId (UInt8.ofNat i) (UInt8.ofNat count)
        (EvenSplit.part payload count i) := rfl

theorem fragmentCount_eq_some {payloadLen maxDg count : ℕ}
    (h : fragmentCount payloadLen maxDg=some count) :
    UDP_FRAGMENT_HEADER_LEN< maxDg ∧ 0<count ∧ count≤MAX_UDP_FRAGMENTS ∧
      payloadLen≤count*(maxDg-UDP_FRAGMENT_HEADER_LEN) := by
  rw [fragmentCount] at h
  split at h
  · cases h
  rename_i hlarge
  dsimp only at h
  split at h
  · cases h
  rename_i hroom
  split at h
  · cases h
  rename_i hcnt
  obtain rfl := Option.some.inj h
  rw [not_or] at hcnt
  refine ⟨by omega,Nat.pos_of_ne_zero hcnt.1,Nat.not_lt.mp hcnt.2,?_⟩
  have hdiv:=Nat.lt_mul_div_succ (payloadLen+(maxDg-UDP_FRAGMENT_HEADER_LEN)-1)
    (Nat.pos_of_ne_zero hroom)
  rw [Nat.mul_succ,Nat.mul_comm] at hdiv
  omega

theorem writeConnId_length (connId : String) : (writeConnId connId).length=CONN_ID_SIZE := by
  rw [writeConnId,copyFromSlice]
  simp only [take_zero,nil_append,length_append,length_take,length_drop,length_replicate]
  omega

theorem pack_udpFragment (connId : String) (fragId : UInt32) (index total : UInt8) (part : Bytes) :
    (pack (.udpFragment connId fragId index total part)).totalLen =
      UDP_FRAGMENT_HEADER_LEN+part.length := by
  have hhead : (pack (.udpFragment connId fragId index total part)).header.length =
      UDP_FRAGMENT_HEADER_LEN := by
    rw [pack,packBody]
    simp only [length_append,length_cons,length_nil,writeConnId_length,beBytes_length]
    rfl
  rw [PackedMessage.totalLen,hhead]
  rfl

theorem fragmentFrame_fits {connId : String} {fragId : UInt32} {payload : Bytes} {maxDg count : ℕ}
    (h : fragmentCount payload.length maxDg=some count) {i : ℕ} (hi : i<count) :
    (fragmentFrame connId fragId payload count i).packed.totalLen≤ maxDg := by
  obtain ⟨_,-,-,hroom⟩:=fragmentCount_eq_some h
  have hsize:=EvenSplit.size_le hroom i
  rw [fragmentFrame,fragmentMessage_eq,pack_udpFragment,EvenSplit.part_length hi]
  omega

theorem fragmentFrames_eq {connId : String} {fragId : UInt32} {payload : Bytes} {maxDg count : ℕ}
    (h : fragmentCount payload.length maxDg=some count) :
    fragmentFrames connId fragId payload count maxDg =
      some ((List.range count).map (fragmentFrame connId fragId payload count)) := by
  rw [fragmentFrames]
  refine mapM_eq_some_map ?_
  intro i hi
  have hfits : (fragmentFrame connId fragId payload count i).packed.totalLen≤ maxDg :=
    fragmentFrame_fits h (mem_range.mp hi)
  exact if_neg (Nat.not_lt.mpr hfits)

theorem emittedFragments_eq_some {connId : String} {fragId : UInt32} {payload : Bytes} {maxDg : ℕ}
    {frames : List DatagramFrame} (h : emittedFragments connId fragId payload maxDg=some frames) :
    ∃ count, fragmentCount payload.length maxDg=some count ∧
      frames=(List.range count).map (fragmentFrame connId fragId payload count) := by
  rw [emittedFragments] at h
  cases hcnt : fragmentCount payload.length maxDg with
  | none =>
    rw [hcnt] at h
    cases h
  | some count =>
    rw [hcnt] at h
    exact ⟨count,rfl,Option.some.inj (h.symm.trans (fragmentFrames_eq hcnt))⟩

/-! ### What is enqueued -/

theorem State.enqueueGroup_refused {config : DatagramSchedulerConfig} {iter : HashIter}
    {closed : Bool} {s : State} {frames : List DatagramFrame}
    (h : ¬(s.enqueueGroup config iter closed frames).1.accepted=true) :
    (s.enqueueGroup config iter closed frames).2=s := by
  cases frames with
  | nil => rfl
  | cons =>
    rw [enqueueGroup] at h ⊢
    dsimp only at h ⊢
    split
    · rfl
    · simp_all

/-- The fragments are enqueued as one group, under the next fragment id, or the call answers
with an error and the scheduler is left as it is. -/
theorem tryFragmentUdpToDatagrams_enqueues (config : DatagramSchedulerConfig)
    (iter : State.HashIter) (dgTx : Scheduler) (stats : UdpRouteStats) (fragSeq : UInt32)
    (connId : String) (payload : Bytes) (originalPackedLen maxDg : ℕ) :
    let sent:=tryFragmentUdpToDatagrams config iter dgTx stats fragSeq connId payload
      originalPackedLen maxDg
    (sent.1=.ok () ∧ ∃ frames outcome, emittedFragments connId fragSeq payload maxDg=some frames ∧
      dgTx.step config (.enqueueGroup frames iter)=(sent.2.1,[.enqueued frames outcome]) ∧
      outcome.accepted=true) ∨
    (∃ kind, sent.1=.error kind) ∧ sent.2.1=dgTx := by
  rw [tryFragmentUdpToDatagrams,emittedFragments]
  cases fragmentCount payload.length maxDg with
  | none => exact .inr ⟨⟨_,rfl⟩,rfl⟩
  | some count =>
    dsimp only
    by_cases hclosed : dgTx.receiverClosed=true
    · simp_all
    rw [if_neg hclosed]
    cases fragmentFrames connId fragSeq payload count maxDg with
    | none => exact .inr ⟨⟨_,rfl⟩,rfl⟩
    | some frames =>
      dsimp only
      by_cases hok : (dgTx.state.enqueueGroup config iter dgTx.receiverClosed frames).1.accepted=true
      · rw [if_pos hok]
        exact .inl ⟨rfl,frames,_,rfl,rfl,hok⟩
      · rw [if_neg hok,if_neg hclosed]
        refine .inr ⟨⟨_,rfl⟩,?_⟩
        dsimp only
        rw [State.enqueueGroup_refused hok]

end Lantunnel.Transport
