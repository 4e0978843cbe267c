import Lantunnel.Lib.Machine

/-!
# The drop-oldest channel

`drop_oldest_channel` (tp-transport/src/drop_oldest.rs) under any interleaving of its senders and
its receiver. A call is one step, at its lock of the queue: the closed flag is never cleared, so a
send that finds it set before the lock would find it set under the lock.
-/

namespace Lantunnel.Transport
open List Lib

variable {α : Type}

structure Inner (α : Type) where
  queue : List α
  cap : ℕ
  senderCount : ℕ
  receiverClosed : Bool

inductive TryRecvError
  | empty
  | disconnected

def dropOldestChannel (cap : ℕ) : Inner α := ⟨[],cap,1,false⟩

def Inner.sendDropOldest (self : Inner α) (value : α) : Except α Bool × Inner α :=
  if self.receiverClosed then (.error value,self)
  else
    let dropped:=self.queue.length==self.cap
    let queue:=if dropped then self.queue.tail else self.queue
    (.ok dropped,{ self with queue := queue++[value] })

/-- One turn of the loop of `recv`: an item, the end, or (`none`) waiting to be notified. -/
def Inner.recv (self : Inner α) : Option (Option α) × Inner α :=
  match self.queue with
  | value::queue => (some (some value),{ self with queue := queue })
  | [] => (if self.senderCount=0 then some none else none,self)

def Inner.tryRecv (self : Inner α) : Except TryRecvError α × Inner α :=
  match self.queue with
  | value::queue => (.ok value,{ self with queue := queue })
  | [] => (.error (if self.senderCount=0 then .disconnected else .empty),self)

inductive ChannelEvent (α : Type)
  | send (value : α)
  | recv
  | tryRecv
  | cloneSender
  | dropSender
  | dropReceiver

/-- What the calls report; a send that reports a drop with the oldest item queued at its lock. -/
inductive ChannelOutput (α : Type)
  | sent (value : α) (dropped : Option α)
  | refused (value : α)
  | received (value : α)

def Inner.step (self : Inner α) : ChannelEvent α → Inner α × List (ChannelOutput α)
  | .send value => match self.sendDropOldest value with
    | (.ok dropped,self') => (self',[.sent value (if dropped then self.queue.head? else none)])
    | (.error value,self') => (self',[.refused value])
  | .recv => match self.recv with
    | (some (some value),self') => (self',[.received value])
    | (_,self') => (self',[])
  | .tryRecv => match self.tryRecv with
    | (.ok value,self') => (self',[.received value])
    | (.error _,self') => (self',[])
  | .cloneSender => ({ self with senderCount := self.senderCount+1 },[])
  | .dropSender => ({ self with senderCount := self.senderCount-1 },[])
  | .dropReceiver => ({ self with receiverClosed := true },[])

def channelMachine (cap : ℕ) : Machine (Inner α) (ChannelEvent α) (ChannelOutput α) where
  init := dropOldestChannel cap
  enabled := fun _ _ => True
  step := Inner.step

namespace ChannelOutput

def sent? : ChannelOutput α → Option α
  | sent value _ => some value
  | _ => none

def received? : ChannelOutput α → Option α
  | received value => some value
  | _ => none

def dropped? : ChannelOutput α → Option α
  | sent _ dropped => dropped
  | _ => none

/-- What an output says has left the queue. -/
def gone? (o : ChannelOutput α) : Option α := o.received? <|> o.dropped?

theorem gone_spec (tr : List (ChannelOutput α)) :
    tr.filterMap received? <+ tr.filterMap gone? ∧
    (tr.filterMap gone?).length=(tr.filterMap received?).length+(tr.filterMap dropped?).length := by
  induction tr with
  | nil => exact ⟨.slnil,rfl⟩
  | cons o tr ih =>
    obtain ⟨hsub,hlen⟩:=ih
    rcases o with ⟨_,_ | _⟩ | _ | _ <;>
      simp [filterMap_cons,gone?,received?,dropped?,hsub,hlen,hsub.cons] <;> omega

end ChannelOutput

open ChannelOutput

structure Accounted (cap : ℕ) (c : Inner α) (tr : List (ChannelOutput α)) : Prop where
  keeps : c.cap=cap
  bounded : c.queue.length≤cap
  split : tr.filterMap sent?=tr.filterMap gone?++c.queue

variable {cap : ℕ} {c : Inner α} {tr : List (ChannelOutput α)}

theorem Accounted.send (h : Accounted cap c tr) (hcap : 0<cap) (value : α) :
    Accounted cap (c.step (.send value)).1 (tr++(c.step (.send value)).2) := by
  have hb:=h.bounded
  rw [Inner.step,Inner.sendDropOldest,h.keeps]
  by_cases hclosed : c.receiverClosed
  · rw [if_pos hclosed]
    exact ⟨h.keeps,hb,by simp [filterMap_cons,sent?,gone?,received?,dropped?,h.split]⟩
  rw [if_neg hclosed]
  by_cases hfull : c.queue.length=cap
  · obtain ⟨_,_,hq⟩:=exists_cons_of_length_pos (hfull ▸ hcap)
    rw [hq,length_cons] at hfull
    refine ⟨rfl,?_,by simp [hq,hfull,sent?,gone?,received?,dropped?,h.split]⟩
    simp [hq,hfull]
  · refine ⟨rfl,?_,by simp [hfull,sent?,gone?,received?,dropped?,h.split]⟩
    simp [hfull]
    omega

theorem Accounted.step (h : Accounted cap c tr) (hcap : 0<cap) (event : ChannelEvent α) :
    Accounted cap (c.step event).1 (tr++(c.step event).2) := by
  cases event with
  | send value => exact h.send hcap value
  | recv | tryRecv =>
    simp only [Inner.step,Inner.recv,Inner.tryRecv]
    cases hq : c.queue with
    | nil => split_ifs <;> simpa using h
    | cons =>
      have hb:=h.bounded
      rw [hq,length_cons] at hb
      exact ⟨h.keeps,Nat.le_of_succ_le hb,by simp [hq,sent?,gone?,received?,h.split]⟩
  | cloneSender | dropSender | dropReceiver =>
    rw [Inner.step,append_nil]
    exact { h with }

/-- The items sent are those that left, each received or reported as dropped, then the queue. -/
theorem drop_oldest_accounts (hcap : 0<cap) (h : (channelMachine cap).Run c tr) :
    c.queue.length≤cap ∧ tr.filterMap received? <+ tr.filterMap sent? ∧
    tr.filterMap sent?=tr.filterMap gone?++c.queue ∧
    (tr.filterMap sent?).length =
      (tr.filterMap received?).length+c.queue.length+(tr.filterMap dropped?).length := by
  have hacc : Accounted cap c tr :=
    Machine.Run.invariant (Accounted cap) ⟨rfl,Nat.zero_le _,rfl⟩
      (fun _ _ event hs _ => hs.step hcap event) h
  obtain ⟨hsub,_⟩:=gone_spec tr
  refine ⟨hacc.bounded,?_,hacc.split,?_⟩ <;> rw [hacc.split]
  · exact hsub.trans (sublist_append_left ..)
  · rw [length_append]
    omega

theorem drop_oldest_accounts_full :
    (channelMachine 1).Run ⟨[],1,1,false⟩ [.sent 1 none,.sent 2 (some 1),.received 2] ∧
      [2] <+ [1,2] := by
  have hrun:=Machine.Run.exec (M := channelMachine 1) .init [.send 1,.send 2,.tryRecv]
    (Machine.accepts_of_enabled (fun _ _ => trivial) ..)
  exact ⟨hrun,(drop_oldest_accounts (by decide) hrun).2.1⟩

end Lantunnel.Transport
