import Lantunnel.Client.RelayRoundTrip
import Lantunnel.Transport.UdpFragmentation

/-!
# Where a sealed TCP flow ends (engine.rs:682-779, proxy_tunnel.rs:271-330, 400-450)

The records of a sealed flow arrive on a carrier stream, each behind its length.
-/

namespace Lantunnel.Client
open Lib FieldCodec RustStd List
open Transport (MAX_FRAME_LEN)

/-! ### Frames of the carrier (tp-transport/src/session.rs:356-434) -/

/-- A carrier stream: the bytes it delivers, then its end, or an error. -/
structure Carrier where
  bytes : Bytes
  error : Option String
  deriving DecidableEq

/-- `read_exact`; `eof` is the text of the error at the end of the stream. -/
def Carrier.readExact (c : Carrier) (n : ℕ) (eof : String) :
    Except TransportError (Bytes × Carrier) :=
  if n≤c.bytes.length then .ok (c.bytes.take n,{ c with bytes := c.bytes.drop n })
  else .error (.other (c.error.getD eof))

def readTcpFlowFrameIntoBytes (c : Carrier) : Except TransportError (Bytes × Carrier) := do
  let (lenBuf,c) ← c.readExact 4 "early eof"
  if beNat lenBuf>MAX_FRAME_LEN then .error (.frameTooLarge (beNat lenBuf))
  else c.readExact (beNat lenBuf) "unexpected end of file"

theorem Carrier.readExact_append (bytes rest : Bytes) (error : Option String) (eof : String) :
    readExact ⟨bytes++rest,error⟩ bytes.length eof = .ok (bytes,⟨rest,error⟩) := by
  simp [readExact]

theorem Carrier.readExact_eq_ok {c rest : Carrier} {n : ℕ} {eof : String} {bytes : Bytes}
    (h : c.readExact n eof = .ok (bytes,rest)) :
    c.bytes=bytes++rest.bytes ∧ bytes.length=n ∧ rest.error=c.error := by
  unfold readExact at h
  split at h
  · next hle =>
    obtain ⟨rfl,rfl⟩:=Prod.mk.inj (Except.ok.inj h)
    exact ⟨(take_append_drop ..).symm,length_take_of_le hle,rfl⟩
  · cases h

theorem readTcpFlowFrameIntoBytes_length {len : ℕ} (h : len≤MAX_FRAME_LEN) (rest : Bytes)
    (error : Option String) : readTcpFlowFrameIntoBytes ⟨beBytes 4 len++rest,error⟩ =
      Carrier.readExact ⟨rest,error⟩ len "unexpected end of file" := by
  have hlen : beNat (beBytes 4 len)=len := by
    rw [beNat_beBytes,Nat.mod_eq_of_lt (h.trans_lt (by decide))]
  have hhead:=Carrier.readExact_append (beBytes 4 len) rest error "early eof"
  rw [beBytes_length] at hhead
  rw [readTcpFlowFrameIntoBytes,hhead]
  simp only [bind,Except.bind,hlen,if_neg (Nat.not_lt.mpr h)]

theorem readTcpFlowFrameIntoBytes_eq_ok {c rest : Carrier} {record : Bytes}
    (h : readTcpFlowFrameIntoBytes c = .ok (record,rest)) :
    c.bytes=field 4 record++rest.bytes ∧ rest.error=c.error := by
  obtain ⟨⟨_,_⟩,hhead,h⟩:=bind_eq_ok.mp h
  obtain ⟨-,h⟩:=ite_error_eq_ok.mp h
  obtain ⟨hbs,hlen,herr⟩:=Carrier.readExact_eq_ok hhead
  obtain ⟨hmid,hrec,hrest⟩:=Carrier.readExact_eq_ok h
  refine ⟨?_,hrest.trans herr⟩
  rw [hbs,hmid,field,hrec,beBytes_beNat hlen,append_assoc]

abbrev FlowError := TransportError ⊕ RelayCryptoErrorV2

section Pumps
variable (aead : Aead) (cipher : RelayCipherV2) (aad : Bytes)

/-- What a turn of either pump starts with: a frame is read, and opened. -/
def nextRecord (c : Carrier) : Except FlowError (Bytes × Carrier) :=
  match readTcpFlowFrameIntoBytes c with
  | .error error => .error (.inl error)
  | .ok (record,rest) =>
    match cipher.openPrecomputed aead aad record with
    | .error error => .error (.inr error)
    | .ok plaintext => .ok (plaintext,rest)

structure Pump where
  carrier : Carrier
  done : Option (Except FlowError Unit) := none

/-- One turn: the plaintext is passed on, or `ends` says how the pump ends. -/
def Pump.turn (ends : FlowError → Except FlowError Unit) (s : Pump) : Pump × List Bytes :=
  match nextRecord aead cipher aad s.carrier with
  | .ok (plaintext,rest) => ({ s with carrier := rest },[plaintext])
  | .error error => ({ s with done := some (ends error) },[])

/-- `peer_to_target` breaks on `TransportError::Other`, shuts the target down
and returns `Ok`; it returns every other error. -/
def bridgeEnds : FlowError → Except FlowError Unit
  | .inl (.other _) => .ok ()
  | error => .error error

/-- The reader task of `ProxyTunnelConn` breaks on every error and drops the
channel. -/
def readerEnds : FlowError → Except FlowError Unit := fun _ => .ok ()

def pumpMachine (ends : FlowError → Except FlowError Unit) (c : Carrier) : Machine Pump Unit Bytes where
  init := { carrier := c }
  enabled := fun s _ => s.done=none
  step := fun s _ => s.turn aead cipher aad ends

inductive PollRead
  | pending
  | data (bytes : Bytes)
  | eof

/-- `poll_read` into a buffer with room. The list is what is left of the last
chunk, then the channel. A read that leaves the buffer empty is the end of the
stream. -/
def pollRead (room : ℕ) (running : Bool) : List Bytes → PollRead × List Bytes
  | [] => (if running then .pending else .eof,[])
  | []::rx => pollRead room running rx
  | (b::chunk)::rx => (.data ((b::chunk).take room),(b::chunk).drop room::rx)

variable {aead cipher aad} {c rest : Carrier} {plaintext : Bytes}

theorem nextRecord_length (h : nextRecord aead cipher aad c = .ok (plaintext,rest)) :
    rest.bytes.length<c.bytes.length := by
  unfold nextRecord at h
  split at h
  · cases h
  next record rest' hread =>
  split at h
  · cases h
  obtain ⟨-,rfl⟩:=Prod.mk.inj (Except.ok.inj h)
  rw [(readTcpFlowFrameIntoBytes_eq_ok hread).1,length_append,field_length]
  omega

variable (aead cipher aad)

/-- The plaintexts of the records up to the first that cannot be read or
opened, and the carrier there. -/
def records (c : Carrier) : List Bytes × Carrier :=
  match _h : nextRecord aead cipher aad c with
  | .error _ => ([],c)
  | .ok (plaintext,rest) => (plaintext::(records rest).1,(records rest).2)
termination_by c.bytes.length
decreasing_by all_goals exact nextRecord_length _h

def Orderly (c : Carrier) : Prop := (records aead cipher aad c).2=⟨[],none⟩

/-- What stopped the reading is a frame that is too large or does not open. -/
def Reported (c : Carrier) : Prop :=
  ∃ error, nextRecord aead cipher aad (records aead cipher aad c).2 = .error error ∧
    ∀ text, error ≠ .inl (.other text)

variable {aead cipher aad}

theorem records_ok (h : nextRecord aead cipher aad c = .ok (plaintext,rest)) :
    records aead cipher aad c=(plaintext::(records aead cipher aad rest).1,
      (records aead cipher aad rest).2) := by
  rw [records]
  split
  · next herr => simp [h] at herr
  next hok => simp_all

theorem records_error {error : FlowError}
    (h : nextRecord aead cipher aad c = .error error) : records aead cipher aad c=([],c) := by
  rw [records]
  split
  · rfl
  · next hok => simp [h] at hok

end Pumps

section Runs
variable {aead : Aead} {cipher : RelayCipherV2} {aad : Bytes} {c : Carrier}
  {ends : FlowError → Except FlowError Unit} {s : Pump} {tr : List Bytes}

theorem Pump.turn_ok {plaintext : Bytes} {rest : Carrier}
    (h : nextRecord aead cipher aad s.carrier = .ok (plaintext,rest)) :
    (pumpMachine aead cipher aad ends c).step s ()=({ s with carrier := rest },[plaintext]) := by
  dsimp only [pumpMachine,Pump.turn]
  rw [h]

theorem Pump.turn_error {error : FlowError}
    (h : nextRecord aead cipher aad s.carrier = .error error) :
    (pumpMachine aead cipher aad ends c).step s ()=({ s with done := some (ends error) },[]) := by
  dsimp only [pumpMachine,Pump.turn]
  rw [h]

section
variable (h : (pumpMachine aead cipher aad ends c).Run s tr)
include h

theorem pump_records :
    records aead cipher aad c=(tr++(records aead cipher aad s.carrier).1,
        (records aead cipher aad s.carrier).2) ∧ ∀ result, s.done=some result → ∃ error,
        nextRecord aead cipher aad s.carrier = .error error ∧ result=ends error := by
  induction h with
  | init => exact ⟨rfl,nofun⟩
  | @step s tr _ e he ih =>
    obtain ⟨hheld,-⟩:=ih
    cases hnext : nextRecord aead cipher aad s.carrier with
    | ok =>
      rw [Pump.turn_ok hnext,hheld,records_ok hnext,he]
      exact ⟨by simp,nofun⟩
    | error error =>
      rw [Pump.turn_error hnext,hheld]
      exact ⟨by simp,fun result hdone => ⟨error,hnext,(Option.some.inj hdone).symm⟩⟩

theorem pump_done {result}
    (hdone : s.done=some result) : records aead cipher aad c=(tr,s.carrier) ∧
      ∃ error, nextRecord aead cipher aad s.carrier = .error error ∧ result=ends error := by
  obtain ⟨hheld,hends⟩:=pump_records h
  obtain ⟨error,hnext,hres⟩:=hends result hdone
  rw [records_error hnext,append_nil] at hheld
  exact ⟨hheld,error,hnext,hres⟩

theorem exists_pump_done (hs : s.done=none) :
    ∃ s' tr' result, (pumpMachine aead cipher aad ends c).Run s' tr' ∧ s'.done=some result := by
  induction hlen : s.carrier.bytes.length using Nat.strong_induction_on generalizing s tr with
  | _ n ih =>
    have hrun:=h.step () hs
    cases hnext : nextRecord aead cipher aad s.carrier with
    | ok =>
      rw [Pump.turn_ok hnext] at hrun
      exact ih _ (hlen ▸ nextRecord_length hnext) hrun hs rfl
    | error =>
      rw [Pump.turn_error hnext] at hrun
      exact ⟨_,_,_,hrun,rfl⟩

end

end Runs

/-- A read returns the next bytes, waits while the pump runs, and shows an end
when the pump is gone and nothing is left. -/
theorem pollRead_spec {room : ℕ} (hroom : 0<room) (running : Bool) (rx : List Bytes) :
    (∀ bytes, (pollRead room running rx).1 = .data bytes →
      bytes≠[] ∧ bytes++(pollRead room running rx).2.flatten=rx.flatten) ∧
    ((pollRead room running rx).1 = .eof ↔ running=false ∧ rx.flatten=[]) := by
  induction rx with
  | nil => cases running <;> simp [pollRead]
  | cons chunk rx ih =>
    cases chunk with
    | nil => simpa [pollRead] using ih
    | cons =>
      refine ⟨?_,by simp [pollRead]⟩
      intro bytes hbs
      obtain rfl := PollRead.data.inj hbs
      refine ⟨?_,?_⟩
      · simp [hroom.ne']
      simp only [pollRead,flatten_cons]
      rw [← append_assoc,take_append_drop]

/-- A plaintext, and a record of it as the other end writes it: `write_tcp_flow_frame`
takes its length, and it opens here. -/
def Readable (aead : Aead) (cipher : RelayCipherV2) (aad : Bytes) (e : Bytes × Bytes) : Prop :=
  e.2.length≤MAX_FRAME_LEN ∧ cipher.openPrecomputed aead aad e.2 = .ok e.1

section Readable
variable {aead : Aead} {cipher : RelayCipherV2} {aad : Bytes} {e : Bytes × Bytes}
  {sent : List (Bytes × Bytes)}

theorem readable_of_sealed (haead : aead.Correct) {sealer : RelayCipherV2}
    (hkeys : cipher.receive=sealer.send) {plaintext reserved record : Bytes} {nonce : Nonce}
    (hres : reserved.length=NONCE_SIZE)
    (h : sealer.sealPrecomputed aead aad (reserved++plaintext) nonce = .ok record) :
    Readable aead cipher aad (plaintext,record) := by
  obtain ⟨hle,_,_,henc,rfl⟩ :=
    sealedBytes_eq_ok ((sealPreparedWithNonce_eq hres).symm.trans h)
  have hopen:=openInPlace_append hle (haead.decrypts henc)
  rw [← hkeys] at hopen
  refine ⟨?_,hopen⟩
  rw [← aead.encrypt_length henc] at hle
  simp only [length_append,Vector.length_toList]
  exact Nat.add_le_add_right (Nat.add_le_add_left hle _) _ |>.trans (by decide)

theorem Readable.next (h : Readable aead cipher aad e) (rest : Bytes) (error : Option String) :
    nextRecord aead cipher aad ⟨field 4 e.2++rest,error⟩ = .ok (e.1,⟨rest,error⟩) := by
  rw [nextRecord,field,append_assoc,readTcpFlowFrameIntoBytes_length h.1,Carrier.readExact_append]
  dsimp only
  rw [h.2]

theorem Readable.cut (h : Readable aead cipher aad e) {part : Bytes} (hpart : part <+: field 4 e.2)
    (hne : part≠field 4 e.2) (error : Option String) :
    ∃ text, nextRecord aead cipher aad ⟨part,error⟩ = .error (.inl (.other text)) := by
  rw [field] at hpart hne
  by_cases hshort : 4≤part.length
  · obtain ⟨part,rfl⟩ : beBytes 4 e.2.length <+: part :=
      prefix_of_prefix_length_le (prefix_append ..) hpart (by rwa [beBytes_length])
    have hless : ¬ e.2.length≤part.length := by
      intro hge
      exact hne (hpart.eq_of_length_le (by simpa using hge))
    refine ⟨error.getD "unexpected end of file",?_⟩
    rw [nextRecord,readTcpFlowFrameIntoBytes_length h.1,Carrier.readExact,if_neg hless]
  · refine ⟨error.getD "early eof",?_⟩
    simp only [nextRecord,readTcpFlowFrameIntoBytes,Carrier.readExact,if_neg hshort,bind,
      Except.bind]

theorem records_append (hsent : ∀ e∈sent, Readable aead cipher aad e) (rest : Bytes)
    (error : Option String) : records aead cipher aad ⟨fields 4 (sent.map Prod.snd)++rest,error⟩ =
      (sent.map Prod.fst++(records aead cipher aad ⟨rest,error⟩).1,
        (records aead cipher aad ⟨rest,error⟩).2) := by
  induction sent with
  | nil => rfl
  | cons e sent ih =>
    have hnext:=(hsent e (mem_cons_self ..)).next (fields 4 (sent.map Prod.snd)++rest) error
    rw [map_cons,fields_cons,append_assoc,records_ok hnext,
      ih fun e' he' => hsent e' (mem_cons_of_mem _ he')]
    rfl

theorem exists_take_of_prefix {bytes : Bytes} (h : bytes <+: fields 4 (sent.map Prod.snd)) :
    ∃ k part, bytes=fields 4 ((sent.take k).map Prod.snd)++part ∧
      (part=[] ∨ ∃ e∈sent, part <+: field 4 e.2 ∧ part≠field 4 e.2) := by
  induction sent generalizing bytes with
  | nil => exact ⟨0,[],prefix_nil.mp h,.inl rfl⟩
  | cons e sent ih =>
    rcases prefix_or_prefix_of_prefix h (prefix_append ..) with hpart | ⟨_,rfl⟩
    · by_cases hwhole : bytes=field 4 e.2
      · exact ⟨1,[],by simp [hwhole],.inl rfl⟩
      · exact ⟨0,bytes,rfl,.inr ⟨e,mem_cons_self ..,hpart,hwhole⟩⟩
    obtain ⟨k,part,rfl,hpart⟩:=ih ((prefix_append_right_inj _).mp h)
    refine ⟨k+1,part,by simp,hpart.imp_right ?_⟩
    rintro ⟨next,hmem,hnext⟩
    exact ⟨next,mem_cons_of_mem _ hmem,hnext⟩

/-- A cut flow is read in order from the start up to its last whole record; only
one that ended without an error behind a record is orderly, and the bridge
reports none. -/
theorem sent_ends (hsent : ∀ e∈sent, Readable aead cipher aad e) {c : Carrier}
    (hbs : c.bytes <+: fields 4 (sent.map Prod.snd)) :
    (∃ k, (records aead cipher aad c).1=(sent.take k).map Prod.fst) ∧ (Orderly aead cipher aad c ↔
        c.error=none ∧ ∃ k, c.bytes=fields 4 ((sent.take k).map Prod.snd)) ∧
      ¬ Reported aead cipher aad c := by
  obtain ⟨_,error⟩:=c
  obtain ⟨k,part,rfl,hpart⟩:= exists_take_of_prefix hbs
  have htake : ∀ j, ∀ e∈sent.take j, Readable aead cipher aad e :=
    fun j e he => hsent e (mem_of_mem_take he)
  obtain ⟨text,hstuck⟩ : ∃ text,
      nextRecord aead cipher aad ⟨part,error⟩ = .error (.inl (.other text)) := by
    rcases hpart with rfl | ⟨e,he,hcut,hne⟩
    · exact ⟨error.getD "early eof",rfl⟩
    · exact (hsent e he).cut hcut hne error
  have hrecs:=records_append (htake k) part error
  rw [records_error hstuck,append_nil] at hrecs
  rw [Orderly,Reported,hrecs]
  refine ⟨⟨k,rfl⟩,⟨?_,?_⟩,?_⟩
  · grind
  · rintro ⟨rfl,j,hwhole⟩
    have hemp : nextRecord aead cipher aad ⟨[],none⟩=_ := rfl
    have hall:=records_append (htake j) [] none
    rw [append_nil,← hwhole,hrecs,records_error hemp] at hall
    exact congrArg Prod.snd hall
  · simp_all

end Readable

theorem bridgeEnds_eq_ok {error : FlowError} :
    bridgeEnds error = .ok () ↔ ∃ text, error = .inl (.other text) := by
  rcases error with error | error
  · cases error <;> simp [bridgeEnds]
  · simp [bridgeEnds]

/-- What each end passes on is what the carrier holds, in order. `ProxyTunnelConn`
shows every carrier as complete, so it is right about the orderly ones alone; the
bridge shows those and every one that was cut or failed as complete, and reports a
frame that is too large or does not open. What the other end sealed is readable. -/
theorem sealed_stream_shown (aead : Aead) (cipher : RelayCipherV2) (aad : Bytes) (c : Carrier) :
    (∀ ends s tr, (pumpMachine aead cipher aad ends c).Run s tr →
      tr <+: (records aead cipher aad c).1 ∧
      ∀ result, s.done = some result → tr = (records aead cipher aad c).1) ∧
    (∀ room running rx, 0 < room →
      (∀ bytes, (pollRead room running rx).1 = .data bytes →
        bytes ≠ [] ∧ bytes ++ (pollRead room running rx).2.flatten = rx.flatten) ∧
      ((pollRead room running rx).1 = .eof ↔ running = false ∧ rx.flatten = [])) ∧
    ((∀ s tr, (pumpMachine aead cipher aad readerEnds c).Run s tr → s.done = some (.ok ()) →
      Orderly aead cipher aad c) ↔ Orderly aead cipher aad c) ∧
    ((∀ s tr, (pumpMachine aead cipher aad bridgeEnds c).Run s tr → s.done = some (.ok ()) →
      Orderly aead cipher aad c) ↔ Orderly aead cipher aad c ∨ Reported aead cipher aad c) ∧
    (∀ sent : List (Bytes × Bytes), (∀ e ∈ sent, Readable aead cipher aad e) →
      c.bytes <+: fields 4 (sent.map Prod.snd) →
      (∃ k, (records aead cipher aad c).1 = (sent.take k).map Prod.fst) ∧
        (Orderly aead cipher aad c ↔
          c.error = none ∧ ∃ k, c.bytes = fields 4 ((sent.take k).map Prod.snd)) ∧
        ¬ Reported aead cipher aad c) ∧
    (aead.Correct → ∀ sealer : RelayCipherV2, cipher.receive = sealer.send →
      ∀ (plaintext reserved record : Bytes) nonce, reserved.length = NONCE_SIZE →
        sealer.sealPrecomputed aead aad (reserved ++ plaintext) nonce = .ok record →
        Readable aead cipher aad (plaintext, record)) := by
  refine ⟨?_,fun room running rx hroom => pollRead_spec hroom running rx,⟨?_,fun h _ _ _ _ => h⟩,
    ⟨?_,?_⟩,fun sent hsent hbs => sent_ends hsent hbs,
    fun haead _ hkeys _ _ _ _ hres h => readable_of_sealed haead hkeys hres h⟩
  · intro ends s tr hrun
    refine ⟨?_,fun result hdone => by rw [(pump_done hrun hdone).1]⟩
    rw [(pump_records hrun).1]
    exact prefix_append ..
  · intro h
    obtain ⟨s,tr,_,hrun,hdone⟩ :=
      exists_pump_done (.init : (pumpMachine aead cipher aad readerEnds c).Run _ _) rfl
    obtain ⟨-,error,-,rfl⟩:=pump_done hrun hdone
    exact h s tr hrun hdone
  · intro h
    obtain ⟨s,tr,_,hrun,hdone⟩ :=
      exists_pump_done (.init : (pumpMachine aead cipher aad bridgeEnds c).Run _ _) rfl
    obtain ⟨hheld,error,hnext,rfl⟩:=pump_done hrun hdone
    by_cases hoth : ∃ text, error = .inl (.other text)
    · rw [bridgeEnds_eq_ok.mpr hoth] at hdone
      exact .inl (h s tr hrun hdone)
    · exact .inr ⟨error,by rw [hheld,hnext],fun text heq => hoth ⟨text,heq⟩⟩
  · rintro (horder | ⟨error,hnext,hoth⟩) s tr hrun hdone
    · exact horder
    obtain ⟨hheld,_,hnext',hends⟩:=pump_done hrun hdone
    rw [hheld,hnext'] at hnext
    obtain ⟨text,rfl⟩:=bridgeEnds_eq_ok.mp hends.symm
    exact absurd (Except.error.inj hnext).symm (hoth text)

def pingRecord : Bytes :=
  replicate 24 0x33++[202,205,25,238]++
    [25,20,142,75,75,131,38,179,170,236,210,67,119,127,216,189]

theorem sealed_stream_shown_ping :
    let opener : RelayCipherV2 := ⟨.replicate 32 0x44,.replicate 32 0x11⟩
    Orderly (.around goldenPing) opener goldenContext.dataAad ⟨field 4 pingRecord, none⟩ ∧
      ¬ Orderly (.around goldenPing) opener goldenContext.dataAad
        ⟨field 4 pingRecord ++ [0, 0], none⟩ := by
  intro opener
  have hshown:=sealed_stream_shown (.around goldenPing) opener goldenContext.dataAad
  have hread : ∀ e∈replicate 2 (asBytes "ping",pingRecord),
      Readable (.around goldenPing) opener goldenContext.dataAad e := by
    intro e he
    rw [eq_of_mem_replicate he]
    exact (hshown ⟨[],none⟩).2.2.2.2.2 (Aead.around_correct (by decide))
      ⟨.replicate 32 0x11,.replicate 32 0x44⟩ rfl (asBytes "ping") (replicate 24 0) pingRecord
      (.replicate 24 0x33) (by simp [NONCE_SIZE]) rfl
  refine ⟨((hshown _).2.2.2.2.1 _ hread (by decide)).2.1.mpr ⟨rfl,1,by decide⟩,?_⟩
  rw [((hshown _).2.2.2.2.1 _ hread (by decide)).2.1]
  rintro ⟨-,k,hwhole⟩
  have hlen:=congrArg length hwhole
  have hk : min k 2=0 ∨ min k 2=1 ∨ min k 2=2 := by omega
  rw [take_replicate] at hlen
  rcases hk with hk | hk | hk <;> rw [hk] at hlen <;> revert hlen <;> decide

def cutCarrier : Carrier := ⟨[0,0],none⟩

theorem cut_flow_shown_complete :
    (∃ s tr, (pumpMachine goldenAead goldenContext.cipher [] readerEnds cutCarrier).Run s tr ∧
      s.done = some (.ok ()) ∧ (pollRead 1 s.done.isNone tr).1 = .eof) ∧
    (∃ s tr, (pumpMachine goldenAead goldenContext.cipher [] bridgeEnds cutCarrier).Run s tr ∧
      s.done = some (.ok ())) ∧
    ¬ Orderly goldenAead goldenContext.cipher [] cutCarrier := by
  have hnext : nextRecord goldenAead goldenContext.cipher [] cutCarrier =
      .error (.inl (.other "early eof")) := rfl
  refine ⟨⟨_,_,.step .init () rfl,rfl,rfl⟩,⟨_,_,.step .init () rfl,rfl⟩,?_⟩
  rw [Orderly,records_error hnext]
  decide

end Lantunnel.Client
