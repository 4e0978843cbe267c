import Lantunnel.Lib.RustStd

/-!
# Reading a frame by a cursor

A decoder that keeps the whole frame and a position in it. Indexing the frame outside
its bounds is a fault of its own, apart from the errors the decoder reports, so that a
decoder can be shown to read only inside the frame.
-/

namespace Lantunnel.Lib.FrameCursor
open Lib.FieldCodec Lib.RustStd List

inductive Fault (ε : Type)
  | error (e : ε)
  /-- an index or a slice that is not inside the frame -/
  | outOfBounds

abbrev Cursor (ε α : Type) := ReaderT Bytes (StateT ℕ (Except (Fault ε))) α

variable {ε α β : Type}

def fail (e : ε) : Cursor ε α := fun _ _ => .error (.error e)

def orFail (e : ε) : Option α → Cursor ε α
  | some a => pure a
  | none => fail e

def left : Cursor ε ℕ := fun frame pos => .ok (frame.length-pos,pos)

def take (n : ℕ) : Cursor ε Bytes := fun frame pos =>
  if pos+n≤frame.length then .ok ((frame.drop pos).take n,pos+n) else .error .outOfBounds

def takeRest : Cursor ε Bytes := fun frame pos =>
  if pos≤frame.length then .ok (frame.drop pos,pos) else .error .outOfBounds

def atEnd : Cursor ε Bool := fun frame pos => .ok (pos == frame.length,pos)

def takeChecked (short : ℕ → ε) (n : ℕ) : Cursor ε Bytes := do
  let remaining ← left
  if remaining<n then fail (short remaining) else take n

/-- A field that older writers leave out at the end of the frame. -/
def optional (absent : α) (r : Cursor ε α) : Cursor ε α := fun frame pos =>
  if pos<frame.length then r frame pos else .ok (absent,pos)

def times (r : Cursor ε α) : ℕ → Cursor ε (List α)
  | 0 => pure []
  | n+1 => do
    let a ← r
    let rest ← times r n
    pure (a::rest)

def decode (r : Cursor ε α) (frame : Bytes) : Except (Fault ε) α := (r frame 0).map Prod.fst

variable {r : Cursor ε α} {f : α → Cursor ε β} {frame bytes : Bytes} {a : α}

theorem bind_apply_ok {pos pos' : ℕ}
    (h : r frame pos = .ok (a,pos')) : (r >>= f) frame pos=f a frame pos' := by
  have hbind : (r >>= f) frame pos=(r frame pos >>= fun x => f x.1 frame x.2) := rfl
  rw [hbind,h]
  rfl

theorem bind_apply_error {pos : ℕ}
    {e : Fault ε} (h : r frame pos = .error e) : (r >>= f) frame pos = .error e := by
  have hbind : (r >>= f) frame pos=(r frame pos >>= fun x => f x.1 frame x.2) := rfl
  rw [hbind,h]
  rfl

theorem pure_apply (a : α) (frame : Bytes) (pos : ℕ) :
    (pure a : Cursor ε α) frame pos = .ok (a,pos) := rfl

theorem decode_eq_ok : decode r frame = .ok a ↔ ∃ pos, r frame 0 = .ok (a,pos) := by
  unfold decode
  cases r frame 0 with
  | error => simp [Except.map]
  | ok => simp [Except.map,Prod.ext_iff]

theorem bind_apply_eq_ok {pos : ℕ} {result : β × ℕ} : (r >>= f) frame pos = .ok result ↔
      ∃ a mid, r frame pos = .ok (a,mid) ∧ f a frame mid = .ok result := by
  have hbind : (r >>= f) frame pos=(r frame pos >>= fun x => f x.1 frame x.2) := rfl
  rw [hbind,bind_eq_ok,Prod.exists]

/-- From a position in the frame the reader reports an error, or gives a value
that meets `W` and stops in the frame. -/
def Inside (r : Cursor ε α) (W : α → Prop) : Prop :=
  ∀ frame pos, pos≤frame.length →
    (∃ e, r frame pos = .error (.error e)) ∨
      ∃ a pos', r frame pos = .ok (a,pos') ∧ pos'≤frame.length ∧ W a

namespace Inside
variable {r : Cursor ε α} {W : α → Prop} {W' : β → Prop}

theorem pure {a : α} (h : W a) : Inside (pure a : Cursor ε α) W := by
  intro frame pos hpos
  exact .inr ⟨a,pos,rfl,hpos,h⟩

theorem fail (e : ε) : Inside (fail e : Cursor ε α) W := by
  intro frame pos _
  exact .inl ⟨e,rfl⟩

theorem bind {f : α → Cursor ε β} (h : Inside r W) (hf : ∀ a, W a → Inside (f a) W') :
    Inside (r >>= f) W' := by
  intro frame pos hpos
  rcases h frame pos hpos with ⟨e,he⟩ | ⟨a,mid,hread,hmid,ha⟩
  · exact .inl ⟨e,bind_apply_error he⟩
  rw [bind_apply_ok hread]
  exact hf a ha frame mid hmid

theorem mono {V : α → Prop} (h : Inside r W) (hV : ∀ a, W a → V a) : Inside r V := by
  intro frame pos hpos
  rcases h frame pos hpos with he | ⟨a,pos',hread,hpos',ha⟩
  · exact .inl he
  · exact .inr ⟨a,pos',hread,hpos',hV a ha⟩

theorem ite {c : Prop} [Decidable c] {s : Cursor ε α} (hr : c → Inside r W)
    (hs : ¬ c → Inside s W) : Inside (if c then r else s) W := by
  split
  · rename_i hc
    exact hr hc
  rename_i hc
  exact hs hc

theorem orFail {x : Option α} (e : ε) (h : ∀ a, x=some a → W a) :
    Inside (orFail e x : Cursor ε α) W := by
  cases x with
  | none => exact .fail e
  | some a => exact .pure (h a rfl)

theorem takeRest : Inside (takeRest : Cursor ε Bytes) fun _ => True := by
  intro frame pos hpos
  exact .inr ⟨frame.drop pos,pos,if_pos hpos,hpos,trivial⟩

theorem takeChecked (short : ℕ → ε) (n : ℕ) :
    Inside (takeChecked short n) fun bytes => bytes.length=n := by
  intro frame pos hpos
  have hread : FrameCursor.takeChecked short n frame pos =
      (if frame.length-pos<n then FrameCursor.fail (short (frame.length-pos))
        else take n) frame pos := rfl
  rw [hread]
  split
  · exact .inl ⟨_,rfl⟩
  have hend : pos+n≤frame.length := by omega
  have hlen : ((frame.drop pos).take n).length=n := by
    rw [length_take,length_drop]
    omega
  exact .inr ⟨(frame.drop pos).take n,pos+n,if_pos hend,hend,hlen⟩

theorem optional {absent : α} (h : Inside r W) (habs : W absent) :
    Inside (optional absent r) W := by
  intro frame pos hpos
  unfold FrameCursor.optional
  split
  · exact h frame pos hpos
  · exact .inr ⟨absent,pos,rfl,hpos,habs⟩

theorem times (h : Inside r W) (n : ℕ) :
    Inside (times r n) fun as => as.length=n ∧ ∀ a∈as, W a := by
  induction n with
  | zero => exact .pure ⟨rfl,by simp⟩
  | succ n ih =>
    refine h.bind fun a ha => ih.bind fun as has => .pure ?_
    exact ⟨by simp [has.1],forall_mem_cons.mpr ⟨ha,has.2⟩⟩

theorem decode_ne_outOfBounds (h : Inside r W) (frame : Bytes) :
    decode r frame ≠ .error .outOfBounds := by
  unfold decode
  rcases h frame 0 (Nat.zero_le _) with ⟨_,he⟩ | ⟨_,_,hread,-⟩
  · rw [he]
    nofun
  rw [hread]
  nofun

theorem of_decode (h : Inside r W) {frame : Bytes} {a : α} (hr : decode r frame = .ok a) : W a := by
  obtain ⟨_,hr⟩:=decode_eq_ok.mp hr
  rcases h frame 0 (Nat.zero_le _) with ⟨_,he⟩ | ⟨_,_,hread,-,hb⟩
  · rw [hr] at he
    cases he
  rw [hr] at hread
  obtain ⟨rfl,-⟩:=Prod.mk.inj (Except.ok.inj hread)
  exact hb

end Inside

/-- Standing before `bytes` in any frame, the reader gives `a` and stops behind
them. -/
def Decodes (r : Cursor ε α) (a : α) (bytes : Bytes) : Prop :=
  ∀ pre rest, r (pre++(bytes++rest)) pre.length = .ok (a,(pre++bytes).length)

/-- The same at the end of the frame, wherever the cursor stops. -/
def DecodesRest (r : Cursor ε α) (a : α) (bytes : Bytes) : Prop :=
  ∀ pre, ∃ pos, r (pre++bytes) pre.length = .ok (a,pos)

theorem DecodesRest.decode (h : DecodesRest r a bytes) : decode r bytes = .ok a := by
  obtain ⟨pos,hread⟩:=h []
  exact decode_eq_ok.mpr ⟨pos,hread⟩

theorem Decodes.pure (a : α) : Decodes (pure a : Cursor ε α) a [] := by
  intro pre rest
  rw [pure_apply,append_nil]

section
variable (h : Decodes r a bytes)
include h

theorem Decodes.bind {b : β} {bytes' : Bytes}
    (hf : Decodes (f a) b bytes') :
    Decodes (r >>= f) b (bytes++bytes') := by
  intro pre rest
  have hread:=h pre (bytes'++rest)
  have hnext:=hf (pre++bytes) rest
  rw [append_assoc bytes,bind_apply_ok hread,← append_assoc pre bytes,hnext,append_assoc]

theorem Decodes.as {b : β}
    (hf : f a=Pure.pure b) : Decodes (r >>= f) b bytes := by
  have hnext : Decodes (f a) b [] := by
    rw [hf]
    exact .pure b
  have hread:=h.bind hnext
  rwa [append_nil] at hread

theorem Decodes.last (g : α → β) :
    Decodes (do let x ← r; Pure.pure (g x)) (g a) bytes := h.as rfl

theorem Decodes.rest : DecodesRest r a bytes := by
  intro pre
  have hread:=h pre []
  rw [append_nil] at hread
  exact ⟨_,hread⟩

theorem Decodes.bindRest {b : β}
    {bytes' : Bytes} (hf : DecodesRest (f a) b bytes') :
    DecodesRest (r >>= f) b (bytes++bytes') := by
  intro pre
  obtain ⟨pos,hnext⟩:=hf (pre++bytes)
  refine ⟨pos,?_⟩
  rw [bind_apply_ok (h pre bytes'),← append_assoc,hnext]

end

theorem DecodesRest.takeRest (bytes : Bytes) :
    DecodesRest (takeRest : Cursor ε Bytes) bytes bytes := by
  intro pre
  refine ⟨pre.length,?_⟩
  rw [FrameCursor.takeRest,if_pos (by simp),drop_left]

theorem DecodesRest.last (h : DecodesRest r a bytes)
    (g : α → β) : DecodesRest (do let x ← r; Pure.pure (g x)) (g a) bytes := by
  intro pre
  obtain ⟨pos,hread⟩:=h pre
  exact ⟨pos,bind_apply_ok hread⟩

theorem DecodesRest.left {f : ℕ → Cursor ε β} {b : β}
    (h : DecodesRest (f bytes.length) b bytes) : DecodesRest (FrameCursor.left >>= f) b bytes := by
  intro pre
  obtain ⟨pos,hread⟩:=h pre
  refine ⟨pos,?_⟩
  have hleft : (FrameCursor.left : Cursor ε ℕ) (pre++bytes) pre.length =
      .ok (bytes.length,pre.length) := by
    rw [FrameCursor.left,length_append,Nat.add_sub_cancel_left]
  rw [bind_apply_ok hleft,hread]

theorem DecodesRest.atEnd {f : Bool → Cursor ε β} {b : β} (h : DecodesRest (f true) b []) :
    DecodesRest (FrameCursor.atEnd >>= f) b [] := by
  intro pre
  obtain ⟨pos,hread⟩:=h pre
  refine ⟨pos,?_⟩
  have hend : (FrameCursor.atEnd : Cursor ε Bool) (pre++[]) pre.length =
      .ok (true,pre.length) := by
    rw [FrameCursor.atEnd,append_nil,beq_self_eq_true]
  rw [bind_apply_ok hend,hread]

theorem Decodes.takeChecked (short : ℕ → ε) {n : ℕ} (h : bytes.length=n) :
    Decodes (takeChecked short n) bytes bytes := by
  intro pre rest
  have hread : FrameCursor.takeChecked short n (pre++(bytes++rest)) pre.length =
      (if (pre++(bytes++rest)).length-pre.length<n then
        FrameCursor.fail (short ((pre++(bytes++rest)).length-pre.length))
        else take n) (pre++(bytes++rest)) pre.length := rfl
  have hlen : (pre++(bytes++rest)).length=pre.length+(n+rest.length) := by
    simp [h]
  rw [hread,if_neg (by omega),take,if_pos (by omega),drop_left,← h,take_left,
    length_append]

/-- The reader takes back the encodings of the values that meet `W`, and gives
no other values. -/
structure Codec (r : Cursor ε α) (W : α → Prop) (encode : α → Bytes) : Prop where
  decodes : ∀ {a}, W a → Decodes r a (encode a)
  inside : Inside r W

namespace Codec
variable {r : Cursor ε α} {W : α → Prop} {encode : α → Bytes}

theorem takeChecked (short : ℕ → ε) (n : ℕ) :
    Codec (takeChecked short n) (fun bytes => bytes.length=n) id :=
  ⟨fun h => .takeChecked short h,.takeChecked short n⟩

section
variable (h : Codec r W encode)
include h

theorem ofCode {V : β → Prop} {f : α → Cursor ε β} {c : β → α}
    (hc : ∀ b, V b → W (c b) ∧ f (c b)=Pure.pure b)
    (hf : ∀ a, W a → Inside (f a) V) : Codec (r >>= f) V fun b => encode (c b) := by
  refine ⟨fun {b} hb => ?_,h.inside.bind hf⟩
  obtain ⟨hw,hfb⟩:=hc b hb
  exact (h.decodes hw).as hfb

theorem map {g : α → β} {c : β → α} (hw : ∀ b, W (c b)) (hg : ∀ b, g (c b)=b) :
    Codec (do let a ← r; Pure.pure (g a)) (fun _ => True) fun b => encode (c b) :=
  h.ofCode (fun b _ => ⟨hw b,congrArg Pure.pure (hg b)⟩) fun _ _ => .pure trivial

theorem optional {absent : α} (habs : W absent)
    (henc : ∀ a, encode a≠[]) : Codec (optional absent r) W encode := by
  refine ⟨fun {a} ha pre rest => ?_,h.inside.optional habs⟩
  have hlen:=length_pos_iff.mpr (henc a)
  rw [FrameCursor.optional,if_pos (by simp only [length_append]; omega)]
  exact h.decodes ha pre rest

theorem times (n : ℕ) :
    Codec (times r n) (fun as => as.length=n ∧ ∀ a∈as, W a) fun as => as.flatMap encode := by
  refine ⟨?_,h.inside.times n⟩
  induction n with
  | zero =>
    intro as has
    obtain rfl := length_eq_zero_iff.mp has.1
    exact .pure []
  | succ n ih =>
    intro as has
    obtain ⟨hlen,hall⟩:=has
    cases as with
    | nil => cases hlen
    | cons a =>
      obtain ⟨ha,has⟩:=forall_mem_cons.mp hall
      exact (h.decodes ha).bind ((ih ⟨Nat.succ.inj hlen,has⟩).last (a::·))

end

end Codec

end Lantunnel.Lib.FrameCursor
