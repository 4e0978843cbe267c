import Lantunnel.Lib.RustStd

/-!
# Reading a byte string from the front

A reader takes a value off the front of the bytes that are left, or fails.
-/

namespace Lantunnel.Lib.ByteReader
open Lib.FieldCodec Lib.RustStd

abbrev Reader (ε α : Type) := StateT Bytes (Except ε) α

variable {ε α β : Type}

variable {input rest : Bytes}

theorem bind_reads {r : Reader ε α} {f : α → Reader ε β} {b : β} :
    (r >>= f) input = .ok (b,rest) ↔ ∃ a mid, r input = .ok (a,mid) ∧ f a mid = .ok (b,rest) := by
  have hbind : (r >>= f) input=(r input >>= fun x => f x.1 x.2) := rfl
  rw [hbind,bind_eq_ok,Prod.exists]

theorem pure_reads {a b : α} : (pure a : Reader ε α) input = .ok (b,rest) ↔ b=a ∧ input=rest := by
  have hpure : (pure a : Reader ε α) input = .ok (a,input) := rfl
  rw [hpure,Except.ok.injEq,Prod.mk.injEq,eq_comm (a := a)]

theorem lift_reads {x : Except ε α} {a : α} :
    (liftM x : Reader ε α) input = .ok (a,rest) ↔ x = .ok a ∧ input=rest := by
  cases x with
  | error e =>
    have hlift : (liftM (.error e : Except ε α) : Reader ε α) input = .error e := rfl
    simp [hlift]
  | ok b =>
    have hlift : (liftM (.ok b : Except ε α) : Reader ε α) input = .ok (b,input) := rfl
    simp [hlift]

/-- The reader takes off the encodings of the values that meet `W`, and nothing
else. -/
def Reads (r : Reader ε α) (W : α → Prop) (encode : α → Bytes) : Prop :=
  ∀ input a rest, r input = .ok (a,rest) ↔ W a ∧ input=encode a++rest

def readExact (e : ε) (size : ℕ) : Reader ε Bytes := fun input =>
  if size ≤ input.length then .ok (input.take size,input.drop size) else .error e

theorem readExact_reads (e : ε) (size : ℕ) :
    Reads (readExact e size) (fun bytes => bytes.length=size) id := by
  intro input bytes rest
  constructor
  · intro h
    unfold readExact at h
    split at h
    · obtain ⟨rfl,rfl⟩:=Prod.mk.inj (Except.ok.inj h)
      have hlen : (input.take size).length=size := by
        rw [List.length_take]
        omega
      exact ⟨hlen,(List.take_append_drop size input).symm⟩
    · cases h
  · intro h
    obtain ⟨rfl,rfl⟩:=h
    simp [readExact]

def readArray (e : ε) (n : ℕ) : Reader ε (Vector UInt8 n) := do
  let bytes ← readExact e n
  if h : bytes.length=n then pure ⟨bytes.toArray,by simpa using h⟩ else throw e

theorem readArray_reads (e : ε) (n : ℕ) : Reads (readArray e n) (fun _ => True) Vector.toList := by
  intro input v rest
  rw [readArray,bind_reads]
  constructor
  · intro h
    obtain ⟨_,_,hread,hrest⟩:=h
    obtain ⟨hlen,rfl⟩:=(readExact_reads e n _ _ _).mp hread
    rw [dif_pos hlen] at hrest
    obtain ⟨rfl,rfl⟩:=pure_reads.mp hrest
    exact ⟨trivial,rfl⟩
  · intro h
    obtain ⟨-,rfl⟩:=h
    refine ⟨v.toList,rest,(readExact_reads e n _ _ _).mpr ⟨by simp,rfl⟩,?_⟩
    rw [dif_pos (by simp)]
    exact pure_reads.mpr ⟨rfl,rfl⟩

def times (r : Reader ε α) : ℕ → Reader ε (List α)
  | 0 => pure []
  | n+1 => do
    let a ← r
    let rest ← times r n
    pure (a::rest)

theorem times_reads {r : Reader ε α} {W : α → Prop} {encode : α → Bytes} (h : Reads r W encode)
    (n : ℕ) :
    Reads (times r n) (fun as => as.length=n ∧ ∀ a∈as, W a) (fun as => as.flatMap encode) := by
  induction n with
  | zero =>
    intro input as rest
    rw [times,pure_reads]
    constructor
    · intro h
      obtain ⟨rfl,rfl⟩:=h
      simp
    intro h
    obtain ⟨⟨hlen,-⟩,rfl⟩:=h
    obtain rfl := List.length_eq_zero_iff.mp hlen
    simp
  | succ n ih =>
    intro input as rest
    simp only [times,bind_reads,pure_reads,h _ _ _,ih _ _ _]
    constructor
    · intro h
      obtain ⟨a,_,⟨ha,rfl⟩,_,_,⟨⟨hlen,has⟩,rfl⟩,rfl,rfl⟩:=h
      refine ⟨⟨by simp [hlen],?_⟩,by simp⟩
      exact List.forall_mem_cons.mpr ⟨ha,has⟩
    · intro h
      obtain ⟨⟨hlen,_⟩,rfl⟩:=h
      cases as with
      | nil => cases hlen
      | cons => simp_all

def readAll (e : ε) (r : Reader ε α) (input : Bytes) : Except ε α := do
  let (a,rest) ← r input
  if rest=[] then .ok a else .error e

theorem readAll_eq_ok {e : ε} {r : Reader ε α} {a : α} :
    readAll e r input = .ok a ↔ r input = .ok (a,[]) := by
  rw [readAll,bind_eq_ok]
  constructor
  · grind
  · intro h
    exact ⟨(a,[]),h,by simp⟩

end Lantunnel.Lib.ByteReader
