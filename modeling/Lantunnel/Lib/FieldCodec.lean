import Mathlib.Data.List.Basic
import Mathlib.Tactic

/-!
# Length-prefixed byte fields

Big-endian fixed-width integers and lists of byte strings in which every element is
preceded by its length as a `w`-byte big-endian integer.
-/

namespace Lantunnel.Lib.FieldCodec

abbrev Bytes := List UInt8

/-- The `k` low bytes of `n`, most significant first (`to_be_bytes`). -/
def beBytes : ℕ → ℕ → Bytes
  | 0, _ => []
  | k+1, n => UInt8.ofNat (n/256^k)::beBytes k n

@[simp] theorem beBytes_length (k n : ℕ) : (beBytes k n).length=k := by
  induction k with
  | zero => rfl
  | succ k ih => simp only [beBytes,List.length_cons,ih]

def beVector (n value : ℕ) : Vector UInt8 n := ⟨(beBytes n value).toArray,by simp⟩

/-- The value of big-endian bytes (`from_be_bytes`). -/
def beNat (bytes : Bytes) : ℕ := bytes.foldl (fun n b => n*256+b.toNat) 0

theorem beBytes_mod_inj (k n m : ℕ) (h : beBytes k n=beBytes k m) : n % 256^k=m % 256^k := by
  induction k with
  | zero => simp [Nat.mod_one]
  | succ k ih =>
    simp only [beBytes,List.cons.injEq] at h
    obtain ⟨hhead,htail⟩:=h
    have hhead : n/256^k % 256=m/256^k % 256 := by
      simpa using congrArg UInt8.toNat hhead
    rw [Nat.pow_succ,Nat.mod_mul,Nat.mod_mul,ih htail,hhead]

theorem beBytes_inj {k n m : ℕ} (hn : n<256^k) (hm : m<256^k)
    (h : beBytes k n=beBytes k m) : n=m := by
  have hmod:=beBytes_mod_inj k n m h
  rwa [Nat.mod_eq_of_lt hn,Nat.mod_eq_of_lt hm] at hmod

theorem foldl_beNat (bytes : Bytes) (n : ℕ) :
    bytes.foldl (fun n b => n*256+b.toNat) n=n*256^bytes.length+beNat bytes := by
  induction bytes generalizing n with
  | nil => simp [beNat]
  | cons b bytes ih =>
    have hcons : beNat (b::bytes)=(0*256+b.toNat)*256^bytes.length+beNat bytes :=
      ih (0*256+b.toNat)
    rw [List.foldl_cons,ih,hcons,List.length_cons,Nat.pow_succ]
    ring

theorem beNat_cons (b : UInt8) (bytes : Bytes) :
    beNat (b::bytes)=b.toNat*256^bytes.length+beNat bytes := by
  have hfold : beNat (b::bytes)=(0*256+b.toNat)*256^bytes.length+beNat bytes :=
    foldl_beNat bytes (0*256+b.toNat)
  rwa [Nat.zero_mul,Nat.zero_add] at hfold

theorem beNat_beBytes (k n : ℕ) : beNat (beBytes k n)=n % 256^k := by
  induction k with
  | zero => simp [beBytes,beNat,Nat.mod_one]
  | succ k ih =>
    have hhead : (UInt8.ofNat (n/256^k)).toNat=n/256^k % 256 := by simp
    rw [beBytes,beNat_cons,ih,hhead,beBytes_length,Nat.pow_succ,Nat.mod_mul,Nat.mul_comm (256^k),
      Nat.add_comm]

theorem beNat_lt (bytes : Bytes) : beNat bytes<256^bytes.length := by
  induction bytes with
  | nil => simp [beNat]
  | cons b bytes =>
    have hb : b.toNat+1≤256 := b.toNat_lt
    have hmul:=Nat.mul_le_mul_right (256^bytes.length) hb
    rw [Nat.add_mul,Nat.one_mul,Nat.mul_comm 256] at hmul
    rw [beNat_cons,List.length_cons,Nat.pow_succ]
    omega

theorem beNat_inj {a b : Bytes} (hlen : a.length=b.length) (h : beNat a=beNat b) : a=b := by
  induction a generalizing b with
  | nil => exact (List.length_eq_zero_iff.mp hlen.symm).symm
  | cons x a ih =>
    cases b with
    | nil => cases hlen
    | cons y b =>
      have hlen:=Nat.succ.inj hlen
      rw [beNat_cons,beNat_cons,← hlen,Nat.mul_comm x.toNat,Nat.mul_comm y.toNat] at h
      have ha:=beNat_lt a
      have hb:=beNat_lt b
      rw [← hlen] at hb
      have hx : x.toNat=y.toNat := by
        have hdiv:=congrArg (·/256^a.length) h
        simpa [Nat.mul_add_div,Nat.div_eq_of_lt ha,Nat.div_eq_of_lt hb] using hdiv
      rw [hx] at h
      rw [UInt8.toNat_inj.mp hx,ih hlen (Nat.add_left_cancel h)]

theorem beBytes_beNat {k : ℕ} {bytes : Bytes} (h : bytes.length=k) :
    beBytes k (beNat bytes)=bytes := by
  refine beNat_inj (by simp [h]) ?_
  rw [beNat_beBytes,← h,Nat.mod_eq_of_lt (beNat_lt bytes)]

/-- The length of `v` is representable in a `w`-byte prefix. -/
def Fits (w : ℕ) (v : Bytes) : Prop := v.length<256^w

instance (w : ℕ) (v : Bytes) : Decidable (Fits w v) :=
  inferInstanceAs (Decidable (v.length<256^w))

def field (w : ℕ) (v : Bytes) : Bytes := beBytes w v.length++v

theorem field_length (w : ℕ) (v : Bytes) : (field w v).length=w+v.length := by
  simp [field]

theorem field_append_inj {w : ℕ} {v v' r r' : Bytes} (hv : Fits w v) (hv' : Fits w v')
    (h : field w v++r=field w v'++r') : v=v' ∧ r=r' := by
  simp only [field,List.append_assoc] at h
  obtain ⟨hlen,hrest⟩:=List.append_inj h (by simp)
  exact List.append_inj hrest (beBytes_inj hv hv' hlen)

def fields (w : ℕ) (vs : List Bytes) : Bytes := vs.flatMap (field w)

@[simp] theorem fields_nil (w : ℕ) : fields w []=[] := rfl

@[simp] theorem fields_cons (w : ℕ) (v : Bytes) (vs : List Bytes) :
    fields w (v::vs)=field w v++fields w vs := rfl

@[simp] theorem fields_append (w : ℕ) (vs ws : List Bytes) :
    fields w (vs++ws)=fields w vs++fields w ws := by
  simp [fields]

theorem fields_cons_ne_nil {w : ℕ} (hw : 0<w) (v : Bytes) (vs : List Bytes) :
    fields w (v::vs)≠[] := by
  intro h
  have hlen:=congrArg List.length h
  simp only [fields_cons,List.length_append,field_length,List.length_nil] at hlen
  omega

/-- The bytes of a list of fields determine the list, its length included. -/
theorem fields_inj {w : ℕ} (hw : 0<w) {vs ws : List Bytes}
    (hvs : ∀ v∈vs, Fits w v) (hws : ∀ v∈ws, Fits w v)
    (h : fields w vs=fields w ws) : vs=ws := by
  induction vs generalizing ws with
  | nil =>
    cases ws with
    | nil => rfl
    | cons u us => exact absurd h.symm (fields_cons_ne_nil hw u us)
  | cons v vs ih =>
    cases ws with
    | nil => exact absurd h (fields_cons_ne_nil hw v vs)
    | cons =>
      simp only [List.forall_mem_cons] at hvs hws
      obtain ⟨rfl,hrest⟩:=field_append_inj hvs.1 hws.1 h
      rw [ih hvs.2 hws.2 hrest]

/-! ### Encoders that check the lengths

An encoder of this kind is a sequence of pushes, each left by `?` with the
error `tooLarge` when a length does not fit. -/

section Push
variable {ε : Type}

def pushField (tooLarge : ε) (w : ℕ) (encoded value : Bytes) : Except ε Bytes :=
  if value.length<256^w then
    .ok (encoded++beBytes w value.length++value)
  else
    .error tooLarge

def pushFields (tooLarge : ε) (w : ℕ) (encoded : Bytes) (values : List Bytes) : Except ε Bytes :=
  values.foldlM (pushField tooLarge w) encoded

theorem pushField_eq_ok {tooLarge : ε} {w : ℕ} {encoded value b : Bytes} :
    pushField tooLarge w encoded value = .ok b ↔ Fits w value ∧ b=encoded++field w value := by
  have hfits : Fits w value ↔ value.length<256^w := Iff.rfl
  rw [pushField,hfits,field,← List.append_assoc]
  split_ifs with h
  · rw [and_iff_right h,Except.ok.injEq,eq_comm]
  rw [iff_false_right (not_and_of_not_left _ h)]
  nofun

theorem pushFields_eq_ok {tooLarge : ε} {w : ℕ} {encoded b : Bytes} {values : List Bytes} :
    pushFields tooLarge w encoded values = .ok b ↔
      (∀ v∈values, Fits w v) ∧ b=encoded++fields w values := by
  induction values generalizing encoded with
  | nil => simp [pushFields,pure,Except.pure,eq_comm]
  | cons v vs ih =>
    have hstep : pushFields tooLarge w encoded (v::vs) =
        (pushField tooLarge w encoded v >>= fun e => pushFields tooLarge w e vs) := rfl
    rw [hstep]
    rcases happ : pushField tooLarge w encoded v with e | mid
    · have hfit : ¬ Fits w v := fun hv => by
        rw [pushField_eq_ok.mpr ⟨hv,rfl⟩] at happ
        cases happ
      simp [bind,Except.bind,hfit]
    · obtain ⟨hv,rfl⟩:=pushField_eq_ok.mp happ
      simp [bind,Except.bind,ih,hv]

theorem pushFields_concat {tooLarge : ε} {w : ℕ} {encoded mid b v : Bytes} {values : List Bytes}
    (hvals : pushFields tooLarge w encoded values = .ok mid)
    (hv : pushField tooLarge w mid v = .ok b) :
    pushFields tooLarge w encoded (values++[v]) = .ok b := by
  obtain ⟨hfits,rfl⟩:=pushFields_eq_ok.mp hvals
  obtain ⟨hfit,rfl⟩:=pushField_eq_ok.mp hv
  refine pushFields_eq_ok.mpr ⟨?_,by simp⟩
  intro u hu
  rcases List.mem_append.mp hu with hu | hu
  · exact hfits u hu
  obtain rfl := List.mem_singleton.mp hu
  exact hfit

end Push

end Lantunnel.Lib.FieldCodec
