import Mathlib.Data.List.Lex
import Mathlib.Data.List.TakeWhile
import Lantunnel.Lib.FieldCodec

/-!
# Rust's standard library, as far as the program uses it

`Result` is `Except`, with `?` as its monadic bind; `str` is `String`: both are
UTF-8 encoded sequences of Unicode scalar values.
-/

namespace Lantunnel.Lib.RustStd
open Lib.FieldCodec List

section Result
variable {ε α β : Type}

theorem bind_eq_ok {x : Except ε α} {f : α → Except ε β} {b : β} :
    (x >>= f) = .ok b ↔ ∃ a, x = .ok a ∧ f a = .ok b := by
  cases x with
  | error =>
    constructor
    · intro h
      cases h
    rintro ⟨a,ha,-⟩
    cases ha
  | ok a =>
    constructor
    · intro h
      exact ⟨a,rfl,h⟩
    rintro ⟨_,ha,h⟩
    cases ha
    exact h

theorem ite_error_eq_ok {c : Prop} [Decidable c] {e : ε} {x : Except ε α} {a : α} :
    (if c then .error e else x) = .ok a ↔ ¬ c ∧ x = .ok a := by
  by_cases hc : c <;> simp [hc]

/-- `Option::ok_or`, and `map_err` of a call whose error value is dropped. -/
def okOr (e : ε) : Option α → Except ε α
  | some a => .ok a
  | none => .error e

theorem okOr_eq_ok {e : ε} {x : Option α} {a : α} : okOr e x = .ok a ↔ x=some a := by
  cases x with
  | none | some b => simp [okOr]

theorem toOption_eq_some {x : Except ε α} {a : α} : x.toOption=some a ↔ x = .ok a := by
  cases x with
  | ok b | error e => simp [Except.toOption]

end Result

def saturatingAdd (a b : UInt64) : UInt64 :=
  if a.toNat+b.toNat<2^64 then a+b else .ofNat (2^64-1)

def saturatingSub (a b : UInt64) : UInt64 := if b≤a then a-b else 0

theorem toNat_saturatingAdd (a b : UInt64) :
    (saturatingAdd a b).toNat=min (a.toNat+b.toNat) (2^64-1) := by
  unfold saturatingAdd
  split
  · rename_i h
    rw [UInt64.toNat_add,Nat.mod_eq_of_lt h]
    omega
  have hmax : (UInt64.ofNat (2^64-1)).toNat=2^64-1 := by decide
  omega

theorem toNat_saturatingSub (a b : UInt64) : (saturatingSub a b).toNat=a.toNat-b.toNat := by
  unfold saturatingSub
  split
  · rename_i h
    exact UInt64.toNat_sub_of_le _ _ h
  rename_i h
  have hlt : a.toNat<b.toNat := UInt64.not_le.mp h
  rw [UInt64.toNat_zero]
  omega

theorem toNat_min (a b : UInt64) : (min a b).toNat=min a.toNat b.toNat := by
  have hmin : min a b=if a≤b then a else b := rfl
  rw [hmin]
  split
  · rename_i h
    rw [min_eq_left (UInt64.le_iff_toNat_le.mp h)]
  rename_i h
  have hlt : b.toNat<a.toNat := UInt64.not_le.mp h
  rw [min_eq_right hlt.le]

theorem toNat_max (a b : UInt64) : (max a b).toNat=max a.toNat b.toNat := by
  have hmax : max a b=if a≤b then b else a := rfl
  rw [hmax]
  split
  · rename_i h
    rw [max_eq_right (UInt64.le_iff_toNat_le.mp h)]
  rename_i h
  have hlt : b.toNat<a.toNat := UInt64.not_le.mp h
  rw [max_eq_left hlt.le]

theorem max_eq_right_of_toNat_le {a b : UInt64} (h : a.toNat≤b.toNat) : max a b=b := by
  apply UInt64.toNat_inj.mp
  rw [toNat_max,max_eq_right h]

abbrev BTreeMap (α : Type) : Type := Std.ExtTreeMap UInt64 α

namespace BTreeMap
variable {α : Type} {m : BTreeMap α}

theorem get_insert (k a : UInt64) (v : α) : (m.insert k v)[a]?=if k=a then some v else m[a]? := by
  rw [Std.ExtTreeMap.getElem?_insert]
  simp only [Std.LawfulEqCmp.compare_eq_iff_eq]

theorem get_filter (keep : UInt64 → Bool) (k : UInt64) :
    (m.filter fun k _ => keep k)[k]?=if keep k then m[k]? else none := by
  rw [Std.ExtTreeMap.getElem?_filter']
  cases m[k]? with
  | none => simp
  | some => simp [Option.filter]

theorem mem_toList {k : UInt64} {v : α} : (k,v)∈m.toList ↔ m[k]?=some v :=
  Std.ExtTreeMap.mem_toList_iff_getElem?_eq_some

theorem toList_pairwise : m.toList.Pairwise fun a b => a.1.toNat<b.1.toNat := by
  refine Std.ExtTreeMap.ordered_keys_toList.imp ?_
  intro a b hab
  exact UInt64.lt_iff_toNat_lt.mp (compareOfLessAndEq_eq_lt.mp hab)

end BTreeMap

theorem mapM_eq_some_map {α β : Type} {f : α → Option β} {g : α → β} {l : List α}
    (h : ∀ x∈l, f x=some (g x)) : l.mapM f=some (l.map g) := by
  induction l with
  | nil => rfl
  | cons => simp_all

def getRange (bytes : Bytes) (start stop : ℕ) : Option Bytes :=
  if start≤ stop ∧ stop≤bytes.length then some ((bytes.drop start).take (stop-start))
  else none

def copyFromSlice (buffer : Bytes) (start : ℕ) (src : Bytes) : Bytes :=
  buffer.take start++src++buffer.drop (start+src.length)

theorem copyFromSlice_append {a mid src b : Bytes} (h : src.length=mid.length) :
    copyFromSlice (a++mid++b) a.length src=a++src++b := by
  have hdrop : (a++mid++b).drop (a.length+src.length)=b := by
    rw [h,← length_append,drop_left]
  rw [copyFromSlice,hdrop,append_assoc a mid b,take_left]

theorem take_drop_append {a : Bytes} {n : ℕ} (mid b : Bytes) (h : a.length=n) :
    ((a++mid++b).drop n).take mid.length=mid := by
  rw [append_assoc,← h,drop_left,take_left]

theorem takeWhile_padded {bytes : Bytes} {n : ℕ} (h : (0 : UInt8)∉bytes) :
    (bytes++replicate n 0).takeWhile (· ≠ 0)=bytes := by
  rw [takeWhile_append_of_pos]
  · simp
  intro b hb
  simp only [ne_eq,decide_eq_true_eq]
  intro h0
  exact h (h0 ▸ hb)

/-- The UTF-8 encoding of a string (`str::as_bytes`). -/
def asBytes (s : String) : Bytes := s.toByteArray.data.toList

variable {s t : String}

theorem asBytes_inj (h : asBytes s=asBytes t) : s=t := by
  apply String.toByteArray_inj.mp
  apply ByteArray.ext
  exact Array.toList_inj.mp h

/-- The order of `str`, by bytes. -/
def strLt (s t : String) : Bool := (asBytes s).map UInt8.toNat<(asBytes t).map UInt8.toNat

theorem strLt_asymm (h : s≠t) : strLt s t = !strLt t s := by
  have hne : (asBytes s).map UInt8.toNat≠(asBytes t).map UInt8.toNat := by
    intro hbs
    have hinj : Function.Injective UInt8.toNat := fun _ _ => UInt8.toNat_inj.mp
    exact h (asBytes_inj (hinj.list_map hbs))
  rcases lt_or_gt_of_ne hne with hlt | hgt
  · simp [strLt,hlt,not_lt_of_gt hlt]
  · simp [strLt,hgt,not_lt_of_gt hgt]

theorem strLt_trans {u : String} (h : strLt s t=true) (h' : strLt t u=true) : strLt s u=true := by
  simp only [strLt,decide_eq_true_eq] at h h' ⊢
  exact lt_trans h h'

theorem strLt_irrefl (s : String) : strLt s s=false := by
  simp [strLt]

def strLe (s t : String) : Bool := !strLt t s

theorem strLe_of_strLt (h : strLt s t=true) : strLe s t=true := by
  by_cases heq : s=t
  · subst heq
    rw [strLt_irrefl] at h
    cases h
  · rw [strLe,← strLt_asymm heq]
    exact h

theorem strLe_trans {u : String} (h : strLe s t=true) (h' : strLe t u=true) : strLe s u=true := by
  simp only [strLe,strLt,Bool.not_eq_true',decide_eq_false_iff_not,not_lt] at h h' ⊢
  exact le_trans h h'

theorem strLe_total (s t : String) : (strLe s t || strLe t s)=true := by
  simp only [strLe,strLt,Bool.or_eq_true,Bool.not_eq_true',decide_eq_false_iff_not,not_lt]
  exact le_total _ _

theorem mergeSort_of_perm {α : Type} {le : α → α → Bool} {l l' : List α}
    (htrans : ∀ a b c, le a b=true → le b c=true → le a c=true) (htotal : ∀ a b, (le a b || le b a)=true)
    (hanti : ∀ a∈l, ∀ b∈l, le a b=true → le b a=true → a=b) (h : l'.Perm l) :
    l'.mergeSort le=l.mergeSort le := by
  refine Perm.eq_of_pairwise (fun a b ha hb => ?_) (pairwise_mergeSort htrans htotal l')
    (pairwise_mergeSort htrans htotal l) (((mergeSort_perm _ _).trans h).trans (mergeSort_perm _ _).symm)
  exact hanti a (h.mem_iff.mp (mem_mergeSort.mp ha)) b (mem_mergeSort.mp hb)

theorem mergeSort_of_strictlySorted {α : Type} {key : α → String} {l l' : List α}
    (hsorted : l.Pairwise fun a b => strLt (key a) (key b)=true) (hperm : l'.Perm l) :
    l'.mergeSort (fun a b => strLe (key a) (key b))=l := by
  refine (mergeSort_of_perm (fun a b c => @strLe_trans (key a) (key b) (key c)) (fun _ _ => strLe_total _ _)
    ?_ hperm).trans (mergeSort_of_pairwise (hsorted.imp strLe_of_strLt))
  -- two elements of the list that are below each other are the same one
  intro a ha b hb hab hba
  by_contra hne
  have hap : l.Pairwise fun a b => strLt (key a) (key b)=true ∨ strLt (key b) (key a)=true :=
    hsorted.imp .inl
  have : Std.Symm fun a b : α => strLt (key a) (key b)=true ∨ strLt (key b) (key a)=true :=
    ⟨fun _ _ h => h.symm⟩
  rcases hap.forall ha hb hne with hlt | hlt
  · simp [strLe,hlt] at hba
  · simp [strLe,hlt] at hab

def fromUtf8 (bytes : Bytes) : Option String := String.fromUTF8? ⟨bytes.toArray⟩

theorem fromUtf8_asBytes (s : String) : fromUtf8 (asBytes s)=some s := by
  have harr : (⟨(asBytes s).toArray⟩ : ByteArray)=s.toByteArray := by
    simp [asBytes]
  unfold fromUtf8 String.fromUTF8?
  rw [harr,dif_pos s.isValidUTF8]
  rfl

theorem fromUtf8_eq_some {bytes : Bytes} : fromUtf8 bytes=some s ↔ asBytes s=bytes := by
  constructor
  · intro h
    unfold fromUtf8 String.fromUTF8? at h
    split at h
    · obtain rfl := Option.some.inj h
      rfl
    · cases h
  · intro h
    rw [← h,fromUtf8_asBytes]

/-- `char::is_whitespace`: the Unicode `White_Space` property. -/
def isWhitespace (c : Char) : Bool :=
  let v:=c.toNat
  (0x09≤v && v≤0x0D) || v == 0x20 || v == 0x85 || v == 0xA0 || v == 0x1680 ||
    (0x2000≤v && v≤0x200A) || v == 0x2028 || v == 0x2029 || v == 0x202F ||
    v == 0x205F || v == 0x3000

def trim (s : String) : String :=
  String.ofList ((s.toList.dropWhile isWhitespace).reverse.dropWhile isWhitespace).reverse

def toAsciiLowercase (s : String) : String := String.ofList (s.toList.map Char.toLower)

def trimEndMatches (c : Char) (s : String) : String :=
  String.ofList (s.toList.reverse.dropWhile (·=c)).reverse

theorem trimEndMatches_of_not_mem {c : Char} {text : List Char} (h : c∉text) :
    trimEndMatches c (String.ofList text)=String.ofList text := by
  rw [trimEndMatches,String.toList_ofList]
  cases hrev : text.reverse with
  | nil => rw [reverse_eq_nil_iff.mp hrev]; rfl
  | cons d =>
    have hd : d∈text := mem_reverse.mp (hrev ▸ mem_cons_self ..)
    have hne : d≠c := fun heq => h (heq ▸ hd)
    rw [dropWhile_cons_of_neg (by simpa using hne),← hrev,reverse_reverse]

theorem trimEndMatches_concat {c : Char} {text : List Char} (h : c∉text) :
    trimEndMatches c (String.ofList (text++[c]))=String.ofList text := by
  rw [trimEndMatches,String.toList_ofList,reverse_append,reverse_singleton,singleton_append,
    dropWhile_cons_of_pos (by simp)]
  have htrim:=trimEndMatches_of_not_mem h
  rwa [trimEndMatches,String.toList_ofList] at htrim

theorem trim_ne_empty {c : Char} (hc : isWhitespace c=false) (text : List Char) :
    trim (String.ofList (c::text)) ≠ "" := by
  intro h
  have hlist:=String.ofList_eq_empty_iff.mp h
  simp_all

def containsAny (cs : List Char) (s : String) : Bool := s.toList.any fun c => cs.contains c

def stripPrefix (pre s : String) : Option String :=
  if s.toList.take pre.toList.length=pre.toList then
    some (String.ofList (s.toList.drop pre.toList.length))
  else
    none

def endsWith (suffix s : String) : Bool := suffix.toList.isSuffixOf s.toList

def splitOnce (c : Char) (s : String) : Option (String × String) :=
  match s.toList.dropWhile (· ≠ c) with
  | [] => none
  | _::rest => some (String.ofList (s.toList.takeWhile (· ≠ c)),String.ofList rest)

def rsplitOnce (c : Char) (s : String) : Option (String × String) :=
  match s.toList.reverse.dropWhile (· ≠ c) with
  | [] => none
  | _::rest =>
    some (String.ofList rest.reverse,
      String.ofList (s.toList.reverse.takeWhile (· ≠ c)).reverse)

/-- `str::parse` into an unsigned integer type with `limit` values: an optional
`+`, then at least one decimal digit. -/
def parseUnsigned (limit : ℕ) (s : String) : Option ℕ :=
  let ds:=(stripPrefix "+" s).getD s
  if ds = "" ∨ ¬ ds.toList.all Char.isDigit then none
  else
    let n:=Nat.ofDigitChars 10 ds.toList 0
    if n<limit then some n else none

section Best
variable {α : Type} {r p : α → α → Prop} [DecidableRel r]

theorem foldl_best_mem (xs : List α) (x : α) :
    xs.foldl (fun best y => if r best y then y else best) x∈x::xs := by
  induction xs generalizing x with
  | nil => simp
  | cons =>
    grind

/-- The fold keeps the best of those it has seen. -/
theorem foldl_best (htrans : ∀ a b c, p a b → p b c → p a c) (hrefl : ∀ a, p a a)
    (hbest : ∀ a b, if r a b then p b a else p a b) (xs : List α) (x : α) :
    ∀ y∈x::xs, p (xs.foldl (fun best y => if r best y then y else best) x) y := by
  induction xs generalizing x with
  | nil => simp [hrefl]
  | cons => grind

end Best

end Lantunnel.Lib.RustStd
