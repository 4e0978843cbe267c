import Mathlib.Data.List.TakeWhile
import Mathlib.Tactic

/-!
# Numbers and strings in JSON

The text `serde_json` writes for an unsigned number and for the inside of a string, and
readers that take it off the front of a longer text.
-/

namespace Lantunnel.Lib.JsonText
open List

def quote : Char := Char.ofNat 0x22
def backslash : Char := Char.ofNat 0x5c

def expect (literal text : List Char) : Option (List Char) :=
  if literal.isPrefixOf text then some (text.drop literal.length) else none

theorem expect_append (literal rest : List Char) : expect literal (literal++rest)=some rest := by
  have hpre : literal.isPrefixOf (literal++rest)=true :=
    isPrefixOf_iff_prefix.mpr (prefix_append literal rest)
  rw [expect,if_pos hpre,drop_left]

def number (n : UInt64) : List Char := Nat.toDigits 10 n.toNat

def readNumber (text : List Char) : Option (UInt64 × List Char) :=
  let digits:=text.takeWhile Char.isDigit
  if digits=[] then none
  else some (.ofNat (Nat.ofDigitChars 10 digits 0),text.dropWhile Char.isDigit)

theorem isDigit_of_mem_number {n : UInt64} {c : Char} (h : c∈number n) : c.isDigit=true :=
  Nat.isDigit_of_mem_toDigits (by decide) (by decide) h

theorem readNumber_append (n : UInt64) {c : Char} (hc : c.isDigit=false) (rest : List Char) :
    readNumber (number n++c::rest)=some (n,c::rest) := by
  have hdigit : ∀ d∈number n, d.isDigit=true := fun d hd => isDigit_of_mem_number hd
  have htake : (number n++c::rest).takeWhile Char.isDigit=number n := by
    simp_all
  have hdrop : (number n++c::rest).dropWhile Char.isDigit=c::rest := by
    rw [dropWhile_append_of_pos hdigit,dropWhile_cons_of_neg (by simp [hc])]
  have hne : number n≠[] := Nat.toDigits_ne_nil
  simp only [readNumber,htake,hdrop,if_neg hne]
  rw [number,Nat.ofDigitChars_toDigits (by decide) (by decide),UInt64.ofNat_toNat]

/-- Characters with an escape of two, and its second character. -/
def shortEscapes : List (Char × Char) :=
  [(quote,quote),(backslash,backslash),(Char.ofNat 0x08,'b'),(Char.ofNat 0x0c,'f'),
    (Char.ofNat 0x0a,'n'),(Char.ofNat 0x0d,'r'),(Char.ofNat 0x09,'t')]

def escapeChar (c : Char) : List Char :=
  match shortEscapes.find? fun e => e.1=c with
  | some e => [backslash,e.2]
  | none =>
    if c.toNat<0x20 then
      [backslash,'u','0','0',Nat.digitChar (c.toNat/16),Nat.digitChar (c.toNat % 16)]
    else [c]

def escape (text : List Char) : List Char := text.flatMap escapeChar

def hexValue (c : Char) : ℕ := ((List.range 16).find? fun n => Nat.digitChar n=c).getD 0

/-- The inside of a string up to its closing quote, and what follows that. -/
def unescape : List Char → Option (List Char × List Char)
  | [] => none
  | c::rest =>
    if c=quote then some ([],rest)
    else if c=backslash then
      match rest with
      | [] => none
      | letter::rest =>
        if letter = 'u' then
          match rest with
          | _::_::high::low::rest =>
            (unescape rest).map fun r => (Char.ofNat (16*hexValue high+hexValue low)::r.1,r.2)
          | _ => none
        else
          match shortEscapes.find? fun e => e.2=letter with
          | some e => (unescape rest).map fun r => (e.1::r.1,r.2)
          | none => none
    else (unescape rest).map fun r => (c::r.1,r.2)

theorem unescape_escapeChar (c : Char) (text : List Char) :
    unescape (escapeChar c++text)=(unescape text).map fun r => (c::r.1,r.2) := by
  have hletters : ∀ e∈shortEscapes, e.2 ≠ 'u' ∧
      (shortEscapes.find? fun e' => e'.2=e.2)=some e := by decide
  unfold escapeChar
  cases hfind : shortEscapes.find? fun e => e.1=c with
  | some e =>
    have hcode : e.1=c := by simpa using find?_some hfind
    obtain ⟨hletter,hback⟩:=hletters e (mem_of_find?_eq_some hfind)
    have hquote : backslash≠quote := by decide
    show unescape (backslash::e.2::text)=_
    rw [unescape.eq_def]
    simp only [if_neg hquote,if_true,if_neg hletter,hback,hcode]
  | none =>
    have hnone:=find?_eq_none.mp hfind
    have hquote : c≠quote := by
      rintro rfl
      exact hnone (quote,quote) (by decide) (by decide)
    have hback : c≠backslash := by
      rintro rfl
      exact hnone (backslash,backslash) (by decide) (by decide)
    by_cases hctl : c.toNat<0x20
    · have hdigit : ∀ n<0x20, 16*hexValue (Nat.digitChar (n/16))
          + hexValue (Nat.digitChar (n % 16))=n := by decide
      have hne : backslash≠quote := by decide
      simp only [if_pos hctl,cons_append,nil_append,unescape,if_neg hne,if_true,
        hdigit c.toNat hctl,Char.ofNat_toNat]
    · rw [if_neg hctl,singleton_append,unescape.eq_def]
      simp only [if_neg hquote,if_neg hback]

theorem unescape_escape (text rest : List Char) :
    unescape (escape text++quote::rest)=some (text,rest) := by
  induction text with
  | nil =>
    show unescape (quote::rest)=_
    rw [unescape.eq_def]
    simp only [if_true]
  | cons c text ih =>
    have hcons : escape (c::text)=escapeChar c++escape text := rfl
    rw [hcons,append_assoc,unescape_escapeChar,ih]
    rfl

theorem printable_of_mem_escape {text : List Char} {d : Char} (h : d∈escape text) :
    0x20≤d.toNat := by
  obtain ⟨c,-,hd⟩:=mem_flatMap.mp h
  have hletter : ∀ e∈shortEscapes, 0x20≤e.2.toNat := by decide
  have hback : 0x20≤backslash.toNat := by decide
  have hdigit : ∀ n<16, 0x20≤(Nat.digitChar n).toNat := by decide
  unfold escapeChar at hd
  split at hd
  · grind
  · split at hd
    · simp only [mem_cons,not_mem_nil,or_false] at hd
      rcases hd with rfl | rfl | rfl | rfl | rfl | rfl
      · exact hback
      · decide
      · decide
      · decide
      · exact hdigit _ (by omega)
      · exact hdigit _ (by omega)
    · rw [mem_singleton.mp hd]
      omega

theorem printable_of_mem_number {n : UInt64} {d : Char} (h : d∈number n) : 0x20≤d.toNat := by
  have hdig:=isDigit_of_mem_number h
  rw [Char.isDigit,Bool.and_eq_true,decide_eq_true_eq,decide_eq_true_eq] at hdig
  have hlow : 48≤d.toNat := UInt32.le_iff_toNat_le.mp hdig.1
  omega

end Lantunnel.Lib.JsonText
