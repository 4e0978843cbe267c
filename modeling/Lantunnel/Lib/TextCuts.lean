import Mathlib.Data.List.DropRight
import Lantunnel.Lib.RustStd

/-!
# Cutting texts

What `trim`, `trim_end_matches`, `to_ascii_lowercase`, `strip_prefix`,
`split_once` and `rsplit_once` do to the characters of a text, and how they meet:
a cut at one end stops at the first character that stays.
-/

namespace Lantunnel.Lib.RustStd
open List

section Lists
variable {α : Type} {p : α → Bool}

theorem rdropWhile_append_cons {x : α} (h : p x=false) (a b : List α) :
    (a++x::b).rdropWhile p=a++x::b.rdropWhile p := by
  rw [List.rdropWhile,List.rdropWhile,reverse_append,reverse_cons,append_assoc,dropWhile_append]
  split
  · simp_all
  · simp

theorem rdropWhile_map {β : Type} (f : β → α) (l : List β) :
    (l.map f).rdropWhile p=(l.rdropWhile (p ∘ f)).map f := by
  rw [List.rdropWhile,List.rdropWhile,← map_reverse,dropWhile_map,map_reverse]

variable {l : List α}

theorem rdropWhile_eq_self (h : ∀ c∈l.getLast?, p c=false) : l.rdropWhile p=l := by
  rw [rdropWhile_eq_self_iff]
  intro hl
  rw [h _ (getLast?_eq_some_getLast hl)]
  simp

theorem dropWhile_eq_self (h : ∀ c∈l.head?, p c=false) : l.dropWhile p=l := by
  cases l with
  | nil => rfl
  | cons c => rw [dropWhile_cons_of_neg (by simp [h c rfl])]

theorem getLast?_rdropWhile : ∀ c∈(l.rdropWhile p).getLast?, p c=false := by
  intro c hc
  have hne : l.rdropWhile p≠[] := by
    intro hnil
    rw [hnil] at hc
    cases hc
  rw [getLast?_eq_some_getLast hne] at hc
  have hlast:=rdropWhile_last_not p l hne
  rw [Option.mem_some_iff.mp hc] at hlast
  exact Bool.eq_false_iff.mpr hlast

theorem head?_rdropWhile : ∀ c∈(l.rdropWhile p).head?, c∈l.head? := by
  intro c hc
  obtain ⟨_,hrest⟩:= rdropWhile_prefix p l
  rw [← hrest]
  exact mem_head?_append_of_mem_head? hc

theorem head?_dropWhile : ∀ c∈(l.dropWhile p).head?, p c=false := by
  intro c hc
  have hnot:=head?_dropWhile_not p l
  rw [hc] at hnot
  exact hnot

end Lists

theorem toList_trim (s : String) :
    (trim s).toList=(s.toList.dropWhile isWhitespace).rdropWhile isWhitespace := by
  rw [trim,String.toList_ofList]
  rfl

theorem toList_trimEndMatches (c : Char) (s : String) :
    (trimEndMatches c s).toList=s.toList.rdropWhile (·=c) := by
  rw [trimEndMatches,String.toList_ofList]
  rfl

theorem toList_toAsciiLowercase (s : String) :
    (toAsciiLowercase s).toList=s.toList.map Char.toLower := by
  rw [toAsciiLowercase,String.toList_ofList]

def Trimmed (s : String) : Prop :=
  (∀ c ∈ s.toList.head?, isWhitespace c=false) ∧ ∀ c ∈ s.toList.getLast?, isWhitespace c=false

theorem trimmed_trim (s : String) : Trimmed (trim s) := by
  rw [Trimmed,toList_trim]
  exact ⟨fun c hc => head?_dropWhile c (head?_rdropWhile c hc),getLast?_rdropWhile⟩

variable {s : String} {c : Char}

theorem Trimmed.trim_eq (h : Trimmed s) : trim s=s := by
  rw [← String.toList_inj,toList_trim,dropWhile_eq_self h.1,rdropWhile_eq_self h.2]

theorem trim_trim (s : String) : trim (trim s)=trim s := (trimmed_trim s).trim_eq

theorem trimmed_of_ends {a z : Char} (hhead : s.toList.head?=some a)
    (hlast : s.toList.getLast?=some z) (ha : isWhitespace a=false) (hz : isWhitespace z=false) :
    Trimmed s := by
  rw [Trimmed,hhead,hlast]
  refine ⟨?_,?_⟩
  · rintro c ⟨⟩
    exact ha
  rintro c ⟨⟩
  exact hz

theorem head?_trim (h : ∀ c∈s.toList.head?, isWhitespace c=false) :
    ∀ c∈(trim s).toList.head?, c∈s.toList.head? := by
  rw [toList_trim,dropWhile_eq_self h]
  exact head?_rdropWhile

theorem mem_trim_or_isWhitespace (h : c∈s.toList) :
    c∈(trim s).toList ∨ isWhitespace c=true := by
  rw [toList_trim]
  rw [← takeWhile_append_dropWhile (p := isWhitespace) (l := s.toList)] at h
  rcases mem_append.mp h with h | h
  · exact .inr (mem_takeWhile_imp h)
  rw [← rdropWhile_append_rtakeWhile (p := isWhitespace)
    (l := s.toList.dropWhile isWhitespace)] at h
  rcases mem_append.mp h with h | h
  · exact .inl h
  · exact .inr (mem_rtakeWhile_imp h)

theorem mem_of_mem_trim (h : c∈(trim s).toList) : c∈s.toList := by
  rw [toList_trim] at h
  exact (dropWhile_suffix _).subset (( rdropWhile_prefix _ _).subset h)

theorem mem_of_mem_trimEndMatches {d : Char} (h : d∈(trimEndMatches c s).toList) :
    d∈s.toList := by
  rw [toList_trimEndMatches] at h
  exact ( rdropWhile_prefix _ _).subset h

theorem toLower_eq (c : Char) :
    c.toLower=c ∨ (65≤c.toNat ∧ c.toNat≤90 ∧ c.toLower.toNat=c.toNat+32) := by
  delta Char.toLower
  split
  · rename_i h
    have hlow : 65≤c.toNat := UInt32.le_iff_toNat_le.mp h.1
    have hhigh : c.toNat≤90 := UInt32.le_iff_toNat_le.mp h.2
    refine .inr ⟨hlow,hhigh,?_⟩
    have hadd : (c.val+('a'.val - 'A'.val)).toNat=c.val.toNat+32 := by
      have hc : c.toNat=c.val.toNat := rfl
      rw [UInt32.toNat_add]
      have h32 : ('a'.val - 'A'.val).toNat=32 := by decide
      omega
    exact hadd
  · exact .inl rfl

theorem toLower_toLower (c : Char) : c.toLower.toLower=c.toLower := by
  rcases toLower_eq c with h | ⟨_,_,h⟩
  · rw [h,h]
  rcases toLower_eq c.toLower with h' | ⟨-,_,-⟩
  · exact h'
  · omega

theorem toAsciiLowercase_idem (s : String) :
    toAsciiLowercase (toAsciiLowercase s)=toAsciiLowercase s := by
  rw [← String.toList_inj,toList_toAsciiLowercase,toList_toAsciiLowercase,map_map]
  exact map_congr_left fun c _ => toLower_toLower c

theorem eq_of_toLower_eq {d : Char} (hd : ¬ (97≤d.toNat ∧ d.toNat≤122)) (h : c.toLower=d) :
    c=d := by
  rcases toLower_eq c with h' | ⟨_,_,h'⟩
  · rw [← h,h']
  rw [h] at h'
  exact absurd ⟨by omega,by omega⟩ hd

theorem mem_toAsciiLowercase_iff (hc : ¬ (97≤c.toNat ∧ c.toNat≤122))
    (hlower : c.toLower=c) : c∈(toAsciiLowercase s).toList ↔ c∈s.toList := by
  rw [toList_toAsciiLowercase,mem_map]
  constructor
  · rintro ⟨_,_,heq⟩
    rwa [← eq_of_toLower_eq hc heq]
  · exact fun h => ⟨c,h,hlower⟩

theorem isWhitespace_toLower (c : Char) : isWhitespace c.toLower=isWhitespace c := by
  rcases toLower_eq c with h | ⟨_,_,h⟩
  · rw [h]
  have hupper : isWhitespace c=false := by
    rw [isWhitespace]
    simp
    omega
  have hlower : isWhitespace c.toLower=false := by
    rw [isWhitespace,h]
    simp
    omega
  rw [hupper,hlower]

theorem trim_toAsciiLowercase (s : String) :
    trim (toAsciiLowercase s)=toAsciiLowercase (trim s) := by
  have hfun : isWhitespace ∘ Char.toLower=isWhitespace := funext isWhitespace_toLower
  rw [← String.toList_inj,toList_trim,toList_toAsciiLowercase,toList_toAsciiLowercase,toList_trim,
    dropWhile_map,rdropWhile_map,hfun]

theorem stripPrefix_eq_some_iff {pre r : String} :
    stripPrefix pre s=some r ↔ s.toList=pre.toList++r.toList := by
  rw [stripPrefix,Option.ite_none_right_eq_some,← prefix_iff_eq_take.trans eq_comm]
  constructor
  · rintro ⟨⟨_,hrest⟩,hr⟩
    cases hr
    simp [← hrest]
  · intro h
    simp [h]

theorem stripPrefix_singleton {r : String} :
    stripPrefix (String.ofList [c]) s=some r ↔ s.toList=c::r.toList := by
  rw [stripPrefix_eq_some_iff,String.toList_ofList,singleton_append]

theorem stripPrefix_singleton_eq_none (h : s.toList.head?≠some c) :
    stripPrefix (String.ofList [c]) s=none := by
  rw [Option.eq_none_iff_forall_ne_some]
  intro r hr
  rw [stripPrefix_singleton.mp hr] at h
  exact h rfl

theorem dropWhile_ne_of_eq {a b : List Char} (hc : c∉a) :
    (a++c::b).dropWhile (· ≠ c)=c::b ∧ (a++c::b).takeWhile (· ≠ c)=a := by
  have hall : ∀ d∈a, decide (d≠c)=true := by
    intro d hd
    rw [decide_eq_true_eq]
    rintro rfl
    exact hc hd
  rw [dropWhile_append_of_pos hall,takeWhile_append_of_pos hall]
  simp

theorem first_cases (c : Char) (l : List Char) :
    (c∉l ∧ l.dropWhile (· ≠ c)=[]) ∨ ∃ a b, l=a++c::b ∧ c∉a := by
  by_cases hc : c∈l
  · exact .inr (eq_append_cons_of_mem hc)
  refine .inl ⟨hc,dropWhile_eq_nil_iff.mpr ?_⟩
  intro d hd
  rw [decide_eq_true_eq]
  rintro rfl
  exact hc hd

theorem splitOnce_eq_some_iff {a b : String} :
    splitOnce c s=some (a,b) ↔ s.toList=a.toList++c::b.toList ∧ c∉a.toList := by
  constructor
  · intro h
    rw [splitOnce] at h
    rcases first_cases c s.toList with ⟨-,hdrop⟩ | ⟨l,r,hs,hc⟩
    · rw [hdrop] at h
      cases h
    obtain ⟨hdrop,htake⟩:=dropWhile_ne_of_eq (b := r) hc
    rw [hs,hdrop,htake] at h
    cases h
    rw [String.toList_ofList,String.toList_ofList]
    exact ⟨hs,hc⟩
  · rintro ⟨hs,hc⟩
    obtain ⟨hdrop,htake⟩:=dropWhile_ne_of_eq (b := b.toList) hc
    rw [splitOnce,hs,hdrop,htake]
    simp

theorem rsplitOnce_eq_none_iff : rsplitOnce c s=none ↔ c∉s.toList := by
  rw [rsplitOnce,← mem_reverse]
  rcases first_cases c s.toList.reverse with ⟨hc,hdrop⟩ | ⟨a,b,hs,hc⟩
  · simp only [hc,hdrop,not_false_eq_true]
  rw [hs,(dropWhile_ne_of_eq hc).1]
  simp

theorem rsplitOnce_eq_some_iff {a b : String} :
    rsplitOnce c s=some (a,b) ↔ s.toList=a.toList++c::b.toList ∧ c∉b.toList := by
  constructor
  · intro h
    rw [rsplitOnce] at h
    rcases first_cases c s.toList.reverse with ⟨-,hdrop⟩ | ⟨r,l,hs,hc⟩
    · rw [hdrop] at h
      cases h
    obtain ⟨hdrop,htake⟩:=dropWhile_ne_of_eq (b := l) hc
    rw [hs,hdrop,htake] at h
    cases h
    rw [String.toList_ofList,String.toList_ofList,mem_reverse]
    refine ⟨?_,hc⟩
    rw [← reverse_reverse s.toList,hs]
    simp
  · rintro ⟨hs,hc⟩
    have hrev : s.toList.reverse=b.toList.reverse++c::a.toList.reverse := by
      rw [hs]
      simp
    rw [← mem_reverse] at hc
    obtain ⟨hdrop,htake⟩:=dropWhile_ne_of_eq (b := a.toList.reverse) hc
    rw [rsplitOnce,hrev,hdrop,htake]
    simp

end Lantunnel.Lib.RustStd
