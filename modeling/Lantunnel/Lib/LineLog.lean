import Lantunnel.Lib.RustStd

/-!
# Logs of lines

A log is a text of lines that each end with a newline, in UTF-8. Appending may stop
anywhere, so what is on disk is a number of whole lines and perhaps the beginning of one
more.
-/

namespace Lantunnel.Lib.LineLog
open Lib.FieldCodec Lib.RustStd List

def utf8 (text : List Char) : Bytes := asBytes (String.ofList text)

theorem utf8_append (a b : List Char) : utf8 (a++b)=utf8 a++utf8 b := by
  rw [utf8,String.ofList_append,asBytes,String.toByteArray_append,ByteArray.data_append,
    Array.toList_append]
  rfl

@[simp] theorem utf8_nil : utf8 []=[] := by
  decide

theorem fromUtf8_utf8 (text : List Char) : fromUtf8 (utf8 text)=some (String.ofList text) :=
  fromUtf8_asBytes _

variable {a b text : List Char}

theorem utf8_inj (h : utf8 a=utf8 b) : a=b :=
  String.ofList_injective (asBytes_inj h)

theorem utf8_length_pos (h : text≠[]) : 0<(utf8 text).length := by
  rw [length_pos_iff]
  intro hnil
  exact h (utf8_inj hnil)

theorem utf8_length_lt (h : a <+: b) (hne : a≠b) : (utf8 a).length<(utf8 b).length := by
  obtain ⟨c,rfl⟩:=h
  have hc : c≠[] := by
    rintro rfl
    exact hne (append_nil a).symm
  have hpos:=utf8_length_pos hc
  rw [utf8_append,length_append]
  omega

/-- `str::split_inclusive('\n')`. -/
def splitInclusive : List Char → List (List Char)
  | [] => []
  | c::text =>
    if c = '\n' then [c]::splitInclusive text
    else
      match splitInclusive text with
      | [] => [[c]]
      | chunk::chunks => (c::chunk)::chunks

def render (lines : List (List Char)) : List Char := lines.flatMap (·++['\n'])

@[simp] theorem render_nil : render []=[] := rfl

@[simp] theorem render_cons (line : List Char) (lines : List (List Char)) :
    render (line::lines)=line ++ '\n'::render lines := by
  simp [render]

theorem render_append (a b : List (List Char)) : render (a++b)=render a++render b :=
  flatMap_append

theorem splitInclusive_line {line : List Char} (h : '\n'∉line) (rest : List Char) :
    splitInclusive (line ++ '\n'::rest)=(line++['\n'])::splitInclusive rest := by
  induction line with
  | nil => simp [splitInclusive]
  | cons c line ih =>
    obtain ⟨hc,hline⟩:=not_or.mp (mt mem_cons.mpr h)
    rw [cons_append,splitInclusive,if_neg (Ne.symm hc),ih hline]
    rfl

theorem splitInclusive_tail {tail : List Char} (h : '\n'∉tail) (hne : tail≠[]) :
    splitInclusive tail=[tail] := by
  induction tail with
  | nil => exact absurd rfl hne
  | cons c tail ih =>
    obtain ⟨hc,htail⟩:=not_or.mp (mt mem_cons.mpr h)
    rw [splitInclusive,if_neg (Ne.symm hc)]
    cases tail with
    | nil => rfl
    | cons d tail =>
      rw [ih htail (cons_ne_nil d tail)]

theorem splitInclusive_render {lines : List (List Char)} (h : ∀ line∈lines, '\n'∉line)
    (rest : List Char) :
    splitInclusive (render lines++rest)=lines.map (·++['\n'])++splitInclusive rest := by
  induction lines with
  | nil => rfl
  | cons line lines ih =>
    have hline:=h line (mem_cons_self ..)
    have hlines : ∀ l∈lines, '\n'∉l := fun l hl => h l (mem_cons_of_mem line hl)
    rw [render_cons,append_assoc,cons_append,splitInclusive_line hline,ih hlines]
    rfl

/-- A beginning of a log: whole lines, and no more than a beginning of the next
without its newline. -/
theorem prefix_render {lines : List (List Char)} (h : text <+: render lines) :
    ∃ whole tail rest, text=render whole++tail ∧ lines=whole++rest ∧
      (tail=[] ∨ ∃ line, rest.head?=some line ∧ tail <+: line) := by
  induction lines generalizing text with
  | nil => simp_all
  | cons line lines ih =>
    obtain ⟨missing,h⟩:=h
    have hspl : text++missing=(line++['\n'])++render lines := by
      rw [h,render_cons,append_assoc,singleton_append]
    -- does the text reach past the newline of the first line
    rcases append_eq_append_iff.mp hspl with ⟨rest,hshort,-⟩ | ⟨_,htext,hmore⟩
    · rcases prefix_concat_iff.mp ⟨rest,hshort.symm⟩ with hline | hline
      · exact ⟨[line],[],lines,by simp [hline],rfl,.inl rfl⟩
      · exact ⟨[],text,line::lines,rfl,rfl,.inr ⟨line,rfl,hline⟩⟩
    · obtain ⟨whole,tail,rest,rfl,hlines,htail⟩:=ih ⟨missing,hmore.symm⟩
      exact ⟨line::whole,tail,rest,by simp [htext],by rw [hlines,cons_append],htail⟩

end Lantunnel.Lib.LineLog
