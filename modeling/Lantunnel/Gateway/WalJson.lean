import Lantunnel.Lib.JsonText
import Lantunnel.Gateway.RelayUsageWal

/-!
# The JSON of usage records (tp-gateway/src/lib.rs:124-137)

The lines `serde_json` writes for `RelayUsageWalRecord`. The reader accepts
exactly those: of what may stand in a file only these, their beginnings and
lines damaged by a torn write occur.
-/

namespace Lantunnel.Gateway
open Lib RustStd LineLog JsonText List RelayUsageWalRecord Option

def usageLiteral : List Char := "\x7b\"type\":\"usage\",\"seq\":".toList
def tunnelIdLiteral : List Char := ",\"tunnel_id\":\"".toList
def periodLiteral : List Char := ",\"period_yyyymm\":\"".toList
def bytesLiteral : List Char := ",\"bytes\":".toList
def ackLiteral : List Char := "\x7b\"type\":\"ack\",\"through_seq\":".toList
def closeLiteral : List Char := "\x7d".toList

namespace RelayUsageWalRecord

def json : RelayUsageWalRecord → List Char
  | .usage seq item =>
    usageLiteral++number seq++tunnelIdLiteral++escape item.tunnelId.toList
      ++ quote::periodLiteral++escape item.periodYyyymm.toList
      ++ quote::bytesLiteral++number item.bytes++closeLiteral
  | .ack throughSeq => ackLiteral++number throughSeq++closeLiteral

example : json (.usage 7 ⟨"tun", "202608", 37⟩) =
    "\x7b\"type\":\"usage\",\"seq\":7,\"tunnel_id\":\"tun\",\"period_yyyymm\":\"202608\",\"bytes\":37\x7d".toList := by
  decide

def readUsage (text : List Char) : Option (RelayUsageWalRecord × List Char) := do
  let text ← expect usageLiteral text
  let (seq,text) ← readNumber text
  let text ← expect tunnelIdLiteral text
  let (tunnelId,text) ← unescape text
  let text ← expect periodLiteral text
  let (period,text) ← unescape text
  let text ← expect bytesLiteral text
  let (bytes,text) ← readNumber text
  let text ← expect closeLiteral text
  some (.usage seq ⟨String.ofList tunnelId,String.ofList period,bytes⟩,text)

def readAck (text : List Char) : Option (RelayUsageWalRecord × List Char) := do
  let text ← expect ackLiteral text
  let (throughSeq,text) ← readNumber text
  let text ← expect closeLiteral text
  some (.ack throughSeq,text)

def read (text : List Char) : Option (RelayUsageWalRecord × List Char) :=
  (readUsage text).or (readAck text)

theorem read_json (record : RelayUsageWalRecord) (rest : List Char) :
    read (record.json++rest)=some (record,rest) := by
  have hcomma : Char.isDigit ','=false := by decide
  have hbrace : Char.isDigit '}'=false := by decide
  cases record with
  | usage seq item =>
    have htun : tunnelIdLiteral = ','::tunnelIdLiteral.tail := by decide
    have hclose : closeLiteral=['}'] := by decide
    have hread : readUsage (json (.usage seq item)++rest)=some (.usage seq item,rest) := by
      simp only [json,append_assoc,cons_append,readUsage,expect_append,
        bind_eq_bind,bind_some]
      rw [htun,cons_append,readNumber_append seq hcomma,← cons_append,← htun]
      simp only [bind_some,expect_append,unescape_escape]
      rw [hclose,singleton_append,readNumber_append item.bytes hbrace,
        ← singleton_append,← hclose]
      simp only [bind_some,expect_append,String.ofList_toList]
    rw [read,hread,some_or]
  | ack throughSeq =>
    have hclose : closeLiteral=['}'] := by decide
    have hoth : readUsage (json (.ack throughSeq)++rest)=none := by
      have hexpect : expect usageLiteral (json (.ack throughSeq)++rest)=none := by
        rfl
      rfl
    have hread : readAck (json (.ack throughSeq)++rest)=some (.ack throughSeq,rest) := by
      simp only [json,append_assoc,readAck,expect_append,bind_eq_bind,
        bind_some]
      rw [hclose,singleton_append,readNumber_append throughSeq hbrace,
        ← singleton_append,← hclose]
      simp only [bind_some,expect_append]
    rw [read,hoth,none_or,hread]

theorem printable_of_mem_json {record : RelayUsageWalRecord} {d : Char} (h : d∈record.json) :
    0x20≤d.toNat := by
  have hall : (usageLiteral++tunnelIdLiteral++periodLiteral++bytesLiteral++ackLiteral
      ++ closeLiteral).all (fun c => decide (0x20≤c.toNat))=true := by decide
  have hlits : ∀ c∈usageLiteral++tunnelIdLiteral++periodLiteral++bytesLiteral++ackLiteral
      ++ closeLiteral, 0x20≤c.toNat := by
    intro c hc
    exact of_decide_eq_true (all_eq_true.mp hall c hc)
  have hquote : 0x20≤quote.toNat := by decide
  cases record with
  | usage =>
    simp only [json,mem_append,mem_cons] at h
    rcases h with (((((((h | h) | h) | h) | rfl | h) | h) | rfl | h) | h) | h
    · exact hlits d (by simp [h])
    · exact printable_of_mem_number h
    · exact hlits d (by simp [h])
    · exact printable_of_mem_escape h
    · exact hquote
    · exact hlits d (by simp [h])
    · exact printable_of_mem_escape h
    · exact hquote
    · exact hlits d (by simp [h])
    · exact printable_of_mem_number h
    · exact hlits d (by simp [h])
  | ack =>
    simp only [json,mem_append] at h
    rcases h with (h | h) | h
    · exact hlits d (by simp [h])
    · exact printable_of_mem_number h
    · exact hlits d (by simp [h])

end RelayUsageWalRecord

def serdeJson : WalFormat where
  toJson record := String.ofList record.json
  fromJson text :=
    match RelayUsageWalRecord.read text.toList with
    | some (record,[]) => if record.json=text.toList then some record else none
    | _ => none

theorem serdeJson_fromJson {text : String} {record : RelayUsageWalRecord}
    (h : serdeJson.fromJson text=some record) : record.json=text.toList := by
  simp only [serdeJson] at h
  split at h
  · grind
  · cases h

theorem serdeJson_lawful : serdeJson.Lawful where
  roundTrip := by
    intro record
    have hread:=read_json record []
    rw [append_nil] at hread
    simp only [serdeJson,String.toList_ofList,hread,if_true]
  braced := by
    intro record
    cases record with
    | usage seq item | ack throughSeq =>
      exact ⟨_,by simp only [WalFormat.line,serdeJson,String.toList_ofList]; rfl⟩
  escaped := by
    intro record
    simp only [WalFormat.line,serdeJson,String.toList_ofList]
    constructor
    · intro h
      have hprint:=printable_of_mem_json h
      exact absurd hprint (by decide)
    intro h
    have hprint:=printable_of_mem_json h
    exact absurd hprint (by decide)
  unfinished := by
    intro record text hpre hcut
    simp only [WalFormat.line,serdeJson,String.toList_ofList] at hpre hcut
    cases hfrom : serdeJson.fromJson (String.ofList text) with
    | none => rfl
    | some =>
      -- two texts read from one place leave the same rest
      have htext:=serdeJson_fromJson hfrom
      rw [String.toList_ofList] at htext
      obtain ⟨_,hrest⟩:=hpre
      have hwhole:=read_json record []
      rw [append_nil,← hrest,← htext,read_json] at hwhole
      obtain ⟨-,rfl⟩:=Prod.mk.inj (some.inj hwhole)
      rw [append_nil] at hrest
      exact absurd hrest hcut

theorem serdeJson_take_one (record : RelayUsageWalRecord) (records : List RelayUsageWalRecord) :
    (utf8 (serdeJson.text (record::records))).take 1=utf8 ['{'] := by
  obtain ⟨_,hbody⟩ := serdeJson_lawful.braced record
  have hbrace : utf8 ['{']=[0x7b] := by decide
  rw [WalFormat.text,map_cons,render_cons,hbody,cons_append,← singleton_append,
    utf8_append,hbrace]
  rfl

theorem serdeJson_double_brace (record : RelayUsageWalRecord) :
    serdeJson.fromJson (String.ofList ('{'::serdeJson.line record))=none := by
  have hsta : ∀ record : RelayUsageWalRecord, ∃ rest, record.json = '{'::quote::rest := by
    intro record
    cases record with
    | usage seq item | ack throughSeq => exact ⟨_,rfl⟩
  cases hfrom : serdeJson.fromJson (String.ofList ('{'::serdeJson.line record)) with
  | none => rfl
  | some other =>
    have htext:=serdeJson_fromJson hfrom
    obtain ⟨_,hrest⟩ := hsta other
    obtain ⟨_,hbody⟩ := serdeJson_lawful.braced record
    rw [String.toList_ofList,hrest,hbody] at htext
    have hsnd:=(cons.inj (cons.inj htext).2).1
    exact absurd hsnd (by decide)

theorem openWal_merged_line (records : List RelayUsageWalRecord) (record : RelayUsageWalRecord) :
    openWal serdeJson (utf8 (serdeJson.text records++('{'::serdeJson.text [record]))) =
      .error .malformed := by
  obtain ⟨hnl,hret⟩ := serdeJson_lawful.escaped record
  have hnl : '\n' ∉ '{'::serdeJson.line record := by simp [hnl]
  have hret : '\r' ∉ '{'::serdeJson.line record := by simp [hret]
  have hchunk : splitInclusive ('{'::serdeJson.text [record]) =
      [('{'::serdeJson.line record)++['\n']] := by
    rw [WalFormat.text_singleton,← cons_append]
    exact splitInclusive_line hnl []
  have hscan : ∀ s : Scan, Scan.chunks serdeJson s [('{'::serdeJson.line record)++['\n']] =
      .error .malformed := by
    intro s
    have hlast : (('{'::serdeJson.line record)++['\n']).getLast?=some '\n' :=
      getLast?_concat
    rw [Scan.chunks,trimEndMatches_concat hnl,trimEndMatches_of_not_mem hret,
      if_neg (trim_ne_empty (by decide) _),serdeJson_double_brace]
    simp only [hlast,not_true_eq_false,false_and,if_false]
  rw [openWal,fromUtf8_utf8]
  show (do
    let scan ← Scan.chunks serdeJson ⟨.empty,0,false,false⟩ (splitInclusive (String.ofList
      (serdeJson.text records++('{'::serdeJson.text [record]))).toList)
    Except.ok (scan.replay.state,scan.repaired _))=_
  rw [String.toList_ofList,splitInclusive_text serdeJson_lawful,hchunk,
    Scan.chunks_lines serdeJson_lawful _ _ _ rfl,hscan]
  rfl

end Lantunnel.Gateway
