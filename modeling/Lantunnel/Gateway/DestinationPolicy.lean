import Mathlib.Data.Finset.Card
import Lantunnel.Lib.Ipv4Text
import Lantunnel.Lib.TextCuts
import Lantunnel.Gateway.HostFilter

/-!
# The destination policy (tp-gateway/src/lib.rs:776-885, 2562-2633)

The canonical form of a destination, the count of the destinations of a Tunnel in the
running window, and the check that a relay open has to pass.
-/

namespace Lantunnel.Gateway
open Lib.RustStd Lib.RustNet Target List HostFilter

/-! ### The canonical form (lib.rs:852-884) -/

/-- Without brackets and not a socket address. -/
def canonicalHostPort (trimmed : String) : String :=
  let whole:=toAsciiLowercase (trimEndMatches '.' trimmed)
  match rsplitOnce ':' trimmed with
  | some (host,port) =>
    let host:=toAsciiLowercase (trimEndMatches '.' (trim host))
    let port:=trim port
    if host ≠ "" ∧ ':' ∉ host.toList ∧ port ≠ "" then host ++ ":" ++ port else whole
  | none => whole

def canonicalDestination (address : String) : Option String :=
  let trimmed:=trim address
  if trimmed = "" then none
  else
    match stripPrefix "[" trimmed with
    | some rest => do
      let (host,tail) ← splitOnce ']' rest
      let port ← stripPrefix ":" tail
      if trim host = "" ∨ trim port = "" then none
      else some ("[" ++ toAsciiLowercase (trim host) ++ "]:" ++ trim port)
    | none =>
      match parseSocketAddr trimmed with
      | some socket =>
        some (toAsciiLowercase (socket.ip.toString ++ ":" ++ decimal socket.port.toNat))
      | none => some (canonicalHostPort trimmed)

def destinationKey (address : String) : Option String := canonicalDestination address

/-! ### The diversity of destinations (lib.rs:776-850) -/

structure DestinationDiversityWindow where
  startedAt : ℕ
  destinations : Finset String
  warned : Bool

/-- Time is in nanoseconds. -/
structure DestinationDiversityTracker where
  cap : ℕ
  window : ℕ
  windows : String → Option DestinationDiversityWindow

inductive DestinationDiversityDecision
  | allowed
  | warn (uniqueDestinations : ℕ)
  | block (uniqueDestinations : ℕ)
  deriving DecidableEq

namespace DestinationDiversityTracker

def new (cap window : ℕ) : DestinationDiversityTracker := ⟨cap,window,fun _ => none⟩

def entryAt (tracker : DestinationDiversityTracker) (tunnelId : String) (now : ℕ) :
    DestinationDiversityWindow :=
  match tracker.windows tunnelId with
  | none => ⟨now,∅,false⟩
  | some entry => if tracker.window≤now-entry.startedAt then ⟨now,∅,false⟩ else entry

def recordAt (tracker : DestinationDiversityTracker) (tunnelId address : String) (now : ℕ) :
    DestinationDiversityDecision × DestinationDiversityTracker :=
  match destinationKey address with
  | none => (.allowed,tracker)
  | some destination =>
    let entry:=tracker.entryAt tunnelId now
    let store:=fun entry =>
      { tracker with windows := Function.update tracker.windows tunnelId (some entry) }
    if destination ∈ entry.destinations then (.allowed,store entry)
    else if tracker.cap≤entry.destinations.card then
      (.block (entry.destinations.card+1),store entry)
    else
      let entry:={ entry with destinations := insert destination entry.destinations }
      let unique:=entry.destinations.card
      if tracker.cap≤unique && !entry.warned then
        (.warn unique,store { entry with warned := true })
      else
        (.allowed,store entry)

end DestinationDiversityTracker

def DESTINATION_DIVERSITY_WINDOW : ℕ := 3600*1000000000

def DESTINATION_DIVERSITY_WARN_CAP : ℕ := 1000

/-! ### The check (lib.rs:2562-2633) -/

variable {R : Type}

def checkDestinationPolicy (f : Foreign R) (tracker : DestinationDiversityTracker) (now : ℕ)
    (tunnelId address : String) : Except String Unit × DestinationDiversityTracker :=
  let canonical:=(canonicalDestination address).getD (trim address)
  match HostFilter.new f [] [] with
  | .error _ => (.error "host_filter_invalid",tracker)
  | .ok filter =>
    if !filter.isAllowed f canonical then (.error "host_forbidden",tracker)
    else
      match tracker.recordAt tunnelId canonical now with
      | (.block _,tracker) => (.error "destination_diversity_exceeded",tracker)
      | (_,tracker) => (.ok (),tracker)

def isDefaultForbiddenIp (ip : Ipv4Addr) : Bool :=
  HostFilter.DEFAULT_FORBIDDEN.any fun entry =>
    parseIpv4Addr entry=some ip || (IpNet.parse entry).any fun network => network.contains (.v4 ip)

def forbiddenNames : List String :=
  HostFilter.DEFAULT_FORBIDDEN.filter fun entry =>
    (parseIpv4Addr entry).isNone && (IpNet.parse entry).isNone

def toIpv4Mapped (ip : Ipv6Addr) : Option Ipv4Addr :=
  if ip.toNat/2^32=0xFFFF then some (BitVec.ofNat 32 ip.toNat) else none

def isForbiddenHost (host : String) : Bool :=
  forbiddenNames.contains host ||
    match parseIpAddr host with
    | some (.v4 ip) => isDefaultForbiddenIp ip
    | some (.v6 ip) => (toIpv4Mapped ip).any isDefaultForbiddenIp
    | none => false

def bareHost (host : String) : String :=
  let ends:=fun c => isWhitespace c || c = '[' || c = ']'
  toAsciiLowercase (String.ofList
    ((host.toList.dropWhile ends).rdropWhile fun c => ends c || c = '.'))

def hostPart (address : String) : String :=
  let trimmed:=trim address
  let beforePort:=((rsplitOnce ':' trimmed).map (·.1)).getD trimmed
  match stripPrefix "[" trimmed with
  | some rest => ((splitOnce ']' rest).map (·.1)).getD beforePort
  | none => if (parseIpv6Addr (bareHost trimmed)).isSome then trimmed else beforePort

/-- The host as it stands, with nothing around it and not mapped into IPv6. -/
def isPlainlyForbidden (host : String) : Bool :=
  forbiddenNames.contains host ||
    match parseIpAddr host with
    | some (.v4 ip) => isDefaultForbiddenIp ip
    | _ => false

/-- In brackets, white space is removed only in front of a port; without them,
trailing dots are removed too, but what follows the last colon has to be a port. -/
def isSeen (address : String) : Bool :=
  let trimmed:=trim address
  match stripPrefix "[" trimmed with
  | some rest =>
    match splitOnce ']' rest with
    | none => false
    | some (host,tail) =>
      match stripPrefix ":" tail with
      | some port =>
        if trim host = "" ∨ trim port = "" then isPlainlyForbidden (toAsciiLowercase host)
        else isPlainlyForbidden (toAsciiLowercase (trim host))
      | none => isPlainlyForbidden (toAsciiLowercase host)
  | none =>
    match rsplitOnce ':' trimmed with
    | some (host,port) =>
      (parsePort (trim port)).isSome &&
        isPlainlyForbidden (toAsciiLowercase (trimEndMatches '.' (trim host)))
    | none => isPlainlyForbidden (toAsciiLowercase (trim (trimEndMatches '.' trimmed)))

theorem forbiddenNames_eq : forbiddenNames =
    ["metadata.google.internal","instance-data.ec2.internal","metadata.azure.com"] := by
  decide

theorem isDefaultForbiddenIp_iff (ip : Ipv4Addr) :
    isDefaultForbiddenIp ip=true ↔ Client.IpCidrV2.contains (.v4 0 8) (.v4 ip)=true ∨
      ip=0xA9FEA9FE#32 ∨ ip=0xA9FEAA02#32 ∨ ip=0x646464C8#32 := by
  have haddr : HostFilter.DEFAULT_FORBIDDEN.map parseIpv4Addr =
      [none,some 0xA9FEA9FE#32,some 0xA9FEAA02#32,some 0x646464C8#32,none,none,none] := by
    decide
  have hnet : HostFilter.DEFAULT_FORBIDDEN.map IpNet.parse =
      [some (.v4 0 8),none,none,none,none,none,none] := by
    decide
  simp only [HostFilter.DEFAULT_FORBIDDEN,map_cons,map_nil,List.cons.injEq,
    and_true] at haddr hnet
  simp only [isDefaultForbiddenIp,HostFilter.DEFAULT_FORBIDDEN,any_cons,any_nil,
    haddr,hnet,Option.any_some,Option.any_none,Bool.or_eq_true,decide_eq_true_eq,
    Option.some.injEq,reduceCtorEq,Bool.false_eq_true,false_or,or_false,eq_comm (b := ip)]

theorem defaults_any (f : Foreign R) (target : Target) :
    (defaults.any fun p => p.matches f target)=isPlainlyForbidden target.host := by
  have htexts : ["169.254.169.254","169.254.170.2","100.100.100.200"] =
      [0xA9FEA9FE#32,0xA9FEAA02#32,0x646464C8#32].map ipv4ToString := by decide
  simp only [map_cons,map_nil,List.cons.injEq,and_true] at htexts
  obtain ⟨h₁,h₂,h₃⟩:=htexts
  rw [Bool.eq_iff_iff]
  simp only [defaults,any_cons,any_nil,Pattern.matches.eq_def,portMatches,
    Option.all_none,Bool.and_true,h₁,h₂,h₃,Bool.or_eq_true,decide_eq_true_eq,
    ← parseIpAddr_v4_iff,isPlainlyForbidden,forbiddenNames_eq,contains_cons,beq_iff_eq,
    contains_nil,Bool.false_eq_true,or_false]
  rcases parseIpAddr target.host with _ | ip | ip
  · simp
  · simp only [isDefaultForbiddenIp_iff,Option.some.injEq,IpAddr.v4.injEq]
    tauto
  · simp [Client.IpCidrV2.contains]

variable {host t rest port : String}

theorem isPlainlyForbidden_chars (h : isPlainlyForbidden host=true) :
    (∀ c∈host.toList, c ≠ ':' ∧ c ≠ '[') ∧ ∃ c∈host.toList, c ≠ '.' ∧ isWhitespace c=false := by
  have hnames : ∀ name∈forbiddenNames, (name.toList.all fun c => c ≠ ':' && c ≠ '[')=true ∧
      (name.toList.any fun c => c ≠ '.' && !isWhitespace c)=true := by
    decide
  rw [isPlainlyForbidden,Bool.or_eq_true] at h
  rcases h with hname | hip
  · grind
  · cases hparse : parseIpAddr host with
    | none => rw [hparse] at hip; cases hip
    | some ip =>
      rw [hparse] at hip
      cases ip with
      | v6 => cases hip
      | v4 ip =>
        obtain rfl := parseIpAddr_v4_iff.mp hparse
        obtain ⟨hchs,⟨c,hhead,hdig⟩,-⟩ := ipv4ToString_chars ip
        refine ⟨?_,c,mem_of_mem_head? hhead,?_⟩
        · intro d hd
          rcases hchs d hd with hd | rfl
          · exact ⟨(isDigit_char hd).2.1,(isDigit_char hd).2.2.1⟩
          · decide
        · exact ⟨(isDigit_char hdig).1,(isDigit_char hdig).2.2.2.2.1⟩

theorem not_isPlainlyForbidden_of_colon (h : ':'∈host.toList) :
    isPlainlyForbidden host=false := by
  rw [Bool.eq_false_iff]
  exact fun hpt => ((isPlainlyForbidden_chars hpt).1 _ h).1 rfl

theorem Target.parse_trim (address : String) : parse (trim address)=parse address := by
  rw [parse,parse,trim_trim]

theorem Target.parse_unbracketed (ht : Trimmed t) (hne : t ≠ "")
    (hopen : t.toList.head?≠some '[') : parse t=some (parseUnbracketed t) := by
  have hstrip : stripPrefix "[" t=none := stripPrefix_singleton_eq_none hopen
  rw [parse,ht.trim_eq,if_neg hne,hstrip]
  rfl

theorem Target.parse_bracketed (ht : Trimmed t) (hopen : t.toList = '['::rest.toList) :
    parse t=match splitOnce ']' rest with
      | some (host,tail) =>
        some ⟨t,toAsciiLowercase host,(stripPrefix ":" tail).bind parsePort⟩
      | none => some (parseUnbracketed t) := by
  have hstrip : stripPrefix "[" t=some rest := stripPrefix_singleton.mpr hopen
  have hne : t ≠ "" := by
    rintro rfl
    cases hopen
  rw [parse,ht.trim_eq,if_neg hne,hstrip]
  rfl

theorem Target.parseUnbracketed_port
    (h : t.toList=host.toList ++ ':'::port.toList) (hport : ':'∉port.toList) :
    (parseUnbracketed t).host =
      if host ≠ "" ∧ (parsePort port).isSome then toAsciiLowercase host else toAsciiLowercase t := by
  rw [parseUnbracketed,rsplitOnce_eq_some_iff.mpr ⟨h,hport⟩]
  by_cases hne : host = ""
  · simp [hne]
  cases hp : parsePort port with
  | none | some p => simp [hne,hp]

theorem Target.parseUnbracketed_bare (h : ':'∉t.toList) :
    (parseUnbracketed t).host=toAsciiLowercase t := by
  rw [parseUnbracketed,rsplitOnce_eq_none_iff.mpr h]

def canonicalOr (address : String) : String := (canonicalDestination address).getD (trim address)

/-- The filter reads the host that is seen, or the address is blank. -/
def ReadsAs (address : String) : Prop :=
  (∃ target, Target.parse (canonicalOr address)=some target ∧
    isPlainlyForbidden target.host=isSeen address) ∨
  (Target.parse (canonicalOr address)=none ∧ isSeen address=false ∧
    bareHost (hostPart address) = "")

theorem isPlainlyForbidden_empty : isPlainlyForbidden "" = false := by
  rw [Bool.eq_false_iff]
  exact fun hpt => nomatch (isPlainlyForbidden_chars hpt).2

theorem unclosed_not_plain (hopen : t.toList = '['::rest.toList) :
    isPlainlyForbidden (parseUnbracketed t).host=false := by
  have hbracket : ∀ s : String, '['∈s.toList → isPlainlyForbidden (toAsciiLowercase s)=false := by
    intro s hs
    rw [Bool.eq_false_iff]
    intro hpt
    have hmem:=(mem_toAsciiLowercase_iff (c := '[') (by decide) (by decide)).mpr hs
    exact ((isPlainlyForbidden_chars hpt).1 _ hmem).2 rfl
  have ht : '['∈t.toList := by
    rw [hopen]
    exact mem_cons_self ..
  cases hspl : rsplitOnce ':' t with
  | none =>
    rw [parseUnbracketed_bare (rsplitOnce_eq_none_iff.mp hspl)]
    exact hbracket t ht
  | some =>
    obtain ⟨hchs,hport⟩ := rsplitOnce_eq_some_iff.mp hspl
    rw [parseUnbracketed_port hchs hport]
    split
    · rename_i hhost
      apply hbracket
      obtain ⟨_,_,hcs⟩ := exists_cons_of_ne_nil
        (fun hnil => hhost.1 (String.toList_eq_nil_iff.mp hnil))
      rw [hopen,hcs] at hchs
      rw [hcs,(cons.inj hchs).1]
      exact mem_cons_self ..
    · exact hbracket t ht

theorem getLast?_append_trim (pre : List Char) {s : String} (hs : trim s ≠ "") :
    ∃ z, (pre++(trim s).toList).getLast?=some z ∧ isWhitespace z=false := by
  have hne : (trim s).toList≠[] := fun hnil => hs (String.toList_eq_nil_iff.mp hnil)
  have hlast:=getLast?_eq_some_getLast hne
  refine ⟨_,?_,(trimmed_trim s).2 _ hlast⟩
  rw [getLast?_append,hlast]
  rfl

theorem canonical_bracketed (hhost : ']'∉host.toList) (hport : trim port ≠ "") :
    ∃ target, parse ("[" ++ toAsciiLowercase (trim host) ++ "]:" ++ trim port)=some target ∧
      isPlainlyForbidden target.host=isPlainlyForbidden (toAsciiLowercase (trim host)) := by
  have hclose : ']'∉(toAsciiLowercase (trim host)).toList := by
    rw [mem_toAsciiLowercase_iff (by decide) (by decide)]
    exact fun hmem => hhost (mem_of_mem_trim hmem)
  have hlower:=toAsciiLowercase_idem (trim host)
  generalize toAsciiLowercase (trim host)=lowered at hclose hlower
  have hchs : ("[" ++ lowered ++ "]:" ++ trim port).toList =
      '['::(lowered ++ "]:" ++ trim port).toList := by simp
  have hspl : splitOnce ']' (lowered ++ "]:" ++ trim port)=some (lowered,":" ++ trim port) :=
    splitOnce_eq_some_iff.mpr ⟨by simp,hclose⟩
  obtain ⟨z,hlast,hz⟩ := getLast?_append_trim ("[" ++ lowered ++ "]:").toList hport
  rw [← String.toList_append] at hlast
  have htrim : Trimmed ("[" ++ lowered ++ "]:" ++ trim port) :=
    trimmed_of_ends (by rw [hchs]; rfl) hlast (by decide) hz
  rw [parse_bracketed htrim hchs,hspl]
  exact ⟨_,rfl,by rw [hlower]⟩

theorem reads_bracketed {address : String} (hopen : (trim address).toList = '['::rest.toList) :
    ReadsAs address := by
  have hstrip : stripPrefix "[" (trim address)=some rest := stripPrefix_singleton.mpr hopen
  have hne : trim address ≠ "" := by
    intro h
    rw [h] at hopen
    cases hopen
  have hread:=parse_bracketed (trimmed_trim address) hopen
  refine .inl ?_
  cases hspl : splitOnce ']' rest with
  | none =>
    have hcanon : canonicalOr address=trim address := by
      rw [canonicalOr,canonicalDestination,if_neg hne,hstrip]
      simp only [hspl]
      rfl
    rw [hspl] at hread
    rw [hcanon]
    refine ⟨_,hread,?_⟩
    rw [unclosed_not_plain hopen,isSeen,hstrip]
    simp only [hspl]
  | some parts =>
    obtain ⟨host,tail⟩ := parts
    rw [hspl] at hread
    have hdirect : canonicalDestination address=none →
        isSeen address=isPlainlyForbidden (toAsciiLowercase host) →
        ∃ target, parse (canonicalOr address)=some target ∧
          isPlainlyForbidden target.host=isSeen address := by
      intro hnone hseen
      rw [canonicalOr,hnone,Option.getD_none,hread,hseen]
      exact ⟨_,rfl,rfl⟩
    cases hcol : stripPrefix ":" tail with
    | none =>
      apply hdirect
      · rw [canonicalDestination,if_neg hne,hstrip]
        simp only [hspl,Option.bind_eq_bind,Option.bind_some,hcol,Option.bind_none]
      rw [isSeen,hstrip]
      simp only [hspl,hcol]
    | some port =>
      by_cases hblk : trim host = "" ∨ trim port = ""
      · apply hdirect
        · rw [canonicalDestination,if_neg hne,hstrip]
          simp only [hspl,Option.bind_eq_bind,Option.bind_some,hcol,if_pos hblk]
        rw [isSeen,hstrip]
        simp only [hspl,hcol,if_pos hblk]
      · have hcanon : canonicalOr address =
            "[" ++ toAsciiLowercase (trim host) ++ "]:" ++ trim port := by
          rw [canonicalOr,canonicalDestination,if_neg hne,hstrip]
          simp only [hspl,Option.bind_eq_bind,Option.bind_some,hcol,if_neg hblk,
            Option.getD_some]
        rw [hcanon,isSeen,hstrip]
        simp only [hspl,hcol,if_neg hblk]
        rw [not_or] at hblk
        exact canonical_bracketed (splitOnce_eq_some_iff.mp hspl).2 hblk.2

theorem parsePort_digits {ds : List Char} (hne : ds≠[]) (hdig : ∀ c∈ds, c.isDigit=true)
    (hlt : Nat.ofDigitChars 10 ds 0<65536) : (parsePort (String.ofList ds)).isSome=true := by
  have hplus : stripPrefix "+" (String.ofList ds)=none := by
    refine stripPrefix_singleton_eq_none fun h => ?_
    rw [String.toList_ofList] at h
    exact (isDigit_char (hdig '+' (mem_of_mem_head? h))).2.2.2.1 rfl
  have hblk : ¬ (String.ofList ds = "" ∨ ¬ (String.ofList ds).toList.all Char.isDigit=true) := by
    rw [String.toList_ofList,String.ofList_eq_empty_iff,not_or,not_not,all_eq_true]
    exact ⟨hne,hdig⟩
  rw [parsePort,parseUnsigned,hplus,Option.getD_none,if_neg hblk,String.toList_ofList,
    if_pos hlt]
  rfl

theorem trimmed_digits {ds : List Char} (hdig : ∀ c∈ds, c.isDigit=true) :
    Trimmed (String.ofList ds) := by
  rw [Trimmed,String.toList_ofList]
  refine ⟨?_,?_⟩
  · intro c hc
    exact (isDigit_char (hdig c (mem_of_mem_head? hc))).2.2.2.2.1
  intro c hc
  exact (isDigit_char (hdig c (mem_of_mem_getLast? hc))).2.2.2.2.1

theorem colon_not_mem_digits {ds : List Char} (hdig : ∀ c∈ds, c.isDigit=true) : ':'∉ds :=
  fun h => (isDigit_char (hdig _ h)).2.1 rfl

theorem ipv4ToString_trimmed (ip : Ipv4Addr) : Trimmed (ipv4ToString ip) := by
  obtain ⟨-,⟨a,hhead,ha⟩,⟨z,hlast,hz⟩⟩:=ipv4ToString_chars ip
  exact trimmed_of_ends hhead hlast (isDigit_char ha).2.2.2.2.1 (isDigit_char hz).2.2.2.2.1

theorem map_toLower_eq_self {l : List Char} (h : ∀ c∈l, c.toLower=c) : l.map Char.toLower=l :=
  (map_congr_left h).trans (map_id l)

theorem trim_ipv4ToString (ip : Ipv4Addr) :
    toAsciiLowercase (trimEndMatches '.' (trim (ipv4ToString ip)))=ipv4ToString ip := by
  obtain ⟨hchs,-,⟨z,hlast,hz⟩⟩:=ipv4ToString_chars ip
  rw [(ipv4ToString_trimmed ip).trim_eq,← String.toList_inj,toList_toAsciiLowercase,
    toList_trimEndMatches,rdropWhile_eq_self,map_toLower_eq_self]
  · intro c hc
    rcases hchs c hc with hc | rfl
    · exact (isDigit_char hc).2.2.2.2.2
    · decide
  · rw [hlast]
    rintro c ⟨⟩
    exact decide_eq_false (isDigit_char hz).1

theorem canonical_host_port (hhost : host ≠ "")
    (hhead : ∀ c∈host.toList.head?, c ≠ '[' ∧ isWhitespace c=false)
    (hlower : toAsciiLowercase host=host) (hport : port ≠ "") (htrim : Trimmed port)
    (hcol : ':'∉port.toList) :
    ∃ target, parse (host ++ ":" ++ port)=some target ∧
      isPlainlyForbidden target.host=((parsePort port).isSome && isPlainlyForbidden host) := by
  have htext : (host ++ ":" ++ port).toList=host.toList ++ ':'::port.toList := by simp
  obtain ⟨a,_,hcs⟩ := exists_cons_of_ne_nil
    (fun hnil => hhost (String.toList_eq_nil_iff.mp hnil))
  have hfst : (host ++ ":" ++ port).toList.head?=some a := by
    rw [htext,hcs]
    rfl
  obtain ⟨hbracket,ha⟩ := hhead a (by rw [hcs]; rfl)
  obtain ⟨z,hlast,hz⟩ := getLast?_append_trim (host ++ ":").toList
    (htrim.trim_eq.symm ▸ hport : trim port ≠ "")
  rw [htrim.trim_eq,← String.toList_append] at hlast
  have hopen : (host ++ ":" ++ port).toList.head?≠some '[' := by
    rw [hfst]
    exact fun h => hbracket (Option.some.inj h)
  have hne : host ++ ":" ++ port ≠ "" := by
    intro h
    rw [h] at hfst
    cases hfst
  refine ⟨_,parse_unbracketed (trimmed_of_ends hfst hlast ha hz) hne hopen,?_⟩
  rw [parseUnbracketed_port htext hcol]
  cases hp : (parsePort port).isSome with
  | true =>
    rw [if_pos ⟨hhost,rfl⟩,hlower,Bool.true_and]
  | false =>
    rw [if_neg (fun h => Bool.false_ne_true h.2),Bool.false_and]
    apply not_isPlainlyForbidden_of_colon
    rw [mem_toAsciiLowercase_iff (by decide) (by decide),htext]
    exact mem_append_right _ (mem_cons_self ..)

theorem canonical_socket (ip : Ipv4Addr) (port : UInt16) :
    ∃ target, parse (toAsciiLowercase (ipv4ToString ip ++ ":" ++ decimal port.toNat))=some target ∧
      isPlainlyForbidden target.host=isPlainlyForbidden (ipv4ToString ip) := by
  obtain ⟨-,⟨a,hhead,ha⟩,-⟩:=ipv4ToString_chars ip
  have hdecimal : decimal port.toNat=String.ofList (Nat.toDigits 10 port.toNat) :=
    Nat.repr_eq_ofList_toDigits
  have hdig : ∀ c∈Nat.toDigits 10 port.toNat, c.isDigit=true := fun c => isDigit_of_mem_decimal
  have hipLower : toAsciiLowercase (ipv4ToString ip)=ipv4ToString ip := by
    rw [← trim_ipv4ToString ip,toAsciiLowercase_idem]
  have hlower : toAsciiLowercase (ipv4ToString ip ++ ":" ++ decimal port.toNat) =
      ipv4ToString ip ++ ":" ++ decimal port.toNat := by
    have hport : toAsciiLowercase (decimal port.toNat)=decimal port.toNat := by
      rw [hdecimal,toAsciiLowercase,String.toList_ofList,
        map_toLower_eq_self fun c hc => (isDigit_char (hdig c hc)).2.2.2.2.2]
    rw [← String.toList_inj] at hipLower hport ⊢
    rw [toList_toAsciiLowercase] at hipLower hport ⊢
    simp only [String.toList_append,map_append,hipLower,hport]
    rfl
  have hport : (parsePort (decimal port.toNat)).isSome=true := by
    refine parsePort_digits Nat.toDigits_ne_nil hdig ?_
    rw [Nat.ofDigitChars_ten_toDigits]
    exact port.toNat_lt
  have hread:=@canonical_host_port (ipv4ToString ip) (decimal port.toNat) ?_ ?_ hipLower ?_ ?_ ?_
  · rwa [hport,Bool.true_and,← hlower] at hread
  · intro h
    rw [h] at hhead
    cases hhead
  · rw [hhead]
    rintro c ⟨⟩
    exact ⟨(isDigit_char ha).2.2.1,(isDigit_char ha).2.2.2.2.1⟩
  · simp_all
  · exact trimmed_digits hdig
  · rw [hdecimal,String.toList_ofList]
    exact colon_not_mem_digits hdig

section Unbracketed
variable {address : String} (hopen : (trim address).toList.head? ≠ some '[')
include hopen

theorem stripPrefix_open : stripPrefix "[" (trim address)=none :=
  stripPrefix_singleton_eq_none hopen

theorem reads_socket {socket : SocketAddr} (hne : trim address ≠ "")
    (hsock : parseSocketAddr (trim address)=some socket) : ReadsAs address := by
  obtain ⟨ip,port,ds,rfl,hchs,hds,hdig,hlt⟩:=parseSocketAddr_unbracketed hsock hopen
  have hcanon : canonicalOr address =
      toAsciiLowercase (ipv4ToString ip ++ ":" ++ decimal port.toNat) := by
    rw [canonicalOr,canonicalDestination,if_neg hne,stripPrefix_open hopen,hsock]
    rfl
  have hspl : rsplitOnce ':' (trim address)=some (ipv4ToString ip,String.ofList ds) := by
    rw [rsplitOnce_eq_some_iff,String.toList_ofList]
    exact ⟨hchs,colon_not_mem_digits hdig⟩
  have hseen : isSeen address=isPlainlyForbidden (ipv4ToString ip) := by
    rw [isSeen,stripPrefix_open hopen]
    simp only [hspl]
    rw [(trimmed_digits hdig).trim_eq,parsePort_digits hds hdig hlt,Bool.true_and,
      trim_ipv4ToString]
  rw [ReadsAs,hcanon,hseen]
  exact .inl (canonical_socket ip port)

theorem head_open : ∀ c∈(trim address).toList.head?, c ≠ '[' ∧ isWhitespace c=false := by
  intro c hc
  refine ⟨?_,(trimmed_trim address).1 c hc⟩
  rintro rfl
  exact hopen hc

theorem head_toLower {s : String} (hs : ∀ c∈s.toList.head?, c∈(trim address).toList.head?) :
    ∀ c∈(toAsciiLowercase s).toList.head?, c ≠ '[' ∧ isWhitespace c=false := by
  intro c hc
  rw [toList_toAsciiLowercase,head?_map] at hc
  obtain ⟨d,hd,rfl⟩ := Option.map_eq_some_iff.mp hc
  obtain ⟨hbracket,hwhite⟩ := head_open hopen d (hs d hd)
  refine ⟨fun heq => hbracket (eq_of_toLower_eq (by decide) heq),?_⟩
  rw [isWhitespace_toLower,hwhite]

theorem reads_bare (hne : trim address ≠ "") (hsock : parseSocketAddr (trim address)=none)
    (hcol : ':'∉(trim address).toList) : ReadsAs address := by
  have hspl:=rsplitOnce_eq_none_iff.mpr hcol
  have hcanon : canonicalOr address=toAsciiLowercase (trimEndMatches '.' (trim address)) := by
    rw [canonicalOr,canonicalDestination,if_neg hne,stripPrefix_open hopen,hsock]
    simp only [Option.getD_some,canonicalHostPort,hspl]
  have hseen : isSeen address =
      isPlainlyForbidden (toAsciiLowercase (trim (trimEndMatches '.' (trim address)))) := by
    rw [isSeen,stripPrefix_open hopen]
    simp only [hspl]
  have hhead : ∀ c∈(trimEndMatches '.' (trim address)).toList.head?, c∈(trim address).toList.head? := by
    rw [toList_trimEndMatches]
    exact head?_rdropWhile
  have hsta : ∀ c∈(trimEndMatches '.' (trim address)).toList.head?, isWhitespace c=false :=
    fun c hc => (head_open hopen c (hhead c hc)).2
  rw [ReadsAs,hcanon,hseen,← parse_trim,trim_toAsciiLowercase]
  by_cases hemp : trim (trimEndMatches '.' (trim address)) = ""
  · -- nothing but dots
    have hdots : ∀ c∈(trim address).toList, c = '.' := by
      have hnil : (trimEndMatches '.' (trim address)).toList=[] := by
        cases hlist : (trimEndMatches '.' (trim address)).toList with
        | nil => rfl
        | cons c cs =>
          have hc:=hsta c (by rw [hlist]; rfl)
          refine absurd ?_ (trim_ne_empty hc cs)
          rw [← hlist,String.ofList_toList,hemp]
      rw [toList_trimEndMatches,rdropWhile_eq_nil_iff] at hnil
      exact fun c hc => of_decide_eq_true (hnil c hc)
    have hpart : hostPart address=trim address := by
      rw [hostPart,stripPrefix_open hopen,hspl]
      simp
    have hbare : bareHost (trim address) = "" := by
      have hnil : (List.rdropWhile (fun c => (isWhitespace c || c = '[' || c = ']') || c = '.')
          ((trim address).toList.dropWhile fun c => isWhitespace c || c = '[' || c = ']'))=[] := by
        rw [rdropWhile_eq_nil_iff]
        intro c hc
        rw [hdots c ((dropWhile_suffix _).subset hc)]
        rfl
      rw [bareHost,hnil]
      rfl
    rw [hemp,hpart,hbare]
    exact .inr ⟨rfl,isPlainlyForbidden_empty,rfl⟩
  · have htrim : Trimmed (toAsciiLowercase (trim (trimEndMatches '.' (trim address)))) := by
      rw [← trim_toAsciiLowercase]
      exact trimmed_trim _
    have hopen':=head_toLower hopen fun c hc => hhead c (head?_trim hsta c hc)
    have hcol' : ':'∉(toAsciiLowercase (trim (trimEndMatches '.' (trim address)))).toList := by
      rw [mem_toAsciiLowercase_iff (by decide) (by decide)]
      exact fun hmem => hcol (mem_of_mem_trimEndMatches (mem_of_mem_trim hmem))
    have hne' : toAsciiLowercase (trim (trimEndMatches '.' (trim address))) ≠ "" := by
      rw [Ne,← String.toList_eq_nil_iff,toList_toAsciiLowercase,map_eq_nil_iff,
        String.toList_eq_nil_iff]
      exact hemp
    refine .inl ⟨_,parse_unbracketed htrim hne' fun h => (hopen' _ h).1 rfl,?_⟩
    rw [parseUnbracketed_bare hcol',toAsciiLowercase_idem]

theorem head_whole : ∀ c∈(toAsciiLowercase (trimEndMatches '.' (trim address))).toList.head?,
    c ≠ '[' ∧ isWhitespace c=false := by
  apply head_toLower hopen
  rw [toList_trimEndMatches]
  exact head?_rdropWhile

theorem cut_after_colon {host port : String}
    (htext : (trim address).toList=host.toList ++ ':'::port.toList) (hcol : ':'∉port.toList) :
    ∃ tail : String, (trim (toAsciiLowercase (trimEndMatches '.' (trim address)))).toList =
        (toAsciiLowercase host).toList ++ ':'::tail.toList ∧ ':'∉tail.toList ∧
      (trim port = "" → tail = "") := by
  have hcut : (trimEndMatches '.' (trim address)).toList =
      host.toList ++ ':'::port.toList.rdropWhile (· = '.') := by
    rw [toList_trimEndMatches,htext,rdropWhile_append_cons (by decide)]
  refine ⟨String.ofList (((port.toList.rdropWhile (· = '.')).map Char.toLower).rdropWhile isWhitespace),
    ?_,?_,?_⟩
  · rw [toList_trim,dropWhile_eq_self fun c hc => (head_whole hopen c hc).2,toList_toAsciiLowercase,
      hcut,map_append,map_cons,rdropWhile_append_cons (by decide),String.toList_ofList,
      toList_toAsciiLowercase]
    rfl
  · rw [String.toList_ofList]
    intro hmem
    obtain ⟨d,hd,hlower⟩:=mem_map.mp (( rdropWhile_prefix _ _).subset hmem)
    rw [eq_of_toLower_eq (by decide) hlower] at hd
    exact hcol (( rdropWhile_prefix _ _).subset hd)
  · intro hblk
    have hnil : port.toList=[] := by
      by_contra hne
      have hlast:=getLast?_eq_some_getLast hne
      have hend : (trim address).toList.getLast?=some (port.toList.getLast hne) := by
        rw [htext,getLast?_append,getLast?_cons,hlast]
        rfl
      have hwhite:=(trimmed_trim address).2 _ hend
      rcases mem_trim_or_isWhitespace (getLast_mem hne) with hmem | hmem
      · rw [hblk] at hmem
        cases hmem
      rw [hmem] at hwhite
      cases hwhite
    rw [hnil]
    rfl

theorem whole_not_plain {host port : String}
    (hspl : rsplitOnce ':' (trim address)=some (host,port))
    (hcond : ¬ (toAsciiLowercase (trimEndMatches '.' (trim host)) ≠ "" ∧
      ':'∉(toAsciiLowercase (trimEndMatches '.' (trim host))).toList ∧ trim port ≠ "")) :
    ∃ target, parse (toAsciiLowercase (trimEndMatches '.' (trim address)))=some target ∧
      isPlainlyForbidden target.host=false := by
  obtain ⟨htext,hcol⟩:=rsplitOnce_eq_some_iff.mp hspl
  obtain ⟨_,hchs,htail,hblk⟩:=cut_after_colon hopen htext hcol
  rw [← parse_trim]
  have hopen' : ∀ c∈(trim (toAsciiLowercase (trimEndMatches '.' (trim address)))).toList.head?,
      c ≠ '[' ∧ isWhitespace c=false := by
    have hlower:=head_whole hopen
    exact fun c hc => hlower c (head?_trim (fun d hd => (hlower d hd).2) c hc)
  generalize toAsciiLowercase (trimEndMatches '.' (trim address))=canonical at hchs hopen' ⊢
  have hne : trim canonical ≠ "" := by
    intro h
    rw [h] at hchs
    simp at hchs
  refine ⟨_,parse_unbracketed (trimmed_trim _) hne fun h => (hopen' _ h).1 rfl,?_⟩
  rw [parseUnbracketed_port hchs htail]
  split
  · rename_i hread
    rw [toAsciiLowercase_idem,Bool.eq_false_iff]
    intro hpt
    obtain ⟨hnone,c,hc,hdot,hwhite⟩:=isPlainlyForbidden_chars hpt
    -- a forbidden host and a port make the canonical form
    refine hcond ⟨?_,?_,?_⟩
    · intro hemp
      rw [← String.toList_eq_nil_iff,toList_toAsciiLowercase,map_eq_nil_iff,
        toList_trimEndMatches,rdropWhile_eq_nil_iff] at hemp
      rw [toList_toAsciiLowercase] at hc
      obtain ⟨d,hd,rfl⟩:=mem_map.mp hc
      rcases mem_trim_or_isWhitespace hd with hd | hd
      · rw [of_decide_eq_true (hemp d hd)] at hdot
        exact hdot rfl
      rw [isWhitespace_toLower,hd] at hwhite
      cases hwhite
    · intro hmem
      rw [mem_toAsciiLowercase_iff (by decide) (by decide)] at hmem
      have hhost:=mem_of_mem_trim (mem_of_mem_trimEndMatches hmem)
      rw [← mem_toAsciiLowercase_iff (by decide) (by decide)] at hhost
      exact (hnone _ hhost).1 rfl
    · intro hport
      rw [hblk hport] at hread
      exact absurd hread.2 (by decide)
  · apply not_isPlainlyForbidden_of_colon
    rw [mem_toAsciiLowercase_iff (by decide) (by decide),hchs]
    exact mem_append_right _ (mem_cons_self ..)

theorem reads_host_port {host port : String} (hne : trim address ≠ "")
    (hsock : parseSocketAddr (trim address)=none)
    (hspl : rsplitOnce ':' (trim address)=some (host,port)) : ReadsAs address := by
  obtain ⟨htext,hcol⟩:=rsplitOnce_eq_some_iff.mp hspl
  have hcanon : canonicalOr address=canonicalHostPort (trim address) := by
    rw [canonicalOr,canonicalDestination,if_neg hne,stripPrefix_open hopen,hsock]
    dsimp only [Option.getD_some]
  have hseen : isSeen address=((parsePort (trim port)).isSome &&
      isPlainlyForbidden (toAsciiLowercase (trimEndMatches '.' (trim host)))) := by
    rw [isSeen,stripPrefix_open hopen]
    simp only [hspl]
  rw [ReadsAs,hcanon,hseen]
  by_cases hcond : toAsciiLowercase (trimEndMatches '.' (trim host)) ≠ "" ∧
      ':'∉(toAsciiLowercase (trimEndMatches '.' (trim host))).toList ∧ trim port ≠ ""
  · refine .inl ?_
    simp only [canonicalHostPort,hspl,if_pos hcond]
    have hsta : ∀ c∈host.toList.head?, c∈(trim address).toList.head? := by
      rw [htext]
      exact fun c hc => mem_head?_append_of_mem_head? hc
    have hhead : ∀ c∈(trimEndMatches '.' (trim host)).toList.head?, c∈(trim address).toList.head? := by
      intro c hc
      rw [toList_trimEndMatches] at hc
      have hwhite : ∀ c∈host.toList.head?, isWhitespace c=false :=
        fun c hc => (head_open hopen c (hsta c hc)).2
      exact hsta c (head?_trim hwhite c (head?_rdropWhile c hc))
    exact canonical_host_port hcond.1 (head_toLower hopen hhead) (toAsciiLowercase_idem _) hcond.2.2
      (trimmed_trim port) fun hmem => hcol (mem_of_mem_trim hmem)
  · obtain ⟨target,hread,hpt⟩:=whole_not_plain hopen hspl hcond
    simp only [canonicalHostPort,hspl,if_neg hcond]
    refine .inl ⟨target,hread,?_⟩
    rw [hpt,eq_comm,Bool.and_eq_false_iff]
    by_cases hport : trim port = ""
    · rw [hport]
      exact .inl (by decide)
    refine .inr ?_
    by_cases hhost : toAsciiLowercase (trimEndMatches '.' (trim host)) = ""
    · rw [hhost]
      exact isPlainlyForbidden_empty
    apply not_isPlainlyForbidden_of_colon
    by_contra hmem
    exact hcond ⟨hhost,hmem,hport⟩

end Unbracketed

theorem reads (address : String) : ReadsAs address := by
  by_cases hopen : (trim address).toList.head?=some '['
  · obtain ⟨rest,hrest⟩:=head?_eq_some_iff.mp hopen
    have hchs : (trim address).toList = '['::(String.ofList rest).toList := by
      rw [String.toList_ofList,hrest]
    exact reads_bracketed hchs
  by_cases hne : trim address = ""
  · refine .inr ?_
    have hcanon : canonicalOr address = "" := by
      rw [canonicalOr,canonicalDestination,if_pos hne,hne]
      rfl
    rw [hcanon,isSeen,hostPart,hne]
    exact ⟨rfl,isPlainlyForbidden_empty,rfl⟩
  cases hsock : parseSocketAddr (trim address) with
  | some => exact reads_socket hopen hne hsock
  | none =>
    cases hspl : rsplitOnce ':' (trim address) with
    | none => exact reads_bare hopen hne hsock (rsplitOnce_eq_none_iff.mp hspl)
    | some => exact reads_host_port hopen hne hsock hspl

def DestinationDiversityTracker.atCap (tracker : DestinationDiversityTracker) (tunnelId : String)
    (now : ℕ) (destination : String) : Bool :=
  let entry:=tracker.entryAt tunnelId now
  destination ∉ entry.destinations && tracker.cap≤entry.destinations.card

theorem recordAt_block_iff (tracker : DestinationDiversityTracker) (tunnelId address : String)
    (now : ℕ) :
    (∃ n, (tracker.recordAt tunnelId address now).1 = .block n) ↔
      (destinationKey address).any (tracker.atCap tunnelId now)=true := by
  rw [DestinationDiversityTracker.recordAt]
  cases destinationKey address with
  | none => simp
  | some =>
    simp only [Option.any_some,DestinationDiversityTracker.atCap,Bool.and_eq_true,
      decide_eq_true_eq]
    split_ifs with hmem hcap hwarn
    · simp [hmem]
    · exact ⟨fun _ => ⟨hmem,hcap⟩,fun _ => ⟨_,rfl⟩⟩
    · simp [hcap]
    · simp [hcap]

theorem isAllowed_defaults (f : Foreign R) (address : String) :
    (⟨defaults,[]⟩ : HostFilter R).isAllowed f address =
      (parse address).any fun target => !isPlainlyForbidden target.host := by
  rw [isAllowed]
  cases parse address with
  | none => rfl
  | some target =>
    simp only [defaults_any,Option.any_some]
    cases isPlainlyForbidden target.host with
    | true | false => rfl

/-- An address with a forbidden host is refused just when the host is seen in
its spelling, or the Tunnel has no room for another destination. -/
theorem destination_denylist_iff (f : Foreign R) (tracker : DestinationDiversityTracker) (now : ℕ)
    (tunnelId address : String) (hforbidden : isForbiddenHost (bareHost (hostPart address)) = true) :
    (∃ e, (checkDestinationPolicy f tracker now tunnelId address).1 = .error e) ↔
      isSeen address = true ∨
      (destinationKey ((canonicalDestination address).getD (trim address))).any
        (tracker.atCap tunnelId now) = true := by
  have halw : (⟨defaults,[]⟩ : HostFilter R).isAllowed f (canonicalOr address) =
      !isSeen address := by
    rw [isAllowed_defaults]
    rcases reads address with ⟨_,hread,hpt⟩ | ⟨-,-,hbare⟩
    · rw [hread,Option.any_some,hpt]
    rw [hbare] at hforbidden
    exact absurd hforbidden (by decide)
  rw [← recordAt_block_iff]
  delta checkDestinationPolicy
  rw [new_defaults]
  dsimp only
  rw [show (canonicalDestination address).getD (trim address)=canonicalOr address from rfl,halw,
    Bool.not_not]
  cases isSeen address with
  | true => simp
  | false =>
    rcases tracker.recordAt tunnelId (canonicalOr address) now with ⟨decision,_⟩
    cases decision <;> simp

def noRegex : Foreign Unit := ⟨fun _ => .error "",fun _ _ => false,id,fun _ => ""⟩

theorem destination_denylist_dotted :
    ∃ e, (checkDestinationPolicy noRegex
      (.new DESTINATION_DIVERSITY_WARN_CAP DESTINATION_DIVERSITY_WINDOW) 0 "tunnel"
      " METADATA.google.internal.. :080").1 = .error e :=
  (destination_denylist_iff noRegex _ 0 "tunnel" _ (by decide)).mpr (.inl (by decide))

theorem destination_denylist_evaded :
    (["[::ffff:169.254.169.254]:80", "::ffff:0.0.0.1", "[metadata.google.internal.]:80",
        "metadata.google.internal:99999", "169.254.169.254:", "[169.254.169.254:80"].all fun address =>
      isForbiddenHost (bareHost (hostPart address)) &&
        (checkDestinationPolicy noRegex
          (.new DESTINATION_DIVERSITY_WARN_CAP DESTINATION_DIVERSITY_WINDOW) 0 "tunnel"
          address).1.isOk) = true := by
  delta checkDestinationPolicy
  decide

end Lantunnel.Gateway
