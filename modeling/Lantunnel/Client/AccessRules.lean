import Lantunnel.Client.AccessPolicy
import Lantunnel.Lib.TextCuts

/-!
# What rules of the access policy do (tp-client/src/access_policy.rs:91-105, 170-254)

A policy with the deny rules of a closed one denies everything, deny rules only take
away, and the own Overlay address is reached through a `ThisPeer` rule or not at all.
-/

namespace Lantunnel.Client
open Lib.RustStd Lib.RustNet List

def ClientAccessPolicyV2.isClosed (policy : ClientAccessPolicyV2) : Bool :=
  let covers (protocol : ClientAccessProtocolV2) (family : String) :=
    policy.deny.any fun rule =>
      rule.protocol=protocol && rule.port = .any && rule.target = .cidr family
  [.tcp,.udp].all fun protocol => covers protocol "0.0.0.0/0" && covers protocol "::/0"

section Rules
variable {policy : ClientAccessPolicyV2} {compiled : CompiledClientAccessPolicyV2}
  {cls : ClientAccessTargetClassV2} {protocol : Protocol} {requested : SocketAddr}

theorem isClosed_mem (h : policy.isClosed=true) (protocol : ClientAccessProtocolV2) :
    ⟨.cidr "0.0.0.0/0",protocol,.any⟩∈policy.deny ∧ ⟨.cidr "::/0",protocol,.any⟩∈policy.deny := by
  have hcover : ∀ family, (policy.deny.any fun rule => rule.protocol=protocol && rule.port = .any &&
      rule.target = .cidr family)=true → ⟨.cidr family,protocol,.any⟩∈policy.deny := by
    intro family hany
    obtain ⟨⟨_,_⟩,hrule,hfits⟩:=any_eq_true.mp hany
    simp only [Bool.and_eq_true,decide_eq_true_eq] at hfits
    obtain ⟨⟨rfl,rfl⟩,rfl⟩:=hfits
    exact hrule
  have hboth:=all_eq_true.mp h protocol (by cases protocol <;> decide)
  rw [Bool.and_eq_true] at hboth
  exact ⟨hcover _ hboth.1,hcover _ hboth.2⟩

section
variable (h : CompiledClientAccessPolicyV2.compile policy = .ok compiled)
include h

/-- The blocks `is_closed` looks for hold every address of their family. -/
theorem denies_of_isClosed
    (hcls : policy.isClosed=true) : compiled.denies cls protocol requested=true := by
  obtain ⟨hv4,hv6⟩:=isClosed_mem hcls (.ofProtocol protocol)
  rw [← Bool.not_eq_false,denies_eq_false h]
  intro hnone
  cases requested with
  | v4 =>
    have hc : (⟨.cidr "0.0.0.0/0",.ofProtocol protocol,.any⟩ : ClientAccessRuleV2).compiled=
        some ⟨.cidr (.v4 0 0),.ofProtocol protocol,.any⟩ := by cases protocol <;> decide
    have hfalse:=hnone _ hv4
    rw [applies_of_compiled hc] at hfalse
    simp [CompiledRuleV2.matches,ClientAccessPortV2.covers,CompiledTargetV2.matches,
      IpCidrV2.contains,mask,SocketAddr.ip] at hfalse
  | v6 =>
    have hc : (⟨.cidr "::/0",.ofProtocol protocol,.any⟩ : ClientAccessRuleV2).compiled=
        some ⟨.cidr (.v6 0 0),.ofProtocol protocol,.any⟩ := by cases protocol <;> decide
    have hfalse:=hnone _ hv6
    rw [applies_of_compiled hc] at hfalse
    simp [CompiledRuleV2.matches,ClientAccessPortV2.covers,CompiledTargetV2.matches,
      IpCidrV2.contains,mask,SocketAddr.ip] at hfalse

theorem denies_of_subset {policy' : ClientAccessPolicyV2} {compiled' : CompiledClientAccessPolicyV2}
    (h' : CompiledClientAccessPolicyV2.compile policy' = .ok compiled')
    (hdeny : policy.deny ⊆ policy'.deny) (hfalse : compiled'.denies cls protocol requested=false) :
    compiled.denies cls protocol requested=false :=
  (denies_eq_false h).mpr fun rule hrule => (denies_eq_false h').mp hfalse rule (hdeny hrule)

theorem allow_eq {policy' : ClientAccessPolicyV2} {compiled' : CompiledClientAccessPolicyV2}
    (h' : CompiledClientAccessPolicyV2.compile policy' = .ok compiled')
    (hallow : policy'.allow=policy.allow) :
    compiled'.allow=compiled.allow ∧ compiled'.allowIsGate=compiled.allowIsGate := by
  obtain ⟨hok,-,hgate⟩:=compile_eq_ok.mp h
  obtain ⟨hok',-,hgate'⟩:=compile_eq_ok.mp h'
  rw [hallow,hok] at hok'
  have hsame:=Except.ok.inj hok'
  exact ⟨hsame.symm,by rw [hgate,hgate',hsame]⟩

theorem allowIsGate_of_thisPeer
    (hthis : ∀ rule∈policy.allow, rule.target = .thisPeer) : compiled.allowIsGate=false := by
  obtain ⟨hallow,-,hgate⟩:=compile_eq_ok.mp h
  rw [hgate,any_eq_false]
  intro r hr
  obtain ⟨rule,hrule,hc⟩:=compileRules_source hallow hr
  simp [(compiled_isThisPeer hc).mpr (hthis rule hrule)]

end

/-- Closed and deny are absolute, and only a `ThisPeer` rule opens the own Overlay
address. -/
theorem compiled_policy_laws (h : CompiledClientAccessPolicyV2.compile policy = .ok compiled)
    (cls : ClientAccessTargetClassV2) (protocol : Protocol) (requested : SocketAddr) :
    (policy.isClosed = true → compiled.decide cls protocol requested = .deny ∧
      ∀ host, compiled.mappedFinalAllowed protocol host requested = false) ∧
    (∀ policy' compiled', CompiledClientAccessPolicyV2.compile policy' = .ok compiled' →
      policy'.allow = policy.allow → policy.deny ⊆ policy'.deny →
      (compiled'.decide cls protocol requested = .deny ∨
        compiled'.decide cls protocol requested = compiled.decide cls protocol requested) ∧
      ∀ host, compiled'.mappedFinalAllowed protocol host requested = true →
        compiled.mappedFinalAllowed protocol host requested = true) ∧
    (cls.mapsOverlay requested = true → compiled.decide cls protocol requested ≠ .allowDirect) ∧
    ((∀ rule ∈ policy.allow, rule.target = .thisPeer) → cls.mapsOverlay requested = false →
      (∀ rule ∈ policy.deny, rule.applies cls protocol requested = false) →
      compiled.decide cls protocol requested = .allowDirect) := by
  refine ⟨?_,?_,?_,?_⟩
  · intro hcls
    refine ⟨?_,?_⟩
    · rw [compiled.decide_eq,if_pos (denies_of_isClosed h hcls)]
    intro host
    rw [compiled.mappedFinalAllowed_eq,denies_of_isClosed h hcls]
    rfl
  · intro policy' compiled' h' hallow hdeny
    obtain ⟨hsame,hgate⟩:=allow_eq h h' hallow
    refine ⟨?_,?_⟩
    · cases hdenies : compiled'.denies cls protocol requested with
      | true =>
        rw [compiled'.decide_eq,if_pos hdenies]
        exact .inl rfl
      | false =>
        refine .inr ?_
        rw [compiled'.decide_eq,compiled.decide_eq,hdenies,denies_of_subset h h' hdeny hdenies,hgate,
          CompiledClientAccessPolicyV2.matchingAllow,CompiledClientAccessPolicyV2.matchingAllow,hsame]
    · intro host halw
      rw [compiled'.mappedFinalAllowed_eq,Bool.not_eq_true'] at halw
      rw [compiled.mappedFinalAllowed_eq,denies_of_subset h h' hdeny halw]
      rfl
  · intro hmaps
    rw [compiled.decide_eq]
    split_ifs <;> simp
  · intro hthis hmaps hdeny
    rw [compiled.decide_eq,(denies_eq_false h).mpr hdeny,allowIsGate_of_thisPeer h hthis,hmaps]
    rfl

end Rules

def closedPolicy : ClientAccessPolicyV2 :=
  { allow := [⟨.thisPeer,.tcp,.any⟩]
    deny := [⟨.cidr "0.0.0.0/0",.tcp,.any⟩,⟨.cidr "0.0.0.0/0",.udp,.any⟩,
      ⟨.cidr "::/0",.tcp,.any⟩,⟨.cidr "::/0",.udp,.any⟩] }

theorem compiled_policy_laws_closed : ∃ compiled,
    CompiledClientAccessPolicyV2.compile closedPolicy = .ok compiled ∧
      compiled.decide (.thisPeer 0xc6120001) .tcp (.v4 0xc6120001 80) = .deny :=
  ⟨_,rfl,((compiled_policy_laws rfl (.thisPeer 0xc6120001) .tcp (.v4 0xc6120001 80)).1
    (by decide : closedPolicy.isClosed=true)).1⟩

/-! ### Host rules (access_policy.rs:276-312, 363-371) -/

/-- `request` is `name` in some case, with white space around it and dots behind it. -/
def Spells (name request : String) : Prop :=
  ∃ before body dots after, request.toList=before++(body++(dots++after)) ∧
    (∀ c ∈ before, isWhitespace c=true) ∧ (∀ c ∈ after, isWhitespace c=true) ∧
    (∀ c ∈ dots, c = '.') ∧ body.map Char.toLower=name.toList.map Char.toLower

/-- The hosts a rule text is about: itself, or under `*.s` the host `s` and every `x.s`. -/
def Names (text name : String) : Prop :=
  match stripPrefix "*." text with
  | some s => name=s ∨ ∃ x, name=x ++ "." ++ s
  | none => name=text

section Hosts
variable {list text request name : String} {i : ℕ} {pattern : HostPatternV2}

def normalHost (request : String) : String := toAsciiLowercase (trimEndMatches '.' (trim request))

theorem rdropWhile_append_of_all {α : Type} {p : α → Bool} {l after : List α}
    (h : ∀ c∈after, p c=true) : (l++after).rdropWhile p=l.rdropWhile p := by
  rw [rdropWhile,reverse_append,dropWhile_append_of_pos (by simpa using h)]
  rfl

theorem rdropWhile_spelling {front dots after : List Char} {z : Char} (hz : isWhitespace z=false)
    (hdot : z ≠ '.') (haft : ∀ c∈after, isWhitespace c=true) (hdots : ∀ c∈dots, c= '.') :
    ((front++z::(dots++after)).rdropWhile isWhitespace).rdropWhile (·= '.')=front++[z] := by
  have hstay : dots.rdropWhile isWhitespace=dots := by
    refine rdropWhile_eq_self fun c hc => ?_
    rw [hdots c (mem_of_getLast? hc)]
    decide
  have hgone : dots.rdropWhile (·= '.')=[] := by
    rw [rdropWhile_eq_nil_iff]
    exact fun c hc => decide_eq_true (hdots c hc)
  rw [rdropWhile_append_cons hz,rdropWhile_append_of_all haft,hstay,
    rdropWhile_append_cons (by simpa using hdot),hgone]

theorem normalHost_end (h : Spells name request) {a b : List Char} (hname : name.toList=a++b)
    (hws : ∀ c∈b, isWhitespace c=false) {z : Char} (hlast : b.getLast?=some z) (hz : z ≠ '.') :
    ∃ y, (normalHost request).toList=y++b.map Char.toLower ∧ (a=[] → y=[]) := by
  obtain ⟨_,_,dots,after,hreq,hbef,haft,hdots,hbody⟩:=h
  rw [hname,map_append,map_eq_append_iff] at hbody
  obtain ⟨ba,bb,rfl,hba,hbb⟩:=hbody
  have hwsbb : ∀ c∈bb, isWhitespace c=false := by
    intro c hc
    have hmem : c.toLower∈b.map Char.toLower := hbb ▸ mem_map_of_mem hc
    obtain ⟨d,hd,hdc⟩:=mem_map.mp hmem
    rw [← isWhitespace_toLower,← hdc,isWhitespace_toLower]
    exact hws d hd
  obtain ⟨b',rfl⟩ : ∃ b', b=b'++[z] := getLast?_eq_some_iff.mp hlast
  rw [map_append,map_eq_append_iff] at hbb
  obtain ⟨bb',_,rfl,hbb',hlast'⟩:=hbb
  obtain ⟨w,rfl,hw⟩:=map_eq_singleton_iff.mp hlast'
  have hwdot : w ≠ '.' := by
    rintro rfl
    exact hz (eq_of_toLower_eq (by decide) (hw.symm.trans rfl))
  have hwws:=hwsbb w (by simp)
  -- white space is cut in front of the end
  obtain ⟨y,hy,hnil⟩ : ∃ y, (ba++(bb'++w::(dots++after))).dropWhile isWhitespace=
      y++(bb'++w::(dots++after)) ∧ (ba=[] → y=[]) := by
    have hstay : (bb'++w::(dots++after)).dropWhile isWhitespace=bb'++w::(dots++after) := by
      refine dropWhile_eq_self fun c hc => ?_
      cases bb' with
      | nil => exact (Option.some.inj hc) ▸ hwws
      | cons => exact hwsbb c ((Option.some.inj hc) ▸ by simp)
    refine ⟨ba.dropWhile isWhitespace,?_,fun h => by rw [h]; rfl⟩
    rw [dropWhile_append,hstay]
    split
    · rename_i hemp
      rw [isEmpty_iff.mp hemp,nil_append]
    · rfl
  refine ⟨y.map Char.toLower,?_,?_⟩
  · rw [normalHost,toList_toAsciiLowercase,toList_trimEndMatches,toList_trim,hreq,
      dropWhile_append_of_pos hbef]
    have hshape : (ba++(bb'++[w]))++(dots++after)=ba++(bb'++w::(dots++after)) := by simp
    rw [hshape,hy,← append_assoc,rdropWhile_spelling hwws hwdot haft hdots]
    simp [hbb',hw]
  · intro ha
    rw [ha,map_nil,map_eq_nil_iff] at hba
    rw [hnil hba,map_nil]

theorem normalHost_last (request : String) : (normalHost request).toList.getLast?≠some '.' := by
  rw [normalHost,toList_toAsciiLowercase,toList_trimEndMatches,getLast?_map]
  intro h
  obtain ⟨c,hc,hlower⟩:=Option.map_eq_some_iff.mp h
  have hdot:=getLast?_rdropWhile c hc
  rw [eq_of_toLower_eq (by decide) hlower] at hdot
  exact absurd hdot (by decide)

theorem compileTarget_host (h : compileTarget list i (.host text) = .ok (.host pattern)) :
    (∀ c∈(trim text).toList, isWhitespace c=false) ∧
      ((∃ s, stripPrefix "*." (trim text)=some s ∧ s ≠ "" ∧ pattern = .suffix (toAsciiLowercase s)) ∨
        (stripPrefix "*." (trim text)=none ∧ trim text ≠ "" ∧
          pattern = .exact (toAsciiLowercase (trim text)))) := by
  simp only [compileTarget] at h
  obtain ⟨hok,h⟩:=ite_error_eq_ok.mp h
  simp only [Bool.or_eq_true,decide_eq_true_eq,not_or,any_eq_true,not_exists,not_and] at hok
  obtain ⟨⟨hne,-⟩,hws⟩:=hok
  refine ⟨?_,?_⟩
  · intro c hc
    rw [toList_toAsciiLowercase] at hws
    have hlow:=hws c.toLower (mem_map_of_mem hc)
    rwa [isWhitespace_toLower,Bool.not_eq_true] at hlow
  · cases hstrip : stripPrefix "*." (trim text) with
    | some s =>
      have hlower : stripPrefix "*." (toAsciiLowercase (trim text))=some (toAsciiLowercase s) := by
        rw [stripPrefix_eq_some_iff] at hstrip ⊢
        rw [toList_toAsciiLowercase,hstrip,map_append,toList_toAsciiLowercase]
        rfl
      rw [hlower] at h
      obtain ⟨hs,h⟩:=ite_error_eq_ok.mp h
      refine .inl ⟨s,rfl,?_,(CompiledTargetV2.host.inj (Except.ok.inj h)).symm⟩
      rintro rfl
      exact hs rfl
    | none =>
      have hlower : stripPrefix "*." (toAsciiLowercase (trim text))=none := by
        rw [Option.eq_none_iff_forall_ne_some] at hstrip ⊢
        intro r hr
        rw [stripPrefix_eq_some_iff,toList_toAsciiLowercase,map_eq_append_iff] at hr
        obtain ⟨a,b,hab,ha,-⟩:=hr
        have ha : a.map Char.toLower=['*','.'] := ha
        obtain ⟨_,_,rfl,hx,ha⟩:=map_eq_cons_iff.mp ha
        obtain ⟨y,rfl,hy⟩:=map_eq_singleton_iff.mp ha
        rw [eq_of_toLower_eq (by decide) hx,eq_of_toLower_eq (by decide) hy] at hab
        exact hstrip (String.ofList b) (stripPrefix_eq_some_iff.mpr (by simpa using hab))
      rw [hlower] at h
      obtain ⟨-,h⟩:=ite_error_eq_ok.mp h
      refine .inr ⟨rfl,?_,(CompiledTargetV2.host.inj (Except.ok.inj h)).symm⟩
      intro hemp
      rw [hemp] at hne
      exact hne rfl

theorem matches_exact : (HostPatternV2.exact name).matches request=true ↔
    normalHost request=name := by
  change decide (normalHost request=name)=true ↔ _
  rw [decide_eq_true_eq]

theorem matches_suffix : (HostPatternV2.suffix name).matches request=true ↔
    normalHost request=name ∨ ∃ y, (normalHost request).toList=y++ '.'::name.toList := by
  change (decide (normalHost request=name) || endsWith ("."++name) (normalHost request))=true ↔ _
  rw [Bool.or_eq_true,decide_eq_true_eq,endsWith,isSuffixOf_iff_suffix,String.toList_append]
  exact or_congr_right ⟨fun ⟨y,hy⟩ => ⟨y,hy.symm⟩,fun ⟨y,hy⟩ => ⟨y,hy.symm⟩⟩

theorem spells_self (name : String) : Spells name name :=
  ⟨[],name.toList,[],[],by simp,by simp,by simp,by simp,rfl⟩

/-- A name without white space that does not end with a dot is itself in every spelling. -/
theorem normalHost_spelling (h : Spells name request) (hne : name ≠ "")
    (hws : ∀ c∈name.toList, isWhitespace c=false) (hlast : name.toList.getLast?≠some '.') :
    normalHost request=toAsciiLowercase name := by
  have hnil : name.toList≠[] := fun hnil => hne (String.toList_eq_nil_iff.mp hnil)
  have hz:=getLast?_eq_some_getLast hnil
  obtain ⟨y,hy,hnone⟩:=normalHost_end h (nil_append _).symm hws hz
    fun hdot => hlast (hdot ▸ hz)
  rw [← String.toList_inj,hy,hnone rfl,toList_toAsciiLowercase,nil_append]

/-- A host rule matches every spelling of the hosts it names, unless its text ends
with a dot: then it matches not even itself. -/
theorem host_rule_effective_iff {list text : String} {i : ℕ} {pattern : HostPatternV2}
    (h : compileTarget list i (.host text) = .ok (.host pattern)) :
    (∀ name, Names (trim text) name → ∀ request, Spells name request →
      pattern.matches request = true) ↔ (trim text).toList.getLast? ≠ some '.' := by
  obtain ⟨hws,⟨s,hstrip,hs,rfl⟩ | ⟨hstrip,hne,rfl⟩⟩:=compileTarget_host h
  · have htext : (trim text).toList= '*':: '.'::s.toList := stripPrefix_eq_some_iff.mp hstrip
    have hsnil : s.toList≠[] := fun hnil => hs (String.toList_eq_nil_iff.mp hnil)
    have hlast : (trim text).toList.getLast?=s.toList.getLast? := by
      rw [htext,getLast?_cons_of_ne_nil (cons_ne_nil _ _),
        getLast?_cons_of_ne_nil hsnil]
    have hsws : ∀ c∈s.toList, isWhitespace c=false := by
      intro c hc
      exact hws c (htext ▸ by simp [hc])
    rw [hlast]
    simp only [Names,hstrip]
    constructor
    · intro hall hdot
      refine normalHost_last s ?_
      rcases matches_suffix.mp (hall s (.inl rfl) s (spells_self s)) with hnorm | ⟨y,hnorm⟩
      · rw [hnorm,toList_toAsciiLowercase,getLast?_map,hdot]
        rfl
      have hlow : (toAsciiLowercase s).toList≠[] := by
        rw [toList_toAsciiLowercase]
        simpa using hsnil
      rw [hnorm,getLast?_append_of_ne_nil _ (cons_ne_nil _ _),
        getLast?_cons_of_ne_nil hlow,toList_toAsciiLowercase,getLast?_map,hdot]
      rfl
    · rintro hdot name (rfl | ⟨x,rfl⟩) request hspell
      · exact matches_suffix.mpr (.inl (normalHost_spelling hspell hs hsws hdot))
      have hname : (x++"."++s).toList=x.toList++ '.'::s.toList := by simp
      have hz:=getLast?_eq_some_getLast hsnil
      obtain ⟨y,hy,-⟩:=normalHost_end hspell hname
        (fun c hc => (mem_cons.mp hc).elim (fun h => h ▸ rfl) (hsws c))
        ((getLast?_cons_of_ne_nil hsnil).trans hz) fun h => hdot (h ▸ hz)
      refine matches_suffix.mpr (.inr ⟨y,?_⟩)
      rw [hy,toList_toAsciiLowercase]
      rfl
  · simp only [Names,hstrip,forall_eq]
    constructor
    · intro hall hdot
      refine normalHost_last (trim text) ?_
      rw [matches_exact.mp (hall (trim text) (spells_self _)),toList_toAsciiLowercase,
        getLast?_map,hdot]
      rfl
    · intro hdot request hspell
      exact matches_exact.mpr (normalHost_spelling hspell hne hws hdot)

end Hosts

theorem host_rule_trailing_dot :
    ∃ pattern, compileTarget "allow" 0 (.host "example.com.") = .ok (.host pattern) ∧
      pattern.matches "example.com." = false :=
  ⟨.exact "example.com.",by decide,by decide⟩

theorem host_rule_effective_iff_wildcard : ∃ pattern,
    compileTarget "allow" 0 (.host " *.Example.com") = .ok (.host pattern) ∧
      ∀ name, Names (trim " *.Example.com") name → ∀ request, Spells name request →
        pattern.matches request = true :=
  have hok : compileTarget "allow" 0 (.host " *.Example.com") = .ok (.host (.suffix "example.com")) := by
    decide
  ⟨_,hok,(host_rule_effective_iff hok).mpr (by decide)⟩

end Lantunnel.Client
