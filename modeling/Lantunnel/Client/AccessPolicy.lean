import Mathlib.Data.List.Forall2
import Mathlib.Data.List.Perm.Basic
import Lantunnel.Lib.RustNet

/-!
# The target-side access policy (tp-client/src/access_policy.rs)

Compilation of the Allow and Deny lists (`access_policy.rs:168-322`), the decision on
one requested socket address (`:195-254`), rule matching (`:324-352`), host patterns and
CIDR blocks (`:363-419`).
-/

namespace Lantunnel.Client
open Lib.RustStd Lib.RustNet List

/-! ### Policies as written (access_policy.rs:12-65) -/

inductive Protocol
  | tcp
  | udp
  deriving DecidableEq

inductive ClientAccessTargetV2
  | thisPeer
  | ip (address : IpAddr)
  | cidr (block : String)
  | host (pattern : String)
  deriving DecidableEq

inductive ClientAccessPortV2
  | any
  | exact (port : UInt16)
  deriving DecidableEq

inductive ClientAccessProtocolV2
  | tcp
  | udp
  deriving DecidableEq

def ClientAccessProtocolV2.ofProtocol : Protocol → ClientAccessProtocolV2
  | .tcp => tcp
  | .udp => udp

structure ClientAccessRuleV2 where
  target : ClientAccessTargetV2
  protocol : ClientAccessProtocolV2
  port : ClientAccessPortV2
  deriving DecidableEq

structure ClientAccessPolicyV2 where
  allow : List ClientAccessRuleV2
  deny : List ClientAccessRuleV2

structure ClientAccessPolicyErrorV2 where
  list : String
  index : ℕ
  reason : String
  deriving DecidableEq

/-! ### Compiled rules (access_policy.rs:130-155, 363-419) -/

inductive HostPatternV2
  | exact (host : String)
  | suffix (suffix : String)
  deriving DecidableEq

def HostPatternV2.matches (pattern : HostPatternV2) (host : String) : Bool :=
  let host:=toAsciiLowercase (trimEndMatches '.' (trim host))
  match pattern with
  | exact expected => host=expected
  | suffix expected => host=expected || endsWith ("." ++ expected) host

inductive IpCidrV2
  | v4 (base : BitVec 32) (bits : ℕ)
  | v6 (base : BitVec 128) (bits : ℕ)
  deriving DecidableEq

/-- `mask_u32` and `mask_u128`: the top `bits` of `w` bits. -/
def mask (w bits : ℕ) : BitVec w := if bits=0 then 0 else BitVec.allOnes w <<< (w-bits)

def IpCidrV2.parse (value : String) : Option IpCidrV2 := do
  let (address,bits) ← splitOnce '/' value
  let bits ← parseUnsigned 256 bits
  match parseIpv4Addr address with
  | some ip => if 32<bits then none else some (v4 (ip &&& mask 32 bits) bits)
  | none =>
    let ip ← parseIpv6Addr address
    if 128<bits then none else some (v6 (ip &&& mask 128 bits) bits)

def IpCidrV2.contains : IpCidrV2 → IpAddr → Bool
  | v4 base bits, .v4 ip => ip &&& mask 32 bits=base
  | v6 base bits, .v6 ip => ip &&& mask 128 bits=base
  | _, _ => false

inductive CompiledTargetV2
  | thisPeer
  | ip (address : IpAddr)
  | cidr (block : IpCidrV2)
  | host (pattern : HostPatternV2)
  deriving DecidableEq

def CompiledTargetV2.isThisPeer : CompiledTargetV2 → Bool
  | thisPeer => true
  | _ => false

structure CompiledRuleV2 where
  target : CompiledTargetV2
  protocol : ClientAccessProtocolV2
  port : ClientAccessPortV2
  deriving DecidableEq

inductive ClientAccessTargetClassV2
  | thisPeer (ownOverlay : Ipv4Addr)
  | other (requestedHost : String)

inductive ClientAccessDecisionV2
  | allowDirect
  | allowThisPeer (finalTarget : String)
  | deny
  deriving DecidableEq

/-! ### Matching (access_policy.rs:324-352) -/

def ClientAccessPortV2.covers (rulePort : ClientAccessPortV2) (port : UInt16) : Bool :=
  match rulePort with
  | any => true
  | exact expected => expected=port

def CompiledTargetV2.matches (target : CompiledTargetV2) (cls : ClientAccessTargetClassV2)
    (requested : SocketAddr) : Bool :=
  match target, cls with
  | thisPeer, .thisPeer ownOverlay => requested.ip = .v4 ownOverlay
  | ip expected, _ => requested.ip=expected
  | cidr block, _ => block.contains requested.ip
  | host pattern, .other requestedHost => pattern.matches requestedHost
  | _, _ => false

def CompiledRuleV2.matches (rule : CompiledRuleV2) (cls : ClientAccessTargetClassV2)
    (protocol : Protocol) (requested : SocketAddr) : Bool :=
  if rule.protocol ≠ .ofProtocol protocol || !rule.port.covers requested.port then
    false
  else
    rule.target.matches cls requested

/-! ### Compilation (access_policy.rs:170-181, 256-322) -/

def compileTarget (list : String) (index : ℕ) :
    ClientAccessTargetV2 → Except ClientAccessPolicyErrorV2 CompiledTargetV2
  | .thisPeer => .ok .thisPeer
  | .ip address => .ok (.ip address)
  | .cidr block => do
    let block ← okOr ⟨list,index,"invalid CIDR"⟩ (IpCidrV2.parse block)
    .ok (.cidr block)
  | .host pattern =>
    let host:=toAsciiLowercase (trim pattern)
    if host = "" || containsAny ['/',':','\\'] host || host.toList.any isWhitespace then
      .error ⟨list,index,"invalid host pattern"⟩
    else
      match stripPrefix "*." host with
      | some suffix =>
        if suffix = "" || containsAny ['*'] suffix then
          .error ⟨list,index,"invalid host suffix"⟩
        else
          .ok (.host (.suffix suffix))
      | none =>
        if containsAny ['*'] host then
          .error ⟨list,index,"only *.suffix wildcard is allowed"⟩
        else
          .ok (.host (.exact host))

def compileRule (list : String) (index : ℕ) (rule : ClientAccessRuleV2) :
    Except ClientAccessPolicyErrorV2 CompiledRuleV2 :=
  if rule.port = .exact 0 then
    .error ⟨list,index,"port must be non-zero"⟩
  else do
    let target ← compileTarget list index rule.target
    .ok ⟨target,rule.protocol,rule.port⟩

def compileRules (list : String) (rules : List ClientAccessRuleV2) :
    Except ClientAccessPolicyErrorV2 (List CompiledRuleV2) :=
  rules.zipIdx.mapM fun (rule,index) => compileRule list index rule

/-- The gate is closed as soon as the Allow list names anything but this Peer;
both constructors below keep that. -/
structure CompiledClientAccessPolicyV2 where
  allowIsGate : Bool
  allow : List CompiledRuleV2
  deny : List CompiledRuleV2
  gate_of_named : (allow.any fun rule => !rule.target.isThisPeer)=true → allowIsGate=true

namespace CompiledClientAccessPolicyV2

def compile (policy : ClientAccessPolicyV2) :
    Except ClientAccessPolicyErrorV2 CompiledClientAccessPolicyV2 := do
  let allow ← compileRules "allow" policy.allow
  let deny ← compileRules "deny" policy.deny
  .ok ⟨allow.any fun rule => !rule.target.isThisPeer,allow,deny,id⟩

/-! ### The decision (access_policy.rs:195-254) -/

def decide (policy : CompiledClientAccessPolicyV2) (cls : ClientAccessTargetClassV2)
    (protocol : Protocol) (requested : SocketAddr) : ClientAccessDecisionV2 :=
  if policy.deny.any fun rule => rule.matches cls protocol requested then
    .deny
  else
    let matchingAllow:=policy.allow.find? fun rule => rule.matches cls protocol requested
    if policy.allowIsGate && matchingAllow.isNone then
      .deny
    else
      match cls with
      | .thisPeer ownOverlay =>
        if requested.ip = .v4 ownOverlay then
          match matchingAllow.filter fun rule => rule.target.isThisPeer with
          | none => .deny
          | some _ => .allowThisPeer ("127.0.0.1:" ++ decimal requested.port.toNat)
        else
          .allowDirect
      | .other _ => .allowDirect

def mappedFinalAllowed (policy : CompiledClientAccessPolicyV2) (protocol : Protocol)
    (finalHost : String) (finalTarget : SocketAddr) : Bool :=
  !policy.deny.any fun rule => rule.matches (.other finalHost) protocol finalTarget

end CompiledClientAccessPolicyV2

/-! ### Compilation is rule by rule

The list name and the index of a rule show up in its error only, so a list
compiles exactly when each of its rules does, in any order. -/

def ClientAccessRuleV2.compiled (rule : ClientAccessRuleV2) : Option CompiledRuleV2 :=
  (compileRule "" 0 rule).toOption

theorem compileTarget_toOption (list list' : String) (i i' : ℕ) (target : ClientAccessTargetV2) :
    (compileTarget list i target).toOption=(compileTarget list' i' target).toOption := by
  cases target with
  | thisPeer | ip address => rfl
  | cidr block =>
    simp only [compileTarget]
    cases IpCidrV2.parse block with
    | none | some block => rfl
  | host pattern =>
    simp only [compileTarget]
    cases stripPrefix "*." (toAsciiLowercase (trim pattern)) with
    | none => split_ifs <;> rfl
    | some =>
      dsimp only
      split_ifs <;> rfl

theorem compileRule_eq_ok {list : String} {i : ℕ} {rule : ClientAccessRuleV2}
    {r : CompiledRuleV2} : compileRule list i rule = .ok r ↔ rule.compiled=some r := by
  have htgt:=compileTarget_toOption list "" i 0 rule.target
  rw [← toOption_eq_some,ClientAccessRuleV2.compiled]
  unfold compileRule
  split_ifs
  · rfl
  rcases h : compileTarget list i rule.target with e | t <;>
    rcases h' : compileTarget "" 0 rule.target with e' | t' <;>
    simp_all [Except.toOption,bind,Except.bind]

variable {out : List CompiledRuleV2}

theorem mapM_zipIdx_eq_ok {list : String} {rules : List ClientAccessRuleV2} {n : ℕ} :
    (rules.zipIdx n).mapM (fun entry => compileRule list entry.2 entry.1) = .ok out ↔
      List.Forall₂ (fun rule r => rule.compiled=some r) rules out := by
  induction rules generalizing n out with
  | nil => simp [pure,Except.pure,eq_comm]
  | cons rule rules ih =>
    rw [zipIdx_cons,mapM_cons,bind_eq_ok,forall₂_cons_left_iff]
    constructor
    · rintro ⟨r,hr,h⟩
      obtain ⟨rs,hrs,h⟩:=bind_eq_ok.mp h
      exact ⟨r,rs,compileRule_eq_ok.mp hr,ih.mp hrs,(Except.ok.inj h).symm⟩
    · rintro ⟨r,rs,hr,hrs,rfl⟩
      exact ⟨r,compileRule_eq_ok.mpr hr,bind_eq_ok.mpr ⟨rs,ih.mpr hrs,rfl⟩⟩

theorem compileRules_eq_ok {list : String} {rules : List ClientAccessRuleV2} :
    compileRules list rules = .ok out ↔
      List.Forall₂ (fun rule r => rule.compiled=some r) rules out :=
  mapM_zipIdx_eq_ok

theorem compileRules_perm {list : String} {rules rules' : List ClientAccessRuleV2}
    (h : compileRules list rules = .ok out) (hperm : rules.Perm rules') :
    ∃ out', compileRules list rules' = .ok out' ∧ out.Perm out' := by
  obtain ⟨out',hfor,hout⟩:=perm_comp_forall₂ hperm.symm (compileRules_eq_ok.mp h)
  exact ⟨out',compileRules_eq_ok.mpr hfor,hout.symm⟩

theorem compile_eq_ok {policy : ClientAccessPolicyV2} {compiled : CompiledClientAccessPolicyV2} :
    CompiledClientAccessPolicyV2.compile policy = .ok compiled ↔
      compileRules "allow" policy.allow = .ok compiled.allow ∧
      compileRules "deny" policy.deny = .ok compiled.deny ∧
      compiled.allowIsGate=compiled.allow.any fun rule => !rule.target.isThisPeer := by
  constructor
  · intro h
    obtain ⟨_,hallow,h⟩:=bind_eq_ok.mp h
    obtain ⟨_,hdeny,h⟩:=bind_eq_ok.mp h
    cases h
    exact ⟨hallow,hdeny,rfl⟩
  · rintro ⟨hallow,hdeny,hgate⟩
    refine bind_eq_ok.mpr ⟨_,hallow,bind_eq_ok.mpr ⟨_,hdeny,?_⟩⟩
    cases compiled
    simp only [Except.ok.injEq,CompiledClientAccessPolicyV2.mk.injEq,and_true]
    exact hgate.symm

def ClientAccessTargetClassV2.mapsOverlay (cls : ClientAccessTargetClassV2)
    (requested : SocketAddr) : Bool :=
  match cls with
  | thisPeer ownOverlay => requested.ip = .v4 ownOverlay
  | other _ => false

namespace CompiledClientAccessPolicyV2
variable (policy : CompiledClientAccessPolicyV2) (cls : ClientAccessTargetClassV2)
  (protocol : Protocol) (requested : SocketAddr)

def denies : Bool := policy.deny.any fun rule => rule.matches cls protocol requested

def matchingAllow : Option CompiledRuleV2 :=
  policy.allow.find? fun rule => rule.matches cls protocol requested

theorem matchingAllow_some {rule : CompiledRuleV2}
    (h : policy.matchingAllow cls protocol requested=some rule) :
    rule∈policy.allow ∧ rule.matches cls protocol requested=true := by
  have hmatch:=find?_some h
  exact ⟨mem_of_find?_eq_some h,hmatch⟩

theorem mappedFinalAllowed_eq (host : String) : policy.mappedFinalAllowed protocol host requested =
      !policy.denies (.other host) protocol requested := rfl

theorem decide_eq : policy.decide cls protocol requested =
      if policy.denies cls protocol requested then .deny
      else if policy.allowIsGate && (policy.matchingAllow cls protocol requested).isNone then .deny
      else if cls.mapsOverlay requested then
        if (policy.matchingAllow cls protocol requested).any (·.target.isThisPeer) then
          .allowThisPeer ("127.0.0.1:" ++ decimal requested.port.toNat)
        else .deny
      else .allowDirect := by
  unfold decide denies matchingAllow
  cases cls with
  | other => simp [ClientAccessTargetClassV2.mapsOverlay]
  | thisPeer =>
    generalize List.find? _ policy.allow=found
    cases found with
    | none => simp [ClientAccessTargetClassV2.mapsOverlay]
    | some rule =>
      cases hthis : rule.target.isThisPeer with
      | false | true => simp [ClientAccessTargetClassV2.mapsOverlay,Option.filter,hthis]

end CompiledClientAccessPolicyV2

theorem find?_isNone_eq {α : Type} (f : α → Bool) (l : List α) : (l.find? f).isNone = !l.any f := by
  rw [Bool.eq_iff_iff]
  simp

theorem find?_any_of_uniform {α : Type} {f g : α → Bool} {l : List α}
    (h : ∀ a∈l, ∀ b∈l, f a=true → f b=true → g a=g b) :
    (l.find? f).any g=l.any fun a => f a && g a := by
  rcases hfind : l.find? f with - | a
  · simp_all
  · grind

/-! ### The order of the lists

The documentation promises that list order carries no meaning. It carries one
in exactly one situation: a request for the own Overlay address that no Deny
rule matches, while the Allow list holds both a matching `ThisPeer` rule and a
matching rule of another kind. There the first of the two decides. -/

def ClientAccessRuleV2.applies (rule : ClientAccessRuleV2) (cls : ClientAccessTargetClassV2)
    (protocol : Protocol) (requested : SocketAddr) : Bool :=
  rule.compiled.any fun r => r.matches cls protocol requested

structure MixedMapping (policy : ClientAccessPolicyV2) (cls : ClientAccessTargetClassV2)
    (protocol : Protocol) (requested : SocketAddr) : Prop where
  maps : cls.mapsOverlay requested=true
  notDenied : ∀ rule ∈ policy.deny, rule.applies cls protocol requested=false
  mapping : ∃ rule ∈ policy.allow, rule.target = .thisPeer ∧
    rule.applies cls protocol requested=true
  other : ∃ rule ∈ policy.allow, rule.target ≠ .thisPeer ∧
    rule.applies cls protocol requested=true

/-- Every reordering of the two lists compiles, and decides the request alike. -/
def OrderIrrelevant (policy : ClientAccessPolicyV2) (compiled : CompiledClientAccessPolicyV2)
    (cls : ClientAccessTargetClassV2) (protocol : Protocol) (requested : SocketAddr) : Prop :=
  ∀ policy' : ClientAccessPolicyV2, policy.allow.Perm policy'.allow →
    policy.deny.Perm policy'.deny →
    ∃ compiled', CompiledClientAccessPolicyV2.compile policy' = .ok compiled' ∧
      compiled'.decide cls protocol requested=compiled.decide cls protocol requested

section Order
variable {policy : ClientAccessPolicyV2} {compiled : CompiledClientAccessPolicyV2}
  {cls : ClientAccessTargetClassV2} {protocol : Protocol} {requested : SocketAddr}

theorem mem_of_forall₂_left {α β : Type} {R : α → β → Prop} {l : List α} {m : List β} {b : β}
    (h : List.Forall₂ R l m) (hb : b∈m) : ∃ a∈l, R a b := by
  induction h with
  | nil => cases hb
  | cons => grind

theorem compileRules_source {list : String} {rules : List ClientAccessRuleV2}
    {out : List CompiledRuleV2} (h : compileRules list rules = .ok out) {r : CompiledRuleV2}
    (hr : r∈out) : ∃ rule∈rules, rule.compiled=some r := by
  obtain ⟨rule,hrule,hcompile⟩:=mem_of_forall₂_left (compileRules_eq_ok.mp h) hr
  exact ⟨rule,hrule,hcompile⟩

variable {rule : ClientAccessRuleV2}

theorem compileRules_image {list : String} {rules : List ClientAccessRuleV2}
    {out : List CompiledRuleV2} (h : compileRules list rules = .ok out) (hrule : rule∈rules) :
    ∃ r∈out, rule.compiled=some r :=
  mem_of_forall₂_left (compileRules_eq_ok.mp h).flip hrule

theorem compileTarget_isThisPeer {list : String} {i : ℕ} {target : ClientAccessTargetV2}
    {t : CompiledTargetV2} (h : compileTarget list i target = .ok t) :
    t.isThisPeer=true ↔ target = .thisPeer := by
  cases target with
  | thisPeer =>
    cases h
    simp [CompiledTargetV2.isThisPeer]
  | ip =>
    cases h
    simp [CompiledTargetV2.isThisPeer]
  | cidr =>
    obtain ⟨_,-,h⟩:=bind_eq_ok.mp h
    cases h
    simp [CompiledTargetV2.isThisPeer]
  | host =>
    simp only [compileTarget] at h
    obtain ⟨-,h⟩:=ite_error_eq_ok.mp h
    split at h
    · obtain ⟨-,h⟩:=ite_error_eq_ok.mp h
      rw [← Except.ok.inj h]
      simp [CompiledTargetV2.isThisPeer]
    obtain ⟨-,h⟩:=ite_error_eq_ok.mp h
    rw [← Except.ok.inj h]
    simp [CompiledTargetV2.isThisPeer]

theorem compiled_isThisPeer {r : CompiledRuleV2}
    (h : rule.compiled=some r) : r.target.isThisPeer=true ↔ rule.target = .thisPeer := by
  have hok : compileRule "" 0 rule = .ok r := compileRule_eq_ok.mpr h
  obtain ⟨-,hok⟩:=ite_error_eq_ok.mp hok
  obtain ⟨t,ht,hok⟩:=bind_eq_ok.mp hok
  cases hok
  exact compileTarget_isThisPeer ht

theorem applies_of_compiled {r : CompiledRuleV2} (h : rule.compiled=some r) :
    rule.applies cls protocol requested=r.matches cls protocol requested := by
  rw [ClientAccessRuleV2.applies,h,Option.any_some]

theorem perm_decide_eq {p q : CompiledClientAccessPolicyV2} (hallow : p.allow.Perm q.allow)
    (hdeny : p.deny.Perm q.deny) (hgate : p.allowIsGate=q.allowIsGate)
    (huniform : cls.mapsOverlay requested=true → p.denies cls protocol requested=false →
      ∀ a∈p.allow, ∀ b∈p.allow, a.matches cls protocol requested=true →
        b.matches cls protocol requested=true → a.target.isThisPeer=b.target.isThisPeer) :
    p.decide cls protocol requested=q.decide cls protocol requested := by
  have hdenies : p.denies cls protocol requested=q.denies cls protocol requested :=
    hdeny.any_eq
  have hnone : (p.matchingAllow cls protocol requested).isNone =
      (q.matchingAllow cls protocol requested).isNone := by
    unfold CompiledClientAccessPolicyV2.matchingAllow
    rw [find?_isNone_eq,find?_isNone_eq,hallow.any_eq]
  rw [p.decide_eq,q.decide_eq,hdenies,hgate,hnone]
  cases hd : q.denies cls protocol requested with
  | true => rfl
  | false =>
    cases hm : cls.mapsOverlay requested with
    | false => rfl
    | true =>
      have hu:=huniform hm (hdenies.trans hd)
      have hu' : ∀ a∈q.allow, ∀ b∈q.allow, a.matches cls protocol requested=true →
          b.matches cls protocol requested=true → a.target.isThisPeer=b.target.isThisPeer :=
        fun a ha b hb => hu a (hallow.mem_iff.mpr ha) b (hallow.mem_iff.mpr hb)
      have hfst : (p.matchingAllow cls protocol requested).any (·.target.isThisPeer) =
          (q.matchingAllow cls protocol requested).any (·.target.isThisPeer) := by
        unfold CompiledClientAccessPolicyV2.matchingAllow
        rw [find?_any_of_uniform hu,find?_any_of_uniform hu',hallow.any_eq]
      rw [hfst]

theorem denies_eq_false (h : CompiledClientAccessPolicyV2.compile policy = .ok compiled) :
    compiled.denies cls protocol requested=false ↔
      ∀ rule∈policy.deny, rule.applies cls protocol requested=false := by
  obtain ⟨-,hdeny,-⟩:=compile_eq_ok.mp h
  constructor
  · intro hfalse rule hrule
    obtain ⟨r,hr,hc⟩:=compileRules_image hdeny hrule
    have hnone:=any_eq_false.mp hfalse r hr
    rw [applies_of_compiled hc]
    exact Bool.eq_false_iff.mpr hnone
  · intro hall
    apply any_eq_false.mpr
    intro r hr
    obtain ⟨rule,hrule,hc⟩:=compileRules_source hdeny hr
    rw [← applies_of_compiled hc,hall rule hrule]
    decide

theorem decide_of_front {rest deny : List ClientAccessRuleV2}
    (h : CompiledClientAccessPolicyV2.compile ⟨rule::rest,deny⟩ = .ok compiled)
    (hmaps : cls.mapsOverlay requested=true)
    (hdeny : ∀ d∈deny, d.applies cls protocol requested=false)
    (hrule : rule.applies cls protocol requested=true) : compiled.decide cls protocol requested =
      if rule.target = .thisPeer then
        .allowThisPeer ("127.0.0.1:" ++ decimal requested.port.toNat)
      else .deny := by
  have hdenies : compiled.denies cls protocol requested=false := (denies_eq_false h).mpr hdeny
  obtain ⟨hallow,-,-⟩:=compile_eq_ok.mp h
  obtain ⟨r,_,hr,-,heq⟩:=forall₂_cons_left_iff.mp (compileRules_eq_ok.mp hallow)
  have hfst : compiled.matchingAllow cls protocol requested=some r := by
    rw [CompiledClientAccessPolicyV2.matchingAllow,heq]
    exact find?_cons_of_pos (applies_of_compiled hr ▸ hrule)
  rw [compiled.decide_eq,hdenies,hfst,hmaps]
  by_cases hthis : rule.target = .thisPeer
  · have hr':=(compiled_isThisPeer hr).mpr hthis
    simp [hthis,hr']
  have hr' : ¬ r.target.isThisPeer=true := fun hc => hthis ((compiled_isThisPeer hr).mp hc)
  simp [hthis,hr']

theorem decide_of_orderIrrelevant (hirr : OrderIrrelevant policy compiled cls protocol requested)
    (hmaps : cls.mapsOverlay requested=true)
    (hdeny : ∀ d∈policy.deny, d.applies cls protocol requested=false)
    (hmem : rule∈policy.allow) (hrule : rule.applies cls protocol requested=true) :
    compiled.decide cls protocol requested =
      if rule.target = .thisPeer then
        .allowThisPeer ("127.0.0.1:" ++ decimal requested.port.toNat)
      else .deny := by
  obtain ⟨_,h',hdecide⟩:=hirr ⟨rule::policy.allow.erase rule,policy.deny⟩
    (perm_cons_erase hmem) (List.Perm.refl _)
  rw [← hdecide]
  exact decide_of_front h' hmaps hdeny hrule

theorem orderIrrelevant_of_not_mixed
    (h : CompiledClientAccessPolicyV2.compile policy = .ok compiled)
    (hmixed : ¬ MixedMapping policy cls protocol requested) :
    OrderIrrelevant policy compiled cls protocol requested := by
  intro policy' hpallow hpdeny
  obtain ⟨hallow,hdeny,hgate⟩:=compile_eq_ok.mp h
  obtain ⟨allow',hallow',hpa⟩:=compileRules_perm hallow hpallow
  obtain ⟨deny',hdeny',hpd⟩:=compileRules_perm hdeny hpdeny
  have hgate' : (allow'.any fun rule => !rule.target.isThisPeer)=compiled.allowIsGate := by
    rw [hgate,hpa.any_eq]
  refine ⟨⟨compiled.allowIsGate,allow',deny',fun hg => hgate' ▸ hg⟩,
    compile_eq_ok.mpr ⟨hallow',hdeny',hgate'.symm⟩,?_⟩
  symm
  refine perm_decide_eq hpa hpd ?_ ?_
  · rfl
  intro hmaps hdenies a ha b hb hma hmb
  obtain ⟨ra,hra,hca⟩:=compileRules_source hallow ha
  obtain ⟨rb,hrb,hcb⟩:=compileRules_source hallow hb
  rw [← applies_of_compiled hca] at hma
  rw [← applies_of_compiled hcb] at hmb
  have hnot:=(denies_eq_false h).mp hdenies
  -- two matching rules of different kinds would be a mixed mapping
  rw [Bool.eq_iff_iff,compiled_isThisPeer hca,compiled_isThisPeer hcb]
  by_cases hta : ra.target = .thisPeer
  · by_cases htb : rb.target = .thisPeer
    · exact iff_of_true hta htb
    · exact absurd ⟨hmaps,hnot,⟨ra,hra,hta,hma⟩,⟨rb,hrb,htb,hmb⟩⟩ hmixed
  by_cases htb : rb.target = .thisPeer
  · exact absurd ⟨hmaps,hnot,⟨rb,hrb,htb,hmb⟩,⟨ra,hra,hta,hma⟩⟩ hmixed
  · exact iff_of_false hta htb

end Order

/-- List order carries no meaning for a request exactly when the request is not
caught by a mixed mapping. -/
theorem orderIrrelevant_iff_not_mixedMapping (policy : ClientAccessPolicyV2)
    (compiled : CompiledClientAccessPolicyV2)
    (h : CompiledClientAccessPolicyV2.compile policy = .ok compiled)
    (cls : ClientAccessTargetClassV2) (protocol : Protocol) (requested : SocketAddr) :
    OrderIrrelevant policy compiled cls protocol requested ↔
      ¬ MixedMapping policy cls protocol requested := by
  constructor
  · intro hirr hmixed
    obtain ⟨hmaps,hdeny,⟨r,hr,hthis,hmr⟩,⟨s,hs,hoth,hms⟩⟩:=hmixed
    have hmap:=decide_of_orderIrrelevant hirr hmaps hdeny hr hmr
    have hdir:=decide_of_orderIrrelevant hirr hmaps hdeny hs hms
    rw [hmap,if_pos hthis,if_neg hoth] at hdir
    cases hdir
  · exact orderIrrelevant_of_not_mixed h

def mixedPolicy : ClientAccessPolicyV2 :=
  { allow := [⟨.thisPeer,.tcp,.any⟩,⟨.ip (.v4 0xc6120001),.tcp,.any⟩], deny := [] }

theorem orderIrrelevant_iff_udp_request :
    ∃ compiled, CompiledClientAccessPolicyV2.compile mixedPolicy = .ok compiled ∧
      (OrderIrrelevant mixedPolicy compiled (.thisPeer 0xc6120001) .udp (.v4 0xc6120001 80) ↔
        ¬ MixedMapping mixedPolicy (.thisPeer 0xc6120001) .udp (.v4 0xc6120001 80)) :=
  ⟨⟨true,[⟨.thisPeer,.tcp,.any⟩,⟨.ip (.v4 0xc6120001),.tcp,.any⟩],[],fun _ => rfl⟩,rfl,
    orderIrrelevant_iff_not_mixedMapping _ _ rfl _ _ _⟩

theorem mixedPolicy_order_matters :
    ∃ compiled, CompiledClientAccessPolicyV2.compile mixedPolicy = .ok compiled ∧
      ¬ OrderIrrelevant mixedPolicy compiled (.thisPeer 0xc6120001) .tcp
        (.v4 0xc6120001 80) := by
  refine ⟨⟨true,[⟨.thisPeer,.tcp,.any⟩,⟨.ip (.v4 0xc6120001),.tcp,.any⟩],[],fun _ => rfl⟩,rfl,?_⟩
  intro hirr
  obtain ⟨_,hcompile,hdecide⟩:=hirr
    ⟨[⟨.ip (.v4 0xc6120001),.tcp,.any⟩,⟨.thisPeer,.tcp,.any⟩],[]⟩
    (List.Perm.swap _ _ _) (List.Perm.refl _)
  cases hcompile
  revert hdecide
  decide

end Lantunnel.Client
