import Lantunnel.Client.AccessPolicy
import Lantunnel.Lib.Ipv4Text

/-!
# Authorization of inbound dial targets

`resolve_inbound_dial_target` with a V2 profile active
(tp-client/src/engine.rs:6733-6826), the single resolution of a requested address
(tp-client/src/engine/util.rs:190-243) and LAN export prefixes
(tp-client/src/peer_runtime.rs:15-70).
-/

namespace Lantunnel.Client
open Lib.RustStd Lib.RustNet CompiledRuleV2 ClientAccessTargetClassV2

/-! ### Local LAN exports (peer_runtime.rs:15-70) -/

structure LanExportPrefixV2 where
  network : Ipv4Addr
  prefixLen : ℕ
  deriving DecidableEq

def LanExportPrefixV2.contains (block : LanExportPrefixV2) (address : Ipv4Addr) : Bool :=
  address &&& mask 32 block.prefixLen=block.network

structure LanExportV2 where
  block : LanExportPrefixV2
  ready : Bool
  deriving DecidableEq

structure PeerRuntimeRecordV2 where
  lanExports : List LanExportV2
  deriving DecidableEq

/-! ### Resolving a requested address (engine/util.rs:190-243) -/

structure ResolvedTargetAddr where
  originalHost : String
  socket : SocketAddr
  deriving DecidableEq

inductive LookupResult
  | timedOut
  | failed (error : String)
  | resolved (addrs : List SocketAddr)

abbrev LookupHost := String → UInt16 → LookupResult

def targetShapeError : String := "target must be host-or-IP:port"

def resolveHost (lookupHost : LookupHost) (host : String) (port : UInt16) (ipv4Only : Bool) :
    Except String ResolvedTargetAddr :=
  match lookupHost host port with
  | .timedOut => .error "target DNS resolution timed out"
  | .failed error => .error ("target DNS resolution failed: " ++ error)
  | .resolved addrs => do
    let socket ← okOr "target has no usable address"
      (firstSorted (addrs.filter fun candidate => !ipv4Only || candidate.isIpv4))
    .ok ⟨host,socket⟩

def resolveTargetAddrOnce (lookupHost : LookupHost) (address : String) (ipv4Only : Bool) :
    Except String ResolvedTargetAddr :=
  match parseSocketAddr address with
  | some socket =>
    if ipv4Only && !socket.isIpv4 then .error "target has no IPv4 address"
    else .ok ⟨socket.ip.toString,socket⟩
  | none => do
    let (host,port) ← okOr targetShapeError (rsplitOnce ':' address)
    if host = "" || containsAny [':','[',']','/','\\'] host || host.toList.any isWhitespace then
      .error targetShapeError
    else
      let port ← okOr targetShapeError (parseUnsigned 65536 port)
      resolveHost lookupHost host (UInt16.ofNat port) ipv4Only

theorem resolveTargetAddrOnce_localhost (lookupHost : LookupHost) (port : UInt16) :
    resolveTargetAddrOnce lookupHost ("127.0.0.1:" ++ decimal port.toNat) false =
      .ok ⟨"127.0.0.1",.v4 LOCALHOST port⟩ := by
  have htext : "127.0.0.1"=ipv4ToString LOCALHOST := by decide
  have hcol : "127.0.0.1:"=ipv4ToString LOCALHOST ++ ":" := by decide
  unfold resolveTargetAddrOnce
  rw [hcol,parseSocketAddr_v4,htext]
  rfl

/-! ### Where a request comes from (engine.rs:6741-6772) -/

/-- The session a request arrived on. On the relay: the Peer of the sealed flow
stored for its `conn_id`, else the attested source. On a direct session: the
local Peer id, and the Peer installed for the session given it. -/
inductive Delivery
  | relay (v2RelaySource : Option String) (attestedSource : Except String (Option String))
  | direct (localPeerId : Option String) (authenticatedRemotePeer : String → Option String)

def Delivery.isRelay : Delivery → Bool
  | relay .. => true
  | direct .. => false

def Delivery.sourcePeerId : Delivery → Except String (Option String)
  | relay (some source) _ => .ok (some source)
  | relay none attestedSource => attestedSource
  | direct localPeerId authenticatedRemotePeer => do
    let localPeerId ← okOr "direct session lacks the local stable Peer identity"
      (localPeerId.filter fun peer => trim peer ≠ "")
    let source ← okOr "direct session is not installed for a canonical Peer relation"
      (authenticatedRemotePeer localPeerId)
    .ok (some source)

/-! ### The decision (engine.rs:6773-6826) -/

structure InboundContext where
  policy : CompiledClientAccessPolicyV2
  localRuntime : PeerRuntimeRecordV2
  ownOverlay : Ipv4Addr
  lookupHost : LookupHost

structure InboundDialTarget where
  address : String
  relayLocalAuthorized : Bool
  v2AccessAuthorized : Bool
  deriving DecidableEq

def targetClass (ctx : InboundContext) (requested : ResolvedTargetAddr) :
    Except String ClientAccessTargetClassV2 :=
  if requested.socket.ip = .v4 ctx.ownOverlay then
    .ok (.thisPeer ctx.ownOverlay)
  else
    match requested.socket.ip with
    | .v6 _ => .error "NotAuthorized"
    | .v4 ip =>
      if ctx.localRuntime.lanExports.any fun lanExport =>
          lanExport.ready && lanExport.block.contains ip then
        .ok (.other requested.originalHost)
      else
        .error "NotAuthorized"

/-- `map_err(|_| "NotAuthorized")`. -/
def notAuthorized {α : Type} : Except String α → Except String α
  | .ok a => .ok a
  | .error _ => .error "NotAuthorized"

def dialSocket (ctx : InboundContext) (protocol : Protocol) (cls : ClientAccessTargetClassV2)
    (requested : SocketAddr) : Except String SocketAddr :=
  match ctx.policy.decide cls protocol requested with
  | .allowDirect => .ok requested
  | .allowThisPeer finalTarget => do
    let finalTarget ← notAuthorized (resolveTargetAddrOnce ctx.lookupHost finalTarget false)
    if ctx.policy.mappedFinalAllowed protocol finalTarget.originalHost finalTarget.socket then
      .ok finalTarget.socket
    else
      .error "NotAuthorized"
  | .deny => .error "NotAuthorized"

def resolveInboundDialTarget (ctx : InboundContext) (delivery : Delivery) (protocol : Protocol)
    (address : String) : Except String InboundDialTarget := do
  let sourcePeerId ← delivery.sourcePeerId
  let _ ← okOr "V2 delivery lacks an authenticated source Peer" sourcePeerId
  let requestedTarget ← notAuthorized (resolveTargetAddrOnce ctx.lookupHost address true)
  let cls ← targetClass ctx requestedTarget
  let target ← dialSocket ctx protocol cls requestedTarget.socket
  .ok ⟨target.toString,delivery.isRelay,true⟩

def CompiledRuleV2.concerns (rule : CompiledRuleV2) (protocol : Protocol) (port : UInt16) : Bool :=
  rule.protocol = .ofProtocol protocol && rule.port.covers port

def CompiledRuleV2.namesHost (rule : CompiledRuleV2) (host : String) : Bool :=
  match rule.target with
  | .host pattern => pattern.matches host
  | _ => false

def CompiledRuleV2.coversAddress (rule : CompiledRuleV2) (ownOverlay : Ipv4Addr) (ip : IpAddr) :
    Bool :=
  match rule.target with
  | .thisPeer => ip = .v4 ownOverlay
  | .ip expected => ip=expected
  | .cidr block => block.contains ip
  | .host _ => false

structure DirectGrant (ctx : InboundContext) (protocol : Protocol) (requested : ResolvedTargetAddr)
    (socket : SocketAddr) : Prop where
  same : socket=requested.socket
  exported : ∃ ip, socket.ip = .v4 ip ∧ ∃ lanExport ∈ ctx.localRuntime.lanExports,
    lanExport.ready=true ∧ lanExport.block.contains ip=true
  named : (∃ rule ∈ ctx.policy.allow, rule.target ≠ .thisPeer) →
    ∃ rule ∈ ctx.policy.allow, rule.matches (.other requested.originalHost) protocol socket=true

structure MappedGrant (ctx : InboundContext) (protocol : Protocol) (requested : ResolvedTargetAddr)
    (socket : SocketAddr) : Prop where
  overlay : requested.socket.ip = .v4 ctx.ownOverlay
  mapping : ∃ rule ∈ ctx.policy.allow, rule.target = .thisPeer ∧
    rule.concerns protocol requested.socket.port=true
  loopback : socket = .v4 LOCALHOST requested.socket.port

/-- No Deny rule of this protocol and port matches the requested host name, the
resolved address or the dialed socket. -/
def NotDenied (ctx : InboundContext) (protocol : Protocol) (requested : ResolvedTargetAddr)
    (socket : SocketAddr) : Prop :=
  ∀ rule ∈ ctx.policy.deny, rule.concerns protocol requested.socket.port=true →
    rule.namesHost requested.originalHost=false ∧
    rule.coversAddress ctx.ownOverlay requested.socket.ip=false ∧
    rule.coversAddress ctx.ownOverlay socket.ip=false

def Authorized (ctx : InboundContext) (protocol : Protocol) (address : String)
    (target : InboundDialTarget) : Prop :=
  ∃ requested socket, resolveTargetAddrOnce ctx.lookupHost address true = .ok requested ∧
    target.address=SocketAddr.toString socket ∧
    (DirectGrant ctx protocol requested socket ∨ MappedGrant ctx protocol requested socket) ∧
    NotDenied ctx protocol requested socket

/-- The request resolves to the own Overlay address and is mapped to loopback
(no Deny rule matches either address, the first matching Allow rule is a
mapping), while a Deny rule names the requested host. -/
structure HostDenyBypassed (ctx : InboundContext) (delivery : Delivery) (protocol : Protocol)
    (requested : ResolvedTargetAddr) : Prop where
  source : ∃ peer, delivery.sourcePeerId = .ok (some peer)
  overlay : requested.socket.ip = .v4 ctx.ownOverlay
  notDenied : ctx.policy.denies (.thisPeer ctx.ownOverlay) protocol requested.socket=false
  mapping : (ctx.policy.matchingAllow (.thisPeer ctx.ownOverlay) protocol requested.socket).any
    (·.target.isThisPeer)=true
  loopback : ctx.policy.mappedFinalAllowed protocol "127.0.0.1"
    (.v4 LOCALHOST requested.socket.port)=true
  named : ∃ rule ∈ ctx.policy.deny, rule.concerns protocol requested.socket.port=true ∧
    rule.namesHost requested.originalHost=true

section Grants
variable {ctx : InboundContext} {delivery : Delivery} {protocol : Protocol} {address : String}
  {requested : ResolvedTargetAddr} {socket : SocketAddr}

theorem matches_eq (rule : CompiledRuleV2) (cls : ClientAccessTargetClassV2) (addr : SocketAddr) :
    rule.matches cls protocol addr =
      (rule.concerns protocol addr.port && rule.target.matches cls addr) := by
  unfold CompiledRuleV2.matches CompiledRuleV2.concerns
  by_cases hp : rule.protocol = .ofProtocol protocol
  · simp
  · simp [hp]

theorem matches_thisPeer_eq (rule : CompiledRuleV2) (own : Ipv4Addr) (addr : SocketAddr) :
    rule.target.matches (.thisPeer own) addr=rule.coversAddress own addr.ip := by
  unfold CompiledTargetV2.matches coversAddress
  cases rule.target <;> rfl

theorem matches_other_eq (rule : CompiledRuleV2) (own : Ipv4Addr) (host : String)
    (addr : SocketAddr) : rule.target.matches (.other host) addr =
      (rule.namesHost host || (!rule.target.isThisPeer && rule.coversAddress own addr.ip)) := by
  unfold CompiledTargetV2.matches coversAddress namesHost
  cases rule.target <;> simp [CompiledTargetV2.isThisPeer]

theorem resolveInboundDialTarget_eq_ok {target : InboundDialTarget} :
    resolveInboundDialTarget ctx delivery protocol address = .ok target ↔
      ∃ peer requested cls socket, delivery.sourcePeerId = .ok (some peer) ∧
        resolveTargetAddrOnce ctx.lookupHost address true = .ok requested ∧
        targetClass ctx requested = .ok cls ∧
        dialSocket ctx protocol cls requested.socket = .ok socket ∧
        target=⟨socket.toString,delivery.isRelay,true⟩ := by
  have hnot : ∀ {α : Type} {x : Except String α} {a : α}, notAuthorized x = .ok a ↔ x = .ok a := by
    intro α x a
    cases x <;> simp [notAuthorized]
  constructor
  · intro h
    obtain ⟨_,hsrc,h⟩:=bind_eq_ok.mp h
    obtain ⟨peer,hpeer,h⟩:=bind_eq_ok.mp h
    obtain ⟨requested,hresolve,h⟩:=bind_eq_ok.mp h
    obtain ⟨cls,hcls,h⟩:=bind_eq_ok.mp h
    obtain ⟨socket,hsock,h⟩:=bind_eq_ok.mp h
    rw [okOr_eq_ok.mp hpeer] at hsrc
    exact ⟨peer,requested,cls,socket,hsrc,hnot.mp hresolve,hcls,hsock,(Except.ok.inj h).symm⟩
  · rintro ⟨peer,requested,cls,socket,hsrc,hresolve,hcls,hsock,rfl⟩
    refine bind_eq_ok.mpr ⟨_,hsrc,bind_eq_ok.mpr ⟨peer,rfl,?_⟩⟩
    refine bind_eq_ok.mpr ⟨requested,hnot.mpr hresolve,bind_eq_ok.mpr ⟨cls,hcls,?_⟩⟩
    exact bind_eq_ok.mpr ⟨socket,hsock,rfl⟩

theorem targetClass_overlay (h : requested.socket.ip = .v4 ctx.ownOverlay) :
    targetClass ctx requested = .ok (.thisPeer ctx.ownOverlay) := by
  rw [targetClass,if_pos h]

theorem targetClass_other {cls : ClientAccessTargetClassV2}
    (h : requested.socket.ip ≠ .v4 ctx.ownOverlay) (hok : targetClass ctx requested = .ok cls) :
    cls = .other requested.originalHost ∧ ∃ ip, requested.socket.ip = .v4 ip ∧
      ∃ lanExport∈ctx.localRuntime.lanExports,
        lanExport.ready=true ∧ lanExport.block.contains ip=true := by
  rw [targetClass,if_neg h] at hok
  split at hok
  · cases hok
  rename_i ip hip
  split_ifs at hok with hany
  obtain ⟨lanExport,hmem,hexport⟩:=List.any_eq_true.mp hany
  rw [Bool.and_eq_true] at hexport
  exact ⟨(Except.ok.inj hok).symm,ip,hip,lanExport,hmem,hexport⟩

theorem dialSocket_other {host : String} {addr : SocketAddr}
    (h : dialSocket ctx protocol (.other host) addr = .ok socket) :
    socket=addr ∧ ctx.policy.denies (.other host) protocol addr=false ∧
      (ctx.policy.allowIsGate=true →
        (ctx.policy.matchingAllow (.other host) protocol addr).isSome=true) := by
  rw [dialSocket,ctx.policy.decide_eq] at h
  cases hdeny : ctx.policy.denies (.other host) protocol addr with
  | true =>
    simp only [hdeny,if_true] at h
    cases h
  | false =>
    cases hgate : ctx.policy.allowIsGate with
    | false =>
      simp [hdeny,hgate,mapsOverlay] at h
      exact ⟨h.symm,rfl,by simp⟩
    | true =>
      cases hfnd : ctx.policy.matchingAllow (.other host) protocol addr with
      | none => simp [hdeny,hgate,hfnd] at h
      | some =>
        simp [hdeny,hgate,hfnd,mapsOverlay] at h
        exact ⟨h.symm,rfl,fun _ => rfl⟩

theorem dialSocket_thisPeer {addr : SocketAddr} (hip : addr.ip = .v4 ctx.ownOverlay) :
    dialSocket ctx protocol (.thisPeer ctx.ownOverlay) addr = .ok socket ↔
      ctx.policy.denies (.thisPeer ctx.ownOverlay) protocol addr=false ∧
      (ctx.policy.matchingAllow (.thisPeer ctx.ownOverlay) protocol addr).any
        (·.target.isThisPeer)=true ∧
      ctx.policy.mappedFinalAllowed protocol "127.0.0.1" (.v4 LOCALHOST addr.port)=true ∧
      socket = .v4 LOCALHOST addr.port := by
  have hmaps : mapsOverlay (.thisPeer ctx.ownOverlay) addr=true := by
    simp [mapsOverlay,hip]
  rw [dialSocket,ctx.policy.decide_eq,hmaps]
  cases hdeny : ctx.policy.denies (.thisPeer ctx.ownOverlay) protocol addr with
  | true => simp
  | false =>
    cases hfnd : ctx.policy.matchingAllow (.thisPeer ctx.ownOverlay) protocol addr with
    | none => cases ctx.policy.allowIsGate <;> simp
    | some rule =>
      cases hthis : rule.target.isThisPeer with
      | false => simp [hthis]
      | true =>
        simp only [Option.isNone_some,Bool.and_false,Option.any_some,hthis,if_true,
          Bool.false_eq_true,if_false,resolveTargetAddrOnce_localhost,true_and]
        cases hfinal : ctx.policy.mappedFinalAllowed protocol "127.0.0.1"
            (.v4 LOCALHOST addr.port) with
        | false => simp [notAuthorized,bind,Except.bind,hfinal]
        | true => simp [notAuthorized,bind,Except.bind,hfinal,eq_comm]

theorem isThisPeer_iff (target : CompiledTargetV2) :
    target.isThisPeer=true ↔ target = .thisPeer := by
  cases target <;> simp [CompiledTargetV2.isThisPeer]

theorem matches_of_denies_eq_false {cls : ClientAccessTargetClassV2} {addr : SocketAddr}
    (h : ctx.policy.denies cls protocol addr=false) {rule : CompiledRuleV2}
    (hrule : rule∈ctx.policy.deny) (habout : rule.concerns protocol addr.port=true) :
    rule.target.matches cls addr=false := by
  have hnot:=List.any_eq_false.mp h rule hrule
  rw [matches_eq,habout,Bool.true_and] at hnot
  exact Bool.eq_false_iff.mpr hnot

theorem directGrant_of_dialSocket (hne : requested.socket.ip ≠ .v4 ctx.ownOverlay)
    {ip : Ipv4Addr} (hip : requested.socket.ip = .v4 ip) {lanExport : LanExportV2}
    (hmem : lanExport∈ctx.localRuntime.lanExports) (hrdy : lanExport.ready=true)
    (hhas : lanExport.block.contains ip=true)
    (h : dialSocket ctx protocol (.other requested.originalHost) requested.socket = .ok socket) :
    DirectGrant ctx protocol requested socket ∧ NotDenied ctx protocol requested socket := by
  obtain ⟨rfl,hdeny,hgate⟩:=dialSocket_other h
  refine ⟨⟨rfl,⟨ip,hip,lanExport,hmem,hrdy,hhas⟩,?_⟩,?_⟩
  · rintro ⟨rule,hrule,hoth⟩
    have hnamed : (ctx.policy.allow.any fun rule => !rule.target.isThisPeer)=true := by
      refine List.any_eq_true.mpr ⟨rule,hrule,?_⟩
      rw [Bool.not_eq_true',Bool.eq_false_iff]
      exact fun hthis => hoth ((isThisPeer_iff _).mp hthis)
    have hsome:=hgate (ctx.policy.gate_of_named hnamed)
    obtain ⟨found,hfnd⟩:=Option.isSome_iff_exists.mp hsome
    exact ⟨found,ctx.policy.matchingAllow_some _ _ _ hfnd⟩
  · intro rule hrule habout
    have hmatch:=matches_of_denies_eq_false hdeny hrule habout
    rw [matches_other_eq rule ctx.ownOverlay,Bool.or_eq_false_iff] at hmatch
    have hcover : rule.coversAddress ctx.ownOverlay requested.socket.ip=false := by
      cases hthis : rule.target.isThisPeer with
      | false => simpa [hthis] using hmatch.2
      | true =>
        rw [coversAddress,(isThisPeer_iff _).mp hthis]
        simpa using hne
    exact ⟨hmatch.1,hcover,hcover⟩

theorem mappedGrant_of_dialSocket (hip : requested.socket.ip = .v4 ctx.ownOverlay)
    (hhost : ∀ rule∈ctx.policy.deny, rule.concerns protocol requested.socket.port=true →
      rule.namesHost requested.originalHost=false)
    (h : dialSocket ctx protocol (.thisPeer ctx.ownOverlay) requested.socket = .ok socket) :
    MappedGrant ctx protocol requested socket ∧ NotDenied ctx protocol requested socket := by
  obtain ⟨hdeny,hmap,hfinal,rfl⟩:=(dialSocket_thisPeer hip).mp h
  refine ⟨⟨hip,?_,rfl⟩,?_⟩
  · obtain ⟨rule,hfnd,hthis⟩:=(Option.any_eq_true _ _).mp hmap
    obtain ⟨hmem,hmatch⟩:=ctx.policy.matchingAllow_some _ _ _ hfnd
    rw [matches_eq,Bool.and_eq_true] at hmatch
    exact ⟨rule,hmem,(isThisPeer_iff _).mp hthis,hmatch.1⟩
  · intro rule hrule habout
    have hcover : rule.coversAddress ctx.ownOverlay requested.socket.ip=false := by
      rw [← matches_thisPeer_eq]
      exact matches_of_denies_eq_false hdeny hrule habout
    refine ⟨hhost rule hrule habout,hcover,?_⟩
    have hloop : ctx.policy.denies (.other "127.0.0.1") protocol
        (.v4 LOCALHOST requested.socket.port)=false := by
      rwa [CompiledClientAccessPolicyV2.mappedFinalAllowed_eq,Bool.not_eq_true'] at hfinal
    have hmatch:=matches_of_denies_eq_false hloop hrule habout
    rw [matches_other_eq rule ctx.ownOverlay,Bool.or_eq_false_iff] at hmatch
    cases hthis : rule.target.isThisPeer with
    | false => simpa [hthis] using hmatch.2
    | true =>
      -- a Deny on this Peer already matched the Overlay address
      rw [coversAddress,(isThisPeer_iff _).mp hthis] at hcover
      simp [hip] at hcover

end Grants

/-- Whatever is asked, every granted target is authorized if and only if the
request does not bypass a Deny rule on the requested host. -/
theorem resolveInboundDialTarget_authorized_iff (ctx : InboundContext) (delivery : Delivery)
    (protocol : Protocol) (address : String) :
    (∀ target, resolveInboundDialTarget ctx delivery protocol address = .ok target →
      Authorized ctx protocol address target) ↔
    ∀ requested, resolveTargetAddrOnce ctx.lookupHost address true = .ok requested →
      ¬ HostDenyBypassed ctx delivery protocol requested := by
  constructor
  · intro hall requested hresolve hbypass
    obtain ⟨⟨peer,hsrc⟩,hip,hdeny,hmap,hfinal,rule,hrule,habout,hnames⟩ :=
      hbypass
    have hdial : dialSocket ctx protocol (.thisPeer ctx.ownOverlay) requested.socket =
        .ok (.v4 LOCALHOST requested.socket.port) :=
      (dialSocket_thisPeer hip).mpr ⟨hdeny,hmap,hfinal,rfl⟩
    have hok:=resolveInboundDialTarget_eq_ok.mpr
      ⟨peer,requested,_,_,hsrc,hresolve,targetClass_overlay hip,hdial,rfl⟩
    obtain ⟨_,socket,hresolve',-,-,hnotDenied⟩:=hall _ hok
    rw [hresolve] at hresolve'
    cases hresolve'
    have hfalse:=(hnotDenied rule hrule habout).1
    rw [hnames] at hfalse
    cases hfalse
  · intro hall target hok
    obtain ⟨peer,requested,_,socket,hsrc,hresolve,hcls,hdial,rfl⟩ :=
      resolveInboundDialTarget_eq_ok.mp hok
    by_cases hip : requested.socket.ip = .v4 ctx.ownOverlay
    · rw [targetClass_overlay hip] at hcls
      cases hcls
      obtain ⟨hdeny,hmap,hfinal,-⟩:=(dialSocket_thisPeer hip).mp hdial
      have hhost : ∀ rule∈ctx.policy.deny, rule.concerns protocol requested.socket.port=true →
          rule.namesHost requested.originalHost=false := by
        intro rule hrule habout
        rw [Bool.eq_false_iff]
        intro hnames
        exact hall requested hresolve ⟨⟨peer,hsrc⟩,hip,hdeny,hmap,hfinal,
          rule,hrule,habout,hnames⟩
      obtain ⟨hgrant,hnot⟩:=mappedGrant_of_dialSocket hip hhost hdial
      exact ⟨requested,socket,hresolve,rfl,.inr hgrant,hnot⟩
    · obtain ⟨rfl,_,hv4,_,hmem,hrdy,hhas⟩:=targetClass_other hip hcls
      obtain ⟨hgrant,hnot⟩ :=
        directGrant_of_dialSocket hip hv4 hmem hrdy hhas hdial
      exact ⟨requested,socket,hresolve,rfl,.inl hgrant,hnot⟩

/-- A mapping of the own Overlay address, a Deny rule on one name, and a resolver
that gives this name the own Overlay address. -/
def secretLanContext : InboundContext where
  policy := ⟨false,[⟨.thisPeer,.tcp,.any⟩],[⟨.host (.exact "secret.lan"),.tcp,.any⟩],nofun⟩
  localRuntime := ⟨[]⟩
  ownOverlay := 0xc6120001
  lookupHost := fun _ port => .resolved [.v4 0xc6120001 port]

theorem secretLan_deny_overridden :
    CompiledClientAccessPolicyV2.compile
        ⟨[⟨.thisPeer, .tcp, .any⟩], [⟨.host "secret.lan", .tcp, .any⟩]⟩ =
          .ok secretLanContext.policy ∧
      resolveInboundDialTarget secretLanContext (.relay (some "peer-a") (.ok none)) .tcp
          "secret.lan:22" = .ok ⟨"127.0.0.1:22", true, true⟩ ∧
      ¬ Authorized secretLanContext .tcp "secret.lan:22" ⟨"127.0.0.1:22", true, true⟩ := by
  have hresolve : resolveTargetAddrOnce secretLanContext.lookupHost "secret.lan:22" true =
      .ok ⟨"secret.lan",.v4 0xc6120001 22⟩ := by decide +kernel
  refine ⟨rfl,?_,?_⟩
  · decide +kernel
  rintro ⟨_,_,hreq,-,-,hnot⟩
  rw [hresolve] at hreq
  cases hreq
  have hnames:=(hnot ⟨.host (.exact "secret.lan"),.tcp,.any⟩ (by decide) (by decide)).1
  revert hnames
  decide

end Lantunnel.Client
