import Lantunnel.Gateway.Admission
import Lantunnel.Gateway.RouteMoves

/-!
# The relay invariant

How the stored routes and the open flows of a Gateway relate to what it has done so far.
-/

namespace Lantunnel.Gateway
open Lib Table List Directory Output

/-- Something is delivered only between the two ends of one bind, which are
attachments of different Peers of one tunnel, and without a route only sealed control
that names no flow, to the Peer that was named, in the tunnel of the sender. -/
def Isolated (before : List Output) : Output → Prop
  | .bound _ key source target _ =>
    source.tunnelId=key.tunnelId ∧ target.tunnelId=key.tunnelId ∧
      source.authenticatedPeerV2.peerId ≠ target.authenticatedPeerV2.peerId
  | .forwarded i sender dest what => ∃ key source target time,
    .bound i key source target time ∈ before ∧ what.connId=some key.connId ∧
      ((sender=source ∧ dest=target) ∨ (sender=target ∧ dest=source))
  | .direct sender dest targetPeerId msg => routeless msg ∧
    dest.tunnelId=sender.tunnelId ∧ dest.authenticatedPeerV2.peerId=targetPeerId
  | _ => True

/-- A route instance is bound once, consumed at most once, by its source and
within the time limit, and used only after that; a sealed frame uses it only if
a sealed frame consumed it. -/
def LifeCycle (before : List Output) : Output → Prop
  | .bound i _ _ _ _ => ∀ key source target time, .bound i key source target time ∉ before
  | .consumed i consumer _ time =>
    (∀ c how t, .consumed i c how t ∉ before) ∧ ∃ key target boundAt,
      .bound i key consumer target boundAt ∈ before ∧ time<boundAt+CLIENT_RELAY_BOUND_TTL
  | .forwarded i _ _ what => ∃ c how t, .consumed i c how t ∈ before ∧
    (what.isSealedControl=true → how = .sealedControl)
  | _ => True

def Accounted (before : List Output) (o : Output) : Prop := Isolated before o ∧ LifeCycle before o

def Output.route? : Output → Option ℕ
  | .bound i .. | .consumed i .. => some i
  | _ => none

def Directory.Known (d : Directory) (c : ClientConn) : Prop :=
  ∃ phase, d.attachments.get c.addr=some ⟨c,phase⟩

variable {d : Directory}

theorem Directory.Known.eq {a b : ClientConn} (ha : d.Known a) (hb : d.Known b)
    (haddr : a.addr=b.addr) : a=b := by
  obtain ⟨p,ha⟩:=ha
  obtain ⟨q,hb⟩:=hb
  rw [haddr,hb] at ha
  cases ha
  rfl

theorem Directory.WellFormed.known_of_registered (wf : d.WellFormed) {t : String}
    {c : ClientConn} (h : c∈d.registered t) : d.Known c := by
  obtain ⟨phase,hget,-⟩:=(wf.registered_live t c h).2
  exact ⟨phase,hget⟩

structure RoutesInv (d : Directory) (routes : Table ClientRelayRouteKey ClientRelayRoute)
    (nextIdentity : ℕ) (tr : List Output) : Prop where
  fresh : ∀ o ∈ tr, ∀ i, o.route?=some i → i<nextIdentity
  unique : ∀ i key s t time key' s' t' time', .bound i key s t time ∈ tr →
    .bound i key' s' t' time' ∈ tr → key=key'
  endpoints : ∀ key route, routes.get key=some route →
    route.source ∈ d.registered key.tunnelId ∧ route.target ∈ d.registered key.tunnelId ∧
      route.source.authenticatedPeerV2.peerId ≠ route.target.authenticatedPeerV2.peerId
  stored : ∀ key route, routes.get key=some route →
    .bound route.identity key route.source route.target route.boundAt ∈ tr
  unopened : ∀ key route, routes.get key=some route → route.opened=false →
    route.sealedV2=false ∧ ∀ c how t, .consumed route.identity c how t ∉ tr
  opened : ∀ key route, routes.get key=some route → route.opened=true →
    ∃ c how t, .consumed route.identity c how t ∈ tr ∧
      (route.sealedV2=true → how = .sealedControl)

structure FlowsInv (d : Directory) (flows : Table ℕ TcpFlow) (nextFlow : ℕ)
    (inbound : Table (ℕ × String) ℕ) (tr : List Output) : Prop where
  known : ∀ i flow, flows.get i=some flow → d.Known flow.source ∧ d.Known flow.target
  bound : ∀ i flow, flows.get i=some flow →
    ∃ time, .bound flow.route flow.key flow.source flow.target time ∈ tr
  consumed : ∀ i flow, flows.get i=some flow → ∃ c how t, .consumed flow.route c how t ∈ tr
  fresh : ∀ i flow, flows.get i=some flow → i<nextFlow
  inbound_fresh : ∀ slot i, inbound.get slot=some i → i<nextFlow
  slot : ∀ slot i flow, inbound.get slot=some i → flows.get i=some flow → flow.slot=slot

structure RelayInv (d : Directory) (r : Relays) (tr : List Output) : Prop where
  routes : RoutesInv d r.clientRelays r.nextIdentity tr
  flows : FlowsInv d r.flows r.nextFlow r.inbound tr
  accounted : Justified Accounted tr

theorem RelayInv.sealedOpened {r : Relays} {tr : List Output}
    (h : RelayInv d r tr) : r.SealedOpened := by
  intro key route hget hsealed
  by_contra hcls
  have hunseal:=(h.routes.unopened key route hget (by simpa using hcls)).1
  rw [hunseal] at hsealed
  cases hsealed

theorem relayInv_empty (d : Directory) : RelayInv d .empty [] where
  routes := by constructor <;> simp [Relays.empty]
  flows := by constructor <;> simp [Relays.empty]
  accounted := justified_nil

section Traces
variable {d : Directory} {tr out : List Output}

theorem FlowsInv.append {flows : Table ℕ TcpFlow} {nextFlow : ℕ} {inbound : Table (ℕ × String) ℕ}
    (h : FlowsInv d flows nextFlow inbound tr) (out : List Output) :
    FlowsInv d flows nextFlow inbound (tr++out) where
  __:=h
  bound := by
    intro i flow hget
    obtain ⟨time,hbd⟩:=h.bound i flow hget
    exact ⟨time,List.mem_append_left _ hbd⟩
  consumed := by
    intro i flow hget
    obtain ⟨c,how,t,hcons⟩:=h.consumed i flow hget
    exact ⟨c,how,t,List.mem_append_left _ hcons⟩

theorem RoutesInv.append {routes : Table ClientRelayRouteKey ClientRelayRoute} {nextIdentity : ℕ}
    (h : RoutesInv d routes nextIdentity tr) (hout : ∀ o∈out, o.route?=none) :
    RoutesInv d routes nextIdentity (tr++out) := by
  have hold : ∀ o, o.route?≠none → o∈tr++out → o∈tr := by
    intro o hrt hmem
    rcases mem_append.mp hmem with hmem | hmem
    · exact hmem
    · exact absurd (hout o hmem) hrt
  refine ⟨?_,?_,h.endpoints,?_,?_,?_⟩
  · intro o hmem i hi
    exact h.fresh o (hold o (by rw [hi]; simp) hmem) i hi
  · intro i key s t time key' s' t' time' hb hb'
    exact h.unique i key s t time key' s' t' time' (hold _ (by simp [route?]) hb)
      (hold _ (by simp [route?]) hb')
  · intro key route hget
    exact mem_append_left _ (h.stored key route hget)
  · intro key route hget hcls
    obtain ⟨hsealed,hnone⟩:=h.unopened key route hget hcls
    refine ⟨hsealed,?_⟩
    intro c how t hmem
    exact hnone c how t (hold _ (by simp [route?]) hmem)
  · intro key route hget hopen
    obtain ⟨c,how,t,hmem,hsealed⟩:=h.opened key route hget hopen
    exact ⟨c,how,t,mem_append_left _ hmem,hsealed⟩

end Traces

section Tables
variable {d : Directory} {routes : Table ClientRelayRouteKey ClientRelayRoute} {nextIdentity : ℕ}
  {tr : List Output}

theorem RoutesInv.drop (h : RoutesInv d routes nextIdentity tr)
    {routes' : Table ClientRelayRouteKey ClientRelayRoute}
    (hsub : ∀ key route, routes'.get key=some route → routes.get key=some route) :
    RoutesInv d routes' nextIdentity tr where
  __:=h
  endpoints := fun key route hget => h.endpoints key route (hsub key route hget)
  stored := fun key route hget => h.stored key route (hsub key route hget)
  unopened := fun key route hget => h.unopened key route (hsub key route hget)
  opened := fun key route hget => h.opened key route (hsub key route hget)

variable {route route' : ClientRelayRoute}

section
variable (h : RoutesInv d routes nextIdentity tr)
include h

theorem RoutesInv.rewrite {key : ClientRelayRouteKey} (hget : routes.get key=some route)
    (hsame : route.SameBind route') : RoutesInv d (routes.insert key route') nextIdentity tr := by
  -- what is stored now was stored before, up to counters and half-closes
  have hback : ∀ k current, (routes.insert key route').get k=some current →
      ∃ old, routes.get k=some old ∧ old.SameBind current := by
    intro k current hcur
    rcases get_of_get_insert hcur with hold | ⟨rfl,rfl⟩
    · exact ⟨current,hold,current.sameBind_refl⟩
    · exact ⟨route,hget,hsame⟩
  refine ⟨h.fresh,h.unique,?_,?_,?_,?_⟩
  · intro k current hcur
    obtain ⟨old,hold,hsame⟩:=hback k current hcur
    rw [hsame.source,hsame.target]
    exact h.endpoints k old hold
  · intro k current hcur
    obtain ⟨old,hold,hsame⟩:=hback k current hcur
    rw [hsame.identity,hsame.source,hsame.target,hsame.boundAt]
    exact h.stored k old hold
  · intro k current hcur hcls
    obtain ⟨old,hold,hsame⟩:=hback k current hcur
    rw [hsame.identity,hsame.sealedV2]
    exact h.unopened k old hold (hsame.opened ▸ hcls)
  · intro k current hcur hopen
    obtain ⟨old,hold,hsame⟩:=hback k current hcur
    rw [hsame.identity,hsame.sealedV2]
    exact h.opened k old hold (hsame.opened ▸ hopen)

theorem RoutesInv.key_of_identity {key key' : ClientRelayRouteKey}
    (hget : routes.get key=some route) (hget' : routes.get key'=some route')
    (hid : route'.identity=route.identity) : key'=key := by
  have hbd:=h.stored key' route' hget'
  rw [hid] at hbd
  exact h.unique _ _ _ _ _ _ _ _ _ hbd (h.stored key route hget)

theorem RoutesInv.consume {key : ClientRelayRouteKey}
    (hget : routes.get key=some route) (consumer : ClientConn)
    (how : Consumption) (time : ℕ) (hfr : route.opened=false) {sealedV2 : Bool}
    (hsealed : sealedV2=(route.sealedV2 || decide (how = .sealedControl))) :
    RoutesInv d (routes.insert key { route with opened := true, sealedV2 }) nextIdentity
      (tr++[.consumed route.identity consumer how time]) := by
  have hlt : route.identity<nextIdentity := h.fresh _ (h.stored key route hget) _ rfl
  have hold : ∀ o∈tr++[consumed route.identity consumer how time],
      o∈tr ∨ o = .consumed route.identity consumer how time := by
    simp
  refine ⟨?_,?_,?_,?_,?_,?_⟩
  · intro o ho i hi
    rcases hold o ho with ho | ho
    · exact h.fresh o ho i hi
    subst ho
    cases hi
    exact hlt
  · intro i k s t time' k' s' t' time'' hb hb'
    rcases hold _ hb with hb | hb
    · rcases hold _ hb' with hb' | hb'
      · exact h.unique i k s t time' k' s' t' time'' hb hb'
      · cases hb'
    · cases hb
  · exact forall_insert (h.endpoints key route hget) h.endpoints
  · refine forall_insert (mem_append_left _ (h.stored key route hget)) ?_
    intro k current hcur
    exact mem_append_left _ (h.stored k current hcur)
  · intro k current hcur hcls
    rw [get_insert] at hcur
    split_ifs at hcur with hk
    · cases hcur
      cases hcls
    obtain ⟨hunseal,hnone⟩:=h.unopened k current hcur hcls
    refine ⟨hunseal,?_⟩
    intro c how' t hmem
    rcases hold _ hmem with hmem | hmem
    · exact hnone c how' t hmem
    rw [consumed.injEq] at hmem
    exact hk (h.key_of_identity hget hcur hmem.1)
  · intro k current hcur hopen
    rcases get_of_get_insert hcur with hcur | ⟨rfl,rfl⟩
    · obtain ⟨c,how',t,hmem,hseal'⟩:=h.opened k current hcur hopen
      exact ⟨c,how',t,mem_append_left _ hmem,hseal'⟩
    refine ⟨consumer,how,time,by simp,?_⟩
    have hunseal:=(h.unopened k route hget hfr).1
    intro hnow
    rw [hsealed,hunseal] at hnow
    simpa using hnow

end

end Tables

section Flows
variable {d : Directory} {flows : Table ℕ TcpFlow} {nextFlow : ℕ} {inbound : Table (ℕ × String) ℕ}
  {tr : List Output}

section
variable (h : FlowsInv d flows nextFlow inbound tr)
include h

theorem FlowsInv.insert {i nextFlow' : ℕ} {flow : TcpFlow}
    (hsrc : d.Known flow.source) (htgt : d.Known flow.target)
    (hbd : ∃ time, .bound flow.route flow.key flow.source flow.target time∈tr)
    (hcons : ∃ c how t, .consumed flow.route c how t∈tr) (hi : i<nextFlow')
    (hnext : nextFlow≤nextFlow') (hslot : ∀ slot, inbound.get slot=some i → flow.slot=slot) :
    FlowsInv d (flows.insert i flow) nextFlow' inbound tr := by
  refine ⟨forall_insert ⟨hsrc,htgt⟩ h.known,forall_insert hbd h.bound,
    forall_insert hcons h.consumed,forall_insert hi ?_,?_,?_⟩
  · intro j current hold
    exact (h.fresh j current hold).trans_le hnext
  · intro slot j hj
    exact (h.inbound_fresh slot j hj).trans_le hnext
  · intro slot j current hj hcur
    rcases get_of_get_insert hcur with hold | ⟨rfl,rfl⟩
    · exact h.slot slot j current hj hold
    · exact hslot slot hj

theorem FlowsInv.remove (i : ℕ) :
    FlowsInv d (flows.remove i) nextFlow inbound tr := by
  exact ⟨fun j flow hget => h.known j flow (get_of_get_remove hget),
    fun j flow hget => h.bound j flow (get_of_get_remove hget),
    fun j flow hget => h.consumed j flow (get_of_get_remove hget),
    fun j flow hget => h.fresh j flow (get_of_get_remove hget),h.inbound_fresh,
    fun slot j flow hslot hget => h.slot slot j flow hslot (get_of_get_remove hget)⟩

/-- What an open flow carries belongs to the bind it was opened on. -/
theorem FlowsInv.accounted {i : ℕ} {flow : TcpFlow} {sender dest : ClientConn} {what : Relayed}
    (hget : flows.get i=some flow) (hconn : what.connId=some flow.key.connId)
    (hpt : what.isSealedControl=false)
    (hjoins : (sender=flow.source ∧ dest=flow.target) ∨ (sender=flow.target ∧ dest=flow.source)) :
    Accounted tr (.forwarded flow.route sender dest what) := by
  obtain ⟨time,hbd⟩:=h.bound i flow hget
  obtain ⟨c,how,t,hmem⟩:=h.consumed i flow hget
  refine ⟨⟨flow.key,flow.source,flow.target,time,hbd,hconn,hjoins⟩,c,how,t,hmem,?_⟩
  rw [hpt]
  exact nofun

theorem FlowsInv.inboundShrink
    {inbound' : Table (ℕ × String) ℕ}
    (hsub : ∀ slot i, inbound'.get slot=some i → inbound.get slot=some i) :
    FlowsInv d flows nextFlow inbound' tr :=
  ⟨h.known,h.bound,h.consumed,h.fresh,fun slot i hget => h.inbound_fresh slot i (hsub slot i hget),
    fun slot i flow hslot => h.slot slot i flow (hsub slot i hslot)⟩

theorem FlowsInv.inboundInsert {i : ℕ} {flow : TcpFlow}
    (hget : flows.get i=some flow) : FlowsInv d flows nextFlow (inbound.insert flow.slot i) tr := by
  refine ⟨h.known,h.bound,h.consumed,h.fresh,?_,?_⟩
  · intro slot j hslot
    rcases get_of_get_insert hslot with hold | ⟨-,rfl⟩
    · exact h.inbound_fresh slot j hold
    · exact h.fresh j flow hget
  · intro slot j current hslot hcur
    rcases get_of_get_insert hslot with hold | ⟨rfl,rfl⟩
    · exact h.slot slot j current hold hcur
    cases hget.symm.trans hcur
    rfl

end

end Flows

theorem quiet_of_isReply {o : Output} (h : o.isReply=true) :
    o.route?=none ∧ ∀ before, Accounted before o := by
  cases o <;> first | exact ⟨rfl,fun _ => ⟨trivial,trivial⟩⟩ | cases h

section
variable {r : Relays} {tr out : List Output} {o : Output} (h : RelayInv d r tr)
include h

theorem RelayInv.append (hout : ∀ o∈out, o.route?=none ∧ ∀ before, Accounted before o) :
    RelayInv d r (tr++out) :=
  ⟨h.routes.append fun o ho => (hout o ho).1,h.flows.append out,
    justified_append h.accounted fun o ho => (hout o ho).2⟩

theorem RelayInv.concat (hrt : o.route?=none) (hacc : Accounted tr o) : RelayInv d r (tr++[o]) :=
  ⟨h.routes.append (by simp [hrt]),h.flows.append _,justified_concat h.accounted hacc⟩

end

theorem Move.relayInv {now : ℕ} {x : ClientConn} {r r' : Relays}
    {tr out : List Output} (wf : d.WellFormed) (hx : d.Known x) (hmove : Move d now x r out r')
    (h : RelayInv d r tr) : RelayInv d r' (tr++out) := by
  -- an attachment at the address of an endpoint is that endpoint
  have hsrc : ∀ key route, r.clientRelays.get key=some route →
      route.source.addr=x.addr → x=route.source := by
    intro key route hget haddr
    exact hx.eq (wf.known_of_registered (h.routes.endpoints key route hget).1) haddr.symm
  have htgt : ∀ key route, r.clientRelays.get key=some route →
      route.target.addr=x.addr → x=route.target := by
    intro key route hget haddr
    exact hx.eq (wf.known_of_registered (h.routes.endpoints key route hget).2.1) haddr.symm
  have hsilent : ∀ {flows nextFlow pending inbound}, FlowsInv d flows nextFlow inbound tr →
      RelayInv d { r with flows, nextFlow, pending, inbound } (tr++[]) := by
    intro flows nextFlow pending inbound hflows
    rw [append_nil]
    exact ⟨h.routes,hflows,h.accounted⟩
  cases hmove with
  | reply out hreply =>
    exact h.append fun o ho => quiet_of_isReply (hreply o ho)
  | direct dest targetPeerId msg hdest hzero =>
    obtain ⟨-,-,-,hmem,hpeer⟩:=p2pV2TargetInTunnel_eq_some hdest
    exact h.concat rfl ⟨⟨hzero,(wf.registered_live _ dest hmem).1,hpeer⟩,trivial⟩
  | @consume key route how sealedV2 hget haddr hfr hyoung hsealed =>
    refine ⟨h.routes.consume hget x how now hfr hsealed,h.flows.append _,
      justified_concat h.accounted ⟨trivial,(h.routes.unopened key route hget hfr).2,key,
        route.target,route.boundAt,?_,by omega⟩⟩
    rw [hsrc key route hget haddr]
    exact h.routes.stored key route hget
  | @rewrite key route route' hget hmine hsame =>
    rw [append_nil]
    exact ⟨h.routes.rewrite hget hsame,h.flows,h.accounted⟩
  | @drop routes hroute =>
    rw [append_nil]
    refine ⟨h.routes.drop ?_,h.flows,h.accounted⟩
    intro key route hget
    rcases hroute key with hsame | ⟨hnone,-⟩
    · rwa [← hsame]
    rw [hnone] at hget
    cases hget
  | @forward key route dest what hget hopen hjoins hconn hsealed =>
    refine h.concat rfl ⟨?_,?_⟩
    · refine ⟨key,route.source,route.target,route.boundAt,h.routes.stored key route hget,hconn,?_⟩
      rcases hjoins with ⟨haddr,hdest⟩ | ⟨haddr,hdest⟩
      · exact .inl ⟨hsrc key route hget haddr,hdest⟩
      · exact .inr ⟨htgt key route hget haddr,hdest⟩
    · obtain ⟨c,how,t,hmem,hhow⟩:=h.routes.opened key route hget hopen
      exact ⟨c,how,t,hmem,fun hwhat => hhow (hsealed hwhat)⟩
  | @flowStart route flow hget hopen hrt hflow haddr hflowTarget =>
    have heq:=hsrc flow.key route hget haddr
    obtain ⟨c,how,t,hmem,-⟩:=h.routes.opened flow.key route hget hopen
    refine hsilent (h.flows.insert (hflow ▸ hx) ?_ ⟨route.boundAt,?_⟩
      ⟨c,how,t,hrt ▸ hmem⟩ (Nat.lt_succ_self _) (Nat.le_succ _) ?_)
    · rw [hflowTarget]
      exact wf.known_of_registered (h.routes.endpoints flow.key route hget).2.1
    · rw [hrt,hflow,hflowTarget,heq]
      exact h.routes.stored flow.key route hget
    · intro slot hslot
      exact absurd (h.flows.inbound_fresh slot _ hslot) (lt_irrefl _)
  | @flowForward i flow dest what hget hjoins hconn hpt =>
    exact h.concat rfl (h.flows.accounted hget hconn hpt hjoins)
  | @inboundForward i flow connId payload hslot hget =>
    have hown:=h.flows.slot _ i flow hslot hget
    have hx' : x=flow.target := hx.eq (h.flows.known i flow hget).2 (congrArg Prod.fst hown).symm
    exact h.concat rfl (h.flows.accounted hget (congrArg some (congrArg Prod.snd hown).symm) rfl
      (.inr ⟨hx',rfl⟩))
  | @flowStage i flow stage hget =>
    refine hsilent (h.flows.insert (h.flows.known i flow hget).1 (h.flows.known i flow hget).2
      (h.flows.bound i flow hget) (h.flows.consumed i flow hget) (h.flows.fresh i flow hget) le_rfl ?_)
    intro slot hslot
    exact h.flows.slot slot i flow hslot hget
  | flowEnd i => exact hsilent (h.flows.remove i)
  | pending => exact hsilent h.flows
  | @inboundInsert i flow hget => exact hsilent (h.flows.inboundInsert hget)
  | inboundRemove =>
    exact hsilent (h.flows.inboundShrink fun slot' i hget => get_of_get_remove hget)

theorem Moves.relayInv {now : ℕ} {x : ClientConn} {r r' : Relays}
    {tr out : List Output} (wf : d.WellFormed) (hx : d.Known x) (hmoves : Moves d now x r out r')
    (h : RelayInv d r tr) : RelayInv d r' (tr++out) :=
  hmoves.invariant (fun _ _ _ _ hmove h => hmove.relayInv wf hx h) tr h

section Changes
variable {d : Directory} {now : ℕ} {r : Relays} {tr : List Output}

theorem FlowsInv.directory {d' : Directory} {flows : Table ℕ TcpFlow} {nextFlow : ℕ}
    {inbound : Table (ℕ × String) ℕ} (h : FlowsInv d flows nextFlow inbound tr)
    (hkn : ∀ c, d.Known c → d'.Known c) : FlowsInv d' flows nextFlow inbound tr where
  __:=h
  known := fun i flow hget =>
    ⟨hkn _ (h.known i flow hget).1,hkn _ (h.known i flow hget).2⟩

theorem RelayInv.directory {d' : Directory} (h : RelayInv d r tr)
    (hreg : ∀ t, ∀ c∈d.registered t, c∈d'.registered t)
    (hkn : ∀ c, d.Known c → d'.Known c) : RelayInv d' r tr where
  routes :=
    { h.routes with
      endpoints := fun key route hget =>
        (h.routes.endpoints key route hget).imp (hreg _ _) (And.imp_left (hreg _ _)) }
  flows := h.flows.directory hkn
  accounted := h.accounted

variable {x conn : ClientConn}

theorem registered_of_stable (wf : d.WellFormed) (hx : d.Live x)
    (hstable : d.peers.stablePeerId x.authenticatedPeerV2.tunnelId x.authenticatedPeerV2.replicaId =
      some x.authenticatedPeerV2.peerId) : x∈d.registered x.tunnelId := by
  obtain ⟨c,hc,hid⟩:=wf.stable_registered _ _ _ hstable
  have heq : c=x := wf.live_unique c x (wf.registered_live _ c hc).2 hx hid
  rw [heq,(wf.live_identity hx).1] at hc
  exact hc

theorem relayInv_insertRoute (wf : d.WellFormed) {target : ClientConn} (hx : d.Live x)
    {connId targetPeerId : String} (htgt : p2pV2TargetInTunnel d x targetPeerId=some target)
    (h : RelayInv d r tr) : RelayInv d (r.insertRoute (.new x connId) x target now).1
      (tr++(r.insertRoute (.new x connId) x target now).2) := by
  obtain ⟨-,hpeer,hstable,htarget,htargetPeer⟩:=p2pV2TargetInTunnel_eq_some htgt
  have hxMem:=registered_of_stable wf hx hstable
  have hpeers : x.authenticatedPeerV2.peerId≠target.authenticatedPeerV2.peerId := by
    rw [htargetPeer]
    exact hpeer
  set key := ClientRelayRouteKey.new x connId
  have hold : ∀ o∈tr++[bound r.nextIdentity key x target now],
      o∈tr ∨ o = .bound r.nextIdentity key x target now := by
    simp
  have hunused : ∀ o∈tr, o.route?≠some r.nextIdentity := by
    intro o ho hi
    exact lt_irrefl _ (h.routes.fresh o ho _ hi)
  refine ⟨⟨?_,?_,?_,?_,?_,?_⟩,h.flows.append _,justified_concat h.accounted ⟨⟨rfl,?_,hpeers⟩,?_⟩⟩
  · intro o ho i hi
    rcases hold o ho with ho | rfl
    · exact Nat.lt_succ_of_lt (h.routes.fresh o ho i hi)
    cases hi
    exact Nat.lt_succ_self _
  · intro i k s t time k' s' t' time' hb hb'
    rcases hold _ hb with hb | hb <;> rcases hold _ hb' with hb' | hb'
    · exact h.routes.unique i k s t time k' s' t' time' hb hb'
    · cases hb'
      exact absurd rfl (hunused _ hb)
    · cases hb
      exact absurd rfl (hunused _ hb')
    · cases hb
      cases hb'
      rfl
  · exact forall_insert ⟨hxMem,htarget,hpeers⟩ h.routes.endpoints
  · refine forall_insert (mem_append_right _ (mem_singleton_self _)) ?_
    intro k route hget
    exact mem_append_left _ (h.routes.stored k route hget)
  · refine forall_insert ?_ ?_
    · refine fun _ => ⟨rfl,?_⟩
      intro c how t hmem
      rcases hold _ hmem with hmem | hmem
      · exact hunused _ hmem rfl
      · cases hmem
    · intro k route hget hcls
      obtain ⟨hunseal,hnone⟩:=h.routes.unopened k route hget hcls
      refine ⟨hunseal,?_⟩
      intro c how t hmem
      rcases hold _ hmem with hmem | hmem
      · exact hnone c how t hmem
      · cases hmem
  · refine forall_insert (fun hopen => nomatch hopen) ?_
    intro k route hget hopen
    obtain ⟨c,how,t,hmem,hsealed⟩:=h.routes.opened k route hget hopen
    exact ⟨c,how,t,mem_append_left _ hmem,hsealed⟩
  · exact (wf.registered_live _ target htarget).1
  · intro k s t time hmem
    exact hunused _ hmem rfl

theorem handleRelayRouteBind_relayInv (wf : d.WellFormed) (hx : d.Live x)
    (connId peerClientId : String) (h : RelayInv d r tr) :
    RelayInv d (handleRelayRouteBind d r now x connId peerClientId).1
      (tr++(handleRelayRouteBind d r now x connId peerClientId).2) := by
  have hack : ∀ {r' tr' success error}, RelayInv d r' tr' → RelayInv d r'
      (tr'++if x.capabilities.routeBindControlV1 then
        [.reply x (.relayRouteBindAck connId success error)] else []) := by
    intro r' tr' success error h'
    split_ifs
    · exact h'.concat rfl ⟨trivial,trivial⟩
    · rwa [append_nil]
  unfold handleRelayRouteBind
  dsimp only
  split
  · next r' out hbind =>
    rw [← append_assoc]
    apply hack
    rcases bindClientRelayRoute_eq_ok hbind with ⟨rfl,rfl⟩ | ⟨target,htgt,-,hput⟩
    · rwa [append_nil]
    have hins : RelayInv d (r.insertRoute (.new x connId) x target now).1
        (tr++(r.insertRoute (.new x connId) x target now).2) :=
      relayInv_insertRoute wf hx htgt h
    rwa [← hput] at hins
  · exact hack h

theorem handleRelayRouteBind_outputs {connId peerClientId : String} {o : Output}
    (ho : o∈(handleRelayRouteBind d r now x connId peerClientId).2) :
    (∃ i key target, o = .bound i key x target now) ∨ ∃ msg, o = .reply x msg := by
  have hack : ∀ {success error}, o∈(if x.capabilities.routeBindControlV1 then
      [.reply x (.relayRouteBindAck connId success error)] else []) → ∃ msg, o = .reply x msg := by
    intro success error h
    split_ifs at h
    · exact ⟨_,mem_singleton.mp h⟩
    · cases h
  unfold handleRelayRouteBind at ho
  dsimp only at ho
  split at ho
  · next r' out hbind =>
    rcases mem_append.mp ho with ho | ho
    · rcases bindClientRelayRoute_eq_ok hbind with ⟨-,rfl⟩ | ⟨target,-,-,hput⟩
      · cases ho
      rw [show out=[.bound _ _ x target now] from congrArg Prod.snd hput] at ho
      exact .inl ⟨_,_,target,mem_singleton.mp ho⟩
    · exact .inr (hack ho)
  · exact .inr (hack ho)

theorem staleFor_eq_false {route : ClientRelayRoute} :
    staleFor d conn route=false ↔ ¬ route.HasEndpoint conn ∧ ¬ route.Dead d := by
  unfold staleFor ClientRelayRoute.HasEndpoint ClientRelayRoute.Dead
  rcases hs : d.upgrade route.source with - | source
  · simp [hs]
  rcases ht : d.upgrade route.target with - | target
  · simp [ht]
  simp [hs,ht,upgrade_eq_some hs,upgrade_eq_some ht,ClientConn.ptrEq]

theorem unregister_outputs {o : Output} (ho : o∈(r.unregister d conn).2) :
    ∃ dest connId, o = .closeNotice dest connId := by
  unfold Relays.unregister at ho
  split at ho
  · cases ho
  obtain ⟨⟨key,_⟩,-,ho⟩:=mem_flatMap.mp ho
  simp only [closeNotices] at ho
  split_ifs at ho
  · obtain ⟨_,-,ho⟩:=mem_filterMap.mp ho
    obtain ⟨live,-,ho⟩:=Option.bind_eq_some_iff.mp ho
    split_ifs at ho
    exact ⟨live,key.connId,(Option.some.inj ho).symm⟩
  · cases ho

theorem unregister_relayInv (h : RelayInv d r tr) :
    RelayInv (d.unregister conn) (r.unregister d conn).1
      (tr++((r.unregister d conn).2++[.unregistered conn])) := by
  have hkn : ∀ c, d.Known c → (d.unregister conn).Known c := by
    intro c hc
    unfold Directory.Known
    rw [(unregister_attachments conn).1]
    exact hc
  have hnotice : ∀ o∈(r.unregister d conn).2++[unregistered conn],
      o.route?=none ∧ ∀ before, Accounted before o := by
    intro o ho
    rcases mem_append.mp ho with ho | ho
    · obtain ⟨_,_,rfl⟩:=unregister_outputs ho
      exact ⟨rfl,fun _ => ⟨trivial,trivial⟩⟩
    rw [mem_singleton] at ho
    subst ho
    exact ⟨rfl,fun _ => ⟨trivial,trivial⟩⟩
  refine RelayInv.append ?_ hnotice
  rcases hclient : d.clients.get conn.tunnelId with - | list
  · -- nothing is registered in the tunnel, so nothing changes
    have hd : d.unregister conn=d := by
      unfold unregister
      rw [hclient]
    have hr : (r.unregister d conn).1=r := by
      unfold Relays.unregister
      rw [hclient]
    rw [hd,hr]
    exact h
  · have hr : (r.unregister d conn).1={ r with
        clientRelays := r.clientRelays.retain fun _ route => !staleFor d conn route } := by
      unfold Relays.unregister
      rw [hclient]
    rw [hr]
    have hget : ∀ key route,
        (r.clientRelays.retain fun _ route => !staleFor d conn route).get key=some route →
        r.clientRelays.get key=some route ∧ ¬ route.HasEndpoint conn := by
      intro key route hget
      rw [get_retain,Option.filter_eq_some_iff] at hget
      exact ⟨hget.1,(staleFor_eq_false.mp (by simpa using hget.2)).1⟩
    have hdrop:=h.routes.drop fun key route hput => (hget key route hput).1
    refine ⟨{ hdrop with endpoints := ?_ },h.flows.directory hkn,h.accounted⟩
    intro key route hput
    obtain ⟨hold,hends⟩:=hget key route hput
    obtain ⟨hs,ht,hpeers⟩:=h.routes.endpoints key route hold
    exact ⟨mem_registered_unregister.mpr ⟨hs,fun hleft => hends (.inl hleft.2)⟩,
      mem_registered_unregister.mpr ⟨ht,fun hleft => hends (.inr hleft.2)⟩,hpeers⟩

end Changes

namespace GatewayState
variable {cfg : GatewayP2pConfig} {g : GatewayState} {tr : List Output}

def subject (g : GatewayState) : Event → Option ClientConn
  | .message addr _ _ => g.directory.conn addr [.running]
  | .tcpFlow addr _ _ => g.directory.conn addr [.running,.stopped,.finished]
  | .flow flowId e => (g.relays.flows.get flowId).map (·.actor e)
  | .unregister addr => g.directory.conn addr [.running,.stopped,.finished]
  | _ => none

/-- One constructor for each way a step changes the relay state. -/
inductive RelayChange (g : GatewayState) (now : ℕ) (ev : Event) :
    Directory → Relays → List Output → Prop
  | moves {r : Relays} {out : List Output} (x : ClientConn) (hx : g.directory.Known x)
    (hsubject : g.subject ev=some x) (h : Moves g.directory now x g.relays out r) :
    RelayChange g now ev g.directory r out
  | bind (x : ClientConn) (hx : g.directory.Live x) (hsubject : g.subject ev=some x)
    (connId peerClientId : String) :
    RelayChange g now ev g.directory
      (handleRelayRouteBind g.directory g.relays now x connId peerClientId).1
      (handleRelayRouteBind g.directory g.relays now x connId peerClientId).2
  | unregister (x : ClientConn) (hx : g.directory.Known x) (hsubject : g.subject ev=some x) :
    RelayChange g now ev (g.directory.unregister x) (g.relays.unregister g.directory x).1
      ((g.relays.unregister g.directory x).2++[.unregistered x])
  | other {d : Directory} {pending inbound : Table (ℕ × String) ℕ} {out : List Output}
    (hregistered : ∀ t, ∀ c ∈ g.directory.registered t, c ∈ d.registered t)
    (hknown : ∀ c, g.directory.Known c → d.Known c)
    (hnew : ∀ t, ∀ c ∈ d.registered t, c ∈ g.directory.registered t ∨ ¬ g.directory.Known c)
    (hinbound : ∀ slot i, inbound.get slot=some i → g.relays.inbound.get slot=some i)
    (hout : ∀ o ∈ out, (∃ dest msg, o = .reply dest msg) ∨ ∃ reason, o = .refused reason) :
    RelayChange g now ev d { g.relays with pending, inbound } out

theorem relayChange_same {now : ℕ} {ev : Event} {out : List Output}
    (hout : ∀ o∈out, (∃ dest msg, o = .reply dest msg) ∨ ∃ reason, o = .refused reason) :
    RelayChange g now ev g.directory g.relays out :=
  .other (fun _ _ h => h) (fun _ h => h) (fun _ _ h => .inl h) (fun _ _ h => h) hout

theorem relayChange_directory {now : ℕ} {ev : Event} {d : Directory} {out : List Output}
    (hclient : d.clients=g.directory.clients) (hkn : ∀ c, g.directory.Known c → d.Known c)
    (hout : ∀ o∈out, (∃ dest msg, o = .reply dest msg) ∨ ∃ reason, o = .refused reason) :
    RelayChange g now ev d g.relays out := by
  have hsame : ∀ t, d.registered t=g.directory.registered t := by
    intro t
    unfold registered
    rw [hclient]
  refine .other ?_ hkn ?_ (fun _ _ h => h) hout
  · intro t c hc
    rwa [hsame]
  intro t c hc
  rw [hsame] at hc
  exact .inl hc

theorem known_setPhase_of_known {d : Directory} {conn c : ClientConn} {phase : Phase}
    (hconn : d.Known conn) (hc : d.Known c) : (d.setPhase conn phase).Known c := by
  by_cases haddr : c.addr=conn.addr
  · have heq:=hc.eq hconn haddr
    subst heq
    exact ⟨phase,get_insert_self _ _ _⟩
  obtain ⟨p,hget⟩:=hc
  refine ⟨p,?_⟩
  simp only [setPhase,get_insert,if_neg haddr]
  exact hget

theorem step_relayChange (wf : g.directory.WellFormed) (hsealed : g.relays.SealedOpened)
    (hflows : ∀ i flow, g.relays.flows.get i=some flow →
      g.directory.Known flow.source ∧ g.directory.Known flow.target)
    (now : ℕ) (ev : Event) : RelayChange g now ev (g.stepOf cfg now ev).1 (g.stepOf cfg now ev).2.1
      (g.stepOf cfg now ev).2.2 := by
  have hkn : ∀ {addr phases c}, g.directory.conn addr phases=some c →
      g.directory.Known c := by
    intro addr phases c hc
    obtain ⟨-,phase,-,hget⟩:=get_of_conn wf hc
    exact ⟨phase,hget⟩
  cases ev with
  | admission =>
    simp only [stepOf]
    split
    · next d hd =>
      obtain ⟨_,_,-,-,rfl⟩:=admitSession_eq_ok hd
      refine .other ?_ ?_ ?_ (fun _ _ h => h) (by simp)
      · intro t c hc
        rw [registered_register]
        split_ifs
        · exact mem_append_left _ hc
        · exact hc
      · intro c hc
        obtain ⟨phase,hget⟩:=hc
        have hlt:=(wf.known _ _ hget).2.1
        refine ⟨phase,?_⟩
        simp only [register,get_insert]
        rw [if_neg (by omega),hget]
      · intro t c hc
        rw [registered_register] at hc
        split_ifs at hc
        · rcases mem_append.mp hc with hc | hc
          · exact .inl hc
          right
          rw [mem_singleton] at hc
          subst hc
          intro hc
          obtain ⟨phase,hget⟩:=hc
          have hlt:=(wf.known _ _ hget).2.1
          exact lt_irrefl _ hlt
        · exact .inl hc
    · exact relayChange_same (by simp)
  | message addr msg env =>
    simp only [stepOf]
    rcases hself : g.directory.conn addr [.running] with - | self
    · exact relayChange_same (by simp)
    have hsubject : g.subject (.message addr msg env)=some self := hself
    by_cases hbind : ∃ connId peerClientId, msg = .relayRouteBind connId peerClientId
    · obtain ⟨connId,peerClientId,rfl⟩:=hbind
      obtain ⟨-,phase,hmem,hget⟩:=get_of_conn wf hself
      rw [mem_singleton] at hmem
      exact .bind self ⟨phase,hget,by rw [hmem]; rfl⟩ hsubject connId peerClientId
    · dsimp only
      split
      · next clientId groupId locals natHint certFp =>
        have hpeers:=announce_directory cfg g.directory now env self locals natHint certFp
        refine relayChange_directory ?_ ?_ ?_
        · rcases hpeers with h | ⟨_,h⟩ <;> rw [h]
        · intro c hc
          rcases hpeers with h | ⟨_,h⟩ <;> rw [h] <;> exact hc
        intro o ho
        unfold announce at ho
        split at ho
        · cases ho
        · exact .inl ⟨_,_,mem_singleton.mp ho⟩
      · exact .moves self (hkn hself) hsubject (handleInbound_moves hsealed _
          fun connId peerClientId heq => hbind ⟨connId,peerClientId,heq⟩)
  | tcpFlow addr incoming =>
    simp only [stepOf]
    rcases hself : g.directory.conn addr [.running,.stopped,.finished] with - | self
    · exact relayChange_same (by simp)
    · exact .moves self (hkn hself) hself (handleTcpFlowStream_moves incoming)
  | flow flowId e =>
    simp only [stepOf]
    rcases hflow : g.relays.flows.get flowId with - | flow
    · exact relayChange_same (by simp)
    refine .moves (flow.actor e) ?_ (by simp [subject,hflow]) (flowStep_moves hflow e)
    cases e with
    | targetBytes => exact (hflows flowId flow hflow).2
    | _ => exact (hflows flowId flow hflow).1
  | unregister addr =>
    simp only [stepOf]
    rcases hself : g.directory.conn addr [.running,.stopped,.finished] with - | self
    · exact relayChange_same (by simp)
    · exact .unregister self (hkn hself) hself
  | stop addr =>
    simp only [stepOf]
    rcases hself : g.directory.conn addr [.running] with - | self
    · exact relayChange_same (by simp)
    refine .other (fun _ _ h => h) (fun c hc => known_setPhase_of_known (hkn hself) hc)
      (fun _ _ h => .inl h) ?_ (by simp)
    intro slot i hget
    rw [get_retain,Option.filter_eq_some_iff] at hget
    exact hget.1
  | finish addr =>
    simp only [stepOf]
    rcases hself : g.directory.conn addr [.stopped] with - | self
    · exact relayChange_same (by simp)
    exact relayChange_directory rfl (fun c hc => known_setPhase_of_known (hkn hself) hc)
      (by simp)
  | drop addr =>
    simp only [stepOf]
    rcases hself : g.directory.conn addr [.finished] with - | self
    · exact relayChange_same (by simp)
    exact relayChange_directory rfl (fun c hc => known_setPhase_of_known (hkn hself) hc)
      (by simp)
  | sweep => exact relayChange_directory rfl (fun _ hc => hc) (by simp [stepOf])

theorem RelayChange.relayInv {now : ℕ} {ev : Event} {d : Directory} {r : Relays}
    {out : List Output} (wf : g.directory.WellFormed) (hchg : RelayChange g now ev d r out)
    (h : RelayInv g.directory g.relays tr) : RelayInv d r (tr++out) := by
  cases hchg with
  | moves x hx _ hmoves => exact hmoves.relayInv wf hx h
  | bind x hx _ connId peerClientId => exact handleRelayRouteBind_relayInv wf hx connId peerClientId h
  | unregister => exact unregister_relayInv h
  | @other d pending inbound out hreg hkn _ hinbound hout =>
    have hquiet : ∀ o∈out, o.route?=none ∧ ∀ before, Accounted before o := by
      intro o ho
      rcases hout o ho with ⟨_,_,rfl⟩ | ⟨_,rfl⟩
      · exact ⟨rfl,fun _ => ⟨trivial,trivial⟩⟩
      · exact ⟨rfl,fun _ => ⟨trivial,trivial⟩⟩
    have hmoved:=h.directory hreg hkn
    have hshrunk : RelayInv d { g.relays with pending, inbound } tr :=
      ⟨hmoved.routes,hmoved.flows.inboundShrink hinbound,hmoved.accounted⟩
    exact hshrunk.append hquiet

theorem relayInv_of_run (h : (machine cfg).Run g tr) : RelayInv g.directory g.relays tr := by
  refine (h.invariant
    (fun g tr => g.directory.WellFormed ∧ RelayInv g.directory g.relays tr) ?_ ?_).2
  · exact ⟨wellFormed_empty,relayInv_empty _⟩
  intro g tr e hinv he
  obtain ⟨wf,hrelay⟩:=hinv
  refine ⟨(step_change wf he).wellFormed wf,?_⟩
  exact (step_relayChange wf hrelay.sealedOpened hrelay.flows.known e.1 e.2).relayInv wf hrelay

end GatewayState

end Lantunnel.Gateway
