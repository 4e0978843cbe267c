import Lantunnel.Gateway.RelayInvariant

/-!
# Relay isolation

Whatever the attachments of a Gateway send, and in whatever order: a route
joins two Peers of its tunnel, what is forwarded goes from one end of a route
to its other end, and an attachment cannot touch a route it is no end of.
-/

namespace Lantunnel.Gateway
open Lib Core List Table

/-- The relay state joins `source` and `target` under the key by this route
instance: the route is stored, or a flow that consumed it is open. -/
def Relays.Carries (r : Relays) (i : ℕ) (key : ClientRelayRouteKey) (source target : ClientConn) :
    Prop :=
  (∃ route, r.clientRelays.get key=some route ∧ route.identity=i ∧ route.source=source ∧
    route.target=target) ∨
  ∃ flowId flow, r.flows.get flowId=some flow ∧ flow.route=i ∧ flow.key=key ∧
    flow.source=source ∧ flow.target=target

/-- What is delivered crosses a route instance the relay state carries. -/
def Relays.CarriesDelivery (r : Relays) (i : ℕ) (sender dest : ClientConn) (what : Relayed) : Prop :=
  ∃ key source target, r.Carries i key source target ∧ what.connId=some key.connId ∧
    ((sender=source ∧ dest=target) ∨ (sender=target ∧ dest=source))

section Carries
variable {d : Directory} {now : ℕ} {x : ClientConn} {r r' : Relays} {tr out : List Output}

theorem Move.carries_before (wf : d.WellFormed) (hx : d.Known x) (hinv : RelayInv d r tr)
    (hmove : Move d now x r out r') {i : ℕ} {key : ClientRelayRouteKey}
    {source target : ClientConn} (h : r'.Carries i key source target) :
    r.Carries i key source target := by
  cases hmove with
  | @consume k route how sealedV2 hget _ _ _ _ =>
    rcases h with ⟨route',hrt',hi,hs,ht⟩ | hflow
    · simp only [get_insert] at hrt'
      split_ifs at hrt' with hk
      · cases hrt'
        exact .inl ⟨route,hk ▸ hget,hi,hs,ht⟩
      · exact .inl ⟨route',hrt',hi,hs,ht⟩
    · exact .inr hflow
  | @rewrite k route route' hget _ hsame =>
    rcases h with ⟨current,hcur,hi,hs,ht⟩ | hflow
    · simp only [get_insert] at hcur
      split_ifs at hcur with hk
      · cases hcur
        exact .inl ⟨route,hk ▸ hget,hsame.identity ▸ hi,hsame.source ▸ hs,hsame.target ▸ ht⟩
      · exact .inl ⟨current,hcur,hi,hs,ht⟩
    · exact .inr hflow
  | @drop routes hroute =>
    rcases h with ⟨route,hget,hi,hs,ht⟩ | hflow
    · rcases hroute key with hsame | ⟨hnone,-⟩
      · exact .inl ⟨route,hsame ▸ hget,hi,hs,ht⟩
      rw [hnone] at hget
      cases hget
    · exact .inr hflow
  | @flowStart route flow hget hopen hrt hsrc haddr htgt =>
    rcases h with hrt' | ⟨flowId,flow',hflow',hi,hk,hs,ht⟩
    · exact .inl hrt'
    simp only [get_insert] at hflow'
    split_ifs at hflow'
    · cases hflow'
      have hends:=hinv.routes.endpoints _ route hget
      have heq : route.source=x := (wf.known_of_registered hends.1).eq hx haddr
      refine .inl ⟨route,hk ▸ hget,hrt ▸ hi,?_,htgt ▸ ht⟩
      rw [heq,← hsrc]
      exact hs
    · exact .inr ⟨flowId,flow',hflow',hi,hk,hs,ht⟩
  | @flowStage j flow stage hget =>
    rcases h with hrt' | ⟨flowId,flow',hflow',hi,hk,hs,ht⟩
    · exact .inl hrt'
    simp only [get_insert] at hflow'
    split_ifs at hflow'
    · cases hflow'
      exact .inr ⟨j,flow,hget,hi,hk,hs,ht⟩
    · exact .inr ⟨flowId,flow',hflow',hi,hk,hs,ht⟩
  | flowEnd =>
    rcases h with hrt' | ⟨flowId,flow',hflow',hrest⟩
    · exact .inl hrt'
    simp only [get_remove] at hflow'
    split_ifs at hflow'
    exact .inr ⟨flowId,flow',hflow',hrest⟩
  | reply | direct | forward | flowForward | inboundForward | pending | inboundInsert
  | inboundRemove => exact h

variable {sender dest : ClientConn}

theorem Move.carriesDelivery (wf : d.WellFormed) (hx : d.Known x) (hinv : RelayInv d r tr)
    (hmove : Move d now x r out r') {i : ℕ} {what : Relayed}
    (h : .forwarded i sender dest what∈out) : r.CarriesDelivery i sender dest what := by
  cases hmove with
  | reply out hreply => cases hreply _ h
  | @forward key route dest' what hget _ hjoins hconn _ =>
    cases mem_singleton.mp h
    have hends:=hinv.routes.endpoints key route hget
    refine ⟨key,route.source,route.target,.inl ⟨route,hget,rfl,rfl,rfl⟩,hconn,?_⟩
    rcases hjoins with ⟨haddr,hdest⟩ | ⟨haddr,hdest⟩
    · exact .inl ⟨hx.eq (wf.known_of_registered hends.1) haddr.symm,hdest⟩
    · exact .inr ⟨hx.eq (wf.known_of_registered hends.2.1) haddr.symm,hdest⟩
  | @flowForward j flow dest' what hget hjoins hconn _ =>
    cases mem_singleton.mp h
    exact ⟨flow.key,flow.source,flow.target,.inr ⟨j,flow,hget,rfl,rfl,rfl,rfl⟩,hconn,hjoins⟩
  | @inboundForward j flow connId payload hslot hget =>
    cases mem_singleton.mp h
    have hown:=hinv.flows.slot _ j flow hslot hget
    have hx' : x=flow.target :=
      hx.eq (hinv.flows.known j flow hget).2 (congrArg Prod.fst hown).symm
    exact ⟨flow.key,flow.source,flow.target,.inr ⟨j,flow,hget,rfl,rfl,rfl,rfl⟩,
      congrArg some (congrArg Prod.snd hown).symm,.inr ⟨hx',rfl⟩⟩
  | direct | consume => cases mem_singleton.mp h
  | rewrite | drop | flowStart | flowStage | flowEnd | pending | inboundInsert | inboundRemove =>
    cases h

theorem Moves.carriesDelivery (wf : d.WellFormed) (hx : d.Known x) (hmoves : Moves d now x r out r')
    (hinv : RelayInv d r tr) {i : ℕ} {what : Relayed}
    (h : .forwarded i sender dest what∈out) : r.CarriesDelivery i sender dest what := by
  induction hmoves generalizing tr with
  | nil => cases h
  | cons hmove _ ih =>
    rcases mem_append.mp h with h | h
    · exact hmove.carriesDelivery wf hx hinv h
    obtain ⟨key,source,target,hcarry,hrest⟩:=ih (hmove.relayInv wf hx hinv) h
    exact ⟨key,source,target,hmove.carries_before wf hx hinv hcarry,hrest⟩

theorem Moves.sent_by (hmoves : Moves d now x r out r') :
    (∀ i sender dest what, .forwarded i sender dest what∈out → sender=x) ∧
    ∀ sender dest targetPeerId msg, .direct sender dest targetPeerId msg∈out →
      sender=x ∧ routeless msg ∧ p2pV2TargetInTunnel d x targetPeerId=some dest := by
  induction hmoves with
  | nil => simp
  | cons hmove _ ih =>
    simp only [mem_append]
    cases hmove with
    | reply out hreply =>
      refine ⟨fun i s t what h => ?_,fun s t peer msg h => ?_⟩
      · exact h.elim (fun h => by cases hreply _ h) (ih.1 i s t what)
      · exact h.elim (fun h => by cases hreply _ h) (ih.2 s t peer msg)
    | direct | consume | forward | flowForward | inboundForward => grind
    | rewrite | drop | flowStart | flowStage | flowEnd | pending | inboundInsert
    | inboundRemove => simpa using ih

end Carries

section Others
variable {d : Directory} {now : ℕ} {x : ClientConn} {r r' : Relays} {out : List Output}
  {key : ClientRelayRouteKey} {route : ClientRelayRoute}

theorem Move.keeps_route (hmove : Move d now x r out r') (hoth : ¬ route.HasEndpoint x)
    (hlive : ¬ route.Dead d) (hget : r.clientRelays.get key=some route) :
    r'.clientRelays.get key=some route := by
  have hne : ∀ k current, r.clientRelays.get k=some current → current.HasEndpoint x → key≠k := by
    intro k current hcur hmine hk
    subst hk
    rw [hget] at hcur
    cases hcur
    exact hoth hmine
  cases hmove with
  | @consume k current how sealedV2 hcur haddr _ _ _ =>
    exact (get_insert_ne _ _ (hne k current hcur (.inl haddr))).trans hget
  | @rewrite k current current' hcur hmine _ =>
    exact (get_insert_ne _ _ (hne k current hcur hmine)).trans hget
  | @drop routes hroutes => grind
  | reply | direct | forward | flowStart | flowForward | inboundForward | flowStage | flowEnd
  | pending | inboundInsert | inboundRemove => exact hget

theorem Moves.keeps_route (hmoves : Moves d now x r out r') (hoth : ¬ route.HasEndpoint x)
    (hlive : ¬ route.Dead d) (hget : r.clientRelays.get key=some route) :
    r'.clientRelays.get key=some route := by
  induction hmoves with
  | nil => exact hget
  | cons hmove _ ih => exact ih (hmove.keeps_route hoth hlive hget)

theorem handleRelayRouteBind_keeps_route (connId peerClientId : String) (hlive : ¬ route.Dead d)
    (hyoung : route.opened=true ∨ now-route.boundAt<CLIENT_RELAY_BOUND_TTL)
    (hget : r.clientRelays.get key=some route) :
    (handleRelayRouteBind d r now x connId peerClientId).1.clientRelays.get key=some route := by
  unfold handleRelayRouteBind
  dsimp only
  split
  · next r' out hbind =>
    rcases bindClientRelayRoute_eq_ok hbind with ⟨rfl,-⟩ | ⟨target,-,hrep,hput⟩
    · exact hget
    have hr : r'=(r.insertRoute (.new x connId) x target now).1 := congrArg Prod.fst hput
    have hne : key ≠ .new x connId := by
      intro hk
      rcases hrep route (hk ▸ hget) with ⟨_,_⟩ | hdead
      · grind
      · exact hlive hdead
    rw [hr]
    exact (get_insert_ne _ _ hne).trans hget
  · exact hget

theorem unregister_keeps_route (hoth : ¬ route.HasEndpoint x) (hlive : ¬ route.Dead d)
    (hget : r.clientRelays.get key=some route) :
    (r.unregister d x).1.clientRelays.get key=some route := by
  unfold Relays.unregister
  split
  · exact hget
  rw [get_retain,Option.filter_eq_some_iff]
  exact ⟨hget,by rw [staleFor_eq_false.mpr ⟨hoth,hlive⟩]; rfl⟩

end Others

theorem Directory.WellFormed.upgrade_registered {d : Directory} (wf : d.WellFormed) {t : String}
    {c : ClientConn} (h : c∈d.registered t) : d.upgrade c=some c := by
  obtain ⟨phase,hget,hpermit⟩:=(wf.registered_live t c h).2
  unfold upgrade Directory.phase
  rw [hget]
  cases phase with
  | running | stopped => rfl
  | finished | dropped => cases hpermit

theorem Directory.WellFormed.not_dead {d : Directory} (wf : d.WellFormed) {route : ClientRelayRoute}
    {t t' : String} (hs : route.source∈d.registered t) (ht : route.target∈d.registered t') :
    ¬ route.Dead d := by
  unfold ClientRelayRoute.Dead
  rw [wf.upgrade_registered hs,wf.upgrade_registered ht]
  simp

namespace GatewayState
variable {cfg : GatewayP2pConfig} {g : GatewayState} {tr : List Output}

/-- A step changes a route whose ends are registered only if it acts for one of
them, or if the bind ran out before it was consumed. -/
theorem RelayChange.keeps_route {now : ℕ} {ev : Event} {d : Directory} {r : Relays}
    {out : List Output} (hchg : RelayChange g now ev d r out) {key : ClientRelayRouteKey}
    {route : ClientRelayRoute} (hoth : ∀ x, g.subject ev=some x → ¬ route.HasEndpoint x)
    (hlive : ¬ route.Dead g.directory)
    (hyoung : route.opened=true ∨ now-route.boundAt<CLIENT_RELAY_BOUND_TTL)
    (hget : g.relays.clientRelays.get key=some route) : r.clientRelays.get key=some route := by
  cases hchg with
  | moves x _ hsubject hmoves => exact hmoves.keeps_route (hoth x hsubject) hlive hget
  | bind x _ _ connId peerClientId =>
    exact handleRelayRouteBind_keeps_route connId peerClientId hlive hyoung hget
  | unregister x _ hsubject => exact unregister_keeps_route (hoth x hsubject) hlive hget
  | other => exact hget

/-- What a step sends, it sends for the attachment it acts for. -/
def Delivers (g : GatewayState) (ev : Event) : Output → Prop
  | .forwarded i sender dest what => g.subject ev=some sender ∧
    g.relays.CarriesDelivery i sender dest what ∧ sender.tunnelId=dest.tunnelId ∧
    sender.authenticatedPeerV2.peerId ≠ dest.authenticatedPeerV2.peerId
  | .direct sender dest targetPeerId msg => g.subject ev=some sender ∧ routeless msg ∧
    dest ∈ g.directory.registered sender.tunnelId ∧
    dest.authenticatedPeerV2.tunnelId=sender.tunnelId ∧
    dest.authenticatedPeerV2.peerId=targetPeerId
  | _ => True

theorem forwarded_between {d : Directory} {r : Relays} (hinv : RelayInv d r tr) {i : ℕ}
    {sender dest : ClientConn} {what : Relayed} (h : .forwarded i sender dest what∈tr) :
    sender.tunnelId=dest.tunnelId ∧
      sender.authenticatedPeerV2.peerId≠dest.authenticatedPeerV2.peerId := by
  obtain ⟨_,hbef,⟨_,_,_,_,hbd,-,hends⟩,-⟩ :=
    justified_of_mem hinv.accounted h
  obtain ⟨-,-,⟨hsrc,htgt,hpeers⟩,-⟩ :=
    justified_of_mem hinv.accounted (hbef.subset hbd)
  rcases hends with ⟨rfl,rfl⟩ | ⟨rfl,rfl⟩
  · exact ⟨hsrc.trans htgt.symm,hpeers⟩
  · exact ⟨htgt.trans hsrc.symm,hpeers.symm⟩

theorem RelayChange.delivers {now : ℕ} {ev : Event} {d : Directory} {r : Relays}
    {out : List Output} (wf : g.directory.WellFormed) (hinv : RelayInv g.directory g.relays tr)
    (hchg : RelayChange g now ev d r out) : ∀ o∈out, g.Delivers ev o := by
  intro o ho
  have haft:=hchg.relayInv wf hinv
  cases hchg with
  | moves x hx hsubject hmoves =>
    cases o with
    | forwarded =>
      refine ⟨?_,hmoves.carriesDelivery wf hx hinv ho,forwarded_between haft (mem_append_right _ ho)⟩
      rw [hmoves.sent_by.1 _ _ _ _ ho,hsubject]
    | direct sender dest =>
      obtain ⟨rfl,hzero,hdest⟩:=hmoves.sent_by.2 _ _ _ _ ho
      obtain ⟨-,-,-,hmem,hpeer⟩:=p2pV2TargetInTunnel_eq_some hdest
      obtain ⟨htun,hlive⟩:=wf.registered_live _ dest hmem
      exact ⟨hsubject,hzero,hmem,(wf.live_identity hlive).1.trans htun,hpeer⟩
    | _ => exact trivial
  | bind => rcases handleRelayRouteBind_outputs ho with ⟨_,_,_,rfl⟩ | ⟨_,rfl⟩ <;> exact trivial
  | unregister =>
    rcases mem_append.mp ho with ho | ho
    · obtain ⟨_,_,rfl⟩:=unregister_outputs ho
      exact trivial
    rw [mem_singleton.mp ho]
    exact trivial
  | other _ _ _ _ hout =>
    rcases hout o ho with ⟨_,_,rfl⟩ | ⟨_,rfl⟩ <;> exact trivial

def secondSession : AuthParams :=
  ⟨"t","t-00000002-0","peer-b",.v4 0x01020305 9,⟨true,true⟩⟩

def relayRun : List (ℕ × Event) :=
  [(0,.admission firstSession),
    (0,.admission secondSession),
    (1,.message 0 (.relayRouteBind "c1" "peer-b") quietEnv),
    (2,.message 0 (.connect "c1" "tcp" "10.0.0.1:80") quietEnv)]

end GatewayState

end Lantunnel.Gateway
