import Lantunnel.Gateway.RelayIsolation

/-!
# The life cycle of a relay bind

Over every run a route instance is consumed at most once, in time and by the attachment
that bound it, and carries nothing before that.
-/

namespace Lantunnel.Gateway
open Lib List Directory

/-- An attachment that was unregistered is not registered again. -/
def Directory.Departed (d : Directory) (tr : List Output) : Prop :=
  ∀ c, .unregistered c ∈ tr → d.Known c ∧ ∀ t, c ∉ d.registered t

theorem Moves.not_unregistered {d : Directory} {now : ℕ} {x c : ClientConn} {r r' : Relays}
    {out : List Output} (hmoves : Moves d now x r out r') : .unregistered c∉out := by
  induction hmoves with
  | nil => simp
  | cons hmove _ ih =>
    refine fun h => (mem_append.mp h).elim (fun h => ?_) ih
    cases hmove with
    | reply out hreply => cases hreply _ h
    | direct | consume | forward | flowForward | inboundForward => cases mem_singleton.mp h
    | rewrite | drop | flowStart | flowStage | flowEnd | pending | inboundInsert | inboundRemove =>
      cases h

namespace GatewayState
variable {cfg : GatewayP2pConfig} {g : GatewayState} {tr : List Output}

theorem RelayChange.of_unregistered {now : ℕ} {ev : Event} {d : Directory} {r : Relays}
    {out : List Output} (hchg : RelayChange g now ev d r out) {c : ClientConn}
    (h : .unregistered c∈out) : g.directory.Known c ∧ d=g.directory.unregister c ∧
      r=(g.relays.unregister g.directory c).1 ∧
      out=(g.relays.unregister g.directory c).2++[.unregistered c] := by
  cases hchg with
  | moves x _ _ hmoves => exact absurd h hmoves.not_unregistered
  | bind => rcases handleRelayRouteBind_outputs h with ⟨_,_,_,heq⟩ | ⟨_,heq⟩ <;> cases heq
  | unregister x hx =>
    rcases mem_append.mp h with h | h
    · obtain ⟨_,_,heq⟩:=unregister_outputs h
      cases heq
    cases mem_singleton.mp h
    exact ⟨hx,rfl,rfl,rfl⟩
  | other _ _ _ _ hout =>
    rcases hout _ h with ⟨_,_,heq⟩ | ⟨_,heq⟩ <;> cases heq

theorem RelayChange.departed {now : ℕ} {ev : Event} {d : Directory} {r : Relays}
    {out : List Output} (wf : g.directory.WellFormed) (hchg : RelayChange g now ev d r out)
    (h : g.directory.Departed tr) : d.Departed (tr++out) := by
  intro c hc
  rcases mem_append.mp hc with hc | hc
  · obtain ⟨hkn,hgone⟩:=h c hc
    cases hchg with
    | moves | bind => exact ⟨hkn,hgone⟩
    | unregister x =>
      refine ⟨?_,fun t hmem => hgone t (mem_registered_unregister.mp hmem).1⟩
      unfold Directory.Known
      rw [(unregister_attachments x).1]
      exact hkn
    | other => grind
  · obtain ⟨hkn,rfl,-,-⟩:=hchg.of_unregistered hc
    refine ⟨?_,?_⟩
    · unfold Directory.Known
      rw [(unregister_attachments c).1]
      exact hkn
    intro t hmem
    obtain ⟨hmem,hstays⟩:=mem_registered_unregister.mp hmem
    exact hstays ⟨(wf.registered_live t c hmem).1.symm,rfl⟩

theorem departed_of_run (h : (machine cfg).Run g tr) : g.directory.Departed tr := by
  refine (h.invariant (fun g tr => g.directory.WellFormed ∧ RelayInv g.directory g.relays tr ∧
    g.directory.Departed tr) ?_ ?_).2.2
  · exact ⟨wellFormed_empty,relayInv_empty _,by simp [Directory.Departed]⟩
  intro g tr e hinv he
  obtain ⟨wf,hrelay,hdepart⟩:=hinv
  have hchg : RelayChange g e.1 e.2 (g.step cfg e).1.directory (g.step cfg e).1.relays
      (g.step cfg e).2 :=
    step_relayChange wf hrelay.sealedOpened hrelay.flows.known e.1 e.2
  exact ⟨(step_change wf he).wellFormed wf,hchg.relayInv wf hrelay,
    hchg.departed wf hdepart⟩

end GatewayState

theorem closeNotice_mem {d : Directory} {conn endpoint : ClientConn} {key : ClientRelayRouteKey}
    {route : ClientRelayRoute} (hends : endpoint=route.source ∨ endpoint=route.target)
    (hstale : staleFor d conn route=true) (hlive : d.upgrade endpoint=some endpoint)
    (hoth : endpoint.addr≠conn.addr) :
    .closeNotice endpoint key.connId∈closeNotices d conn key route := by
  unfold closeNotices
  rw [if_pos hstale]
  refine mem_filterMap.mpr ⟨endpoint,by simpa using hends,?_⟩
  rw [hlive]
  simp [ClientConn.ptrEq,hoth]

theorem staleFor_of_hasEndpoint {d : Directory} {conn : ClientConn} {route : ClientRelayRoute}
    (h : route.HasEndpoint conn) : staleFor d conn route=true := by
  by_contra hfr
  exact (staleFor_eq_false.mp (by simpa using hfr)).1 h

namespace GatewayState
variable {cfg : GatewayP2pConfig} {g : GatewayState} {tr : List Output}

/-- The life cycle of relay binds, in every run: the trace accounts for every
bind, consumption and delivery; no route ends at an attachment that was
unregistered; and the step that unregisters it removes every route that ended at
it and sends a `Close` to the end that stays. -/
theorem relay_bind_life_cycle (h : (machine cfg).Run g tr) :
    Justified LifeCycle tr ∧
    (∀ c, .unregistered c ∈ tr → ∀ key route, g.relays.clientRelays.get key = some route →
      ¬ route.HasEndpoint c) ∧
    (∀ e, Enabled cfg g e → ∀ c, .unregistered c ∈ (g.step cfg e).2 → ∀ key route,
      g.relays.clientRelays.get key = some route → route.HasEndpoint c →
      (g.step cfg e).1.relays.clientRelays.get key = none ∧
      ∀ endpoint, (endpoint = route.source ∨ endpoint = route.target) →
        endpoint.addr ≠ c.addr → .closeNotice endpoint key.connId ∈ (g.step cfg e).2) := by
  have wf:=wellFormed_of_run h
  have hinv:=relayInv_of_run h
  refine ⟨?_,?_,?_⟩
  · intro before o after heq
    exact (hinv.accounted before o after heq).2
  · intro c hc key route hget hends
    obtain ⟨hkn,hgone⟩:=departed_of_run h c hc
    obtain ⟨hs,ht,-⟩:=hinv.routes.endpoints key route hget
    rcases hends with haddr | haddr
    · rw [(wf.known_of_registered hs).eq hkn haddr] at hs
      exact hgone _ hs
    rw [(wf.known_of_registered ht).eq hkn haddr] at ht
    exact hgone _ ht
  · intro e _ c hc key route hget hends
    have hchg : RelayChange g e.1 e.2 (g.step cfg e).1.directory (g.step cfg e).1.relays
        (g.step cfg e).2 :=
      step_relayChange wf hinv.sealedOpened hinv.flows.known e.1 e.2
    obtain ⟨hkn,-,hrelay,hout⟩:=hchg.of_unregistered hc
    obtain ⟨hs,ht,-⟩:=hinv.routes.endpoints key route hget
    have hstale : staleFor g.directory c route=true := staleFor_of_hasEndpoint hends
    -- the leaving attachment is registered, so its tunnel has a list
    have hlist : ∃ list, g.directory.clients.get c.tunnelId=some list := by
      have hmem : c∈g.directory.registered key.tunnelId := by
        rcases hends with haddr | haddr
        · rw [← (wf.known_of_registered hs).eq hkn haddr]
          exact hs
        rw [← (wf.known_of_registered ht).eq hkn haddr]
        exact ht
      rw [(wf.registered_live _ c hmem).1]
      unfold registered at hmem
      rcases hclient : g.directory.clients.get key.tunnelId with - | list
      · rw [hclient] at hmem
        cases hmem
      · exact ⟨list,rfl⟩
    obtain ⟨_,hlist⟩:=hlist
    simp only [Relays.unregister,hlist] at hrelay hout
    refine ⟨?_,?_⟩
    · rw [hrelay,Table.get_retain,hget]
      simp [hstale]
    intro endpoint hendpoint hoth
    have hlive : g.directory.upgrade endpoint=some endpoint := by
      rcases hendpoint with rfl | rfl
      · exact wf.upgrade_registered hs
      · exact wf.upgrade_registered ht
    rw [hout]
    refine mem_append_left _ (mem_flatMap.mpr ⟨(key,route),Table.mem_pairs.mpr hget,?_⟩)
    exact closeNotice_mem hendpoint hstale hlive hoth

theorem relay_bind_life_cycle_relayRun :
    ∃ g tr, (machine defaultConfig).Run g tr ∧
      .consumed 0 (firstSession.conn 0) .connect 2 ∈ tr ∧ Justified LifeCycle tr ∧
      .closeNotice (secondSession.conn 1) "c1" ∈ (g.step defaultConfig (3, .unregister 0)).2 := by
  have hacc : (machine defaultConfig).Accepts .empty relayRun :=
    ⟨⟨by decide,trivial⟩,⟨by decide,trivial⟩,⟨by decide,trivial⟩,⟨by decide,trivial⟩,trivial⟩
  have hrun:=Machine.Run.exec .init relayRun hacc
  have hrt : (((machine defaultConfig).exec .empty relayRun).1.relays.clientRelays.get
      ⟨"t","c1"⟩).any (fun route => route.source=firstSession.conn 0 &&
        route.target=secondSession.conn 1)=true := by decide
  obtain ⟨route,hget,hends⟩:=(Option.any_eq_true _ _).mp hrt
  rw [Bool.and_eq_true,decide_eq_true_eq,decide_eq_true_eq] at hends
  have hstep:=(relay_bind_life_cycle hrun).2.2 (3,.unregister 0) ⟨by decide,trivial⟩
    (firstSession.conn 0) (by decide) ⟨"t","c1"⟩ route hget (.inl (by rw [hends.1]))
  exact ⟨_,_,hrun,by decide,(relay_bind_life_cycle hrun).1,
    hstep.2 (secondSession.conn 1) (.inr hends.2.symm) (by decide)⟩

end GatewayState

end Lantunnel.Gateway
