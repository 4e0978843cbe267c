import Lantunnel.Gateway.Runtime

/-!
# What the handlers do to the relay state, move by move

Every handler is a sequence of the moves below, each made on behalf of one attachment
`x`.
-/

namespace Lantunnel.Gateway
open Lib RustStd FieldCodec Core Directory Relayed

def Relayed.connId : Relayed → Option String
  | .frame (.encryptedPeerControlV2 _ _ connId _ _) => relayConnIdFromWire connId
  | .frame (.connect connId _ _) => some connId
  | .frame msg => relayFrameConnId msg
  | .flowPreface connId | .flowBytes connId _ => some connId

def Relayed.isSealedControl : Relayed → Bool
  | .frame (.encryptedPeerControlV2 ..) => true
  | _ => false

/-- Sealed control that names no flow: its conn_id is all zero. -/
def routeless : BinaryMessage → Prop
  | .encryptedPeerControlV2 _ _ connId _ _ => connId=Vector.replicate 12 0
  | _ => False

/-- The end of a flow whose bytes a step of it forwards. -/
def TcpFlow.actor (flow : TcpFlow) : FlowEvent → ClientConn
  | .targetBytes _ => flow.target
  | _ => flow.source

def Output.isReply : Output → Bool
  | .reply .. | .flowReply .. => true
  | _ => false

namespace ClientRelayRoute

def HasEndpoint (route : ClientRelayRoute) (x : ClientConn) : Prop :=
  route.source.addr=x.addr ∨ route.target.addr=x.addr

def Dead (d : Directory) (route : ClientRelayRoute) : Prop :=
  d.upgrade route.source=none ∨ d.upgrade route.target=none

def Joins (route : ClientRelayRoute) (sender dest : ClientConn) : Prop :=
  (route.source.addr=sender.addr ∧ dest=route.target) ∨
    (route.target.addr=sender.addr ∧ dest=route.source)

/-- The same route instance in the same state, up to counters and half-closes. -/
structure SameBind (route route' : ClientRelayRoute) : Prop where
  identity : route'.identity=route.identity
  source : route'.source=route.source
  target : route'.target=route.target
  boundAt : route'.boundAt=route.boundAt
  opened : route'.opened=route.opened
  sealedV2 : route'.sealedV2=route.sealedV2

theorem sameBind_refl (route : ClientRelayRoute) : route.SameBind route :=
  ⟨rfl,rfl,rfl,rfl,rfl,rfl⟩

theorem sameBind_account (route : ClientRelayRoute) (fromSource : Bool) (msg : BinaryMessage) :
    route.SameBind (route.account fromSource msg) := by
  unfold account
  split <;> exact ⟨rfl,rfl,rfl,rfl,rfl,rfl⟩

end ClientRelayRoute

theorem Directory.upgrade_eq_some {d : Directory} {c c' : ClientConn}
    (h : d.upgrade c=some c') : c'=c := by
  unfold upgrade at h
  split at h
  · cases h
  · cases h
  · exact (Option.some.inj h).symm

/-- One effect of a handler that acts for `x`. -/
inductive Move (d : Directory) (now : ℕ) (x : ClientConn) : Relays → List Output → Relays → Prop
  | reply (r : Relays) (out : List Output) (h : ∀ o ∈ out, o.isReply=true) :
    Move d now x r out r
  | direct (r : Relays) (dest : ClientConn) (targetPeerId : String) (msg : BinaryMessage)
    (h : p2pV2TargetInTunnel d x targetPeerId=some dest) (hzero : routeless msg) :
    Move d now x r [.direct x dest targetPeerId msg] r
  | consume {r : Relays} {key : ClientRelayRouteKey} {route : ClientRelayRoute} (how : Consumption)
    (sealedV2 : Bool) (hget : r.clientRelays.get key=some route)
    (hsource : route.source.addr=x.addr) (hfresh : route.opened=false)
    (hyoung : now-route.boundAt<CLIENT_RELAY_BOUND_TTL)
    (hsealed : sealedV2=(route.sealedV2 || decide (how = .sealedControl))) :
    Move d now x r [.consumed route.identity x how now]
      { r with clientRelays := r.clientRelays.insert key { route with opened := true, sealedV2 } }
  | rewrite {r : Relays} {key : ClientRelayRouteKey} {route route' : ClientRelayRoute}
    (hget : r.clientRelays.get key=some route) (hmine : route.HasEndpoint x)
    (hsame : route.SameBind route') :
    Move d now x r [] { r with clientRelays := r.clientRelays.insert key route' }
  | drop {r : Relays} {routes : Table ClientRelayRouteKey ClientRelayRoute}
    (h : ∀ key, routes.get key=r.clientRelays.get key ∨ (routes.get key=none ∧
      ∃ route, r.clientRelays.get key=some route ∧ (route.HasEndpoint x ∨ route.Dead d))) :
    Move d now x r [] { r with clientRelays := routes }
  | forward {r : Relays} {key : ClientRelayRouteKey} {route : ClientRelayRoute}
    (dest : ClientConn) (what : Relayed) (hget : r.clientRelays.get key=some route)
    (hopen : route.opened=true) (hjoins : route.Joins x dest)
    (hconn : what.connId=some key.connId)
    (hsealed : what.isSealedControl=true → route.sealedV2=true) :
    Move d now x r [.forwarded route.identity x dest what] r
  | flowStart {r : Relays} {route : ClientRelayRoute} (flow : TcpFlow)
    (hget : r.clientRelays.get flow.key=some route) (hopen : route.opened=true)
    (hroute : flow.route=route.identity) (hsource : flow.source=x)
    (hsourceAddr : route.source.addr=x.addr) (htarget : flow.target=route.target) :
    Move d now x r []
      { r with flows := r.flows.insert r.nextFlow flow, nextFlow := r.nextFlow+1 }
  | flowForward {r : Relays} {flowId : ℕ} {flow : TcpFlow} (dest : ClientConn)
    (what : Relayed) (hget : r.flows.get flowId=some flow)
    (hjoins : (x=flow.source ∧ dest=flow.target) ∨ (x=flow.target ∧ dest=flow.source))
    (hconn : what.connId=some flow.key.connId) (hplain : what.isSealedControl=false) :
    Move d now x r [.forwarded flow.route x dest what] r
  | inboundForward {r : Relays} {flowId : ℕ} {flow : TcpFlow} (connId : String) (payload : Bytes)
    (hslot : r.inbound.get (x.addr,connId)=some flowId) (hget : r.flows.get flowId=some flow) :
    Move d now x r [.forwarded flow.route x flow.source (.frame (.data connId payload))] r
  | flowStage {r : Relays} {flowId : ℕ} {flow : TcpFlow} (stage : FlowStage)
    (hget : r.flows.get flowId=some flow) :
    Move d now x r [] { r with flows := r.flows.insert flowId { flow with stage } }
  | flowEnd (r : Relays) (flowId : ℕ) : Move d now x r [] { r with flows := r.flows.remove flowId }
  | pending (r : Relays) (pending : Table (ℕ × String) ℕ) : Move d now x r [] { r with pending }
  | inboundInsert {r : Relays} {flowId : ℕ} {flow : TcpFlow}
    (hget : r.flows.get flowId=some flow) :
    Move d now x r [] { r with inbound := r.inbound.insert flow.slot flowId }
  | inboundRemove (r : Relays) (slot : ℕ × String) :
    Move d now x r [] { r with inbound := r.inbound.remove slot }

inductive Moves (d : Directory) (now : ℕ) (x : ClientConn) : Relays → List Output → Relays → Prop
  | nil (r : Relays) : Moves d now x r [] r
  | cons {r r' r'' : Relays} {out out' : List Output} (h : Move d now x r out r')
    (hs : Moves d now x r' out' r'') : Moves d now x r (out++out') r''

section Sequences
variable {d : Directory} {now : ℕ} {x : ClientConn} {r r' r'' : Relays} {out out' : List Output}

theorem Move.moves (h : Move d now x r out r') : Moves d now x r out r' := by
  have hone:=Moves.cons h (.nil r')
  rwa [List.append_nil] at hone

theorem Moves.trans (h : Moves d now x r out r') (h' : Moves d now x r' out' r'') :
    Moves d now x r (out++out') r'' := by
  induction h with
  | nil => exact h'
  | cons hmove _ ih =>
    rw [List.append_assoc]
    exact .cons hmove (ih h')

theorem Moves.after (h : Move d now x r [] r') (h' : Moves d now x r' out r'') :
    Moves d now x r out r'' :=
  .cons h h'

theorem Moves.before (h : Moves d now x r out r') (h' : Move d now x r' [] r'') :
    Moves d now x r out r'' := by
  have hboth:=h.trans h'.moves
  rwa [List.append_nil] at hboth

theorem Moves.replies (h : Moves d now x r out r') (hreply : ∀ o∈out', o.isReply=true) :
    Moves d now x r (out++out') r' :=
  h.trans (Move.reply r' out' hreply).moves

/-- What holds of the relay state and the trace before a handler, and is kept
by each move, holds after it. -/
theorem Moves.invariant {P : Relays → List Output → Prop}
    (hstep : ∀ r out r' tr, Move d now x r out r' → P r tr → P r' (tr++out))
    (h : Moves d now x r out r') (tr : List Output) (h0 : P r tr) : P r' (tr++out) := by
  induction h generalizing tr with
  | nil => rwa [List.append_nil]
  | cons => grind

end Sequences

section Handlers
variable {d : Directory} {r : Relays} {now : ℕ} {env : Env} {x : ClientConn}
  {key : ClientRelayRouteKey} {route : ClientRelayRoute}

theorem removeRouteIfEndpoints_move {source target : ClientConn}
    (h : ∀ route, r.clientRelays.get key=some route → route.endpointsAre source target=true →
      route.HasEndpoint x ∨ route.Dead d) :
    Move d now x r [] (r.removeRouteIfEndpoints key source target) := by
  refine .drop fun k => ?_
  rw [Table.get_removeIf]
  split_ifs with hk
  · subst hk
    rcases hget : r.clientRelays.get k with - | route
    · exact .inl rfl
    by_cases hends : route.endpointsAre source target=true
    · simp_all
    simp [hends]
  · exact .inl rfl

theorem removeRouteIfEndpoints_of_source (key : ClientRelayRouteKey) (target : ClientConn) :
    Move d now x r [] (r.removeRouteIfEndpoints key x target) := by
  refine removeRouteIfEndpoints_move fun route _ hends => ?_
  simp only [ClientRelayRoute.endpointsAre,ClientConn.ptrEq,Bool.and_eq_true,
    decide_eq_true_eq] at hends
  exact .inl (.inl hends.1)

theorem consumeBoundClientRelayTarget_cases (d : Directory) (r : Relays) (now : ℕ)
    (x : ClientConn) (connId : String) (how : Consumption) (hpt : how ≠ .sealedControl) :
    let key := ClientRelayRouteKey.new x connId
    let consume := consumeBoundClientRelayTarget d r now how x connId
    (consume.out=[] ∧ Moves d now x r [] consume.relays ∧
      ∀ consumed, consume.result ≠ .ok (some consumed)) ∨
    ∃ route, r.clientRelays.get key=some route ∧ route.source.addr=x.addr ∧
      consume.result = .ok (some ⟨key,route.target,route.identity⟩) ∧
      consume.relays={ r with
        clientRelays := r.clientRelays.insert key { route with opened := true } } ∧
      Move d now x r consume.out consume.relays := by
  intro key consume
  have href : ∀ e : String, consume=⟨r,[],.error e⟩ → consume.out=[] ∧
      Moves d now x r [] consume.relays ∧ ∀ consumed, consume.result ≠ .ok (some consumed) := by
    intro e he
    rw [he]
    exact ⟨rfl,.nil r,by simp⟩
  rcases hget : r.clientRelays.get key with - | route
  · left
    have hnone : consume=⟨r,[],.ok none⟩ := by
      simp only [consume,consumeBoundClientRelayTarget,key] at hget ⊢
      rw [hget]
    rw [hnone]
    exact ⟨rfl,.nil r,by simp⟩
  have hunfold : consume=consumeBoundClientRelayTarget d r now how x connId := rfl
  unfold consumeBoundClientRelayTarget at hunfold
  simp only [show r.clientRelays.get (.new x connId)=some route from hget] at hunfold
  split at hunfold
  · exact .inl (href _ hunfold)
  next boundSource hsrc =>
  have hsource:=upgrade_eq_some hsrc
  split_ifs at hunfold with hoth
  · exact .inl (href _ hunfold)
  have hmine : route.source.addr=x.addr := by
    simp only [Bool.or_eq_true,not_or,hsource,ClientConn.ptrEq] at hoth
    simpa using hoth.1
  split at hunfold
  · exact .inl (href _ hunfold)
  next target htgt =>
  have htarget:=upgrade_eq_some htgt
  split at hunfold
  · -- the bind expired: its source removes it
    left
    rw [hunfold]
    refine ⟨rfl,Move.moves (.drop fun k => ?_),by simp⟩
    rw [Table.get_removeIf]
    split_ifs with hk
    · subst hk
      right
      exact ⟨by rw [show r.clientRelays.get (.new x connId)=some route from hget]; simp,route,
        hget,.inl (.inl hmine)⟩
    · exact .inl rfl
  · exact .inl (href _ hunfold)
  · next opened hopd =>
    right
    unfold ClientRelayRoute.consumeBound at hopd
    split_ifs at hopd with hold hcons
    have hfr : route.opened=false := by simpa using hcons
    have hopenedEq : opened={ route with opened := true } := (Except.ok.inj hopd).symm
    subst hopenedEq htarget
    rw [hunfold]
    refine ⟨route,rfl,hmine,rfl,rfl,?_⟩
    exact .consume how route.sealedV2 hget hmine hfr (by omega) (by simp [hpt])

theorem openedRoute_get {r' : Relays}
    (h : r'={ r with clientRelays := r.clientRelays.insert key { route with opened := true } }) :
    r'.clientRelays.get key=some { route with opened := true } := by
  rw [h]
  exact Table.get_insert_self _ _ _

theorem relayClientConnect_moves (connId network address : String) :
    Moves d now x r (relayClientConnect d r now env x connId network address).out
      (relayClientConnect d r now env x connId network address).relays := by
  unfold relayClientConnect
  split
  · exact .nil r
  rcases consumeBoundClientRelayTarget_cases d r now x connId .connect (by decide) with
    ⟨hout,hmoves,hres⟩ | ⟨route,hget,hsrc,hres,hrelay,hmove⟩
  · grind
  · simp only [hres]
    split_ifs
    · exact hmove.moves.before (removeRouteIfEndpoints_of_source _ _)
    · exact hmove.moves.before (removeRouteIfEndpoints_of_source _ _)
    have hput:=openedRoute_get hrelay
    exact hmove.moves.trans (Move.forward _ (.frame (.connect connId network address)) hput rfl
      (.inl ⟨hsrc,rfl⟩) rfl (by intro h; cases h)).moves

theorem flowReplyUnlessRaw_isReply (raw : Bool) (source : ClientConn) (connId : String)
    (success : Bool) (error : String) :
    ∀ o∈flowReplyUnlessRaw raw source connId success error, o.isReply=true := by
  unfold flowReplyUnlessRaw
  split_ifs <;> simp [Output.isReply]

theorem flowStart_moves (flow : TcpFlow)
    (pending : Table (ℕ × String) ℕ) (hget : r.clientRelays.get flow.key=some route)
    (hopen : route.opened=true) (hrt : flow.route=route.identity) (hsrc : flow.source=x)
    (hsource : route.source.addr=x.addr) (htgt : flow.target=route.target) :
    Moves d now x r []
      { r with flows := r.flows.insert r.nextFlow flow, nextFlow := r.nextFlow+1, pending } :=
  .after (.flowStart flow hget hopen hrt hsrc hsource htgt) (Move.pending _ _).moves

theorem startFlow_moves (route : ClientRelayRoute) (incoming : TcpFlowIncoming)
    (hget : r.clientRelays.get (.new x incoming.connId)=some route) (hopen : route.opened=true)
    (hsrc : route.source.addr=x.addr) :
    let consumed : ConsumedRoute := ⟨.new x incoming.connId,route.target,route.identity⟩
    Moves d now x r (startFlow r env x consumed incoming).2
      (startFlow r env x consumed incoming).1 := by
  unfold startFlow
  dsimp only
  split_ifs with hsend hframe
  · exact (Moves.after (removeRouteIfEndpoints_of_source _ _) (Move.pending _ _).moves).replies
      (flowReplyUnlessRaw_isReply _ _ _ _ _)
  · exact (Moves.after (removeRouteIfEndpoints_of_source _ _) (.nil _)).replies
      (flowReplyUnlessRaw_isReply _ _ _ _ _)
  all_goals
    refine .cons (Move.forward _ _ hget hopen (.inl ⟨hsrc,rfl⟩) rfl (by intro h; cases h)) ?_
    exact flowStart_moves _ _ hget hopen rfl rfl hsrc rfl

theorem relayClientTcpFlow_moves (incoming : TcpFlowIncoming) :
    Moves d now x r (relayClientTcpFlow d r now env x incoming).2
      (relayClientTcpFlow d r now env x incoming).1 := by
  unfold relayClientTcpFlow
  dsimp only
  split_ifs
  · exact (Move.reply r _ (by simp [Output.isReply])).moves
  rcases consumeBoundClientRelayTarget_cases d r now x incoming.connId .tcpFlow (by decide) with
    ⟨hout,hmoves,hres⟩ | ⟨route,hget,hsrc,hres,hrelay,hmove⟩
  · split
    · rw [hout]
      exact hmoves.replies (flowReplyUnlessRaw_isReply _ _ _ _ _)
    · rw [hout]
      exact hmoves.replies (flowReplyUnlessRaw_isReply _ _ _ _ _)
    · next consumed hcons => exact absurd hcons (hres consumed)
  · simp only [hres]
    exact hmove.moves.trans (startFlow_moves { route with opened := true } incoming
      (openedRoute_get hrelay) rfl hsrc)

theorem handleTcpFlowStream_moves (incoming : TcpFlowIncoming) :
    Moves d now x r (handleTcpFlowStream d r now env x incoming).2
      (handleTcpFlowStream d r now env x incoming).1 := by
  unfold handleTcpFlowStream
  split_ifs
  · exact (Move.reply r _ (by simp [Output.isReply])).moves
  · exact relayClientTcpFlow_moves incoming

theorem finish_moves (r : Relays) {flowId : ℕ} {flow : TcpFlow}
    (hget : r.flows.get flowId=some flow) (sendsClose : Bool) :
    Moves d now flow.source r (flow.finish r flowId sendsClose).2
      (flow.finish r flowId sendsClose).1 := by
  have hclose : Moves d now flow.source r (flow.finish r flowId sendsClose).2 r := by
    unfold TcpFlow.finish
    dsimp only
    split_ifs
    · exact (Move.flowForward _ _ hget (.inl ⟨rfl,rfl⟩) rfl rfl).moves
    · exact .nil r
  have hended:=(hclose.before (removeRouteIfEndpoints_of_source flow.key flow.target)).before
    (.flowEnd _ flowId)
  refine hended.before ?_
  unfold TcpFlow.finish
  dsimp only
  split_ifs
  · exact .inboundRemove _ _
  · exact .reply _ [] (by simp)

/-- The target is open: a framed flow takes over the inbound slot, and the
source is told, after which the flow is bridged or over. -/
theorem openedFlow_moves {flowId : ℕ} {flow : TcpFlow} (hget : r.flows.get flowId=some flow)
    (replyOk : Bool) :
    let r' := if flow.framed then { r with inbound := r.inbound.insert flow.slot flowId } else r
    let reply := flowReplyUnlessRaw flow.raw flow.source flow.key.connId true ""
    let result := if !flow.raw && !replyOk then
        ((flow.finish r' flowId true).1,reply++(flow.finish r' flowId true).2)
      else ({ r' with flows := r'.flows.insert flowId { flow with stage := .bridging false } },reply)
    Moves d now flow.source r result.2 result.1 := by
  intro r' reply result
  have hget' : r'.flows.get flowId=some flow := by
    simp only [r']
    split_ifs <;> exact hget
  have hopen : Moves d now flow.source r [] r' := by
    simp only [r']
    split_ifs
    · exact (Move.inboundInsert hget).moves
    · exact .nil r
  have hreply : Moves d now flow.source r reply r' :=
    hopen.replies (flowReplyUnlessRaw_isReply _ _ _ _ _)
  simp only [result]
  split_ifs
  · exact hreply.trans (finish_moves r' hget' true)
  · exact hreply.before (.flowStage _ hget')

theorem flowStep_moves {flowId : ℕ} {flow : TcpFlow} (hget : r.flows.get flowId=some flow)
    (e : FlowEvent) :
    Moves d now (flow.actor e) r (flowStep r flowId flow e).2 (flowStep r flowId flow e).1 := by
  unfold flowStep
  split
  · refine Moves.replies ?_ (flowReplyUnlessRaw_isReply _ _ _ _ _)
    exact .after (.pending r _) (finish_moves { r with pending := r.pending.remove flow.slot } hget
      false)
  · exact (finish_moves r hget false).replies (flowReplyUnlessRaw_isReply _ _ _ _ _)
  · exact (finish_moves r hget false).replies (flowReplyUnlessRaw_isReply _ _ _ _ _)
  · exact openedFlow_moves hget _
  · exact openedFlow_moves hget _
  · split_ifs <;> exact (Move.flowForward _ _ hget (.inl ⟨rfl,rfl⟩) rfl rfl).moves
  · split_ifs
    · exact .nil r
    · exact (Move.flowForward _ _ hget (.inr ⟨rfl,rfl⟩) rfl rfl).moves
  · refine Moves.before ?_ (.flowStage _ hget)
    split_ifs
    · exact (Move.flowForward _ _ hget (.inl ⟨rfl,rfl⟩) rfl rfl).moves
    · exact .nil r
  · exact finish_moves r hget _
  · exact .nil r

theorem relayFrameTo_moves {stored : ClientRelayRoute}
    {dest : ClientConn} {msg : BinaryMessage} (terminal : Bool)
    (hget : r.clientRelays.get key=some stored) (hsame : route.SameBind stored)
    (hopen : route.opened=true) (hjoins : route.Joins x dest)
    (hconn : relayFrameConnId msg=some key.connId) :
    Moves d now x r (relayFrameTo r env key route x dest terminal msg).out
      (relayFrameTo r env key route x dest terminal msg).relays := by
  have hmine : stored.HasEndpoint x := by
    unfold ClientRelayRoute.HasEndpoint
    rw [hsame.source,hsame.target]
    exact hjoins.imp And.left And.left
  have hrem : Move d now x r [] (r.removeRouteIfEndpoints key route.source route.target) := by
    refine removeRouteIfEndpoints_move fun current hcur _ => ?_
    rw [hget] at hcur
    cases hcur
    exact .inl hmine
  have hwhat : (frame msg).connId=some key.connId ∧
      (frame msg).isSealedControl=false := by
    cases msg <;> simp_all [connId,isSealedControl,relayFrameConnId]
  have hfwd : Move d now x r [.forwarded route.identity x dest (.frame msg)] r := by
    rw [← hsame.identity]
    refine .forward dest _ hget (hsame.opened.trans hopen) ?_ hwhat.1 ?_
    · unfold ClientRelayRoute.Joins
      rw [hsame.source,hsame.target]
      exact hjoins
    intro hsealed
    rw [hwhat.2] at hsealed
    cases hsealed
  unfold relayFrameTo
  split
  · split_ifs
    · exact .nil r
    split
    · exact hfwd.moves
    · exact .nil r
    · exact .nil r
    · exact hrem.moves
    · exact hrem.moves
  · split_ifs
    · exact hrem.moves
    · exact hrem.moves
    · exact hfwd.moves.before hrem
    · exact hfwd.moves

theorem forwardClientRelay_moves (msg : BinaryMessage) :
    Moves d now x r (forwardClientRelay d r env x msg).out
      (forwardClientRelay d r env x msg).relays := by
  unfold forwardClientRelay
  split
  · exact .nil r
  next connId hconn =>
  dsimp only
  split
  · exact .nil r
  next route hget =>
  split_ifs with hcls
  · exact .nil r
  have hopen : route.opened=true := by simpa using hcls
  split
  · next source target hsrc htgt =>
    have hsource:=upgrade_eq_some hsrc
    have htarget:=upgrade_eq_some htgt
    subst hsource htarget
    split_ifs with hfrom hfromTarget
    · have haddr : route.source.addr=x.addr := by simpa [ClientConn.ptrEq] using hfrom
      have hsame:=route.sameBind_account true msg
      exact .after (.rewrite hget (.inl haddr) hsame)
        (relayFrameTo_moves _ (Table.get_insert_self _ _ _) hsame hopen (.inl ⟨haddr,rfl⟩) hconn)
    · have haddr : route.target.addr=x.addr := by simpa [ClientConn.ptrEq] using hfromTarget
      have hsame:=route.sameBind_account false msg
      exact .after (.rewrite hget (.inr haddr) hsame)
        (relayFrameTo_moves _ (Table.get_insert_self _ _ _) hsame hopen (.inr ⟨haddr,rfl⟩) hconn)
    · exact .nil r
  · next hdead =>
    refine Move.moves (removeRouteIfEndpoints_move fun current hcur _ => .inr ?_)
    rw [hget] at hcur
    cases hcur
    unfold ClientRelayRoute.Dead
    rcases hs : d.upgrade route.source with - | source
    · exact .inl rfl
    rcases ht : d.upgrade route.target with - | target
    · exact .inr rfl
    · exact absurd ht (hdead source target hs)

/-- Only an opened route is sealed. -/
def Relays.SealedOpened (r : Relays) : Prop :=
  ∀ key route, r.clientRelays.get key=some route → route.sealedV2=true → route.opened=true

theorem openSealed_eq_some {usable : ClientRelayRoute} {fromSource routeAbort : Bool}
    (h : openSealed route now fromSource routeAbort=some usable) :
    ((!routeAbort && !route.opened)=true ∧ fromSource=true ∧
      now-route.boundAt<CLIENT_RELAY_BOUND_TTL ∧
      usable={ route with opened := true, sealedV2 := true }) ∨
    ((!routeAbort && !route.opened)=false ∧ route.sealedV2=true ∧ usable=route) := by
  unfold openSealed at h
  split_ifs at h with hfst hsrc hsealed
  · left
    split at h
    · cases h
    next opened hopd =>
    unfold ClientRelayRoute.consumeBound at hopd
    split_ifs at hopd with hold hcons
    have hopenedEq:=(Except.ok.inj hopd).symm
    have husable:=(Option.some.inj h).symm
    rw [hopenedEq] at husable
    exact ⟨hfst,by simpa using hsrc,by omega,husable⟩
  · simp_all

theorem sendSealed_moves
    {dest : ClientConn} {msg : BinaryMessage} {fromSource : Bool} (routeAbort : Bool)
    (hsealed : r.SealedOpened) (hget : r.clientRelays.get key=some route)
    (hfrom : fromSource=true → route.source.addr=x.addr) (hjoins : route.Joins x dest)
    (hconn : (frame msg).connId=some key.connId) :
    Moves d now x r (sendSealed r now env key route x dest fromSource routeAbort msg).out
      (sendSealed r now env key route x dest fromSource routeAbort msg).relays := by
  unfold sendSealed
  split
  · exact .nil r
  next usable husable =>
  have hmine : route.HasEndpoint x := hjoins.imp And.left And.left
  -- either way the stored route is open and sealed, with the endpoints it had
  obtain ⟨hcons,hput⟩ : Moves d now x r (if !routeAbort && !route.opened then
        [.consumed route.identity x .sealedControl now] else [])
        { r with clientRelays := r.clientRelays.insert key usable } ∧
      (usable.identity=route.identity ∧ usable.source=route.source ∧
        usable.target=route.target ∧ usable.opened=true ∧ usable.sealedV2=true) := by
    rcases openSealed_eq_some husable with ⟨hfst,hsrc,hyoung,rfl⟩ | ⟨hlater,hopen,rfl⟩
    · rw [if_pos hfst]
      have hfr : route.opened=false := by
        rw [Bool.and_eq_true] at hfst
        simpa using hfst.2
      exact ⟨(Move.consume .sealedControl true hget (hfrom hsrc) hfr hyoung (by simp)).moves,
        rfl,rfl,rfl,rfl,rfl⟩
    · rw [hlater]
      exact ⟨(Move.rewrite hget hmine usable.sameBind_refl).moves,rfl,rfl,rfl,
        hsealed key usable hget hopen,hopen⟩
  obtain ⟨hidentity,hsrc,htgt,hopen,hsealedV2⟩:=hput
  have husableGet : ({ r with clientRelays := r.clientRelays.insert key usable } : Relays).clientRelays.get
      key=some usable := Table.get_insert_self _ _ _
  have hfwd : Moves d now x { r with clientRelays := r.clientRelays.insert key usable }
      (if env.sendOk then [.forwarded route.identity x dest (.frame msg)] else [])
      { r with clientRelays := r.clientRelays.insert key usable } := by
    split_ifs
    · rw [← hidentity]
      refine Move.moves (.forward dest _ husableGet hopen ?_ hconn fun _ => hsealedV2)
      unfold ClientRelayRoute.Joins
      rw [hsrc,htgt]
      exact hjoins
    · exact .nil _
  have hboth:=hcons.trans hfwd
  dsimp only
  by_cases hrem : (routeAbort || !env.sendOk)=true
  · rw [if_pos hrem]
    refine hboth.before (removeRouteIfEndpoints_move fun current hcur _ => .inl ?_)
    rw [husableGet] at hcur
    cases hcur
    unfold ClientRelayRoute.HasEndpoint
    rw [hsrc,htgt]
    exact hmine
  · rw [if_neg hrem]
    exact hboth

theorem forwardEncryptedPeerControlV2_moves (hsealed : r.SealedOpened) (targetPeerId : String)
    (peerlinkSessionId : SessionId) (connId : WireConnId) (routeAbort : Bool) (sealed : Bytes) :
    let handled := forwardEncryptedPeerControlV2 d r now env x targetPeerId peerlinkSessionId connId
      routeAbort sealed
    Moves d now x r handled.out handled.relays := by
  intro handled
  simp only [handled]
  unfold forwardEncryptedPeerControlV2
  dsimp only
  split
  · exact .nil r
  split
  · next hzero =>
    split
    · exact .nil r
    split
    · exact .nil r
    next target htgt =>
    split
    · refine (Move.direct r target targetPeerId _ htgt ?_).moves
      exact hzero
    · exact .nil r
  split
  · exact .nil r
  next routeConnId hconnId =>
  split
  · exact .nil r
  next route hget =>
  split
  · next source target hsrc htgt =>
    have hsource:=upgrade_eq_some hsrc
    have htarget:=upgrade_eq_some htgt
    subst hsource htarget
    split
    · exact .nil r
    next hoth =>
    have hjoins : route.Joins x (if route.source.ptrEq x then route.target else route.source) := by
      by_cases hfrom : route.source.ptrEq x=true
      · rw [if_pos hfrom]
        exact .inl ⟨by simpa [ClientConn.ptrEq] using hfrom,rfl⟩
      rw [if_neg hfrom]
      refine .inr ⟨?_,rfl⟩
      rw [Bool.not_eq_true] at hfrom
      rw [hfrom] at hoth
      simpa [ClientConn.ptrEq] using hoth
    generalize (if route.source.ptrEq x then route.target else route.source)=dest at hjoins ⊢
    split
    · exact .nil r
    have hconn : (frame (sealedControl x peerlinkSessionId connId routeAbort sealed)).connId =
        some (ClientRelayRouteKey.new x routeConnId).connId := hconnId
    exact sendSealed_moves routeAbort hsealed hget
      (fun hfrom => by simpa [ClientConn.ptrEq] using hfrom) hjoins hconn
  · exact .nil r

/-- A frame of an attachment, other than a bind, is a sequence of moves. -/
theorem handleInbound_moves (hsealed : r.SealedOpened) (msg : BinaryMessage)
    (hbind : ∀ connId peerClientId, msg ≠ .relayRouteBind connId peerClientId) :
    Moves d now x r (handleInbound d r now env x msg).2 (handleInbound d r now env x msg).1 := by
  cases msg with
  | connect connId network address =>
    simp only [handleInbound,handleConnect]
    split
    · exact (Move.reply r _ (by simp [Output.isReply])).moves
    split
    · exact relayClientConnect_moves connId network address
    · exact (relayClientConnect_moves connId network address).replies (by simp [Output.isReply])
  | connectResponse =>
    simp only [handleInbound,handleConnectResponse]
    split
    · split
      · next flowId _ flow hget =>
        split
        · exact .after (.flowStage _ hget) (Move.pending _ _).moves
        · exact (Move.pending r _).moves
      · exact (Move.pending r _).moves
    · exact forwardClientRelay_moves _
  | data connId payload =>
    simp only [handleInbound,handleData]
    split
    · next flowId hslot =>
      split
      · next flow hget =>
        split
        · exact .nil r
        split
        · exact (Move.inboundRemove r _).moves
        · exact (Move.inboundForward connId payload hslot hget).moves
      · exact .nil r
    · exact forwardClientRelay_moves _
  | udpData => exact forwardClientRelay_moves _
  | close => exact .after (.inboundRemove r _) (forwardClientRelay_moves _)
  | encryptedPeerControlV2 targetPeerId peerlinkSessionId connId routeAbort sealed =>
    exact forwardEncryptedPeerControlV2_moves hsealed targetPeerId peerlinkSessionId connId
      routeAbort sealed
  | relayRouteBind connId peerClientId => exact absurd rfl (hbind connId peerClientId)
  | p2pAnnounce | p2pAnnounceAck | relayRouteBindAck => exact .nil r

/-- A bind may take the place of this route: it expired before it was consumed,
or one of its endpoints is gone. -/
def ClientRelayRoute.Replaceable (d : Directory) (now : ℕ) (route : ClientRelayRoute) : Prop :=
  (route.opened=false ∧ CLIENT_RELAY_BOUND_TTL≤now-route.boundAt) ∨ route.Dead d

/-- A bind leaves the routes as they are, or stores a new one to the attachment
its source named, where no route that must stay was stored. -/
theorem bindClientRelayRoute_eq_ok {connId targetPeerId : String} {r' : Relays}
    {out : List Output} (h : bindClientRelayRoute d r now x connId targetPeerId = .ok (r',out)) :
    (r'=r ∧ out=[]) ∨ ∃ target, p2pV2TargetInTunnel d x (trim targetPeerId)=some target ∧
      (∀ old, r.clientRelays.get (.new x connId)=some old → old.Replaceable d now) ∧
      (r',out)=r.insertRoute (.new x connId) x target now := by
  unfold bindClientRelayRoute at h
  dsimp only at h
  obtain ⟨-,h⟩:=ite_error_eq_ok.mp h
  obtain ⟨-,h⟩:=ite_error_eq_ok.mp h
  obtain ⟨target,htgt,h⟩:=bind_eq_ok.mp h
  rw [okOr_eq_ok] at htgt
  split at h
  · simp_all
  · next existing hexists =>
    have hone : ∀ old, r.clientRelays.get (.new x connId)=some old → existing=old := by
      intro old hold
      rw [hexists] at hold
      exact Option.some.inj hold
    split_ifs at h with hexpired hsame hdead
    · right
      refine ⟨target,htgt,?_,(Except.ok.inj h).symm⟩
      intro old hold
      rw [← hone old hold]
      left
      simpa using hexpired
    · left
      cases h
      exact ⟨rfl,rfl⟩
    · right
      refine ⟨target,htgt,?_,(Except.ok.inj h).symm⟩
      intro old hold
      rw [← hone old hold]
      right
      simpa [ClientRelayRoute.Dead] using hdead

end Handlers

theorem p2pV2TargetInTunnel_eq_some {d : Directory} {source target : ClientConn}
    {targetPeerId : String} (h : p2pV2TargetInTunnel d source targetPeerId=some target) :
    source.authenticatedPeerV2.tunnelId=source.tunnelId ∧
      source.authenticatedPeerV2.peerId≠targetPeerId ∧
      d.peers.stablePeerId source.authenticatedPeerV2.tunnelId source.authenticatedPeerV2.replicaId =
        some source.authenticatedPeerV2.peerId ∧
      target∈d.registered source.tunnelId ∧ target.authenticatedPeerV2.peerId=targetPeerId := by
  unfold p2pV2TargetInTunnel at h
  dsimp only at h
  split_ifs at h with hsrc
  simp only [Bool.or_eq_true,decide_eq_true_eq,not_or,not_not] at hsrc
  obtain ⟨⟨⟨htun,-⟩,hpeer⟩,hstable⟩:=hsrc
  have hmem:=List.mem_of_find?_eq_some h
  have hcand:=List.find?_some h
  simp only [Bool.and_eq_true,decide_eq_true_eq] at hcand
  rw [List.mem_reverse,htun] at hmem
  exact ⟨htun,hpeer,hstable,hmem,hcand.1.1.2⟩

end Lantunnel.Gateway
