import Lantunnel.Client.MultiSender

/-!
# What a router hands to which session

For a router with a V2 seal context, every frame of a send call that reaches the Relay
session is the sealed form of the call's message under the flow's own record context,
and every frame that reaches a P2P session is the message itself.
-/

namespace Lantunnel.Client
open Lib.FieldCodec Lib.RustStd Core Except V2RelaySealContext List

section Handover
variable {ε : Type}

structure Attempt (ε : Type) where
  session : SessionHandle
  frame : BinaryMessage
  outcome : Except ε Unit
  deriving DecidableEq

def SendEffect.attempt? : SendEffect ε → Option (Attempt ε)
  | .attempt session frame outcome => some ⟨session,frame,outcome⟩
  | _ => none

def attempts (effects : List (SendEffect ε)) : List (Attempt ε) :=
  effects.filterMap SendEffect.attempt?

@[simp] theorem attempts_append (xs ys : List (SendEffect ε)) :
    attempts (xs++ys)=attempts xs++attempts ys := by
  simp [attempts]

@[simp] theorem attempts_close (session : SessionHandle) (report : Bool)
    (effects : List (SendEffect ε)) :
    attempts (.closeFailedP2pSession session report::effects)=attempts effects := rfl

@[simp] theorem attempts_ite_close (c : Prop) [Decidable c] (session : SessionHandle)
    (report : Bool) :
    attempts (if c then [SendEffect.closeFailedP2pSession (ε := ε) session report] else [])=[] := by
  split_ifs <;> rfl

@[simp] theorem attempts_removeForClose (msg : BinaryMessage) :
    attempts (removeDatagramAssociationForClose (ε := ε) msg)=[] := by
  cases msg with
  | close => rfl
  | _ => rfl

@[simp] theorem attempts_transmit (session : SessionHandle) (frame : BinaryMessage)
    (outcome : Except ε Unit) (kind : PathKind) (bytes : ℕ) :
    attempts (transmit session frame outcome kind bytes)=[⟨session,frame,outcome⟩] := by
  cases outcome with
  | ok u | error e => rfl

variable (carries : SessionHandle → BinaryMessage → Prop)

/-- The part of a call after its first transport send failed: no further
attempt, or one that decides the result. -/
inductive Retry : List (Attempt ε) → Bool → Prop
  | none : Retry [] false
  | one (session frame) (outcome : Except ε Unit) (h : carries session frame) :
      Retry [⟨session,frame,outcome⟩] outcome.isOk

/-- The attempts of a whole call, with whether it reports success. -/
inductive Handover : List (Attempt ε) → Bool → Prop
  | refused : Handover [] false
  | delivered (session frame) (h : carries session frame) :
      Handover [⟨session,frame,.ok ()⟩] true
  | failed (session frame) (e : ε) (h : carries session frame) {rest ok} (hrest : Retry carries rest ok) :
      Handover (⟨session,frame,.error e⟩::rest) ok

variable {carries} {l : List (Attempt ε)} {ok : Bool}

theorem Retry.carried (h : Retry carries l ok) : ∀ a∈l, carries a.session a.frame := by
  cases h with
  | none => simp
  | one session frame outcome h => simpa using h

theorem Retry.length_le (h : Retry carries l ok) : l.length≤1 := by
  cases h with
  | none | one session frame outcome h => simp

theorem Retry.countP_isOk (h : Retry carries l ok) :
    l.countP (fun a => a.outcome.isOk)=ok.toNat := by
  cases h with
  | none => rfl
  | one session frame outcome =>
    cases outcome with
    | ok u | error e => rfl

theorem Handover.carried (h : Handover carries l ok) : ∀ a∈l, carries a.session a.frame := by
  cases h with
  | refused => simp
  | delivered session frame h => simpa using h
  | failed session frame e h hrest =>
    intro a ha
    rcases mem_cons.mp ha with rfl | ha
    · exact h
    · exact hrest.carried a ha

theorem Handover.length_le (h : Handover carries l ok) : l.length≤2 := by
  cases h with
  | refused | delivered session frame h => simp
  | failed session frame e h hrest =>
    have hlen:=hrest.length_le
    rw [length_cons]
    omega

/-- A call reports success exactly when one of its attempts succeeded, and then
exactly one did. -/
theorem Handover.countP_isOk (h : Handover carries l ok) :
    l.countP (fun a => a.outcome.isOk)=ok.toNat := by
  cases h with
  | refused | delivered session frame h => rfl
  | failed session frame e h hrest =>
    exact hrest.countP_isOk

end Handover

def Routed (session : SessionHandle) : PathKind → Prop
  | .relay => session = .relay
  | .p2p => ∃ handle, session = .p2p handle

theorem pickP2pFirstWithKind_routed {ε : Type} (env : SendEnv ε) :
    Routed (pickP2pFirstWithKind env).1 (pickP2pFirstWithKind env).2 := by
  unfold pickP2pFirstWithKind
  cases env.p2pForNewFlow with
  | none => rfl
  | some p2p => exact ⟨p2p,rfl⟩

theorem pickWithKind_routed {ε : Type} (env : SendEnv ε) :
    Routed (pickWithKind env).1 (pickWithKind env).2 := by
  unfold pickWithKind
  cases env.scheduled with
  | relay => rfl
  | p2p =>
    cases env.p2pForNewFlow with
    | none => rfl
    | some p2p => exact ⟨p2p,rfl⟩

theorem MultiSenderRouter.pick_routed {ε : Type} (router : MultiSenderRouter) (env : SendEnv ε) :
    Routed (router.pick env).1 (router.pick env).2 := by
  unfold MultiSenderRouter.pick
  cases router.mode with
  | scheduled => exact pickWithKind_routed env
  | p2pPreferred => exact pickP2pFirstWithKind_routed env
  | pinnedP2p p2p | pinnedP2pNoRelayFallback p2p => exact ⟨p2p,rfl⟩
  | relayOnly | relayWithP2pFallback => rfl

namespace MultiSenderRouter
section Messages
variable {aead : Aead} {router : MultiSenderRouter} {msg : BinaryMessage}
  {carries : SessionHandle → BinaryMessage → Prop}
  (hmsg : ∀ session kind nonce frame, Routed session kind →
    router.messageForPath aead msg kind nonce = .ok frame → carries session frame)
include hmsg

theorem carries_p2p (handle : P2pHandle) : carries (.p2p handle) msg :=
  hmsg (.p2p handle) .p2p (Vector.replicate NONCE_SIZE 0) msg ⟨handle,rfl⟩ rfl

section
variable (env : SendEnv TransportError)

theorem sendViaP2pAfterRelayClosed_retry (bytes : ℕ) :
    Retry carries (attempts (sendViaP2pAfterRelayClosed env msg bytes).effects)
      (sendViaP2pAfterRelayClosed env msg bytes).result.2.2.isOk := by
  unfold sendViaP2pAfterRelayClosed
  cases env.p2pForFallback with
  | none => exact .none
  | some p2p =>
    dsimp only
    split
    · exact .none
    rw [attempts_append,attempts_transmit,attempts_ite_close]
    exact .one _ _ _ (carries_p2p hmsg p2p)

theorem sendAfterFailure_retry (sess : SessionHandle) (kind : PathKind) (e : TransportError) :
    Retry carries (attempts (router.sendAfterFailure aead env msg sess kind e).effects)
      (router.sendAfterFailure aead env msg sess kind e).result.2.2.isOk := by
  unfold sendAfterFailure
  split
  · split
    · exact .none
    split
    · exact .none
    unfold sendViaRelayAfterP2pClosed
    split
    · exact .none
    next outbound hout =>
    rw [attempts_close,attempts_transmit]
    exact .one _ _ _ (hmsg .relay .relay _ outbound rfl hout)
  · split
    · exact sendViaP2pAfterRelayClosed_retry hmsg env _
    · exact .none

theorem sendWithPathAndSession_handover :
    Handover carries (attempts (router.sendWithPathAndSession aead env msg).effects)
      (router.sendWithPathAndSession aead env msg).result.2.2.isOk := by
  have hrtd:=router.pick_routed env
  unfold sendWithPathAndSession
  generalize router.pick env=picked at hrtd
  obtain ⟨sess,kind⟩:=picked
  dsimp only at hrtd ⊢
  split
  · rw [attempts_removeForClose]
    exact .refused
  split
  · rw [attempts_removeForClose]
    exact .refused
  next outbound hout =>
  have hcarry:=hmsg sess kind _ outbound hrtd hout
  rcases hres : env.outcome 0 with e | u
  · have hretry:=sendAfterFailure_retry hmsg env sess kind e
    simp only [attempts_append,attempts_removeForClose,attempts_transmit,nil_append,
      singleton_append]
    exact .failed sess outbound e hcarry hretry
  · simp only [attempts_append,attempts_removeForClose,attempts_transmit,nil_append]
    exact .delivered sess outbound hcarry

end

theorem trySendAfterFailure_retry (env : SendEnv TrySendKind) (sess : SessionHandle)
    (kind : PathKind) (e : TrySendKind) :
    Retry carries (attempts (router.trySendAfterFailure aead env msg sess kind e).effects)
      (router.trySendAfterFailure aead env msg sess kind e).result.isOk := by
  unfold trySendAfterFailure
  split
  · split
    · exact .none
    split
    · exact .none
    next outbound hout =>
    rw [attempts_close,attempts_transmit]
    exact .one _ _ _ (hmsg .relay .relay _ outbound rfl hout)
  · split
    · unfold trySendViaP2pAfterRelayClosed
      cases env.p2pForFallback with
      | none => exact .none
      | some p2p =>
        rw [attempts_append,attempts_transmit,attempts_ite_close]
        exact .one _ _ _ (carries_p2p hmsg p2p)
    · exact .none

theorem trySend_handover (env : SendEnv TrySendKind) :
    Handover carries (attempts (router.trySend aead env msg).effects)
      (router.trySend aead env msg).result.isOk := by
  have hrtd:=router.pick_routed env
  unfold trySend
  generalize router.pick env=picked at hrtd
  obtain ⟨sess,kind⟩:=picked
  dsimp only at hrtd ⊢
  split
  · rw [attempts_removeForClose]
    exact .refused
  next outbound hout =>
  have hcarry:=hmsg sess kind _ outbound hrtd hout
  rcases hres : env.outcome 0 with e | u
  · have hretry:=trySendAfterFailure_retry hmsg env sess kind e
    simp only [attempts_append,attempts_removeForClose,attempts_transmit,nil_append,
      singleton_append]
    exact .failed sess outbound e hcarry hretry
  · simp only [attempts_append,attempts_removeForClose,attempts_transmit,nil_append]
    exact .delivered sess outbound hcarry

end Messages

section Prepared
variable {aead : Aead} {router : MultiSenderRouter} {connId : String} {kind : RelayFramedKindV2}
  {record : Bytes} {carries : SessionHandle → BinaryMessage → Prop}
  (hinitial : ∀ session path nonce frame fallback, NONCE_SIZE ≤ record.length →
    Routed session path →
    router.preparedMessageForInitialPath aead connId kind record path nonce =
      .ok (frame, fallback) → carries session frame)
  (hretry : ∀ session path nonce frame, Routed session path →
    router.preparedMessageFromPlaintext aead connId kind (record.drop NONCE_SIZE) path nonce =
      .ok frame → carries session frame)

theorem preparedPlaintextLen_bound {bytes : ℕ} (h : preparedPlaintextLen record = .ok bytes) :
    NONCE_SIZE≤record.length := by
  have hlen:=(ite_error_eq_ok.mp h).1
  omega

variable {fallback : Option Bytes}

theorem preparedMessageForInitialPath_fallback {path : PathKind} {nonce : Nonce}
    {frame : BinaryMessage}
    (h : router.preparedMessageForInitialPath aead connId kind record path nonce =
      .ok (frame,fallback)) : fallback=none ∨ fallback=some (record.drop NONCE_SIZE) := by
  have hite : ∀ c : Bool, (if c then some (record.drop NONCE_SIZE) else none)=none ∨
      (if c then some (record.drop NONCE_SIZE) else none)=some (record.drop NONCE_SIZE) := by
    intro c
    cases c with
    | false => exact .inl rfl
    | true => exact .inr rfl
  cases path with
  | p2p =>
    obtain ⟨-,rfl⟩:=Prod.mk.inj (ok.inj h)
    exact hite _
  | relay =>
    obtain ⟨_,-,h⟩:=bind_eq_ok.mp h
    split at h
    · obtain ⟨_,-,h⟩:=bind_eq_ok.mp h
      obtain ⟨-,rfl⟩:=Prod.mk.inj (ok.inj h)
      exact hite _
    · grind

include hretry

theorem carries_prepared_p2p (handle : P2pHandle) :
    carries (.p2p handle) (preparedBinaryMessage connId kind (record.drop NONCE_SIZE)) :=
  hretry (.p2p handle) .p2p (Vector.replicate NONCE_SIZE 0) _ ⟨handle,rfl⟩ rfl

theorem sendPreparedAfterFailure_retry (env : SendEnv TransportError) (bytes : ℕ)
    (hfall : fallback=none ∨ fallback=some (record.drop NONCE_SIZE))
    (session : SessionHandle) (path : PathKind) (e : TransportError) : Retry carries
      (attempts (router.sendPreparedAfterFailure aead env connId kind bytes fallback session path
        e).effects)
      (router.sendPreparedAfterFailure aead env connId kind bytes fallback session path
        e).result.isOk := by
  unfold sendPreparedAfterFailure
  split
  · split
    · exact .none
    split
    · exact .none
    rcases hfall with rfl | rfl
    · exact .none
    dsimp only
    split
    · exact .none
    next message hout =>
    rw [attempts_close,attempts_transmit]
    exact .one _ _ _ (hretry .relay .relay _ message rfl hout)
  · split
    · rcases hfall with rfl | rfl
      · cases env.p2pForFallback with
        | none | some p2p => exact .none
      cases env.p2pForFallback with
      | none => exact .none
      | some p2p =>
        rw [attempts_transmit]
        exact .one _ _ _ (carries_prepared_p2p hretry p2p)
    · exact .none

theorem trySendPreparedAfterFailure_retry (env : SendEnv TrySendKind) (bytes : ℕ)
    (hfall : fallback=none ∨ fallback=some (record.drop NONCE_SIZE))
    (session : SessionHandle) (path : PathKind) (e : TrySendKind) : Retry carries
      (attempts (router.trySendPreparedAfterFailure aead env connId kind bytes fallback session path
        e).effects)
      (router.trySendPreparedAfterFailure aead env connId kind bytes fallback session path
        e).result.isOk := by
  unfold trySendPreparedAfterFailure
  split
  · split
    · exact .none
    rcases hfall with rfl | rfl
    · exact .none
    dsimp only
    split
    · exact .none
    next outbound hout =>
    rw [attempts_close,attempts_transmit]
    exact .one _ _ _ (hretry .relay .relay _ outbound rfl hout)
  · split
    · rcases hfall with rfl | rfl
      · cases env.p2pForFallback with
        | none | some p2p => exact .none
      cases env.p2pForFallback with
      | none => exact .none
      | some p2p =>
        rw [attempts_transmit]
        exact .one _ _ _ (carries_prepared_p2p hretry p2p)
    · exact .none

include hinitial

theorem sendPreparedData_handover (env : SendEnv TransportError) :
    Handover carries (attempts (router.sendPreparedData aead env connId kind record).effects)
      (router.sendPreparedData aead env connId kind record).result.isOk := by
  have hrtd:=router.pick_routed env
  unfold sendPreparedData
  generalize router.pick env=picked at hrtd
  obtain ⟨session,path⟩:=picked
  dsimp only at hrtd ⊢
  split
  · exact .refused
  next bytes hbs =>
  split
  · exact .refused
  next outbound fallback hout =>
  have hlen:=preparedPlaintextLen_bound hbs
  have hcarry:=hinitial session path _ outbound fallback hlen hrtd hout
  rcases hres : env.outcome 0 with e | u
  · have hrest:=sendPreparedAfterFailure_retry hretry env bytes
      (preparedMessageForInitialPath_fallback hout) session path e
    exact .failed session outbound e hcarry hrest
  · exact .delivered session outbound hcarry

theorem trySendPreparedData_handover (env : SendEnv TrySendKind) :
    Handover carries (attempts (router.trySendPreparedData aead env connId kind record).effects)
      (router.trySendPreparedData aead env connId kind record).result.isOk := by
  have hrtd:=router.pick_routed env
  unfold trySendPreparedData
  generalize router.pick env=picked at hrtd
  obtain ⟨session,path⟩:=picked
  dsimp only at hrtd ⊢
  split
  · exact .refused
  · exact .refused
  next bytes hbs =>
  split
  · exact .refused
  next outbound fallback hout =>
  have hlen:=preparedPlaintextLen_bound hbs
  have hcarry:=hinitial session path _ outbound fallback hlen hrtd hout
  rcases hres : env.outcome 0 with e | u
  · have hrest:=trySendPreparedAfterFailure_retry hretry env bytes
      (preparedMessageForInitialPath_fallback hout) session path e
    exact .failed session outbound e hcarry hrest
  · exact .delivered session outbound hcarry

end Prepared
end MultiSenderRouter

def IsFlowMessage : BinaryMessage → Prop
  | .connect _ _ _ => True
  | .connectResponse _ _ _ => True
  | .data _ _ => True
  | .udpData _ _ => True
  | _ => False

/-- `frame` is `msg` sealed for the flow of `ctx`: under the send key of its
PeerLink, with the flow's own tunnel, session, peers, connection id and the
record kind of `msg` authenticated. -/
inductive SealedForm (aead : Aead) (ctx : V2RelaySealContext) :
    BinaryMessage → BinaryMessage → Prop
  | connect (connId network address : String) {aad encoded sealed : Bytes}
      (haad : controlAad ctx.record false = .ok aad)
      (henc : (RelayControlPayloadV2.openFlow network address).encode = .ok encoded)
      (hsealed : SealedRecord aead ctx.cipher.send aad encoded sealed) :
      SealedForm aead ctx (.connect connId network address)
        (.encryptedPeerControlV2 ctx.remotePeerId ctx.sessionId ctx.connId false sealed)
  | connectResponse (connId : String) (success : Bool) (error : String) {aad encoded sealed : Bytes}
      (haad : controlAad ctx.record false = .ok aad)
      (henc : (RelayControlPayloadV2.openResponse success error).encode = .ok encoded)
      (hsealed : SealedRecord aead ctx.cipher.send aad encoded sealed) :
      SealedForm aead ctx (.connectResponse connId success error)
        (.encryptedPeerControlV2 ctx.remotePeerId ctx.sessionId ctx.connId false sealed)
  | data (connId : String) (payload : Bytes) {aad sealed : Bytes}
      (haad : framedAad ctx.record .data = .ok aad)
      (hsealed : SealedRecord aead ctx.cipher.send aad payload sealed) :
      SealedForm aead ctx (.data connId payload) (.data connId sealed)
  | udpData (connId : String) (payload : Bytes) {aad sealed : Bytes}
      (haad : framedAad ctx.record .udpData = .ok aad)
      (hsealed : SealedRecord aead ctx.cipher.send aad payload sealed) :
      SealedForm aead ctx (.udpData connId payload) (.udpData connId sealed)

def Carries (aead : Aead) (ctx : V2RelaySealContext) (msg : BinaryMessage) :
    SessionHandle → BinaryMessage → Prop
  | .relay, frame => messageConnIdWire msg = .ok ctx.connId ∧ SealedForm aead ctx msg frame
  | .p2p _, frame => frame=msg

namespace V2RelaySealContext
variable {aead : Aead} {ctx : V2RelaySealContext} {nonce : Nonce}

theorem sealBody_sealed {aad plaintext sealed : Bytes}
    (h : ctx.sealBody aead aad plaintext nonce = .ok sealed) :
    SealedRecord aead ctx.cipher.send aad plaintext sealed :=
  sealPreparedWithNonce_sealed (by simp) (mapCryptoError_eq_ok.mp h)

theorem sealControlFrame_eq_ok {payload : RelayControlPayloadV2} {connId : WireConnId}
    {frame : BinaryMessage} (h : ctx.sealControlFrame aead payload connId nonce = .ok frame) :
    ∃ encoded sealed, payload.encode = .ok encoded ∧
      SealedRecord aead ctx.cipher.send ctx.controlAad encoded sealed ∧
      frame = .encryptedPeerControlV2 ctx.remotePeerId ctx.sessionId connId false sealed := by
  obtain ⟨encoded,henc,h⟩:=bind_eq_ok.mp h
  obtain ⟨sealed,hsealed,h⟩:=bind_eq_ok.mp h
  exact ⟨encoded,sealed,mapCryptoError_eq_ok.mp henc,sealBody_sealed hsealed,(ok.inj h).symm⟩

theorem sealForRelay_sealed {msg frame : BinaryMessage} (hflow : IsFlowMessage msg)
    (h : ctx.sealForRelay aead msg nonce = .ok frame) : Carries aead ctx msg .relay frame := by
  obtain ⟨connId,hconn,h⟩:=bind_eq_ok.mp h
  obtain ⟨hsame,h⟩:=ite_error_eq_ok.mp h
  obtain rfl : connId=ctx.connId := not_not.mp hsame
  refine ⟨hconn,?_⟩
  cases msg with
  | connect connId network address =>
    obtain ⟨_,sealed,henc,hsealed,rfl⟩:=sealControlFrame_eq_ok h
    exact .connect connId network address ctx.controlAad_eq henc hsealed
  | connectResponse connId success error =>
    obtain ⟨_,_,henc,hsealed,rfl⟩:=sealControlFrame_eq_ok h
    exact .connectResponse connId success error ctx.controlAad_eq henc hsealed
  | data connId payload =>
    obtain ⟨_,hsealed,h⟩:=bind_eq_ok.mp h
    obtain rfl := ok.inj h
    exact .data connId payload ctx.dataAad_eq (sealBody_sealed hsealed)
  | udpData connId payload =>
    obtain ⟨_,hsealed,h⟩:=bind_eq_ok.mp h
    obtain rfl := ok.inj h
    exact .udpData connId payload ctx.udpAad_eq (sealBody_sealed hsealed)
  | _ => exact hflow.elim

theorem sealPrepared_sealed {connId : String} {wire : WireConnId} {kind : RelayFramedKindV2}
    {reserved plaintext sealed : Bytes} (hres : reserved.length=NONCE_SIZE)
    (hwire : connIdWire connId = .ok wire)
    (h : ctx.sealPrepared aead wire kind (reserved++plaintext) nonce = .ok sealed) :
    Carries aead ctx (preparedBinaryMessage connId kind plaintext) .relay
      (preparedBinaryMessage connId kind sealed) := by
  obtain ⟨hsame,hbody⟩:=ite_error_eq_ok.mp h
  obtain rfl : wire=ctx.connId := not_not.mp hsame
  have hsealed:=sealPreparedWithNonce_sealed hres (mapCryptoError_eq_ok.mp hbody)
  cases kind with
  | data => exact ⟨hwire,.data connId plaintext ctx.dataAad_eq hsealed⟩
  | udpData => exact ⟨hwire,.udpData connId plaintext ctx.udpAad_eq hsealed⟩

end V2RelaySealContext

namespace MultiSenderRouter
variable {aead : Aead} {router : MultiSenderRouter} {ctx : V2RelaySealContext}
  (hseal : router.v2RelaySeal = some ctx)
include hseal

theorem messageForPath_carries {msg : BinaryMessage} (hflow : IsFlowMessage msg)
    (session : SessionHandle) (kind : PathKind) (nonce : Nonce) (frame : BinaryMessage)
    (hrtd : Routed session kind) (h : router.messageForPath aead msg kind nonce = .ok frame) :
    Carries aead ctx msg session frame := by
  cases kind with
  | relay =>
    obtain rfl : session = .relay := hrtd
    simp only [messageForPath,hseal] at h
    exact sealForRelay_sealed hflow h
  | p2p =>
    obtain ⟨_,rfl⟩:=hrtd
    exact (ok.inj h).symm

section
variable {connId : String} {kind : RelayFramedKindV2} {plaintext record : Bytes}
variable (session : SessionHandle) (path : PathKind) (nonce : Nonce) (frame : BinaryMessage)

theorem preparedMessageFromPlaintext_carries (hrtd : Routed session path)
    (h : router.preparedMessageFromPlaintext aead connId kind plaintext path nonce = .ok frame) :
    Carries aead ctx (preparedBinaryMessage connId kind plaintext) session frame := by
  cases path with
  | relay =>
    obtain rfl : session = .relay := hrtd
    simp only [preparedMessageFromPlaintext,hseal] at h
    obtain ⟨_,hwire,h⟩:=bind_eq_ok.mp h
    obtain ⟨_,hsealed,h⟩:=bind_eq_ok.mp h
    obtain rfl := ok.inj h
    exact sealPrepared_sealed (by simp) hwire hsealed
  | p2p =>
    obtain ⟨_,rfl⟩:=hrtd
    exact (ok.inj h).symm

theorem preparedMessageForInitialPath_carries (fallback : Option Bytes)
    (hlen : NONCE_SIZE≤record.length) (hrtd : Routed session path)
    (h : router.preparedMessageForInitialPath aead connId kind record path nonce =
      .ok (frame,fallback)) :
    Carries aead ctx (preparedBinaryMessage connId kind (record.drop NONCE_SIZE)) session frame := by
  cases path with
  | relay =>
    obtain rfl : session = .relay := hrtd
    simp only [preparedMessageForInitialPath,hseal] at h
    obtain ⟨_,hwire,h⟩:=bind_eq_ok.mp h
    obtain ⟨_,hsealed,h⟩:=bind_eq_ok.mp h
    obtain ⟨rfl,-⟩:=Prod.mk.inj (ok.inj h)
    rw [← take_append_drop NONCE_SIZE record] at hsealed
    exact sealPrepared_sealed (by simp [hlen]) hwire hsealed
  | p2p =>
    obtain ⟨_,rfl⟩:=hrtd
    exact (Prod.mk.inj (ok.inj h)).1.symm

end

end MultiSenderRouter

/-- The effects of one send call for `msg`: every transport send carries the
form of `msg` its session may see, one of them at most succeeds, and one at
most follows the first. -/
structure OneSealedHandover {ε : Type} (aead : Aead) (ctx : V2RelaySealContext) (msg : BinaryMessage)
    (effects : List (SendEffect ε)) : Prop where
  carried : ∀ a ∈ attempts effects, Carries aead ctx msg a.session a.frame
  once : (attempts effects).countP (fun a => a.outcome.isOk)≤1
  retries : (attempts effects).length≤2

theorem Handover.oneSealed {ε : Type} {aead : Aead} {ctx : V2RelaySealContext} {msg : BinaryMessage}
    {effects : List (SendEffect ε)} {ok : Bool}
    (h : Handover (Carries aead ctx msg) (attempts effects) ok) :
    OneSealedHandover aead ctx msg effects := by
  refine ⟨h.carried,?_,h.length_le⟩
  rw [h.countP_isOk]
  exact ok.toNat_le

theorem MultiSenderRouter.no_plaintext_on_relay (aead : Aead) (router : MultiSenderRouter)
    (ctx : V2RelaySealContext) (hseal : router.v2RelaySeal = some ctx) :
    (∀ env msg, IsFlowMessage msg →
      OneSealedHandover aead ctx msg (router.sendWithPathAndSession aead env msg).effects) ∧
    (∀ env msg, IsFlowMessage msg →
      OneSealedHandover aead ctx msg (router.trySend aead env msg).effects) ∧
    (∀ env connId kind record,
      OneSealedHandover aead ctx (preparedBinaryMessage connId kind (record.drop NONCE_SIZE))
        (router.sendPreparedData aead env connId kind record).effects) ∧
    (∀ env connId kind record,
      OneSealedHandover aead ctx (preparedBinaryMessage connId kind (record.drop NONCE_SIZE))
        (router.trySendPreparedData aead env connId kind record).effects) := by
  refine ⟨?_,?_,?_,?_⟩
  · intro env msg hflow
    exact (sendWithPathAndSession_handover (messageForPath_carries hseal hflow) env).oneSealed
  · intro env msg hflow
    exact (trySend_handover (messageForPath_carries hseal hflow) env).oneSealed
  · intro env connId kind record
    exact (sendPreparedData_handover (preparedMessageForInitialPath_carries hseal)
      (preparedMessageFromPlaintext_carries hseal) env).oneSealed
  · intro env connId kind record
    exact (trySendPreparedData_handover (preparedMessageForInitialPath_carries hseal)
      (preparedMessageFromPlaintext_carries hseal) env).oneSealed

/-! A flow whose Relay session closes under a prepared record: the record is
sealed in place for the Relay, and the retry carries the plaintext kept for it. -/

def goldenContext : V2RelaySealContext :=
  (V2RelaySealContext.new "tunnel-golden" (Vector.replicate 16 0x22) "peer-source" "peer-target"
    ⟨(asBytes "golden-flow1").toArray,rfl⟩
    ⟨Vector.replicate 32 0x11,Vector.replicate 32 0x44⟩).toOption.get (by decide)

def goldenPing : AeadRecord where
  key := Vector.replicate 32 0x11
  nonce := Vector.replicate 24 0x33
  aad := goldenContext.dataAad
  plaintext := asBytes "ping"
  ciphertext := [202,205,25,238]
  tag := #v[25,20,142,75,75,131,38,179,170,236,210,67,119,127,216,189]
  length_eq := by decide

def goldenAead : Aead := .ofRecords [goldenPing]

def goldenRouter : MultiSenderRouter := ⟨.relayWithP2pFallback,some goldenContext⟩

def relayClosedEnv : SendEnv TransportError where
  scheduled := .relay
  p2pForNewFlow := none
  p2pForFallback := some 7
  datagramUnavailable := fun _ => false
  outcome := fun n => if n=0 then .error .closed else .ok ()
  nonce := fun _ => Vector.replicate 24 0x33

def goldenRecord : Bytes := List.replicate NONCE_SIZE 0++asBytes "ping"

def goldenSend : Sent TransportError (Except TransportError Unit) :=
  goldenRouter.sendPreparedData goldenAead relayClosedEnv "golden-flow1" .data
    goldenRecord

theorem no_plaintext_on_relay_goldenSend :
    attempts goldenSend.effects =
      [⟨.relay, .data "golden-flow1" (List.replicate 24 0x33 ++ [202, 205, 25, 238] ++
          [25, 20, 142, 75, 75, 131, 38, 179, 170, 236, 210, 67, 119, 127, 216, 189]),
          .error .closed⟩,
        ⟨.p2p 7, .data "golden-flow1" (asBytes "ping"), .ok ()⟩] ∧
      OneSealedHandover goldenAead goldenContext
        (preparedBinaryMessage "golden-flow1" .data (goldenRecord.drop NONCE_SIZE))
        goldenSend.effects :=
  ⟨by decide,
    (MultiSenderRouter.no_plaintext_on_relay goldenAead goldenRouter goldenContext rfl).2.2.1
      relayClosedEnv "golden-flow1" .data goldenRecord⟩

end Lantunnel.Client
