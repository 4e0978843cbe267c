import Lantunnel.Gateway.Control

/-!
# What a control session may do, and what it reports

Nothing from the Platform takes effect before the challenge was answered, an
error leaves Scopes and digest alone, and a reported digest is the digest of the
managed Scopes.
-/

namespace Lantunnel.Gateway
open Lib FieldCodec RustStd Core Option
open List hiding Vector

section Snapshot
variable {f : ControlFormats} {p : Primitives} {scopes : List ScopeSnapshotItem}

theorem pairwise_of_strictlySorted (h : strictlySorted scopes=true) :
    scopes.Pairwise fun a b => strLt a.tunnelId b.tunnelId=true := by
  induction scopes with
  | nil => exact .nil
  | cons a rest ih =>
    cases rest with
    | nil => exact pairwise_singleton _ a
    | cons =>
      obtain ⟨hab,hrest⟩:=Bool.and_eq_true_iff.mp h
      have hpairs:=ih hrest
      refine pairwise_cons.mpr ⟨?_,hpairs⟩
      intro c hc
      rcases mem_cons.mp hc with rfl | hc
      · exact hab
      · exact strLt_trans hab ((pairwise_cons.mp hpairs).1 c hc)

theorem validateScopeItem_eq_ok {item : ScopeSnapshotItem} {entry : ScopeDigestEntry}
    (h : validateScopeItem f p item = .ok entry) : scopeDigestEntry f p item.scope=some entry := by
  obtain ⟨⟨⟩,-,h⟩:=bind_eq_ok.mp h
  obtain ⟨⟨⟩,-,h⟩:=bind_eq_ok.mp h
  exact okOr_eq_ok.mp h

theorem validateScopeItems_eq_ok {entries : List ScopeDigestEntry}
    (h : scopes.mapM (validateScopeItem f p) = .ok entries) :
    (scopes.map ScopeSnapshotItem.scope).mapM (scopeDigestEntry f p)=some entries := by
  induction scopes generalizing entries with
  | nil =>
    obtain rfl := Except.ok.inj h
    rfl
  | cons item scopes ih =>
    rw [mapM_cons] at h
    obtain ⟨_,hent,h⟩:=bind_eq_ok.mp h
    obtain ⟨_,hrest,h⟩:=bind_eq_ok.mp h
    obtain rfl := Except.ok.inj h
    rw [map_cons,mapM_cons,validateScopeItem_eq_ok hent,ih hrest]
    rfl

theorem validateScopeSnapshot_eq_ok {gatewayRef digest : String}
    {candidate : List GatewayScopeFileV2} {quotas : List (String × RelayQuotaSnapshot)}
    (h : validateScopeSnapshot f p gatewayRef digest scopes = .ok (candidate,quotas)) :
    scopes.Pairwise (fun a b => strLt a.tunnelId b.tunnelId=true) ∧
      candidate=scopes.map ScopeSnapshotItem.scope ∧ quotas=quotasOf scopes ∧
      scopeSnapshotDigest f p gatewayRef candidate=some digest := by
  obtain ⟨hsort,h⟩:=ite_error_eq_ok.mp h
  obtain ⟨_,hents,h⟩:=bind_eq_ok.mp h
  obtain ⟨_,hcompute,h⟩:=bind_eq_ok.mp h
  obtain ⟨hsame,h⟩:=ite_error_eq_ok.mp h
  obtain ⟨rfl,rfl⟩:=Prod.mk.inj (Except.ok.inj h)
  refine ⟨pairwise_of_strictlySorted (not_not.mp hsort),rfl,rfl,?_⟩
  rw [scopeSnapshotDigest,validateScopeItems_eq_ok hents,← not_not.mp hsame]
  exact okOr_eq_ok.mp hcompute

end Snapshot

section Digest
variable {f : ControlFormats} {p : Primitives}

/-- JSON tells Scopes and lists of digest entries apart. -/
structure ControlFormats.JsonInjective (f : ControlFormats) : Prop where
  scope : ∀ a b json, f.scopeJson a=some json → f.scopeJson b=some json → a=b
  entries : ∀ a b json, f.digestEntriesJson a=some json → f.digestEntriesJson b=some json → a=b

inductive Hashed (f : ControlFormats) (p : Primitives) (gatewayRef : String)
    (scopes : List GatewayScopeFileV2) : Bytes → Prop
  | scope (scope : GatewayScopeFileV2) (json : Bytes) (hmem : scope ∈ scopes)
      (hjson : f.scopeJson scope=some json) : Hashed f p gatewayRef scopes (json++[0x0a])
  | snapshot (entries : List ScopeDigestEntry) (json : String)
      (hentries : scopes.mapM (scopeDigestEntry f p)=some entries)
      (hjson : f.digestEntriesJson entries=some json) :
    Hashed f p gatewayRef scopes
      (asBytes (SCOPE_SNAPSHOT_DIGEST_DOMAIN ++ "\n" ++ gatewayRef ++ "\n" ++ json))

/-- SHA-256 has no collision between the strings hashed for two digests. -/
def DigestsApart (f : ControlFormats) (p : Primitives) (gatewayRef : String)
    (scopes scopes' : List GatewayScopeFileV2) : Prop :=
  ∀ x y, Hashed f p gatewayRef scopes x → Hashed f p gatewayRef scopes' y →
    p.sha256 x=p.sha256 y → x=y

theorem hexEncode_inj {a b : Bytes} (h : hexEncode a=hexEncode b) : a=b := by
  have hchs:=String.ofList_injective h
  have hdig : ∀ m<16, ∀ n<16, hexDigit m=hexDigit n → m=n := by decide
  clear h
  induction a generalizing b with
  | nil =>
    cases b with
    | nil => rfl
    | cons => cases hchs
  | cons x a ih =>
    cases b with
    | nil => cases hchs
    | cons y =>
      simp only [flatMap_cons,cons_append,nil_append,cons.injEq] at hchs
      obtain ⟨hhigh,hlow,hrest⟩:=hchs
      have hx:=x.toNat_lt
      have hy:=y.toNat_lt
      have hdiv:=hdig (x.toNat/16) (by omega) (y.toNat/16) (by omega) hhigh
      have hmod:=hdig (x.toNat % 16) (by omega) (y.toNat % 16) (by omega) hlow
      have hnat : x.toNat=y.toNat := by omega
      rw [UInt8.toNat_inj.mp hnat,ih hrest]

theorem scopes_of_entries (hjson : f.JsonInjective) {scopes scopes' : List GatewayScopeFileV2}
    {entries : List ScopeDigestEntry} (h : scopes.mapM (scopeDigestEntry f p)=some entries)
    (h' : scopes'.mapM (scopeDigestEntry f p)=some entries)
    (hap : ∀ a∈scopes, ∀ b∈scopes', ∀ json json', f.scopeJson a=some json →
      f.scopeJson b=some json' → p.sha256 (json++[0x0a])=p.sha256 (json'++[0x0a]) →
        json=json') : scopes=scopes' := by
  induction scopes generalizing scopes' entries with
  | nil =>
    obtain rfl := some.inj h
    cases scopes' with
    | nil => rfl
    | cons =>
      rw [mapM_cons] at h'
      obtain ⟨_,-,h'⟩:=bind_eq_some_iff.mp h'
      obtain ⟨_,-,h'⟩:=bind_eq_some_iff.mp h'
      cases h'
  | cons a scopes ih =>
    rw [mapM_cons] at h
    obtain ⟨_,hent,h⟩:=bind_eq_some_iff.mp h
    obtain ⟨_,hrest,h⟩:=bind_eq_some_iff.mp h
    obtain rfl := some.inj h
    cases scopes' with
    | nil => cases h'
    | cons b scopes' =>
      rw [mapM_cons] at h'
      obtain ⟨_,hent',h'⟩:=bind_eq_some_iff.mp h'
      obtain ⟨_,hrest',h'⟩:=bind_eq_some_iff.mp h'
      obtain ⟨rfl,rfl⟩:=cons.inj (some.inj h')
      have htail : scopes=scopes' := by
        refine ih hrest hrest' ?_
        intro c hc d hd
        exact hap c (mem_cons_of_mem a hc) d (mem_cons_of_mem b hd)
      obtain ⟨json,hja,rfl⟩:=map_eq_some_iff.mp hent
      obtain ⟨json',hjb,heq⟩:=map_eq_some_iff.mp hent'
      have hhex:=hexEncode_inj (ScopeDigestEntry.mk.inj heq).2
      have hsame:=hap a (mem_cons_self ..) b (mem_cons_self ..) json json' hja hjb
        (Vector.toList_inj.mp hhex).symm
      rw [← hsame] at hjb
      rw [hjson.scope a b json hja hjb,htail]

theorem scopeSnapshotDigest_inj (hjson : f.JsonInjective) {gatewayRef digest : String}
    {scopes scopes' : List GatewayScopeFileV2} (hap : DigestsApart f p gatewayRef scopes scopes')
    (h : scopeSnapshotDigest f p gatewayRef scopes=some digest)
    (h' : scopeSnapshotDigest f p gatewayRef scopes'=some digest) : scopes=scopes' := by
  obtain ⟨entries,hents,h⟩:=bind_eq_some_iff.mp h
  obtain ⟨entries',hents',h'⟩:=bind_eq_some_iff.mp h'
  obtain ⟨json,hj,rfl⟩:=map_eq_some_iff.mp h
  obtain ⟨json',hj',heq⟩:=map_eq_some_iff.mp h'
  have hhash:=Vector.toList_inj.mp (hexEncode_inj heq)
  have htext:=asBytes_inj (hap _ _ (.snapshot entries json hents hj)
    (.snapshot entries' json' hents' hj') hhash.symm)
  have hsame : json=json' := String.append_right_inj _ |>.mp htext
  subst hsame
  obtain rfl := hjson.entries entries entries' json hj hj'
  refine scopes_of_entries hjson hents hents' ?_
  intro a ha b hb ja jb hja hjb hsha
  exact append_cancel_right (hap _ _ (.scope a ja ha hja) (.scope b jb hb hjb) hsha)

end Digest

namespace ControlState
variable {f : ControlFormats} {p : Primitives}

def Reports (f : ControlFormats) (p : Primitives) (s : ControlState) : Prop :=
  ∀ digest, s.appliedScopeDigest=some digest →
    scopeSnapshotDigest f p s.identity.gatewayRef s.scopes.managedSnapshot=some digest

/-- What a message does: nothing, or one of the three things the Platform asks
for. -/
inductive Handled (f : ControlFormats) (p : Primitives) (s : ControlState) :
    Except String ControlAction × ControlState → Prop
  | refused (error : String) : Handled f p s (.error error,s)
  | authenticated (nonce : String) (frame : GatewayFrame) (hphase : s.phase = .awaitingChallenge)
      (hframe : s.identity.authenticate f nonce = .ok frame) :
    Handled f p s (.ok ⟨some frame,none,none⟩,{ s with phase := .awaitingSnapshot })
  | applied (scopes : ScopePartitions) (digest : String) (removed : List String)
      (quotas : List (String × RelayQuotaSnapshot)) (hphase : s.phase ≠ .awaitingChallenge)
      (hdigest : scopeSnapshotDigest f p s.identity.gatewayRef scopes.managedSnapshot=some digest) :
    Handled f p s (.ok ⟨none,some ⟨s.gatewayState digest,removed,quotas⟩,none⟩,
      { s with
        scopes := scopes
        phase := .active
        appliedScopeDigest := some digest })
  | acked (throughSeq : UInt64) (hphase : s.phase ≠ .awaitingChallenge) :
    Handled f p s (.ok ⟨none,none,some throughSeq⟩,s)

theorem handleChallenge_handled (s : ControlState) (version : UInt8) (nonce : String) :
    Handled f p s (s.handleChallenge f version nonce) := by
  unfold handleChallenge
  cases validateControlVersion version with
  | error error => exact .refused error
  | ok =>
    by_cases hph : s.phase = .awaitingChallenge
    · simp only [hph,ne_eq,not_true_eq_false,if_false]
      cases hfrm : s.identity.authenticate f nonce with
      | error error => exact .refused error
      | ok frame => exact .authenticated nonce frame hph hfrm
    · simp only [ne_eq,hph,not_false_eq_true,if_true]
      exact .refused _

theorem handleScopeSnapshot_handled (s : ControlState) (version : UInt8) (digest : String)
    (scopes : List ScopeSnapshotItem) :
    Handled f p s (s.handleScopeSnapshot f p version digest scopes) := by
  unfold handleScopeSnapshot
  cases hcheck : s.checkSnapshot f p version digest scopes with
  | error error => exact .refused error
  | ok checked =>
    obtain ⟨_,_⟩:=checked
    obtain ⟨⟨⟩,-,h⟩:=bind_eq_ok.mp hcheck
    obtain ⟨hph,h⟩:=ite_error_eq_ok.mp h
    obtain ⟨⟨⟩,-,h⟩:=bind_eq_ok.mp h
    obtain ⟨hsort,rfl,rfl,hdig⟩:=validateScopeSnapshot_eq_ok h
    rcases ScopePartitions.replaceManagedSnapshot_cases p s.scopes
      (scopes.map ScopeSnapshotItem.scope) with ⟨error,hreplace⟩ | ⟨table,replaced,hcand,hreplace⟩
    · simp only [hreplace]
      exact .refused _
    simp only [hreplace]
    refine .applied _ digest replaced.removedIds (quotasOf scopes) hph ?_
    rw [ScopePartitions.managedSnapshot_of_replaced (pairwise_map.mpr hsort) hcand]
    exact hdig

theorem handleUsageAck_handled (s : ControlState) (version : UInt8) (throughSeq : UInt64) :
    Handled f p s (s.handleUsageAck version throughSeq) := by
  unfold handleUsageAck
  cases validateControlVersion version with
  | error error => exact .refused error
  | ok =>
    by_cases hph : s.phase = .awaitingChallenge
    · simp only [hph,if_true]
      exact .refused _
    simp only [hph,if_false]
    exact .acked throughSeq hph

theorem handleText_handled (s : ControlState) (text : String) :
    Handled f p s (s.handleText f p text) := by
  unfold handleText
  split
  · exact .refused _
  split
  · exact .refused _
  · exact handleChallenge_handled s _ _
  · exact handleScopeSnapshot_handled s _ _ _
  · exact handleUsageAck_handled s _ _

theorem handled_reports {s : ControlState} {result : Except String ControlAction × ControlState}
    (h : Handled f p s result) (hreps : s.Reports f p) : result.2.Reports f p := by
  cases h with
  | refused | authenticated => exact hreps
  | applied scopes digest removed quotas hph hdig =>
    intro d hd
    obtain rfl := some.inj hd
    exact hdig
  | acked => exact hreps

def Authorised (f : ControlFormats) (identity : GatewayControlIdentity) (before : List ControlOutput) :
    ControlOutput → Prop
  | .usageAck _ | .snapshotApplied _ _ =>
    ∃ nonce frame, .authenticated frame ∈ before ∧ identity.authenticate f nonce = .ok frame
  | _ => True

structure SessionInv (f : ControlFormats) (p : Primitives) (identity : GatewayControlIdentity)
    (scopes : ScopePartitions) (s : ControlState) (tr : List ControlOutput) : Prop where
  identity_eq : s.identity=identity
  reports : s.Reports f p
  -- what was answered, if anything
  answered : s.phase ≠ .awaitingChallenge →
    ∃ nonce frame, .authenticated frame ∈ tr ∧ identity.authenticate f nonce = .ok frame
  untouched : s.phase = .awaitingChallenge → s.scopes.managedScopes=scopes.managedScopes
  authorised : Justified (Authorised f identity) tr
  sent : ∀ frame managed, .gatewayState frame managed ∈ tr → ∃ version bootId ready digest,
    frame = .gatewayState version bootId ready digest ∧
      scopeSnapshotDigest f p identity.gatewayRef managed=some digest

section Run
variable {identity : GatewayControlIdentity} {scopes : ScopePartitions} {s : ControlState}
  {tr : List ControlOutput}

theorem sessionInv_new : SessionInv f p identity scopes (new identity scopes) [] where
  identity_eq := rfl
  reports := nofun
  answered := fun h => absurd rfl h
  untouched := fun _ => rfl
  authorised := justified_nil
  sent := nofun

section
variable (h : SessionInv f p identity scopes s tr)
include h

theorem SessionInv.emit {o : ControlOutput}
    (hauth : Authorised f identity tr o)
    (hsent : ∀ frame managed, o = .gatewayState frame managed → ∃ version bootId ready digest,
      frame = .gatewayState version bootId ready digest ∧
        scopeSnapshotDigest f p identity.gatewayRef managed=some digest) :
    SessionInv f p identity scopes s (tr++[o]) where
  identity_eq := h.identity_eq
  reports := h.reports
  answered := by
    intro hph
    obtain ⟨nonce,frame,hmem,hfrm⟩:=h.answered hph
    exact ⟨nonce,frame,mem_append_left _ hmem,hfrm⟩
  untouched := h.untouched
  authorised := justified_concat h.authorised hauth
  sent := by
    intro frame managed hmem
    rcases mem_append.mp hmem with hmem | hmem
    · exact h.sent frame managed hmem
    · exact hsent frame managed (mem_singleton.mp hmem).symm

theorem SessionInv.emit_state {digest : String}
    (hdig : s.appliedScopeDigest=some digest) (ready : Bool) : SessionInv f p identity scopes s
      (tr++[.gatewayState ((s.gatewayState digest).withReady ready) s.scopes.managedSnapshot]) := by
  refine h.emit trivial ?_
  intro frame managed heq
  cases heq
  have hreps:=h.reports digest hdig
  rw [h.identity_eq] at hreps
  exact ⟨_,_,_,_,rfl,hreps⟩

theorem SessionInv.text (message : String)
    (flushed ready : Bool) :
    SessionInv f p identity scopes (s.step f p (.text message flushed ready)).1
      (tr++(s.step f p (.text message flushed ready)).2) := by
  have hhand:=handleText_handled (f := f) (p := p) s message
  simp only [step]
  generalize s.handleText f p message=result at hhand ⊢
  have hreps:=handled_reports hhand h.reports
  cases hhand with
  | refused =>
    rw [append_nil]
    exact h
  | authenticated nonce frame hph hfrm =>
    rw [h.identity_eq] at hfrm
    have hemit:=h.emit (o := .authenticated frame) trivial nofun
    exact
      { hemit with
        answered := fun _ =>
          ⟨nonce,frame,mem_append_right _ (mem_singleton.mpr rfl),hfrm⟩
        untouched := nofun }
  | applied store digest removed quotas hph =>
    have hanswer:=h.answered hph
    have hnext : SessionInv f p identity scopes
        { s with
          scopes := store
          phase := .active
          appliedScopeDigest := some digest } tr :=
      { h with
        reports := hreps
        answered := fun _ => hanswer
        untouched := nofun }
    have happ:=hnext.emit (o := .snapshotApplied removed quotas) hanswer nofun
    cases flushed with
    | false => exact happ
    | true =>
      have hst:=happ.emit_state rfl ready
      rwa [append_assoc] at hst
  | acked throughSeq hph => exact h.emit (o := .usageAck throughSeq) (h.answered hph) nofun

theorem SessionInv.step (e : ControlEvent) :
    SessionInv f p identity scopes (s.step f p e).1 (tr++(s.step f p e).2) := by
  cases e with
  | text message flushed ready => exact h.text message flushed ready
  | tick ready =>
    simp only [ControlState.step,periodicGatewayState]
    cases hdig : s.appliedScopeDigest with
    | none => simp_all
    | some => exact h.emit_state hdig ready
  | reloadStatic candidate =>
    have hmanaged:=s.scopes.reloadStatic_managedScopes candidate
    simp only [ControlState.step]
    rw [append_nil]
    refine { h with reports := ?_, untouched := ?_ }
    · intro digest hdig
      rw [ScopePartitions.managedSnapshot,hmanaged]
      exact h.reports digest hdig
    intro hph
    rw [hmanaged]
    exact h.untouched hph

end

theorem run_sessionInv (h : (machine f p identity scopes).Run s tr) :
    SessionInv f p identity scopes s tr :=
  h.invariant (SessionInv f p identity scopes) sessionInv_new fun _ _ e hinv _ => hinv.step e

end Run

/-- An error leaves the managed Scopes and the digest alone. Nothing takes effect
before a challenge was answered, and every digest reported is the digest of the
managed Scopes of that moment, and of no others. -/
theorem control_session_safe (f : ControlFormats) (p : Primitives) (identity : GatewayControlIdentity)
    (scopes : ScopePartitions) :
    (∀ (s : ControlState) (text error : String), (s.handleText f p text).1 = .error error →
      (s.handleText f p text).2.scopes.managedScopes = s.scopes.managedScopes ∧
      (s.handleText f p text).2.appliedScopeDigest = s.appliedScopeDigest) ∧
    ∀ s tr, (machine f p identity scopes).Run s tr →
      Justified (Authorised f identity) tr ∧
      ((∀ frame, .authenticated frame ∉ tr) →
        s.scopes.managedScopes = scopes.managedScopes) ∧
      ∀ frame managed, .gatewayState frame managed ∈ tr → ∃ version bootId ready digest,
        frame = .gatewayState version bootId ready digest ∧
        scopeSnapshotDigest f p identity.gatewayRef managed = some digest ∧
        (f.JsonInjective → ∀ other, DigestsApart f p identity.gatewayRef managed other →
          scopeSnapshotDigest f p identity.gatewayRef other = some digest → managed = other) := by
  refine ⟨?_,?_⟩
  · intro s text error herr
    have hhand:=handleText_handled (f := f) (p := p) s text
    generalize s.handleText f p text=result at hhand herr ⊢
    cases hhand with
    | refused => exact ⟨rfl,rfl⟩
    | authenticated | applied | acked => cases herr
  · intro s tr hrun
    have hinv:=run_sessionInv hrun
    refine ⟨hinv.authorised,?_,?_⟩
    · intro hnone
      refine hinv.untouched (not_not.mp ?_)
      intro hph
      obtain ⟨_,frame,hmem,-⟩:=hinv.answered hph
      exact hnone frame hmem
    · intro frame managed hmem
      obtain ⟨version,bootId,ready,digest,hfrm,hdig⟩:=hinv.sent frame managed hmem
      refine ⟨version,bootId,ready,digest,hfrm,hdig,?_⟩
      intro hjson other hap hoth
      exact scopeSnapshotDigest_inj hjson hap hdig hoth

/-! A challenge, a snapshot of one Scope and a tick, with the values the Platform
and a Gateway exchange for them. -/

def byogNonce : String := "AAAAAAAAAAAAAAAAAAAAAAAAAAAAAAAAAAAAAAAAAAA"
def byogTunnelId : String := "11111111-1111-4111-8111-111111111111"
def byogTunnelKey : String := "AQEBAQEBAQEBAQEBAQEBAQEBAQEBAQEBAQEBAQEBAQE="
def byogScopeSha256 : String := "f5cde227bcef6785f4b8f7a3beb5f094457e347c218539ffbbef4036b631ea94"
def byogDigest : String := "78ab043348542f62b03b09d8f0b2b972bd3f6f091111e888075ed48e40c4f07f"
def byogSignature : String :=
  "F628Hed_pa8io0FM_JUOST4RWX1bTiFh0ru8kb2eVmImaKgO1lSAQNFss5nzB_93ouwZxoZGZd6uaEANHGOfcA"

def byogScope : GatewayScopeFileV2 := ⟨2,byogTunnelId,byogTunnelKey⟩

def byogChallenge : String :=
  "\x7b\"type\":\"challenge\",\"version\":2,\"nonce\":\"" ++ byogNonce ++ "\"\x7d"

def byogSnapshot : String :=
  "\x7b\"type\":\"scope_snapshot\",\"version\":2,\"digest\":\"" ++ byogDigest
    ++ "\",\"scopes\":[\x7b\"tunnel_id\":\"" ++ byogTunnelId
    ++ "\",\"tunnel_signing_public_key\":\"" ++ byogTunnelKey ++ "\"\x7d]\x7d"

def byogScopeJson : String :=
  "\x7b\"version\":2,\"tunnel_id\":\"" ++ byogTunnelId
    ++ "\",\"tunnel_signing_public_key\":\"" ++ byogTunnelKey ++ "\"\x7d"

def byogEntriesJson : String :=
  "[\x7b\"tunnel_id\":\"" ++ byogTunnelId ++ "\",\"scope_sha256\":\"" ++ byogScopeSha256 ++ "\"\x7d]"

def byogSignatureBytes : Vector UInt8 64 := beVector 64
  0x17adbc1de77fa5af22a3414cfc950e493e11597d5b4e2161d2bbbc91bd9e56622668a80ed6548040d16cb399f307ff77a2ec19c6864665deae68400d1c639f70

def byogFormats : ControlFormats where
  parseFrame text :=
    if text=byogChallenge then some (.challenge 2 byogNonce)
    else if text=byogSnapshot then
      some (.scopeSnapshot 2 byogDigest [⟨byogTunnelId,byogTunnelKey,none⟩])
    else none
  scopeJson scope := if scope=byogScope then some (asBytes byogScopeJson) else none
  digestEntriesJson entries :=
    if entries=[⟨byogTunnelId,byogScopeSha256⟩] then some byogEntriesJson else none
  base64UrlDecode text := if text=byogNonce then some (replicate 32 0) else none
  base64UrlEncode bytes := if bytes=replicate 32 0 then byogNonce else byogSignature
  uuidHyphenated text := if text=byogTunnelId then some text else none

def byogPrimitives : Primitives where
  base64Decode text := if text=byogTunnelKey then some (replicate 32 1) else none
  pemReadAll _ := []
  sha256 bytes :=
    match bytes.length with
    | 140 => beVector 32 0xf5cde227bcef6785f4b8f7a3beb5f094457e347c218539ffbbef4036b631ea94
    | 214 => beVector 32 0x78ab043348542f62b03b09d8f0b2b972bd3f6f091111e888075ed48e40c4f07f
    | _ => Vector.replicate 32 0
  uuidParses text := text=byogTunnelId
  ed25519Sign _ _ := none
  ed25519Public _ := none
  ed25519Verify _ _ _ := false
  x25519Public _ := Vector.replicate 32 0
  x25519 _ _ := Vector.replicate 32 0
  hkdf _ _ _ := Vector.replicate 32 0

def byogIdentity : GatewayControlIdentity where
  kind := .byog
  gatewayId := "018f0c20-7b64-7a29-9bd1-6e4a598237d1"
  bootId := "018f0c20-7b64-7a29-9bd1-6e4a598237d2"
  leafSha256 := "abababababababababababababababababababababababababababababababab"
  sign _ := some byogSignatureBytes.toList
  certificatePem := none
  claimSecret := none

def byogEvents : List ControlEvent :=
  [.tick true,.text byogSnapshot true true,.text byogChallenge true true,
    .text byogSnapshot true true,.tick true]

def byogState : GatewayFrame := .gatewayState 2 byogIdentity.bootId true byogDigest

def byogOutputs : List ControlOutput :=
  [.authenticated (.authenticate 2 byogIdentity.bootId byogSignature none none),
    .snapshotApplied [] [],.gatewayState byogState [byogScope],.gatewayState byogState [byogScope]]

theorem byogEvents_run :
    ∃ s, (machine byogFormats byogPrimitives byogIdentity .empty).Run s byogOutputs := by
  have hrun:=(Machine.Run.init (M := machine byogFormats byogPrimitives byogIdentity .empty)).exec
    byogEvents (Machine.accepts_of_enabled (fun _ _ => trivial) _ _)
  have houtput : ((machine byogFormats byogPrimitives byogIdentity .empty).exec
      (machine byogFormats byogPrimitives byogIdentity .empty).init byogEvents).2=byogOutputs := by
    decide +kernel
  rw [houtput] at hrun
  exact ⟨_,hrun⟩

theorem byogFormats_jsonInjective : byogFormats.JsonInjective where
  scope := by
    intro a b json ha hb
    obtain ⟨rfl,-⟩:=Option.ite_none_right_eq_some.mp ha
    obtain ⟨rfl,-⟩:=Option.ite_none_right_eq_some.mp hb
    rfl
  entries := by
    intro a b json ha hb
    obtain ⟨rfl,-⟩:=Option.ite_none_right_eq_some.mp ha
    obtain ⟨rfl,-⟩:=Option.ite_none_right_eq_some.mp hb
    rfl

theorem control_session_safe_byog :
    ((new byogIdentity .empty).handleText byogFormats byogPrimitives byogSnapshot).2.appliedScopeDigest
        = none ∧
      scopeSnapshotDigest byogFormats byogPrimitives byogIdentity.gatewayRef [byogScope] =
        some byogDigest ∧
      ∀ other, DigestsApart byogFormats byogPrimitives byogIdentity.gatewayRef [byogScope] other →
        scopeSnapshotDigest byogFormats byogPrimitives byogIdentity.gatewayRef other = some byogDigest →
          [byogScope] = other := by
  obtain ⟨herr,hsafe⟩:=control_session_safe byogFormats byogPrimitives byogIdentity .empty
  -- a snapshot before the challenge
  have hearly : ((new byogIdentity .empty).handleText byogFormats byogPrimitives byogSnapshot).1 =
      .error "Gateway Scope snapshot arrived before authentication" := by
    decide +kernel
  obtain ⟨s,hrun⟩:=byogEvents_run
  obtain ⟨-,-,hsent⟩:=hsafe s _ hrun
  obtain ⟨_,_,_,_,hfrm,hdig,honly⟩ :=
    hsent byogState [byogScope] (.tail _ (.tail _ (.head _)))
  obtain ⟨-,-,-,rfl⟩:=GatewayFrame.gatewayState.inj hfrm
  exact ⟨(herr _ _ _ hearly).2,hdig,honly byogFormats_jsonInjective⟩

end ControlState

end Lantunnel.Gateway
