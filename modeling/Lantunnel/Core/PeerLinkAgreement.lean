import Lantunnel.Core.SignedEncodings

/-!
# What the two ends of a PeerLink agree on (tp-core/src/peer_link_crypto.rs:324-384)

`derive_session_keys` at either end: when it succeeds, how the keys of the two ends fit
together, and what a key stands for.
-/

namespace Lantunnel.Core
open Lib.FieldCodec Lib.RustStd CanonicalItem P2pAnswerV2 Except

/-- Both ends of a Diffie-Hellman exchange compute the same secret. -/
def Primitives.DhCommutes (p : Primitives) : Prop :=
  ∀ a b, p.x25519 a (p.x25519Public b)=p.x25519 b (p.x25519Public a)

/-- SHA-256 does not take two different strings to one hash. -/
def Primitives.Sha256Apart (p : Primitives) (x y : Bytes) : Prop :=
  p.sha256 x=p.sha256 y → x=y

inductive KeyUse
  | send
  | receive
  deriving DecidableEq

def PeerLinkSessionKeysV2.key (keys : PeerLinkSessionKeysV2) : KeyUse → Vector UInt8 32
  | .send => keys.sendKey
  | .receive => keys.receiveKey

structure Derivation where
  secret : PeerLinkEphemeralSecretV2
  offer : P2pOfferV2
  answer : P2pAnswerV2
  tunnelSigningPublicKey : String

structure KeyMaterial where
  salt : Vector UInt8 32
  sharedSecret : Vector UInt8 32
  info : Bytes

namespace Derivation
variable (p : Primitives) (d : Derivation)

def keys : Except PeerLinkCryptoErrorV2 PeerLinkSessionKeysV2 :=
  deriveSessionKeys p d.secret d.offer d.answer d.tunnelSigningPublicKey

def localIsSource : Bool := p.x25519Public d.secret=d.offer.ephemeralX25519PublicKey

def remoteKey : Vector UInt8 32 :=
  if d.localIsSource p then d.answer.ephemeralX25519PublicKey else d.offer.ephemeralX25519PublicKey

def direction (use : KeyUse) : String × String :=
  if d.localIsSource p=decide (use = .send) then (d.offer.sourcePeerId,d.offer.targetPeerId)
  else (d.offer.targetPeerId,d.offer.sourcePeerId)

def transcript : Except PeerLinkCryptoErrorV2 Bytes := do
  let signedOffer ← d.offer.canonicalSigned p
  let signedAnswer ← d.answer.canonicalSigned p
  .ok (signedOffer++signedAnswer)

def keyMaterial (use : KeyUse) : Except PeerLinkCryptoErrorV2 KeyMaterial := do
  let transcript ← d.transcript p
  let info ← relayKeyInfo d.offer.tunnelId d.offer.sessionId (d.direction p use).1
    (d.direction p use).2
  .ok ⟨p.sha256 transcript,p.x25519 d.secret (d.remoteKey p),info⟩

end Derivation

/-- HKDF does not take two different inputs to one key, nor SHA-256 the two
transcripts to one salt. -/
structure Primitives.KeysApart (p : Primitives) (d d' : Derivation) (use use' : KeyUse) : Prop where
  hkdf : ∀ m m', d.keyMaterial p use = .ok m → d'.keyMaterial p use' = .ok m' →
    p.hkdf m.salt m.sharedSecret m.info=p.hkdf m'.salt m'.sharedSecret m'.info → m=m'
  transcript : ∀ t t', d.transcript p = .ok t → d'.transcript p = .ok t' → p.Sha256Apart t t'

section Derive
variable {p : Primitives} {d : Derivation} {keys : PeerLinkSessionKeysV2}

theorem remotePublicKey_eq_ok {localKey : Vector UInt8 32} {offer : P2pOfferV2}
    {answer : P2pAnswerV2} {remote : Vector UInt8 32} {source : Bool}
    (h : remotePublicKey localKey offer answer = .ok (remote,source)) :
    localKey=offer.ephemeralX25519PublicKey ∧ remote=answer.ephemeralX25519PublicKey ∧ source=true ∨
      localKey≠offer.ephemeralX25519PublicKey ∧ localKey=answer.ephemeralX25519PublicKey ∧
        remote=offer.ephemeralX25519PublicKey ∧ source=false := by
  unfold remotePublicKey at h
  split at h
  · simp_all
  rename_i hloc
  split at h
  · simp_all
  · cases h

theorem Derivation.remote_eq_ok {remote : Vector UInt8 32} {source : Bool}
    (h : remotePublicKey (p.x25519Public d.secret) d.offer d.answer = .ok (remote,source)) :
    remote=d.remoteKey p ∧ source=d.localIsSource p ∧
      (d.localIsSource p=true ∨ p.x25519Public d.secret=d.answer.ephemeralX25519PublicKey) := by
  rcases remotePublicKey_eq_ok h with ⟨hloc,rfl,rfl⟩ | ⟨hloc,hans,rfl,rfl⟩
  · simp [remoteKey,localIsSource,hloc]
  have hsrc : d.localIsSource p=false := by simp [localIsSource,hloc]
  simp [remoteKey,hsrc,hans]

theorem Derivation.keyMaterial_eq {use : KeyUse} {transcript info : Bytes}
    (ht : d.transcript p = .ok transcript)
    (hinfo : relayKeyInfo d.offer.tunnelId d.offer.sessionId (d.direction p use).1
      (d.direction p use).2 = .ok info) :
    d.keyMaterial p use = .ok ⟨p.sha256 transcript,p.x25519 d.secret (d.remoteKey p),info⟩ := by
  rw [keyMaterial,ht]
  exact bind_eq_ok.mpr ⟨transcript,rfl,bind_eq_ok.mpr ⟨info,hinfo,rfl⟩⟩

theorem Derivation.keys_eq_ok (h : d.keys p = .ok keys) :
    d.answer.verifyForOffer p d.offer d.tunnelSigningPublicKey = .ok () ∧ d.answer.accepted=true ∧
      (d.localIsSource p=true ∨ p.x25519Public d.secret=d.answer.ephemeralX25519PublicKey) ∧
      ∀ use, ∃ m, d.keyMaterial p use = .ok m ∧
        keys.key use=p.hkdf m.salt m.sharedSecret m.info := by
  obtain ⟨⟨⟩,hver,h⟩:=bind_eq_ok.mp h
  obtain ⟨hacc,h⟩:=ite_error_eq_ok.mp h
  obtain ⟨⟨_,_⟩,hside,h⟩:=bind_eq_ok.mp h
  obtain ⟨-,h⟩:=ite_error_eq_ok.mp h
  obtain ⟨signedOffer,hoff,h⟩:=bind_eq_ok.mp h
  obtain ⟨signedAnswer,hans,h⟩:=bind_eq_ok.mp h
  obtain ⟨_,hthere,h⟩:=bind_eq_ok.mp h
  obtain ⟨_,hback,h⟩:=bind_eq_ok.mp h
  obtain ⟨rfl,rfl,hloc⟩:=Derivation.remote_eq_ok hside
  have htr : d.transcript p = .ok (signedOffer++signedAnswer) := by
    rw [transcript,hoff,hans]
    rfl
  refine ⟨hver,not_not.mp hacc,hloc,?_⟩
  intro use
  obtain rfl := ok.inj h
  -- the local end seals for the direction it is the start of
  cases hsrc : d.localIsSource p with
  | true =>
    cases use with
    | send => exact ⟨_,keyMaterial_eq htr (by simpa [direction,hsrc] using hthere),rfl⟩
    | receive => exact ⟨_,keyMaterial_eq htr (by simpa [direction,hsrc] using hback),rfl⟩
  | false =>
    cases use with
    | send => exact ⟨_,keyMaterial_eq htr (by simpa [direction,hsrc] using hback),rfl⟩
    | receive => exact ⟨_,keyMaterial_eq htr (by simpa [direction,hsrc] using hthere),rfl⟩

end Derive

/-- Two ends that hold the two ephemeral keys of one Offer and Answer; no key is
drawn twice. -/
structure Derivation.Honest (p : Primitives) (initiator acceptor : Derivation) : Prop where
  offer : initiator.offer=acceptor.offer
  answer : initiator.answer=acceptor.answer
  initiatorKey : p.x25519Public initiator.secret=initiator.offer.ephemeralX25519PublicKey
  acceptorKey : p.x25519Public acceptor.secret=acceptor.answer.ephemeralX25519PublicKey
  fresh : initiator.offer.ephemeralX25519PublicKey ≠ initiator.answer.ephemeralX25519PublicKey

def KeyUse.other : KeyUse → KeyUse
  | send => receive
  | receive => send

section Agree
variable {p : Primitives} {d d' : Derivation}

theorem Derivation.Honest.keyMaterial_eq (hdh : p.DhCommutes) (h : d.Honest p d') (use : KeyUse) :
    d.keyMaterial p use=d'.keyMaterial p use.other := by
  have hsrc : d.localIsSource p=true := by simp [localIsSource,h.initiatorKey]
  have htgt : d'.localIsSource p=false := by
    simp only [localIsSource,h.acceptorKey,← h.offer,← h.answer,decide_eq_false_iff_not]
    exact h.fresh.symm
  have htr : d.transcript p=d'.transcript p := by
    simp only [transcript,h.offer,h.answer]
  have hdirect : d.direction p use=d'.direction p use.other := by
    cases use with
    | send | receive => simp [direction,hsrc,htgt,h.offer,KeyUse.other]
  have hrmt : d.remoteKey p=p.x25519Public d'.secret := by
    simp [remoteKey,hsrc,h.acceptorKey,h.answer]
  have hrmt' : d'.remoteKey p=p.x25519Public d.secret := by
    simp [remoteKey,htgt,h.initiatorKey,h.offer]
  simp only [keyMaterial,htr,hdirect,h.offer,hrmt,hrmt',hdh d.secret d'.secret]

theorem Derivation.Honest.keys_eq (hdh : p.DhCommutes) (h : d.Honest p d')
    {keys keys' : PeerLinkSessionKeysV2} (hkeys : d.keys p = .ok keys)
    (hkeys' : d'.keys p = .ok keys') (use : KeyUse) : keys.key use=keys'.key use.other := by
  obtain ⟨m,hm,hkey⟩:=(Derivation.keys_eq_ok hkeys).2.2.2 use
  obtain ⟨_,hm',hkey'⟩:=(Derivation.keys_eq_ok hkeys').2.2.2 use.other
  rw [h.keyMaterial_eq hdh use,hm'] at hm
  rw [hkey,hkey',ok.inj hm]

end Agree

section Binding
variable {p : Primitives} {d d' : Derivation}

theorem Derivation.transcript_fields {t : Bytes} (h : d.transcript p = .ok t) :
    ∃ vs ws, CanonicalItem.FieldList p (.signedOffer d.offer) vs ∧
      CanonicalItem.FieldList p (.signedAnswer d.answer) ws ∧
      (∀ v∈vs++ws, Fits 4 v) ∧ t=fields 4 (vs++ws) := by
  obtain ⟨signedOffer,hoff,h⟩:=bind_eq_ok.mp h
  obtain ⟨signedAnswer,hans,h⟩:=bind_eq_ok.mp h
  have hoff : (CanonicalItem.signedOffer d.offer).encode p = .ok signedOffer := hoff
  have hans : (CanonicalItem.signedAnswer d.answer).encode p = .ok signedAnswer := hans
  obtain ⟨vs,hvs,happ⟩:=CanonicalItem.encode_ok hoff
  obtain ⟨ws,hws,happ'⟩:=CanonicalItem.encode_ok hans
  obtain ⟨_,rfl⟩:=pushFields_eq_ok.mp happ
  obtain ⟨_,rfl⟩:=pushFields_eq_ok.mp happ'
  refine ⟨vs,ws,hvs,hws,?_,?_⟩
  · grind
  · rw [← ok.inj h]
    simp

theorem Derivation.transcript_inj (hb64 : p.Base64Injective) {t : Bytes}
    (h : d.transcript p = .ok t) (h' : d'.transcript p = .ok t) :
    d.offer=d'.offer ∧ d.answer=d'.answer := by
  obtain ⟨vs,_,hvs,hws,hfits,rfl⟩:=Derivation.transcript_fields h
  obtain ⟨vs',_,hvs',hws',hfits',heq⟩:=Derivation.transcript_fields h'
  have hlists:=fields_inj (by norm_num) hfits hfits' heq
  have hlen : vs.length=vs'.length := hvs.length_arity.trans hvs'.length_arity.symm
  obtain ⟨hoff,hans⟩:=List.append_inj hlists hlen
  exact ⟨signedOffer_inj hb64 hvs hvs' hoff,signedAnswer_inj hb64 hws hws' hans⟩

theorem relayKeyInfo_inj {tunnelId tunnelId' fromPeerId fromPeerId' toPeerId toPeerId' : String}
    {sessionId sessionId' : SessionId} {info : Bytes}
    (h : relayKeyInfo tunnelId sessionId fromPeerId toPeerId = .ok info)
    (h' : relayKeyInfo tunnelId' sessionId' fromPeerId' toPeerId' = .ok info) :
    fromPeerId=fromPeerId' ∧ toPeerId=toPeerId' := by
  have hlists:=appendFields_inj (canonicalContext_ok h) (canonicalContext_ok h')
  simp only [List.cons.injEq,and_true,true_and] at hlists
  obtain ⟨-,-,hfrom,hto⟩:=hlists
  exact ⟨asBytes_inj hfrom,asBytes_inj hto⟩

theorem Derivation.keyMaterial_eq_ok {use : KeyUse} {m : KeyMaterial}
    (h : d.keyMaterial p use = .ok m) : ∃ t, d.transcript p = .ok t ∧ m.salt=p.sha256 t ∧
      relayKeyInfo d.offer.tunnelId d.offer.sessionId (d.direction p use).1 (d.direction p use).2
        = .ok m.info := by
  obtain ⟨t,ht,h⟩:=bind_eq_ok.mp h
  obtain ⟨_,hinfo,h⟩:=bind_eq_ok.mp h
  obtain rfl := ok.inj h
  exact ⟨t,ht,rfl,hinfo⟩

/-- Equal keys come from one Offer and Answer, and are for one direction. -/
theorem Derivation.key_binds (hb64 : p.Base64Injective) {use use' : KeyUse}
    (hap : p.KeysApart d d' use use') {keys keys' : PeerLinkSessionKeysV2}
    (h : d.keys p = .ok keys) (h' : d'.keys p = .ok keys') (heq : keys.key use=keys'.key use') :
    d.offer=d'.offer ∧ d.answer=d'.answer ∧ d.direction p use=d'.direction p use' := by
  obtain ⟨m,hm,hkey⟩:=(Derivation.keys_eq_ok h).2.2.2 use
  obtain ⟨m',hm',hkey'⟩:=(Derivation.keys_eq_ok h').2.2.2 use'
  obtain rfl : m=m' := hap.hkdf m m' hm hm' (by rw [← hkey,← hkey',heq])
  obtain ⟨t,ht,hsalt,hinfo⟩:=Derivation.keyMaterial_eq_ok hm
  obtain ⟨t',ht',hsalt',hinfo'⟩:=Derivation.keyMaterial_eq_ok hm'
  obtain rfl : t=t' := hap.transcript t t' ht ht' (by rw [← hsalt,← hsalt'])
  obtain ⟨hoff,hans⟩:=Derivation.transcript_inj hb64 ht ht'
  obtain ⟨hfrom,hto⟩:=relayKeyInfo_inj hinfo hinfo'
  exact ⟨hoff,hans,Prod.ext hfrom hto⟩

theorem P2pAnswerV2.verifyForOffer_hash {answer : P2pAnswerV2} {offer : P2pOfferV2} {key : String}
    (h : answer.verifyForOffer p offer key = .ok ()) :
    ∃ b, offer.canonicalSigned p = .ok b ∧ answer.offerHash=p.sha256 b := by
  obtain ⟨⟨⟩,-,h⟩:=bind_eq_ok.mp h
  obtain ⟨_,hhash,h⟩:=bind_eq_ok.mp h
  obtain ⟨heq,-⟩:=ite_error_eq_ok.mp h
  obtain ⟨b,hb,hsha⟩:=bind_eq_ok.mp hhash
  exact ⟨b,hb,(not_not.mp heq).trans (ok.inj hsha).symm⟩

/-- SHA-256 does not take the two signed Offers to one hash. -/
def Primitives.OffersApart (p : Primitives) (offer offer' : P2pOfferV2) : Prop :=
  ∀ b b', offer.canonicalSigned p = .ok b → offer'.canonicalSigned p = .ok b' → p.Sha256Apart b b'

theorem P2pAnswerV2.verifyForOffer_unique (hb64 : p.Base64Injective) {answer : P2pAnswerV2}
    {offer offer' : P2pOfferV2} {key key' : String} (hap : p.OffersApart offer offer')
    (h : answer.verifyForOffer p offer key = .ok ())
    (h' : answer.verifyForOffer p offer' key' = .ok ()) : offer=offer' := by
  obtain ⟨b,hb,hhash⟩:=verifyForOffer_hash h
  obtain ⟨b',hb',hhash'⟩:=verifyForOffer_hash h'
  obtain rfl : b=b' := hap b b' hb hb' (hhash.symm.trans hhash')
  have hb : (signedOffer offer).encode p = .ok b := hb
  have hb' : (signedOffer offer').encode p = .ok b := hb'
  obtain ⟨_,hvs,happ⟩:=encode_ok hb
  obtain ⟨_,hvs',happ'⟩:=encode_ok hb'
  exact signedOffer_inj hb64 hvs hvs' (appendFields_inj happ happ')

end Binding

/-- Handshake agreement. A derivation succeeds only on an accepted Answer that
verifies for this Offer and for no other, with a local key that is one of the
two of the transcript; honest ends get keys that fit together; and equal keys
come from the same Offer and Answer and are for the same direction. -/
theorem deriveSessionKeys_agreement (p : Primitives) (hb64 : p.Base64Injective)
    (hdh : p.DhCommutes) :
    (∀ d keys, Derivation.keys p d = .ok keys →
      d.answer.accepted = true ∧
      d.answer.verifyForOffer p d.offer d.tunnelSigningPublicKey = .ok () ∧
      (∀ offer key, p.OffersApart d.offer offer → d.answer.verifyForOffer p offer key = .ok () →
        offer = d.offer) ∧
      (p.x25519Public d.secret = d.offer.ephemeralX25519PublicKey ∨
        p.x25519Public d.secret = d.answer.ephemeralX25519PublicKey)) ∧
    (∀ initiator acceptor, Derivation.Honest p initiator acceptor → ∀ keys keys',
      initiator.keys p = .ok keys → acceptor.keys p = .ok keys' →
      keys.sendKey = keys'.receiveKey ∧ keys.receiveKey = keys'.sendKey) ∧
    (∀ d d' keys keys' use use', Derivation.keys p d = .ok keys → Derivation.keys p d' = .ok keys' →
      p.KeysApart d d' use use' → keys.key use = keys'.key use' →
      d.offer = d'.offer ∧ d.answer = d'.answer ∧ d.direction p use = d'.direction p use') := by
  refine ⟨?_,?_,?_⟩
  · intro d keys h
    obtain ⟨hver,hacc,hloc,-⟩:=Derivation.keys_eq_ok h
    refine ⟨hacc,hver,?_,?_⟩
    · intro offer key hap h'
      exact (verifyForOffer_unique hb64 hap hver h').symm
    · exact hloc.imp of_decide_eq_true id
  · intro initiator acceptor hhonest keys keys' h h'
    exact ⟨hhonest.keys_eq hdh h h' .send,hhonest.keys_eq hdh h h' .receive⟩
  · intro d d' keys keys' use use' h h' hap heq
    exact Derivation.key_binds hb64 hap h h' heq

/-! ### The Peers `desk` and `laptop`

The primitives on the one handshake of two Peers: the keys, signatures, hashes
and shared secret are those the real ones give, elsewhere they are constant. -/

def lanTexts : List (String × Bytes) :=
  [("wFDFY3pE+oYp//PMzOIwDLNipj2Z2V/FQUUmb0MyRFo=",
      beBytes 32 0xc050c5637a44fa8629fff3cccce2300cb362a63d99d95fc54145266f4332445a),
    ("IBLLkMpg6OXY2vZuInLSIz4EhtVX6MZhQe2JIBd9frc=",
      beBytes 32 0x2012cb90ca60e8e5d8daf66e2272d2233e0486d557e8c66141ed8920177d7eb7),
    ("+AzM3OSuHAeuIIoq35mjEK5CB+Awb6AjYRCwaCe7uNA=",
      beBytes 32 0xf80cccdce4ae1c07ae208a2adf99a310ae4207e0306fa0236110b06827bbb8d0),
    ("MFECAQEwBQYDK2VwBCIEIFJSUlJSUlJSUlJSUlJSUlJSUlJSUlJSUlJSUlJSUlJSgSEAIBLLkMpg6OXY2vZuInLSIz4EhtVX6MZhQe2JIBd9frc=",
      beBytes 83 0x3051020101300506032b65700422042052525252525252525252525252525252525252525252525252525252525252528121002012cb90ca60e8e5d8daf66e2272d2233e0486d557e8c66141ed8920177d7eb7),
    ("MFECAQEwBQYDK2VwBCIEIFNTU1NTU1NTU1NTU1NTU1NTU1NTU1NTU1NTU1NTU1NTgSEA+AzM3OSuHAeuIIoq35mjEK5CB+Awb6AjYRCwaCe7uNA=",
      beBytes 83 0x3051020101300506032b6570042204205353535353535353535353535353535353535353535353535353535353535353812100f80cccdce4ae1c07ae208a2adf99a310ae4207e0306fa0236110b06827bbb8d0),
    ("VDfnYxR8ZJpWZTWMkJIU4jMZAaObEFe2/55TXQF+vQ6H45nSH4b1BXWoGH9o/tB6dqJ4oJs9e8vYOAu8Hl1rAA==",
      beBytes 64 0x5437e763147c649a5665358c909214e2331901a39b1057b6ff9e535d017ebd0e87e399d21f86f50575a8187f68fed07a76a278a09b3d7bcbd8380bbc1e5d6b00),
    ("hQdejuFsL7LXY+67wcCDJJI9asbPlsb1nXBgkx/Q47tPA6rfG40kQ+Rokj/WP+OXUAHGs2jIL1uVhf80Zbx8Cw==",
      beBytes 64 0x85075e8ee16c2fb2d763eebbc1c08324923d6ac6cf96c6f59d7060931fd0e3bb4f03aadf1b8d2443e468923fd63fe3975001c6b368c82f5b9585ff3465bc7c0b)]

def lanSecret (side : Bool) : PeerLinkEphemeralSecretV2 :=
  if side then Vector.replicate 32 0x61 else Vector.replicate 32 0x62

def lanEphemeral (side : Bool) : Vector UInt8 32 :=
  if side then beVector 32 0x4049502db92ca2342c3f92dac5d6de7c85db5df5407a5b4996ce39f2efb7e827
  else beVector 32 0x4a4f8ccde198d66e99b4c014418a3223ce256c98900ae4a6811fd10f7eb84c2c

/-- The signature of a message under the private half of a key; the four
messages of the handshake differ in length. -/
def lanSignature (message : Bytes) : Vector UInt8 64 :=
  match message.length with
  | 81 => beVector 64
      0x5437e763147c649a5665358c909214e2331901a39b1057b6ff9e535d017ebd0e87e399d21f86f50575a8187f68fed07a76a278a09b3d7bcbd8380bbc1e5d6b00
  | 83 => beVector 64
      0x85075e8ee16c2fb2d763eebbc1c08324923d6ac6cf96c6f59d7060931fd0e3bb4f03aadf1b8d2443e468923fd63fe3975001c6b368c82f5b9585ff3465bc7c0b
  | 318 => beVector 64
      0x7ede27126f8f7039086a29867f63af55dfb76c3e33e07298dd4f5293d63b5c7e0a810ba3f7ca0f2cdf05cc280d630e37eaff075b0fcbe57afb30ee34cf74de0f
  | 331 => beVector 64
      0x42558e007a8f90c091903233ac6d7e50dca2b8abaf4778d2d93583fa093245820a2af8ad94d2688300812e0a02c49015d5195ad22e764a86bb4f988f8919dc0d
  | _ => Vector.replicate 64 0

def lanKeyInfo : Bytes :=
  fields 4 [RELAY_KEY_DOMAIN_V2,asBytes "lan1",List.replicate 16 0x22,asBytes "desk",
    asBytes "laptop"]

def lanPrimitives : Primitives where
  base64Decode text := (lanTexts.find? fun entry => entry.1=text).map Prod.snd
  pemReadAll _ := []
  sha256 bytes :=
    match bytes.length with
    | 386 => beVector 32 0x031de4b394283253d944391ffd6e379aee3e904da3b875da84bab597e28ac9f7
    | 785 => beVector 32 0x83c61a91b27e2047d54b67fc59b5c549209c1ccf2dff98d8716f8a707f526352
    | _ => Vector.replicate 32 0
  uuidParses _ := false
  ed25519Sign _ message := some (lanSignature message)
  ed25519Public key := some (key.drop 51)
  ed25519Verify _ message signature := signature=(lanSignature message).toList
  x25519Public secret :=
    if secret=lanSecret true then lanEphemeral true
    else if secret=lanSecret false then lanEphemeral false
    else Vector.replicate 32 9
  x25519 _ _ := beVector 32 0x7a5a425607245e50d0ef106cd552b660848e31344821c5bbec80575da698dc04
  hkdf _ _ info :=
    if info=lanKeyInfo then beVector 32
        0xd573ddbc3654c957673765c546a9158360c836122c4756d4b7faf671d13b81bb
    else beVector 32 0xb245ef6d8d8eee5826f5724315b3d28a79dcab3d1cebe2549e89e84831f652a4

def lanMembership (side : Bool) : PublicPeerMembershipV2 :=
  if side then
    ⟨"lan1","desk",0xc6120001,"IBLLkMpg6OXY2vZuInLSIz4EhtVX6MZhQe2JIBd9frc=",
      "VDfnYxR8ZJpWZTWMkJIU4jMZAaObEFe2/55TXQF+vQ6H45nSH4b1BXWoGH9o/tB6dqJ4oJs9e8vYOAu8Hl1rAA=="⟩
  else
    ⟨"lan1","laptop",0xc6120002,"+AzM3OSuHAeuIIoq35mjEK5CB+Awb6AjYRCwaCe7uNA=",
      "hQdejuFsL7LXY+67wcCDJJI9asbPlsb1nXBgkx/Q47tPA6rfG40kQ+Rokj/WP+OXUAHGs2jIL1uVhf80Zbx8Cw=="⟩

def lanTunnelKey : String := "wFDFY3pE+oYp//PMzOIwDLNipj2Z2V/FQUUmb0MyRFo="

def lanOffer : P2pOfferV2 where
  tunnelId := "lan1"
  sessionId := Vector.replicate 16 0x22
  sourcePeerId := "desk"
  targetPeerId := "laptop"
  candidates := []
  directCertificateFingerprint := Vector.replicate 32 0x33
  publicPeerMembership := lanMembership true
  ephemeralX25519PublicKey := lanEphemeral true
  peerSignature := lanSignature (List.replicate 318 0)

def lanAcceptance : P2pAnswerV2 where
  offerHash := lanPrimitives.sha256 (List.replicate 386 0)
  acceptedPeerId := "laptop"
  accepted := true
  reasonCode := 0
  candidates := []
  directCertificateFingerprint := Vector.replicate 32 0x44
  publicPeerMembership := lanMembership false
  ephemeralX25519PublicKey := lanEphemeral false
  peerSignature := lanSignature (List.replicate 331 0)

def lanEnd (side : Bool) : Derivation := ⟨lanSecret side,lanOffer,lanAcceptance,lanTunnelKey⟩

theorem lanPrimitives_base64_mem {text : String} {bytes : Bytes}
    (h : lanPrimitives.base64Decode text=some bytes) : (text,bytes)∈lanTexts := by
  obtain ⟨_,hent,rfl⟩:=Option.map_eq_some_iff.mp h
  have htext:=List.find?_some hent
  obtain rfl := of_decide_eq_true htext
  exact List.mem_of_find?_eq_some hent

theorem lanPrimitives_base64Injective : lanPrimitives.Base64Injective := by
  have hinj : ∀ e∈lanTexts, ∀ e'∈lanTexts, e.2=e'.2 → e.1=e'.1 := by decide
  intro s t bytes hs ht
  exact hinj (s,bytes) (lanPrimitives_base64_mem hs) (t,bytes) (lanPrimitives_base64_mem ht) rfl

theorem lanPrimitives_dhCommutes : lanPrimitives.DhCommutes := by
  intro a b
  rfl

theorem lanEnd_honest : (lanEnd true).Honest lanPrimitives (lanEnd false) :=
  ⟨rfl,rfl,by decide,by decide,by decide⟩

def lanKeys : PeerLinkSessionKeysV2 :=
  ⟨lanPrimitives.hkdf (Vector.replicate 32 0) (Vector.replicate 32 0) lanKeyInfo,
    lanPrimitives.hkdf (Vector.replicate 32 0) (Vector.replicate 32 0) []⟩

theorem lanEnd_keys : (lanEnd true).keys lanPrimitives = .ok lanKeys ∧
    (lanEnd false).keys lanPrimitives = .ok ⟨lanKeys.receiveKey,lanKeys.sendKey⟩ :=
  ⟨toOption_eq_some.mp (by decide +kernel),toOption_eq_some.mp (by decide +kernel)⟩

theorem lanEnd_keysApart : lanPrimitives.KeysApart (lanEnd true) (lanEnd false) .send .receive := by
  have hmaterial:=lanEnd_honest.keyMaterial_eq lanPrimitives_dhCommutes .send
  refine ⟨?_,?_⟩
  · intro m m' hm hm' heq
    exact ok.inj (hm.symm.trans hm')
  · intro t t' ht ht' heq
    exact ok.inj (ht.symm.trans ht')

theorem deriveSessionKeys_agreement_lan :
    ∃ keys keys', (lanEnd true).keys lanPrimitives = .ok keys ∧
      (lanEnd false).keys lanPrimitives = .ok keys' ∧ keys.sendKey = keys'.receiveKey ∧
      keys.receiveKey = keys'.sendKey ∧
      lanAcceptance.verifyForOffer lanPrimitives lanOffer lanTunnelKey = .ok () ∧
      (lanEnd true).direction lanPrimitives .send = (lanEnd false).direction lanPrimitives .receive := by
  obtain ⟨hsucc,hagree,hbind⟩:=deriveSessionKeys_agreement lanPrimitives
    lanPrimitives_base64Injective lanPrimitives_dhCommutes
  obtain ⟨hdesk,hlaptop⟩:=lanEnd_keys
  have hfit:=hagree _ _ lanEnd_honest _ _ hdesk hlaptop
  have hbinds:=hbind _ _ _ _ .send .receive hdesk hlaptop lanEnd_keysApart hfit.1
  exact ⟨_,_,hdesk,hlaptop,hfit.1,hfit.2,(hsucc _ _ hdesk).2.1,hbinds.2.2⟩

end Lantunnel.Core
