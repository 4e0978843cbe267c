import Lantunnel.Core.Wire

/-!
# What survives the wire (tp-core/src/protocol.rs:440-1224)

A message comes back from its bytes exactly when every field is representable
(`pack_unpack_iff`), and what the decoder gives for any bytes at all is representable,
so a frame can be decoded and sent on (`unpack_stable`).
-/

namespace Lantunnel.Core.Wire
open Lib.FieldCodec Lib.RustStd Lib.RustNet Lib.FrameCursor
open List hiding Vector

def ConnIdFits (connId : String) : Prop :=
  (asBytes connId).length≤CONN_ID_SIZE ∧ 0 ∉ asBytes connId

def U16Fits (s : String) : Prop := (asBytes s).length<65536

def EntriesFit {α : Type} (Fit : α → Prop) (entries : List α) : Prop :=
  entries.length≤255 ∧ ∀ entry ∈ entries, Fit entry

def BodyFits (max : ℕ) (body : Bytes) : Prop := body ≠ [] ∧ body.length≤ max

def Representable : BinaryMessage → Prop
  | .connect connId network address => ConnIdFits connId ∧ U16Fits network ∧ U16Fits address
  | .connectResponse connId _ error => ConnIdFits connId ∧ U16Fits error
  | .close connId => ConnIdFits connId
  | .auth tunnelId clientId groupId username password groupPassword _ _ =>
    U16Fits tunnelId ∧ U16Fits clientId ∧ U16Fits groupId ∧ U16Fits username ∧
      U16Fits password ∧ U16Fits groupPassword
  | .authResponse status reason _ => U16Fits status ∧ U16Fits reason
  | .error message => U16Fits message
  | .heartbeat clientId _ => U16Fits clientId
  | .heartbeatAck _ => True
  | .data connId _ => ConnIdFits connId
  | .udpData connId _ => ConnIdFits connId
  | .udpFragment connId _ _ _ _ => ConnIdFits connId
  | .p2pAnnounce clientId groupId locals _ _ =>
    U16Fits clientId ∧ U16Fits groupId ∧ EntriesFit (fun entry => U16Fits entry.1) locals
  | .p2pAnnounceAck publicIp _ _ => U16Fits publicIp
  | .p2pOffer _ srcClientId dstClientId candidates _ _ =>
    U16Fits srcClientId ∧ U16Fits dstClientId ∧ EntriesFit (fun c => U16Fits c.ip) candidates
  | .p2pAnswer _ acceptedClientId _ reason candidates _ =>
    U16Fits acceptedClientId ∧ U16Fits reason ∧ EntriesFit (fun c => U16Fits c.ip) candidates
  | .p2pPunchSync _ _ _ portOffsets => EntriesFit (fun _ => True) portOffsets
  | .p2pProbe _ _ _ => True
  | .p2pProbeAck _ _ _ => True
  | .p2pSessionReady _ _ chosenRemoteIp _ => U16Fits chosenRemoteIp
  | .p2pTeardown _ _ => True
  | .p2pPeerHint peerClientId => U16Fits peerClientId
  | .relayRouteBind connId peerClientId => ConnIdFits connId ∧ U16Fits peerClientId
  | .relayRouteBindAck connId _ error => ConnIdFits connId ∧ U16Fits error
  | .authV2Challenge _ => True
  | .authV2Proof membership signature =>
    U16Fits membership.tunnelId ∧ U16Fits membership.peerId ∧ U16Fits membership.peerPublicKey ∧
      U16Fits membership.membershipSignature ∧ U16Fits signature
  | .p2pOfferV2 sourcePeerId targetPeerId signedOffer =>
    U16Fits sourcePeerId ∧ U16Fits targetPeerId ∧ BodyFits MAX_P2P_SIGNED_BODY_V2 signedOffer
  | .p2pAnswerV2 sourcePeerId targetPeerId signedAnswer =>
    U16Fits sourcePeerId ∧ U16Fits targetPeerId ∧ BodyFits MAX_P2P_SIGNED_BODY_V2 signedAnswer
  | .encryptedPeerControlV2 targetPeerId _ _ _ sealed =>
    U16Fits targetPeerId ∧ trim targetPeerId ≠ "" ∧
      BodyFits MAX_ENCRYPTED_PEER_CONTROL_V2_SEALED sealed

theorem arrayOf_toList {n : ℕ} (v : Vector UInt8 n) : arrayOf n v.toList=v := by
  apply Vector.ext
  intro i hi
  have hlen : i<v.toList.length := by simpa using hi
  rw [arrayOf,Vector.getElem_ofFn,getD_eq_getElem?_getD,getElem?_eq_getElem hlen,
    Option.getD_some,Vector.getElem_toList]

theorem readFixedBytesAt_codec (n : ℕ) : Codec (readFixedBytesAt n) (fun _ => True) Vector.toList :=
  (Codec.takeChecked _ n).map (fun _ => by simp) arrayOf_toList

theorem fromBeBytes_codec (short : ℕ → ProtoError) (n : ℕ) :
    Codec (fromBeBytes short n) (fun v => v<256^n) (beBytes n) := by
  refine (Codec.takeChecked short n).ofCode (fun v hv => ⟨beBytes_length n v,?_⟩) ?_
  · rw [beNat_beBytes,Nat.mod_eq_of_lt hv]
  intro bytes hlen
  refine .pure ?_
  rw [← hlen]
  exact beNat_lt bytes

theorem readU8At_codec : Codec readU8At (fun _ => True) fun v => [v] := by
  have hcodec : Codec readU8At (fun _ => True) fun v => beBytes 1 v.toNat :=
    (fromBeBytes_codec _ 1).map (fun v => v.toNat_lt) fun v => UInt8.ofNat_toNat
  have hbs : (fun v : UInt8 => beBytes 1 v.toNat)=fun v => [v] := by
    simp [beBytes]
  rwa [hbs] at hcodec

theorem readI8At_codec : Codec readI8At (fun _ => True) fun v => [v.toUInt8] :=
  readU8At_codec.map (fun _ => trivial) Int8.toInt8_toUInt8

theorem readU16At_codec : Codec readU16At (fun _ => True) fun v => beBytes 2 v.toNat :=
  (fromBeBytes_codec _ 2).map (fun v => v.toNat_lt) fun _ => UInt16.ofNat_toNat

theorem readU32At_codec : Codec readU32At (fun _ => True) fun v => beBytes 4 v.toNat :=
  (fromBeBytes_codec _ 4).map (fun v => v.toNat_lt) fun _ => UInt32.ofNat_toNat

theorem readI64At_codec : Codec readI64At (fun _ => True) putI64 := by
  refine (fromBeBytes_codec _ 8).map (c := fun v : Int64 => v.toUInt64.toNat)
    (fun v => v.toUInt64.toNat_lt) fun v => ?_
  rw [UInt64.ofNat_toNat,Int64.toInt64_toUInt64]

theorem readCode_codec {α : Type} {fromU8 : UInt8 → Option α} {asU8 : α → UInt8}
    (h : ∀ a, fromU8 (asU8 a)=some a) :
    Codec (readCode fromU8) (fun _ => True) fun a => [asU8 a] := by
  refine readU8At_codec.ofCode (fun a _ => ⟨trivial,?_⟩) fun v _ => .orFail _ fun _ _ => trivial
  rw [h]
  rfl

theorem readClientRole_wire (role : ClientRoleConfig) : U16Fits (encodeClientRole role) := by
  unfold U16Fits
  cases role <;> decide

theorem stringFromUtf8_asBytes (s : String) : stringFromUtf8 (asBytes s)=pure s := by
  rw [stringFromUtf8,fromUtf8_asBytes]
  rfl

theorem stringFromUtf8_inside {W : String → Prop} {bytes : Bytes}
    (h : ∀ s, asBytes s=bytes → W s) : Inside (stringFromUtf8 bytes) W :=
  .orFail _ fun s hs => h s (fromUtf8_eq_some.mp hs)

theorem writeConnId_of_fits {connId : String} (h : (asBytes connId).length≤CONN_ID_SIZE) :
    writeConnId connId =
      asBytes connId++replicate (CONN_ID_SIZE-(asBytes connId).length) 0 := by
  rw [writeConnId,Nat.min_eq_left h,take_length,copyFromSlice,Nat.zero_add,drop_replicate]
  rfl

theorem readConnIdAt_codec : Codec readConnIdAt ConnIdFits writeConnId := by
  refine (Codec.takeChecked _ CONN_ID_SIZE).ofCode (c := writeConnId) ?_ ?_
  · intro connId hfits
    obtain ⟨hlen,hnul⟩:=hfits
    rw [writeConnId_of_fits hlen]
    refine ⟨?_,?_⟩
    · rw [length_append,length_replicate]
      omega
    · rw [takeWhile_padded hnul,stringFromUtf8_asBytes]
  · intro raw hraw
    refine stringFromUtf8_inside fun s hs => ⟨?_,?_⟩
    · rw [hs,← hraw]
      exact ( takeWhile_prefix _).length_le
    rw [hs]
    intro hzero
    simpa using mem_takeWhile_imp hzero

theorem readU16StringAt_codec : Codec readU16StringAt U16Fits writeU16String := by
  constructor
  · intro s hs
    have hcast : (UInt16.ofNat (asBytes s).length).toNat=(asBytes s).length :=
      Nat.mod_eq_of_lt hs
    have hlen:=readU16At_codec.decodes (a := UInt16.ofNat (asBytes s).length) trivial
    rw [hcast] at hlen
    refine hlen.bind ?_
    rw [hcast]
    exact (Decodes.takeChecked _ rfl).as (stringFromUtf8_asBytes s)
  · refine readU16At_codec.inside.bind fun len _ => ?_
    refine (Inside.takeChecked _ len.toNat).bind fun bytes hbs => ?_
    refine stringFromUtf8_inside fun s hs => ?_
    rw [U16Fits,hs,hbs]
    exact len.toNat_lt

theorem readClientRole_codec :
    Codec readClientRole (fun _ => True) fun role => writeU16String (encodeClientRole role) :=
  readU16StringAt_codec.ofCode
    (fun role _ => ⟨readClientRole_wire role,congrArg pure (decodeClientRole_encode role)⟩)
    fun _ _ => .pure trivial

theorem readCapabilities_codec : Codec readCapabilities (fun _ => True) fun c => [c.flags] :=
  readU8At_codec.map (fun _ => trivial) TransportCapabilities.fromFlags_flags

theorem readEntries_codec {α : Type} {entry : Read α} {Fit : α → Prop} {write : α → Bytes}
    (h : Codec entry Fit write) : Codec (readEntries entry) (EntriesFit Fit) (writeEntries write) := by
  constructor
  · intro entries hents
    obtain ⟨hlen,hall⟩:=hents
    have hcnt : (UInt8.ofNat (min entries.length 255)).toNat=entries.length := by
      rw [Nat.min_eq_left hlen]
      exact Nat.mod_eq_of_lt (by omega)
    refine (readU8At_codec.decodes trivial).bind ?_
    rw [hcnt,take_of_length_le hlen]
    exact (h.times entries.length).decodes ⟨rfl,hall⟩
  · refine readU8At_codec.inside.bind fun count _ => ?_
    refine (h.inside.times count.toNat).mono fun entries hents => ⟨?_,hents.2⟩
    have hlt:=count.toNat_lt
    omega

theorem readLocal_codec : Codec readLocal (fun entry => U16Fits entry.1) writeLocal := by
  constructor
  · intro entry hip
    exact (readU16StringAt_codec.decodes hip).bind ((readU16At_codec.decodes trivial).last _)
  exact readU16StringAt_codec.inside.bind fun ip hip =>
    readU16At_codec.inside.bind fun port _ => .pure hip

theorem readCandidate_codec : Codec readCandidate (fun c => U16Fits c.ip) writeCandidate := by
  have hkind:=readCode_codec (fun kind => CandidateKind.fromU8_eq_some.mpr (Eq.refl kind.asU8))
  constructor
  · intro c hip
    rw [writeCandidate,append_assoc]
    exact (readU16StringAt_codec.decodes hip).bind
      ((readU16At_codec.decodes trivial).bind ((hkind.decodes trivial).last _))
  · exact readU16StringAt_codec.inside.bind fun ip hip =>
      readU16At_codec.inside.bind fun port _ => hkind.inside.bind fun kind _ => .pure hip

theorem readBody_inside (max : ℕ) : Inside (readBody max) (BodyFits max) := by
  intro frame pos hpos
  have hread : readBody max frame pos =
      (if frame.length-pos=0 ∨ frame.length-pos>max then fail .badLength else takeRest : Read _)
        frame pos := rfl
  rw [hread]
  split
  · exact .inl ⟨_,rfl⟩
  have hdrop : (frame.drop pos).length=frame.length-pos := length_drop
  refine .inr ⟨frame.drop pos,pos,if_pos hpos,hpos,?_,by omega⟩
  apply ne_nil_of_length_pos
  omega

theorem readBody_decodes {max : ℕ} {body : Bytes} (h : BodyFits max body) :
    DecodesRest (readBody max) body body := by
  obtain ⟨hne,_⟩:=h
  have hpos:=length_pos_iff.mpr hne
  refine .left ?_
  rw [if_neg (by omega)]
  exact .takeRest body

theorem unpackFrame_inside {W : BinaryMessage → Prop} (h : ∀ ty, Inside (unpackBody ty) W) :
    Inside unpackFrame W := by
  refine (Inside.takeChecked _ HEADER_SIZE).bind fun header _ => ?_
  refine .ite (fun _ => .fail _) fun _ => ?_
  exact (Inside.orFail _ fun _ _ => trivial).bind fun ty _ => h ty

variable {msg : BinaryMessage}

theorem unpack_of_body {ty : MsgType} {body : Bytes} (h : DecodesRest (unpackBody ty) msg body) :
    unpack ([PROTOCOL_VERSION,ty.asU8]++body) = .ok msg := by
  have hhead : Decodes (takeChecked ProtoError.tooShort HEADER_SIZE)
      [PROTOCOL_VERSION,ty.asU8] [PROTOCOL_VERSION,ty.asU8] := .takeChecked _ rfl
  have hfrm : DecodesRest unpackFrame msg ([PROTOCOL_VERSION,ty.asU8]++body) := by
    refine hhead.bindRest ?_
    change DecodesRest (orFail _ (MsgType.fromU8 ty.asU8) >>= unpackBody) msg body
    rw [MsgType.fromU8_asU8]
    exact h
  exact hfrm.decode

theorem unpack_pack_fields {ty : MsgType} {fields : Bytes}
    (hpack : packBody msg=(ty,fields,none)) (h : Decodes (unpackBody ty) msg fields) :
    unpack (pack msg).toBytes = .ok msg := by
  have hbs : (pack msg).toBytes=[PROTOCOL_VERSION,ty.asU8]++fields := by
    rw [pack,hpack]
    rfl
  rw [hbs]
  exact unpack_of_body h.rest

theorem unpack_pack_payload {ty : MsgType} {fields payload : Bytes}
    (hpack : packBody msg=(ty,fields,some payload))
    (h : DecodesRest (unpackBody ty) msg (fields++payload)) :
    unpack (pack msg).toBytes = .ok msg := by
  have hbs : (pack msg).toBytes=[PROTOCOL_VERSION,ty.asU8]++(fields++payload) := by
    rw [pack,hpack]
    exact append_assoc _ _ _
  rw [hbs]
  exact unpack_of_body h

-- the codes of the four enumerations
theorem natHint_codec : Codec (readCode NatHint.fromU8) (fun _ => True) fun h => [h.asU8] :=
  readCode_codec fun h => by cases h <;> rfl

theorem p2pRole_codec : Codec (readCode P2pRole.fromU8) (fun _ => True) fun r => [r.asU8] :=
  readCode_codec fun r => by cases r <;> rfl

theorem teardownReason_codec :
    Codec (readCode TeardownReason.fromU8) (fun _ => True) fun r => [r.asU8] :=
  readCode_codec fun r => by cases r <;> rfl

theorem readCandidates_codec :
    Codec readCandidates (EntriesFit fun c => U16Fits c.ip) (writeEntries writeCandidate) :=
  readEntries_codec readCandidate_codec

theorem readRole_codec : Codec (optional .client readClientRole) (fun _ => True)
    fun role => writeU16String (encodeClientRole role) := by
  refine readClientRole_codec.optional trivial fun role => ?_
  simp [writeU16String,writeU16Bytes,beBytes]

theorem readCapabilitiesOrNone_codec :
    Codec (optional .none readCapabilities) (fun _ => True) fun c => [c.flags] :=
  readCapabilities_codec.optional trivial fun _ => cons_ne_nil _ _

theorem exists_octets (ip : Ipv4Addr) :
    ∃ v : Vector UInt8 4, v.toList=octets ip ∧ ofOctets v=ip := by
  have hsize : (octets ip).toArray.size=4 := by simp [octets]
  refine ⟨⟨(octets ip).toArray,hsize⟩,rfl,octets_inj ?_⟩
  rw [octets_ofOctets]
  rfl

theorem unpack_pack (h : Representable msg) : unpack (pack msg).toBytes = .ok msg := by
  have hconn:=@readConnIdAt_codec.decodes
  have htext:=@readU16StringAt_codec.decodes
  have hcands:=@readCandidates_codec.decodes
  have hu8:=fun {b} => @readU8At_codec.decodes b trivial
  have hu16:=fun {b} => @readU16At_codec.decodes b trivial
  have hu32:=fun {b} => @readU32At_codec.decodes b trivial
  have hi64:=fun {b} => @readI64At_codec.decodes b trivial
  have hsess:=fun {b} => @(readFixedBytesAt_codec 16).decodes b trivial
  have hcert:=fun {b} => @(readFixedBytesAt_codec 32).decodes b trivial
  have hcaps:=fun {b} => @readCapabilitiesOrNone_codec.decodes b trivial
  cases msg with
  | connect =>
    obtain ⟨hid,hnet,haddr⟩:=h
    refine unpack_pack_fields rfl ?_
    rw [append_assoc]
    exact (hconn hid).bind ((htext hnet).bind ((htext haddr).last _))
  | connectResponse connId success error | relayRouteBindAck connId success error =>
    obtain ⟨hid,herr⟩:=h
    refine unpack_pack_fields rfl ?_
    rw [append_assoc]
    refine (hconn hid).bind (hu8.bind ?_)
    cases success <;> exact (htext herr).last _
  | close => exact unpack_pack_fields rfl ((hconn h).last _)
  | auth =>
    obtain ⟨htun,hcl,hgroup,huser,hpass,hgroupPass⟩:=h
    refine unpack_pack_fields rfl ?_
    simp only [append_assoc]
    exact (htext htun).bind ((htext hcl).bind ((htext hgroup).bind ((htext huser).bind ((htext
      hpass).bind ((htext hgroupPass).bind ((readRole_codec.decodes trivial).bind (hcaps.last _)))))))
  | authResponse =>
    obtain ⟨hstatus,hwhy⟩:=h
    refine unpack_pack_fields rfl ?_
    rw [append_assoc]
    exact (htext hstatus).bind ((htext hwhy).bind (hcaps.last _))
  | error message | p2pPeerHint message => exact unpack_pack_fields rfl ((htext h).last _)
  | heartbeat =>
    exact unpack_pack_fields rfl ((htext h).bind (hi64.last _))
  | heartbeatAck =>
    exact unpack_pack_fields rfl (hi64.last _)
  | data connId payload | udpData connId payload =>
    exact unpack_pack_payload rfl ((hconn h).bindRest ((DecodesRest.takeRest payload).last _))
  | udpFragment connId fragId fragIndex fragTotal payload =>
    refine unpack_pack_payload rfl ?_
    simp only [append_assoc]
    exact (hconn h).bindRest (hu32.bindRest (hu8.bindRest (hu8.bindRest ((DecodesRest.takeRest
      payload).last _))))
  | p2pAnnounce =>
    obtain ⟨hcl,hgroup,hlocals⟩:=h
    refine unpack_pack_fields rfl ?_
    simp only [append_assoc]
    exact (htext hcl).bind ((htext hgroup).bind (((readEntries_codec readLocal_codec).decodes
      hlocals).bind ((natHint_codec.decodes trivial).bind (hcert.last _))))
  | p2pAnnounceAck =>
    refine unpack_pack_fields rfl ?_
    rw [append_assoc]
    exact (htext h).bind (hu16.bind (hi64.last _))
  | p2pOffer =>
    obtain ⟨hsrc,hdst,hcand⟩:=h
    refine unpack_pack_fields rfl ?_
    simp only [append_assoc]
    exact hsess.bind ((htext hsrc).bind ((htext hdst).bind ((hcands hcand).bind (hcert.bind
      ((p2pRole_codec.decodes trivial).last _)))))
  | p2pAnswer sessionId acceptedClientId ok =>
    obtain ⟨hacc,hwhy,hcand⟩:=h
    refine unpack_pack_fields rfl ?_
    simp only [append_assoc]
    refine hsess.bind ((htext hacc).bind (hu8.bind ((htext hwhy).bind ((hcands hcand).bind ?_))))
    cases ok <;> exact hcert.last _
  | p2pPunchSync =>
    refine unpack_pack_fields rfl ?_
    simp only [append_assoc]
    exact hsess.bind (hi64.bind (hu8.bind (((readEntries_codec readI8At_codec).decodes h).last _)))
  | p2pProbe sessionId seq sentMs | p2pProbeAck sessionId seq recvMs =>
    refine unpack_pack_fields rfl ?_
    rw [append_assoc]
    exact hsess.bind (hu32.bind (hi64.last _))
  | p2pSessionReady =>
    refine unpack_pack_fields rfl ?_
    simp only [append_assoc]
    exact hsess.bind (hu32.bind ((htext h).bind (hu16.last _)))
  | p2pTeardown =>
    exact unpack_pack_fields rfl (hsess.bind ((teardownReason_codec.decodes trivial).last _))
  | relayRouteBind =>
    obtain ⟨hid,hpeer⟩:=h
    exact unpack_pack_fields rfl ((hconn hid).bind ((htext hpeer).last _))
  | authV2Challenge =>
    exact unpack_pack_fields rfl (hcert.last _)
  | authV2Proof membership =>
    obtain ⟨htun,hpeer,hkey,hmember,hsig⟩:=h
    obtain ⟨v,hoctets,hip⟩:=exists_octets membership.overlayIp
    refine unpack_pack_fields rfl ?_
    simp only [append_assoc,← hoctets]
    refine (htext htun).bind ((htext hpeer).bind (((readFixedBytesAt_codec 4).decodes trivial).bind
      ((htext hkey).bind ((htext hmember).bind ?_))))
    rw [hip]
    exact (htext hsig).last _
  | p2pOfferV2 sourcePeerId targetPeerId body | p2pAnswerV2 sourcePeerId targetPeerId body =>
    obtain ⟨hsource,htgt,hbody⟩:=h
    refine unpack_pack_payload rfl ?_
    rw [append_assoc]
    exact (htext hsource).bindRest ((htext htgt).bindRest ((readBody_decodes hbody).last _))
  | encryptedPeerControlV2 targetPeerId peerlinkSessionId connId routeAbort =>
    obtain ⟨htgt,hblk,hbody⟩:=h
    refine unpack_pack_payload rfl ?_
    simp only [append_assoc]
    refine (htext htgt).bindRest ?_
    rw [if_neg hblk]
    refine hsess.bindRest (((readFixedBytesAt_codec 12).decodes trivial).bindRest (hu8.bindRest ?_))
    cases routeAbort <;> exact (readBody_decodes hbody).last _

/-- Whatever the bytes, the decoder stays inside them and gives a representable
message. -/
theorem unpackBody_inside (ty : MsgType) : Inside (unpackBody ty) Representable := by
  have hconn:=readConnIdAt_codec.inside
  have htext:=readU16StringAt_codec.inside
  have hu8:=readU8At_codec.inside
  have hu16:=readU16At_codec.inside
  have hu32:=readU32At_codec.inside
  have hi64:=readI64At_codec.inside
  have hsess:=(readFixedBytesAt_codec 16).inside
  have hcert:=(readFixedBytesAt_codec 32).inside
  have hcaps:=readCapabilitiesOrNone_codec.inside
  cases ty with
  | connect =>
    exact hconn.bind fun _ hid => htext.bind fun _ hnet => htext.bind fun _ haddr =>
      .pure ⟨hid,hnet,haddr⟩
  | connectResponse | relayRouteBindAck =>
    exact hconn.bind fun _ hid => hu8.bind fun _ _ => htext.bind fun _ herr =>
      .pure ⟨hid,herr⟩
  | close => exact hconn.bind fun _ hid => .pure hid
  | auth =>
    exact htext.bind fun _ htun => htext.bind fun _ hcl => htext.bind fun _ hgroup =>
      htext.bind fun _ huser => htext.bind fun _ hpass => htext.bind fun _ hgroupPass =>
      readRole_codec.inside.bind fun _ _ => hcaps.bind fun _ _ =>
      .pure ⟨htun,hcl,hgroup,huser,hpass,hgroupPass⟩
  | authResponse =>
    exact htext.bind fun _ hstatus => htext.bind fun _ hwhy => hcaps.bind fun _ _ =>
      .pure ⟨hstatus,hwhy⟩
  | error | p2pPeerHint => exact htext.bind fun _ hmsg => .pure hmsg
  | heartbeat => exact htext.bind fun _ hcl => hi64.bind fun _ _ => .pure hcl
  | heartbeatAck => exact hi64.bind fun _ _ => .pure trivial
  | data | udpData => exact hconn.bind fun _ hid => Inside.takeRest.bind fun _ _ => .pure hid
  | udpFragment =>
    exact hconn.bind fun _ hid => hu32.bind fun _ _ => hu8.bind fun _ _ => hu8.bind fun _ _ =>
      Inside.takeRest.bind fun _ _ => .pure hid
  | p2pAnnounce =>
    exact htext.bind fun _ hcl => htext.bind fun _ hgroup =>
      (readEntries_codec readLocal_codec).inside.bind fun _ hlocals =>
      natHint_codec.inside.bind fun _ _ => hcert.bind fun _ _ =>
      .pure ⟨hcl,hgroup,hlocals⟩
  | p2pAnnounceAck =>
    exact htext.bind fun _ hip => hu16.bind fun _ _ => hi64.bind fun _ _ => .pure hip
  | p2pOffer =>
    exact hsess.bind fun _ _ => htext.bind fun _ hsrc => htext.bind fun _ hdst =>
      readCandidates_codec.inside.bind fun _ hcand => hcert.bind fun _ _ =>
      p2pRole_codec.inside.bind fun _ _ => .pure ⟨hsrc,hdst,hcand⟩
  | p2pAnswer =>
    exact hsess.bind fun _ _ => htext.bind fun _ hacc => hu8.bind fun _ _ =>
      htext.bind fun _ hwhy => readCandidates_codec.inside.bind fun _ hcand =>
      hcert.bind fun _ _ => .pure ⟨hacc,hwhy,hcand⟩
  | p2pPunchSync =>
    exact hsess.bind fun _ _ => hi64.bind fun _ _ => hu8.bind fun _ _ =>
      (readEntries_codec readI8At_codec).inside.bind fun _ hoffsets => .pure hoffsets
  | p2pProbe | p2pProbeAck =>
    exact hsess.bind fun _ _ => hu32.bind fun _ _ => hi64.bind fun _ _ => .pure trivial
  | p2pSessionReady =>
    exact hsess.bind fun _ _ => hu32.bind fun _ _ => htext.bind fun _ hip =>
      hu16.bind fun _ _ => .pure hip
  | p2pTeardown =>
    exact hsess.bind fun _ _ => teardownReason_codec.inside.bind fun _ _ => .pure trivial
  | relayRouteBind =>
    exact hconn.bind fun _ hid => htext.bind fun _ hpeer => .pure ⟨hid,hpeer⟩
  | authV2Challenge => exact hcert.bind fun _ _ => .pure trivial
  | authV2Proof =>
    exact htext.bind fun _ htun => htext.bind fun _ hpeer =>
      (readFixedBytesAt_codec 4).inside.bind fun _ _ => htext.bind fun _ hkey =>
      htext.bind fun _ hmember => htext.bind fun _ hsig =>
      .pure ⟨htun,hpeer,hkey,hmember,hsig⟩
  | p2pOfferV2 | p2pAnswerV2 =>
    exact htext.bind fun _ hsource => htext.bind fun _ htgt =>
      (readBody_inside _).bind fun _ hbody => .pure ⟨hsource,htgt,hbody⟩
  | encryptedPeerControlV2 =>
    exact htext.bind fun _ htgt => .ite (fun _ => .fail _) fun hblk =>
      hsess.bind fun _ _ => (readFixedBytesAt_codec 12).inside.bind fun _ _ =>
      hu8.bind fun _ _ => .ite (fun _ => .fail _) fun _ =>
      (readBody_inside _).bind fun _ hbody => .pure ⟨htgt,hblk,hbody⟩

theorem representable_of_unpackBytes {frame : Bytes}
    (h : unpackBytes frame = .ok msg) : Representable msg :=
  (unpackFrame_inside unpackBody_inside).of_decode h

/-- A message comes back from its own bytes exactly when its fields are
representable. -/
theorem pack_unpack_iff (msg : BinaryMessage) :
    unpack (pack msg).toBytes = .ok msg ↔ Representable msg := by
  constructor
  · intro h
    exact representable_of_unpackBytes h
  intro h
  exact unpack_pack h

/-- Any bytes at all: the decoder reads only inside them, and what it gives can
be encoded and decoded again. -/
theorem unpack_stable (frame : Bytes) :
    unpackBytes frame ≠ .error .outOfBounds ∧
      ∀ msg, unpackBytes frame = .ok msg → unpack (pack msg).toBytes = .ok msg := by
  refine ⟨(unpackFrame_inside unpackBody_inside).decode_ne_outOfBounds frame,?_⟩
  intro msg h
  exact unpack_pack (representable_of_unpackBytes h)

end Lantunnel.Core.Wire
