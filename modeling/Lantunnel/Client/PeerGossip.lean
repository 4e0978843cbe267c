import Lantunnel.Lib.PairSync
import Lantunnel.Client.RelayCrypto
import Lantunnel.Client.PeerRuntime

/-!
# Pairwise gossip (tp-client/src/peer_gossip.rs)

The controller of one Peer turns the life of its links, changes of its own record, time
and payloads into changes of its directory and payloads to send.
-/

namespace Lantunnel.Client
open Lib RustStd FieldCodec Table PeerGossipDirectoryV2 Option
open Core (Primitives)
open PairSync (Party Message)

/-! ### The controller (peer_gossip.rs:18-57) -/

def MAX_GOSSIP_PEER_ID_BYTES_V2 : ℕ := 256

-- nanoseconds
def GOSSIP_DIGEST_MIN_INTERVAL_V2 : ℕ := 25*1000000000
def GOSSIP_DIGEST_MAX_INTERVAL_V2 : ℕ := 35*1000000000

structure PeerGossipOutboundV2 where
  targetPeerId : String
  payload : RelayControlPayloadV2
  deriving DecidableEq

structure PeerGossipLinkV2 where
  nextDigestAt : ℕ
  reciprocalPending : Bool

structure PeerGossipControllerV2 where
  localRecord : PeerRuntimeRecordV2
  links : Table String PeerGossipLinkV2
  directory : PeerGossipDirectoryV2

inductive PeerGossipErrorV2
  | invalidPeerId
  | linkNotReady
  | unexpectedPayload
  | peerRuntime (e : PeerRuntimeErrorV2)
  deriving DecidableEq

/-! ### Checks and intervals (peer_gossip.rs:188-212) -/

def validatePeerId (peerId : String) : Except PeerGossipErrorV2 Unit :=
  if peerId = "" ∨ trim peerId ≠ peerId ∨ MAX_GOSSIP_PEER_ID_BYTES_V2<(asBytes peerId).length then
    .error .invalidPeerId
  else .ok ()

def digestIntervalFor (peerId : String) : ℕ :=
  let spreadSecs:=GOSSIP_DIGEST_MAX_INTERVAL_V2/1000000000-GOSSIP_DIGEST_MIN_INTERVAL_V2/1000000000
  let hash:=(asBytes peerId).foldl (fun (hash : UInt64) byte => hash*16777619+byte.toUInt64) 0
  GOSSIP_DIGEST_MIN_INTERVAL_V2+hash.toNat % (spreadSecs+1)*1000000000

/-! ### Operations (peer_gossip.rs:58-176) -/

namespace PeerGossipControllerV2

def new (localRecord : PeerRuntimeRecordV2) : PeerGossipControllerV2 := ⟨localRecord,.empty,.empty⟩

variable (controller : PeerGossipControllerV2)

def fullRecordFor (remotePeerId : String) : PeerGossipOutboundV2 :=
  ⟨remotePeerId,.runtimeRecord controller.localRecord.encode⟩

def linkEntries : List (String × PeerGossipLinkV2) :=
  controller.links.pairs.mergeSort fun a b => strLe a.1 b.1

def linkReady (remotePeerId : String) (now : ℕ) :
    Except PeerGossipErrorV2 PeerGossipOutboundV2 × PeerGossipControllerV2 :=
  match validatePeerId remotePeerId with
  | .error e => (.error e,controller)
  | .ok () =>
    let controller':={ controller with
      links := controller.links.insert remotePeerId ⟨now+digestIntervalFor remotePeerId,true⟩ }
    (.ok (controller'.fullRecordFor remotePeerId),controller')

def setLocalRecord (localRecord : PeerRuntimeRecordV2) :
    List PeerGossipOutboundV2 × PeerGossipControllerV2 :=
  if controller.localRecord=localRecord then ([],controller)
  else
    let encoded:=localRecord.encode
    (controller.linkEntries.map fun entry => ⟨entry.1,.runtimeRecord encoded⟩,
      { controller with localRecord := localRecord })

def pollDigests (p : Primitives) (now : ℕ) : List PeerGossipOutboundV2 × PeerGossipControllerV2 :=
  let hash:=controller.localRecord.hash p
  (controller.linkEntries.filterMap fun entry =>
      if now<entry.2.nextDigestAt then none else some ⟨entry.1,.digest hash⟩,
    { controller with
      links := controller.links.mapValues fun peerId link =>
        if now<link.nextDigestAt then link
        else { link with nextDigestAt := now+digestIntervalFor peerId } })

def receive (p : Primitives) (remotePeerId : String) (payload : RelayControlPayloadV2) :
    Except PeerGossipErrorV2 (Option PeerGossipOutboundV2) × PeerGossipControllerV2 :=
  match validatePeerId remotePeerId with
  | .error e => (.error e,controller)
  | .ok () =>
    match controller.links.get remotePeerId with
    | none => (.error .linkNotReady,controller)
    | some link =>
      match payload with
      | .runtimeRecord encoded =>
        match PeerRuntimeRecordV2.decode encoded with
        | .error e => (.error (.peerRuntime e),controller)
        | .ok record =>
          match controller.directory.replaceOrigin remotePeerId record with
          | .error e => (.error (.peerRuntime e),controller)
          | .ok directory =>
            let controller':={ controller with
              directory := directory
              links := controller.links.insert remotePeerId { link with reciprocalPending := false } }
            (.ok (if link.reciprocalPending then some (controller'.fullRecordFor remotePeerId) else none),
              controller')
      | .digest hash =>
        match controller.directory.compareDigest p remotePeerId hash with
        | .inSync => (.ok none,controller)
        | .needFullRecord => (.ok (some ⟨remotePeerId,.need⟩),controller)
      | .need => (.ok (some (controller.fullRecordFor remotePeerId)),controller)
      | _ => (.error .unexpectedPayload,controller)

def linkClosed (remotePeerId : String) : Except PeerGossipErrorV2 Bool × PeerGossipControllerV2 :=
  match validatePeerId remotePeerId with
  | .error e => (.error e,controller)
  | .ok () =>
    (.ok (controller.links.contains remotePeerId),
      { controller with
        links := controller.links.remove remotePeerId
        directory := (controller.directory.removeOrigin remotePeerId).2 })

end PeerGossipControllerV2

inductive GossipCall
  | linkReady (remotePeerId : String) (now : ℕ)
  | setLocalRecord (localRecord : PeerRuntimeRecordV2)
  | pollDigests (now : ℕ)
  | receive (remotePeerId : String) (payload : RelayControlPayloadV2)
  | linkClosed (remotePeerId : String)

def sentOf {ε : Type} : Except ε (Option PeerGossipOutboundV2) → List PeerGossipOutboundV2
  | .ok outbound => outbound.toList
  | .error _ => []

def callGossip (p : Primitives) (controller : PeerGossipControllerV2) :
    GossipCall → PeerGossipControllerV2 × List PeerGossipOutboundV2
  | .linkReady remotePeerId now =>
    ((controller.linkReady remotePeerId now).2,
      sentOf ((controller.linkReady remotePeerId now).1.map some))
  | .setLocalRecord localRecord =>
    ((controller.setLocalRecord localRecord).2,(controller.setLocalRecord localRecord).1)
  | .pollDigests now => ((controller.pollDigests p now).2,(controller.pollDigests p now).1)
  | .receive remotePeerId payload =>
    ((controller.receive p remotePeerId payload).2,sentOf (controller.receive p remotePeerId payload).1)
  | .linkClosed remotePeerId => ((controller.linkClosed remotePeerId).2,[])

theorem validateOrigin_of_validatePeerId {peerId : String} (h : validatePeerId peerId = .ok ()) :
    validateOrigin peerId = .ok () := by
  obtain ⟨hval,-⟩:=ite_error_eq_ok.mp h
  rw [not_or,not_or,not_not] at hval
  obtain ⟨hemp,htrim,-⟩:=hval
  rw [validateOrigin,if_neg]
  rw [htrim]
  simp [hemp]

/-- Links have names that pass the check, and what is known of a Peer came over a
ready link from an encoding. -/
structure PeerGossipControllerV2.Sound (controller : PeerGossipControllerV2) : Prop where
  named : ∀ peerId link, controller.links.get peerId=some link → validatePeerId peerId = .ok ()
  linked : ∀ origin record, controller.directory.records.get origin=some record →
    ∃ link, controller.links.get origin=some link
  valid : ∀ origin record, controller.directory.records.get origin=some record → record.Valid

section Receive
variable {p : Primitives} {controller : PeerGossipControllerV2} {remotePeerId : String}
  {payload : RelayControlPayloadV2}

theorem replaceOrigin_records {directory directory' : PeerGossipDirectoryV2} {origin : String}
    {record : PeerRuntimeRecordV2} (h : directory.replaceOrigin origin record = .ok directory') :
    directory'.records=directory.records.insert origin record := by
  obtain ⟨_,-,h⟩:=bind_eq_ok.mp h
  obtain rfl := Except.ok.inj h
  rfl

theorem get_removeOrigin_records (directory : PeerGossipDirectoryV2) (origin other : String) :
    (directory.removeOrigin origin).2.records.get other =
      if other=origin then none else directory.records.get other := by
  rw [removeOrigin]
  cases hget : directory.records.get origin with
  | none => simp_all
  | some => exact get_remove ..

/-- All that `receive` can do. -/
inductive Received (p : Primitives) (controller : PeerGossipControllerV2) (remotePeerId : String) :
    RelayControlPayloadV2 → Except PeerGossipErrorV2 (Option PeerGossipOutboundV2) ×
      PeerGossipControllerV2 → Prop
  | failed {payload : RelayControlPayloadV2} (e : PeerGossipErrorV2) :
    Received p controller remotePeerId payload (.error e,controller)
  | learned {link : PeerGossipLinkV2} {encoded : Bytes} {record : PeerRuntimeRecordV2}
      {directory : PeerGossipDirectoryV2} (hlink : controller.links.get remotePeerId=some link)
      (hdecode : PeerRuntimeRecordV2.decode encoded = .ok record)
      (hreplace : controller.directory.replaceOrigin remotePeerId record = .ok directory) :
    Received p controller remotePeerId (.runtimeRecord encoded)
      (.ok (if link.reciprocalPending then some (controller.fullRecordFor remotePeerId) else none),
        { controller with
          directory := directory
          links := controller.links.insert remotePeerId { link with reciprocalPending := false } })
  | compared {link : PeerGossipLinkV2} (hash : Vector UInt8 32)
      (hlink : controller.links.get remotePeerId=some link) :
    Received p controller remotePeerId (.digest hash)
      (.ok (if (controller.directory.records.get remotePeerId).map (·.hash p)=some hash then none
        else some ⟨remotePeerId,.need⟩),controller)
  | needed {link : PeerGossipLinkV2} (hlink : controller.links.get remotePeerId=some link) :
    Received p controller remotePeerId .need (.ok (some (controller.fullRecordFor remotePeerId)),controller)

theorem received (p : Primitives) (controller : PeerGossipControllerV2) (remotePeerId : String)
    (payload : RelayControlPayloadV2) :
    Received p controller remotePeerId payload (controller.receive p remotePeerId payload) := by
  rw [PeerGossipControllerV2.receive]
  cases validatePeerId remotePeerId with
  | error e => exact .failed e
  | ok =>
    cases hlink : controller.links.get remotePeerId with
    | none => exact .failed _
    | some =>
      cases payload with
      | openFlow network address | openResponse success error => exact .failed _
      | need => exact .needed hlink
      | digest hash =>
        have hcompare:=Received.compared (p := p) hash hlink
        dsimp only
        rw [compareDigest]
        cases hkn : controller.directory.records.get remotePeerId with
        | none => simpa [hkn] using hcompare
        | some record =>
          by_cases hsync : record.hash p=hash <;> simpa [hkn,hsync] using hcompare
      | runtimeRecord encoded =>
        dsimp only
        cases hdec : PeerRuntimeRecordV2.decode encoded with
        | error => exact .failed _
        | ok record =>
          dsimp only
          cases hreplace : controller.directory.replaceOrigin remotePeerId record with
          | error => exact .failed _
          | ok => exact .learned hlink hdec hreplace

end Receive

namespace PeerGossipControllerV2.Sound
variable {p : Primitives} {controller : PeerGossipControllerV2}

theorem new (localRecord : PeerRuntimeRecordV2) : (PeerGossipControllerV2.new localRecord).Sound where
  named _ _ h := absurd ((Table.get_empty _).symm.trans h) (Option.some_ne_none _).symm
  linked _ _ h := absurd ((Table.get_empty _).symm.trans h) (Option.some_ne_none _).symm
  valid _ _ h := absurd ((Table.get_empty _).symm.trans h) (Option.some_ne_none _).symm

section
variable (h : controller.Sound)
include h

theorem linkReady (remotePeerId : String) (now : ℕ) :
    (controller.linkReady remotePeerId now).2.Sound := by
  rw [PeerGossipControllerV2.linkReady]
  cases hval : validatePeerId remotePeerId with
  | error => exact h
  | ok =>
    refine ⟨?_,?_,h.valid⟩
    · exact forall_insert hval h.named
    intro origin record hrec
    obtain ⟨link,hlink⟩:=h.linked origin record hrec
    rw [get_insert]
    split
    · exact ⟨_,rfl⟩
    · exact ⟨link,hlink⟩

theorem setLocalRecord (localRecord : PeerRuntimeRecordV2) :
    (controller.setLocalRecord localRecord).2.Sound := by
  rw [PeerGossipControllerV2.setLocalRecord]
  split
  · exact h
  · exact ⟨h.named,h.linked,h.valid⟩

theorem pollDigests (now : ℕ) : (controller.pollDigests p now).2.Sound := by
  refine ⟨?_,?_,h.valid⟩
  · intro peerId link hlink
    obtain ⟨link',hlink',-⟩:=map_eq_some_iff.mp ((get_mapValues ..).symm.trans hlink)
    exact h.named peerId link' hlink'
  intro origin record hrec
  obtain ⟨_,hlink⟩:=h.linked origin record hrec
  exact ⟨_,(get_mapValues ..).trans (congrArg _ hlink)⟩

theorem receive (remotePeerId : String) (payload : RelayControlPayloadV2) :
    (controller.receive p remotePeerId payload).2.Sound := by
  have hrecv:=received p controller remotePeerId payload
  generalize controller.receive p remotePeerId payload=result at hrecv ⊢
  cases hrecv with
  | failed e | compared hash hlink | needed hlink => exact h
  | @learned link encoded record directory hlink hdec hreplace =>
    have hrecs:=replaceOrigin_records hreplace
    refine ⟨?_,?_,?_⟩
    · exact forall_insert (h.named _ link hlink) h.named
    · intro origin r hr
      rw [hrecs] at hr
      rw [get_insert]
      split
      · exact ⟨_,rfl⟩
      rename_i hne
      rw [get_insert_ne _ _ hne] at hr
      exact h.linked origin r hr
    · rw [hrecs]
      exact forall_insert (PeerRuntimeRecordV2.valid_of_decode hdec) h.valid

theorem linkClosed (remotePeerId : String) :
    (controller.linkClosed remotePeerId).2.Sound := by
  rw [PeerGossipControllerV2.linkClosed]
  cases validatePeerId remotePeerId with
  | error => exact h
  | ok =>
    have hrecs : ∀ origin record,
        (controller.directory.removeOrigin remotePeerId).2.records.get origin=some record →
          origin≠remotePeerId ∧ controller.directory.records.get origin=some record := by
      intro origin record hrec
      rw [get_removeOrigin_records] at hrec
      split at hrec
      · cases hrec
      · exact ⟨‹_›,hrec⟩
    refine ⟨?_,?_,?_⟩
    · exact fun peerId link hlink => h.named peerId link (get_of_get_remove hlink)
    · intro origin record hrec
      obtain ⟨hne,hold⟩:=hrecs origin record hrec
      obtain ⟨link,hlink⟩:=h.linked origin record hold
      exact ⟨link,by rw [get_remove,if_neg hne,hlink]⟩
    · exact fun origin record hrec => h.valid origin record (hrecs origin record hrec).2

theorem call (call : GossipCall) : (callGossip p controller call).1.Sound := by
  cases call with
  | linkReady remotePeerId now => exact h.linkReady remotePeerId now
  | setLocalRecord localRecord => exact h.setLocalRecord localRecord
  | pollDigests now => exact h.pollDigests (p := p) now
  | receive remotePeerId payload => exact h.receive remotePeerId payload
  | linkClosed remotePeerId => exact h.linkClosed remotePeerId

end

end PeerGossipControllerV2.Sound

def PeerGossipControllerV2.view (controller : PeerGossipControllerV2) (peer : String) :
    Party PeerRuntimeRecordV2 :=
  ⟨controller.localRecord,(controller.links.get peer).map (·.reciprocalPending),
    controller.directory.records.get peer⟩

def toward (peer : String) (outbound : List PeerGossipOutboundV2) : List RelayControlPayloadV2 :=
  (outbound.filter fun message => message.targetPeerId=peer).map (·.payload)

abbrev GossipMessage := Message PeerRuntimeRecordV2 (Vector UInt8 32)

def payloadOf : GossipMessage → RelayControlPayloadV2
  | .full record => .runtimeRecord record.encode
  | .digest hash => .digest hash
  | .need => .need

section View
variable {p : Primitives} {controller : PeerGossipControllerV2} {peer : String}

theorem toward_singleton_self (payload : RelayControlPayloadV2) :
    toward peer [⟨peer,payload⟩]=[payload] := by
  simp [toward]

theorem toward_singleton_ne {remotePeerId : String} (h : remotePeerId≠peer)
    (payload : RelayControlPayloadV2) : toward peer [⟨remotePeerId,payload⟩]=[] := by
  simp [toward,h]

theorem toward_filterMap (controller : PeerGossipControllerV2) (peer : String)
    (f : PeerGossipLinkV2 → Option RelayControlPayloadV2) :
    toward peer (controller.linkEntries.filterMap fun entry =>
        (f entry.2).map fun payload => ⟨entry.1,payload⟩) =
      ((controller.links.get peer).bind f).toList := by
  have hlist : ∀ l : List (String × PeerGossipLinkV2),
      toward peer (l.filterMap fun entry => (f entry.2).map fun payload => ⟨entry.1,payload⟩) =
        (l.filter fun entry => entry.1=peer).filterMap fun entry => f entry.2 := by
    intro l
    induction l with
    | nil => rfl
    | cons entry l ih =>
      rw [toward] at ih ⊢
      cases hf : f entry.2 with
      | none =>
        by_cases hpeer : entry.1=peer <;> simp [hf,hpeer,ih]
      | some =>
        by_cases hpeer : entry.1=peer <;> simp [hf,hpeer,ih]
  rw [hlist,PeerGossipControllerV2.linkEntries,filter_key_of_perm (List.mergeSort_perm _ _)]
  cases hlink : controller.links.get peer with
  | none => rfl
  | some link =>
    cases hf : f link with
    | none | some payload => simp [hf]

/-- What a call of this Peer's own comes to for one remote Peer. -/
inductive Seen (p : Primitives) (peer : String) (a : Party PeerRuntimeRecordV2) :
    GossipCall → Party PeerRuntimeRecordV2 × List GossipMessage → Prop
  | nothing (call : GossipCall) : Seen p peer a call (a,[])
  | ready (now : ℕ) : Seen p peer a (.linkReady peer now) a.ready
  | set (localRecord : PeerRuntimeRecordV2) :
    Seen p peer a (.setLocalRecord localRecord) (a.set localRecord)
  | ask (now : ℕ) : Seen p peer a (.pollDigests now) (a,a.ask (·.hash p))

def GossipCall.Own (peer : String) : GossipCall → Prop
  | .receive remotePeerId _ => remotePeerId ≠ peer
  | .linkClosed remotePeerId => remotePeerId ≠ peer
  | _ => True

theorem view_of_other {controller' : PeerGossipControllerV2}
    (hloc : controller'.localRecord=controller.localRecord)
    (hlks : controller'.links.get peer=controller.links.get peer)
    (hrecs : controller'.directory.records.get peer=controller.directory.records.get peer) :
    controller'.view peer=controller.view peer := by
  rw [PeerGossipControllerV2.view,hloc,hlks,hrecs]
  rfl

theorem linkReady_seen (remotePeerId : String) (now : ℕ) :
    ∃ result, Seen p peer (controller.view peer) (.linkReady remotePeerId now) result ∧
      (callGossip p controller (.linkReady remotePeerId now)).1.view peer=result.1 ∧
      toward peer (callGossip p controller (.linkReady remotePeerId now)).2 =
        result.2.map payloadOf := by
  rw [callGossip,PeerGossipControllerV2.linkReady]
  cases validatePeerId remotePeerId with
  | error => exact ⟨_,.nothing _,rfl,rfl⟩
  | ok =>
    by_cases hpeer : remotePeerId=peer
    · subst hpeer
      refine ⟨_,.ready now,?_,toward_singleton_self _⟩
      rw [PeerGossipControllerV2.view,get_insert_self]
      rfl
    · refine ⟨_,.nothing _,?_,toward_singleton_ne hpeer _⟩
      exact view_of_other rfl (get_insert_ne _ _ (Ne.symm hpeer)) rfl

theorem setLocalRecord_seen (localRecord : PeerRuntimeRecordV2) :
    ∃ result, Seen p peer (controller.view peer) (.setLocalRecord localRecord) result ∧
      (callGossip p controller (.setLocalRecord localRecord)).1.view peer=result.1 ∧
      toward peer (callGossip p controller (.setLocalRecord localRecord)).2 =
        result.2.map payloadOf := by
  rw [callGossip,PeerGossipControllerV2.setLocalRecord]
  split
  · exact ⟨_,.nothing _,rfl,rfl⟩
  refine ⟨_,.set localRecord,rfl,?_⟩
  have hsent:=toward_filterMap controller peer
    fun _ => some (.runtimeRecord localRecord.encode)
  simp only [map_some,List.filterMap_eq_map'] at hsent
  rw [hsent,Party.set,PeerGossipControllerV2.view]
  cases controller.links.get peer with
  | none | some link => rfl

theorem toward_pollDigests (controller : PeerGossipControllerV2) (peer : String) (now : ℕ) :
    toward peer (controller.pollDigests p now).1=((controller.links.get peer).bind fun link =>
        if now<link.nextDigestAt then none
        else some (.digest (controller.localRecord.hash p))).toList := by
  rw [← toward_filterMap,PeerGossipControllerV2.pollDigests]
  congr 1
  dsimp only
  congr 1
  funext entry
  split <;> rfl

theorem pollDigests_seen (now : ℕ) :
    ∃ result, Seen p peer (controller.view peer) (.pollDigests now) result ∧
      (callGossip p controller (.pollDigests now)).1.view peer=result.1 ∧
      toward peer (callGossip p controller (.pollDigests now)).2=result.2.map payloadOf := by
  have hview : (callGossip p controller (.pollDigests now)).1.view peer=controller.view peer := by
    have hlks : ((controller.pollDigests p now).2.links.get peer).map (·.reciprocalPending) =
        (controller.links.get peer).map (·.reciprocalPending) := by
      rw [PeerGossipControllerV2.pollDigests,get_mapValues,map_map]
      cases controller.links.get peer with
      | none => rfl
      | some => grind
    rw [callGossip,PeerGossipControllerV2.view,hlks]
    rfl
  have hsent:=toward_pollDigests (p := p) controller peer now
  cases hlink : controller.links.get peer with
  | none => exact ⟨_,.nothing _,hview,by rw [callGossip,hsent,hlink]; rfl⟩
  | some link =>
    rw [hlink,bind_some] at hsent
    by_cases hdue : now<link.nextDigestAt
    · exact ⟨_,.nothing _,hview,by rw [callGossip,hsent,if_pos hdue]; rfl⟩
    refine ⟨_,.ask now,hview,?_⟩
    rw [callGossip,hsent,if_neg hdue,Party.ask,PeerGossipControllerV2.view,hlink]
    rfl

theorem receive_seen_other (controller : PeerGossipControllerV2) {remotePeerId : String} (hpeer : remotePeerId≠peer)
    (payload : RelayControlPayloadV2) :
    (callGossip p controller (.receive remotePeerId payload)).1.view peer=controller.view peer ∧
      toward peer (callGossip p controller (.receive remotePeerId payload)).2=[] := by
  rw [callGossip]
  have hrecv:=received p controller remotePeerId payload
  generalize controller.receive p remotePeerId payload=result at hrecv ⊢
  cases hrecv with
  | failed => exact ⟨rfl,rfl⟩
  | @learned link encoded record directory hlink hdec hreplace =>
    refine ⟨view_of_other rfl (get_insert_ne _ _ (Ne.symm hpeer)) ?_,?_⟩
    · rw [replaceOrigin_records hreplace,get_insert_ne _ _ (Ne.symm hpeer)]
    split
    · exact toward_singleton_ne hpeer _
    · rfl
  | compared =>
    refine ⟨rfl,?_⟩
    split
    · rfl
    · exact toward_singleton_ne hpeer _
  | needed => exact ⟨rfl,toward_singleton_ne hpeer _⟩

theorem callGossip_seen (controller : PeerGossipControllerV2) {call : GossipCall} (hown : call.Own peer) :
    ∃ result, Seen p peer (controller.view peer) call result ∧
      (callGossip p controller call).1.view peer=result.1 ∧
      toward peer (callGossip p controller call).2=result.2.map payloadOf := by
  cases call with
  | linkReady remotePeerId now => exact linkReady_seen remotePeerId now
  | setLocalRecord localRecord => exact setLocalRecord_seen localRecord
  | pollDigests now => exact pollDigests_seen now
  | receive remotePeerId payload =>
    obtain ⟨hview,hsent⟩:=receive_seen_other (p := p) controller hown payload
    exact ⟨_,.nothing _,hview,hsent⟩
  | linkClosed remotePeerId =>
    have hpeer : peer≠remotePeerId := Ne.symm hown
    refine ⟨_,.nothing _,?_,rfl⟩
    rw [callGossip,PeerGossipControllerV2.linkClosed]
    cases validatePeerId remotePeerId with
    | error => rfl
    | ok =>
      refine view_of_other rfl ?_ ?_
      · rw [get_remove,if_neg hpeer]
      · rw [get_removeOrigin_records,if_neg hpeer]

theorem receive_seen (peer : String) (hsnd : controller.Sound) {message : GossipMessage}
    (hval : ∀ record, message = .full record → record.Valid) :
    (callGossip p controller (.receive peer (payloadOf message))).1.view peer =
        ((controller.view peer).receive (·.hash p) message).1 ∧
      toward peer (callGossip p controller (.receive peer (payloadOf message))).2 =
        ((controller.view peer).receive (·.hash p) message).2.map payloadOf := by
  rw [callGossip,PeerGossipControllerV2.receive,Party.receive,PeerGossipControllerV2.view]
  cases hlink : controller.links.get peer with
  | none =>
    cases validatePeerId peer with
    | error e | ok _ => simp [PeerGossipControllerV2.view,hlink,sentOf,toward]
  | some link =>
    have hname:=hsnd.named peer link hlink
    rw [hname]
    cases message with
    | need => simp [PeerGossipControllerV2.view,hlink,sentOf,toward,payloadOf,
        PeerGossipControllerV2.fullRecordFor]
    | digest hash =>
      simp only [payloadOf,compareDigest]
      cases hkn : controller.directory.records.get peer with
      | none => simp [PeerGossipControllerV2.view,hlink,hkn,sentOf,toward,payloadOf]
      | some record =>
        by_cases hsync : record.hash p=hash
        · simp [PeerGossipControllerV2.view,hlink,hkn,hsync,sentOf,toward]
        · simp [PeerGossipControllerV2.view,hlink,hkn,hsync,sentOf,toward,payloadOf]
    | full record =>
      obtain ⟨directory,hreplace⟩ : ∃ directory,
          controller.directory.replaceOrigin peer record = .ok directory := by
        rw [replaceOrigin,validateOrigin_of_validatePeerId hname]
        exact ⟨_,rfl⟩
      simp only [payloadOf,PeerRuntimeRecordV2.decode_encode (hval record rfl),hreplace,hlink,
        map_some,PeerGossipControllerV2.view,replaceOrigin_records hreplace,
        get_insert_self,true_and]
      cases link.reciprocalPending with
      | true => exact toward_singleton_self _
      | false => rfl

end View

end Lantunnel.Client
