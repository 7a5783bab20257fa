import Hpcore.Msg.Conversion

/-! # The peer wire codec round-trips

For every kind with both an encoder and a decoder in `p2pmsg_conversion`,
a message that `get_peer_message_info` lets through decodes to the value the
encoder was given, on every field the encoder takes from it. The other
fields come from the sender's config and clock (`pubkey`, `contract_id`,
`CURRENT_TIME_CONFIG`, `created_on`) and from the receiver (`root_hash`,
`from_self`, `recv_timestamp`). The peer list loses blank hosts and the
skipped peer; a hpfs request carries the hints of its request kind only. -/

namespace Hpcore.Msg
open Hpcore.Conf

/-! ## Helpers -/

@[simp] theorem flatbufSeqhashToSeqhash_seqhashToFlatbufSeqhash (s : SequenceHash) :
    flatbufSeqhashToSeqhash (seqhashToFlatbufSeqhash s) = s := by
  simp [flatbufSeqhashToSeqhash, seqhashToFlatbufSeqhash]

@[simp] theorem flatbufBytearrayvectorToStringlist_stringlistToFlatbufBytearrayvector
    (s : Finset Bytes) :
    flatbufBytearrayvectorToStringlist (stringlistToFlatbufBytearrayvector s) = s :=
  listToSet_setToList s

theorem foldl_emplace_of_nodup (map acc : List (Bytes × List SubmittedUserInput))
    (h : (acc.map Prod.fst ++ map.map Prod.fst).Nodup) :
    (userInputMapToFlatbufUserInputGroup map).foldl (fun m g => emplace m g.pubkey
      (g.messages.map fun u => ⟨u.inputContainer, u.sig, u.protocol⟩)) acc = acc ++ map := by
  induction map generalizing acc with
  | nil => simp [userInputMapToFlatbufUserInputGroup]
  | cons e map ih =>
    obtain ⟨k, v⟩ := e
    have hk : k ∉ acc.map Prod.fst := fun hm => (List.nodup_append.mp h).2.2 hm (by simp)
    have hany : (acc.any fun x => decide (x.1 = k)) = false :=
      List.any_eq_false.mpr fun x hx he => hk (by
        rw [← of_decide_eq_true he]; exact List.mem_map_of_mem Prod.fst hx)
    have he : emplace acc k v = acc ++ [(k, v)] := by simp [emplace, hany]
    simp only [userInputMapToFlatbufUserInputGroup, List.map_cons, List.foldl_cons,
      Function.comp_def, List.map_map] at ih ⊢
    rw [show (List.map (fun m : SubmittedUserInput => (⟨m.inputContainer, m.sig, m.protocol⟩ :
        SubmittedUserInput)) v) = v from by simp, he, ih]
    · simp
    · simpa [List.append_assoc] using h

theorem flatbufUserInputGroupToUserInputMap_roundTrip (nup : NonunlProposal) :
    flatbufUserInputGroupToUserInputMap (userInputMapToFlatbufUserInputGroup nup.userInputs) =
      nup.userInputs := by
  simpa using foldl_emplace_of_nodup nup.userInputs [] (by simpa using nup.keys_nodup)

@[simp] theorem createNonunlProposalFromMsg_roundTrip (nup : NonunlProposal) :
    createNonunlProposalFromMsg ⟨some (userInputMapToFlatbufUserInputGroup nup.userInputs)⟩ =
      nup := by
  obtain ⟨m, hm⟩ := nup
  simp only [createNonunlProposalFromMsg, NonunlProposal.mk.injEq]
  exact flatbufUserInputGroupToUserInputMap_roundTrip ⟨m, hm⟩

@[simp] theorem flatbufHpfsfshashentries_roundTrip (es : List HpfsFsHashEntry) :
    flatbufHpfsfshashentriesToHpfsfshashentries [] (hpfsfshashentryToFlatbufHpfsfshashentry es) =
      es := by
  unfold flatbufHpfsfshashentriesToHpfsfshashentries hpfsfshashentryToFlatbufHpfsfshashentry
  rw [List.nil_append, List.map_map]
  exact List.map_id'' (fun e => by simp) es

theorem bytesToHashes_flatMap (hs : List H32) :
    bytesToHashes hs.length (hs.flatMap H32.bytes) = hs := by
  induction hs with
  | nil => rfl
  | cons h hs ih =>
    have h32 : h.bytes.length = 32 := h.length_eq
    simp only [List.length_cons, List.flatMap_cons, bytesToHashes]
    rw [List.take_append_of_le_length (by omega), List.take_of_length_le (by omega),
      List.drop_append_of_le_length (by omega), List.drop_of_length_le (by omega)]
    simp [ih]

/-- The first `k` blocks of a buffer of at least `32 * k` bytes are its first
`32 * k` bytes. -/
theorem bytesToHashes_flatMap_take : ∀ (k : Nat) (b : Bytes), 32 * k ≤ b.length →
    (bytesToHashes k b).flatMap H32.bytes = b.take (32 * k)
  | 0, _, _ => rfl
  | k + 1, b, h => by
    have ih := bytesToHashes_flatMap_take k (b.drop 32) (by rw [List.length_drop]; omega)
    have hb : (H32.ofBytes (b.take 32)).bytes = b.take 32 := by
      simp only [H32.ofBytes]
      rw [List.take_append_of_le_length (by rw [List.length_take]; omega), List.take_take, Nat.min_self]
    rw [bytesToHashes, List.flatMap_cons, hb, ih, show 32 * (k + 1) = 32 + 32 * k by omega, List.take_add]

@[simp] theorem length_flatMap_bytes (hs : List H32) : (hs.flatMap H32.bytes).length = 32 * hs.length := by
  induction hs with
  | nil => rfl
  | cons h hs ih => simp only [List.flatMap_cons, List.length_append, ih, h.length_eq,
      List.length_cons]; omega

/-- The peers a peer list response keeps. -/
def listedPeer (skippingIpPort : Option PeerIpPort) (peer : PeerPropertiesValue) : Bool :=
  !peer.ipPort.hostAddress.isEmpty && (skippingIpPort.isNone || skippingIpPort != some peer.ipPort)

theorem peerList_roundTrip (peers : List PeerPropertiesValue) (skippingIpPort : Option PeerIpPort) :
    flatbufPeerPropertieslistToPeerPropertiesvector
      (peerPropertiesvectorToFlatbufPeerPropertieslist peers skippingIpPort) =
      peers.filter (listedPeer skippingIpPort) := by
  rw [flatbufPeerPropertieslistToPeerPropertiesvector, peerPropertiesvectorToFlatbufPeerPropertieslist,
    List.map_filterMap, ← List.filterMap_eq_filter]
  congr 1
  funext peer
  by_cases hb : peer.ipPort.hostAddress.isEmpty <;> by_cases hs : skippingIpPort = some peer.ipPort <;>
    simp [hb, hs, listedPeer, Option.guard]

/-- The hints of `hr` that its request kind carries. -/
def carriedHints (hr : HpfsRequest) : HpfsRequest :=
  { hr with
    fsEntryHints := if !hr.isFile then hr.fsEntryHints else []
    fileHashmapHints := if hr.isFile ∧ hr.blockId = -1 then hr.fileHashmapHints else [] }

theorem hpfsRequest_roundTrip (now : Nat) (hr : HpfsRequest) :
    ((createMsgFromHpfsRequest now hr).content.asHpfsRequestMsg.map createHpfsRequestFromMsg) =
      some (carriedHints hr) := by
  unfold createMsgFromHpfsRequest carriedHints
  by_cases hf : hr.isFile <;> by_cases hb : hr.blockId = -1 <;>
    simp [-List.length_flatMap, hf, hb, createHpfsRequestMsg, createP2pMsg,
      P2PMsgContent.asHpfsRequestMsg, createHpfsRequestFromMsg, bytesToHashes_flatMap]

/-- The hash map blocks of a decoded request are the bytes of its copy that
fall inside the resized vector. -/
theorem createHpfsRequestFromMsg_fileHashmapHints {r : HpfsRequestMsg} {hashMap : Bytes}
    (h : r.hint = .hpfsFileHashMapHint hashMap) :
    (createHpfsRequestFromMsg r).fileHashmapHints.flatMap H32.bytes =
      (copyFileHashmapHint hashMap).written.take (copyFileHashmapHint hashMap).capacity := by
  simp only [createHpfsRequestFromMsg, h, copyFileHashmapHint]
  rw [bytesToHashes_flatMap_take _ _ (by omega), Nat.mul_comm]

/-- The hint `create_msg_from_hpfs_request` puts on a request decoded from a
file hash map hint. -/
theorem reencoded_hashmap_hint (now : Nat) {r : HpfsRequestMsg} {hashMap : Bytes}
    (h : r.hint = .hpfsFileHashMapHint hashMap) :
    (createMsgFromHpfsRequest now (createHpfsRequestFromMsg r)).content.asHpfsRequestMsg.map (·.hint) =
      some (if !r.isFile then .hpfsFsEntryHint []
        else if r.blockId = -1 then .hpfsFileHashMapHint (hashMap.take (hashMap.length / 32 * 32))
        else .none) := by
  have hb := createHpfsRequestFromMsg_fileHashmapHints h
  simp only [createHpfsRequestFromMsg, h, copyFileHashmapHint] at hb ⊢
  by_cases hf : r.isFile <;> by_cases hbl : r.blockId = -1 <;>
    simp [hf, hbl, hb, createMsgFromHpfsRequest, createHpfsRequestMsg, createP2pMsg,
      P2PMsgContent.asHpfsRequestMsg, hpfsfshashentryToFlatbufHpfsfshashentry]

/-- **A file hash map hint is copied past its vector.** For every buffer that
passes `verify_peer_message` and holds an `HpfsRequestMsg` with a file hash
map hint of `n` bytes, `create_hpfs_request_from_msg` writes `n` bytes into a
vector of `32 * (n / 32)` bytes: the copy stays inside it exactly when
`32 ∣ n`, and re-encoding the decoded request gives the hint back exactly for
a file hash map request (`is_file`, `block_id == -1`) with `32 ∣ n`. A peer
can send any `n`: the buffer the builder finishes for a hint of 33 bytes
passes the verifier, one byte is written past the vector, and the hint
re-encodes to 32 bytes. -/
theorem hashmap_hint_copied_out_of_bounds {β : Type} (fb : Flatbuffers β) (now : Nat) :
    (∀ message r hashMap, verifyPeerMessage fb message = true →
      (fb.getP2PMsg message).content = .hpfsRequestMsg r → r.hint = .hpfsFileHashMapHint hashMap →
      ((copyFileHashmapHint hashMap).written.length ≤ (copyFileHashmapHint hashMap).capacity ↔
          32 ∣ hashMap.length) ∧
      ((createMsgFromHpfsRequest now (createHpfsRequestFromMsg r)).content.asHpfsRequestMsg.map (·.hint) =
          some (.hpfsFileHashMapHint hashMap) ↔
        r.isFile = true ∧ r.blockId = -1 ∧ 32 ∣ hashMap.length)) ∧
    ∃ message r, verifyPeerMessage fb message = true ∧ (fb.getP2PMsg message).content = .hpfsRequestMsg r ∧
      r.isFile = true ∧ r.blockId = -1 ∧ r.hint = .hpfsFileHashMapHint (List.replicate 33 0) ∧
      (copyFileHashmapHint (List.replicate 33 0)).written.length =
        (copyFileHashmapHint (List.replicate 33 0)).capacity + 1 ∧
      (createMsgFromHpfsRequest now (createHpfsRequestFromMsg r)).content.asHpfsRequestMsg.map (·.hint) =
        some (.hpfsFileHashMapHint (List.replicate 32 0)) := by
  refine ⟨fun message r hashMap _ _ h => ⟨by simp only [copyFileHashmapHint]; omega, ?_⟩, ?_⟩
  · rw [reencoded_hashmap_hint now h]
    have htake : hashMap.take (hashMap.length / 32 * 32) = hashMap ↔ 32 ∣ hashMap.length := by
      rw [List.take_eq_self_iff]; omega
    by_cases hf : r.isFile <;> by_cases hbl : r.blockId = -1 <;> simp [hf, hbl, htake]
  · let r : HpfsRequestMsg := ⟨0, "", true, -1, [], .hpfsFileHashMapHint (List.replicate 33 0)⟩
    refine ⟨fb.finish ⟨0, .hpfsRequestMsg r⟩, r, fb.verify_finish _, by rw [fb.getP2PMsg_finish], rfl, rfl,
      rfl, rfl, ?_⟩
    rw [reencoded_hashmap_hint now rfl]
    decide

/-! ## Receiving -/

/-- **The peer wire codec round-trips.** `cfgS` and `nowS` are the sender's
config and clock, `cfgR` and `nowR` the receiver's; whatever
`get_peer_message_info` lets through decodes to the encoded value. -/
theorem peer_wire_codec_round_trip (prim : Primitives) (cfgS cfgR : HpConfig)
    (nowS nowR size : Nat) (session : Option PeerSession) :
    let rx := fun e : P2PMsg => getPeerMessageInfo cfgR nowR ⟨e, size⟩ session
    (∀ (p : Proposal) (hash : H32), ∀ m ∈ (rx (createMsgFromProposal prim cfgS nowS p)).p2pMsg,
      m.content.asProposalMsg.map (fun pm => createProposalFromMsg cfgR nowR
          (rx (createMsgFromProposal prim cfgS nowS p)) pm hash) =
        some { p with
          pubkey := cfgS.node.publicKey
          rootHash := hash
          fromSelf := cfgS.node.publicKey == cfgR.node.publicKey
          sentTimestamp := nowS
          recvTimestamp := nowR }) ∧
    (∀ data lclId, ∀ m ∈ (rx (createMsgFromNplOutput prim cfgS nowS data lclId)).p2pMsg,
      m.content.asNplMsg.map createNplFromMsg = some ⟨cfgS.node.publicKey, lclId, data⟩) ∧
    (∀ nup, ∀ m ∈ (rx (createMsgFromNonunlProposal nowS nup)).p2pMsg,
      m.content.asNonUnlProposalMsg.map createNonunlProposalFromMsg = some nup) ∧
    (∀ currentTimeConfig challenge,
      ∀ m ∈ (rx (createMsgFromPeerChallenge cfgS currentTimeConfig nowS challenge)).p2pMsg,
      m.content.asPeerChallengeMsg.map createPeerChallengeFromMsg =
        some ⟨cfgS.contract.id, currentTimeConfig, cfgS.node.history == .full, challenge⟩) ∧
    (∀ challenge, ∀ m ∈ (rx (createPeerChallengeResponseFromChallenge prim cfgS nowS challenge)).p2pMsg,
      m.content.asPeerChallengeResponseMsg.map createPeerChallengeResponseFromMsg =
        some ⟨challenge, prim.sign challenge cfgS.node.privateKey, cfgS.node.publicKey⟩) ∧
    (∀ peers skippingIpPort,
      ∀ m ∈ (rx (createMsgFromPeerListResponse nowS peers skippingIpPort)).p2pMsg,
      m.content.asPeerListResponseMsg.map createPeerListResponseFromMsg =
        some (peers.filter (listedPeer skippingIpPort))) ∧
    (∀ availableCapacity timestamp,
      ∀ m ∈ (rx (createMsgFromAvailableCapacityAnnouncement nowS availableCapacity timestamp)).p2pMsg,
      m.content.asPeerCapacityAnnouncementMsg.map createPeerCapacityAnnouncementFromMsg =
        some ⟨availableCapacity, timestamp⟩) ∧
    (∀ need, ∀ m ∈ (rx (createMsgFromPeerRequirementAnnouncement nowS need)).p2pMsg,
      m.content.asPeerRequirementAnnouncementMsg.map createPeerRequirementAnnouncementFromMsg =
        some need) ∧
    (∀ hr, ∀ m ∈ (rx (createMsgFromHpfsRequest nowS hr)).p2pMsg,
      m.content.asHpfsRequestMsg.map createHpfsRequestFromMsg = some (carriedHints hr)) ∧
    (∀ r, ∀ m ∈ (rx (createMsgFromHpfsLogRequest nowS r)).p2pMsg,
      m.content.asHpfsLogRequest.map createHpfsLogRequestFromMsg = some r) ∧
    (∀ r, ∀ m ∈ (rx (createMsgFromHpfsLogResponse nowS r)).p2pMsg,
      m.content.asHpfsLogResponse.map createHpfsLogResponseFromMsg = some r) ∧
    (∀ reason, ∀ m ∈ (rx (createSuppressMsg cfgS nowS reason)).p2pMsg,
      m.content.asSuppressMsg.map createSuppressFromMsg = some ⟨cfgS.node.publicKey, reason⟩) := by
  intro rx
  refine ⟨?_, ?_, ?_, ?_, ?_, ?_, ?_, ?_, ?_, ?_, ?_, ?_⟩ <;> intros <;> rename_i hm <;>
    obtain ⟨rfl, he⟩ := getPeerMessageInfo_eq hm <;> simp only [rx, he]
  all_goals simp [hpfsRequest_roundTrip, createP2pMsg, createMsgFromProposal, createProposalFromMsg,
    createMsgFromNplOutput, createNplFromMsg, createMsgFromNonunlProposal, createMsgFromPeerChallenge,
    createPeerChallengeFromMsg, createPeerChallengeResponseFromChallenge,
    createPeerChallengeResponseFromMsg, createMsgFromPeerListResponse, createPeerListResponseFromMsg,
    peerList_roundTrip, createMsgFromAvailableCapacityAnnouncement,
    createPeerCapacityAnnouncementFromMsg, createMsgFromPeerRequirementAnnouncement,
    createPeerRequirementAnnouncementFromMsg, createMsgFromHpfsLogRequest, createHpfsLogRequestFromMsg,
    createMsgFromHpfsLogResponse, createHpfsLogResponseFromMsg, createSuppressMsg, createSuppressFromMsg,
    P2PMsgContent.asProposalMsg, P2PMsgContent.asNplMsg, P2PMsgContent.asNonUnlProposalMsg,
    P2PMsgContent.asPeerChallengeMsg, P2PMsgContent.asPeerChallengeResponseMsg,
    P2PMsgContent.asPeerListResponseMsg, P2PMsgContent.asPeerCapacityAnnouncementMsg,
    P2PMsgContent.asPeerRequirementAnnouncementMsg, P2PMsgContent.asHpfsLogRequest,
    P2PMsgContent.asHpfsLogResponse, P2PMsgContent.asSuppressMsg]

/-- **A proposal re-encodes to the same message.** Decoding the table
`create_msg_from_proposal` built and encoding the decoded proposal again, with
the same config and clock, gives the same message, signature included. -/
theorem proposal_reencode_identical (prim : Primitives) (cfg cfgR : HpConfig) (now nowR : Nat)
    (mi : PeerMessageInfo) (hash : H32) (p : Proposal) :
    ∀ m ∈ (createMsgFromProposal prim cfg now p).content.asProposalMsg,
      createMsgFromProposal prim cfg now (createProposalFromMsg cfgR nowR mi m hash) =
        createMsgFromProposal prim cfg now p := by
  intro m hm
  simp only [createMsgFromProposal, createP2pMsg, P2PMsgContent.asProposalMsg, Option.mem_def,
    Option.some.injEq] at hm
  subst hm
  simp [createMsgFromProposal, createP2pMsg, createProposalFromMsg, generateProposalSignature,
    proposalHashItems]

/-- The re-encoding of an all-zero proposal, with signatures that are the
signed bytes. -/
theorem zero_proposal_reencodes :
    let prim : Primitives := ⟨fun m _ => m, fun _ _ _ => true, fun _ => H32.empty⟩
    let p : Proposal := ⟨[], H32.empty, false, 0, 0, 0, 0, H32.empty, H32.empty, 0, H32.empty,
      H32.empty, ⟨0, H32.empty⟩, ⟨0, H32.empty⟩, ∅, ∅, [], []⟩
    createMsgFromProposal prim default 0 (createProposalFromMsg default 0 ⟨none, 0⟩
        ((createMsgFromProposal prim default 0 p).content.asProposalMsg.get rfl) H32.empty) =
      createMsgFromProposal prim default 0 p :=
  proposal_reencode_identical _ _ _ _ _ _ _ _ _ (Option.get_mem _)

end Hpcore.Msg
