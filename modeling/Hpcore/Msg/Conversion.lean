import Hpcore.Msg.Wire

/-! # `p2pmsg_conversion`: encoders, decoders and message trust

Each `create_*_from_msg` decoder and each `create_msg_from_*` encoder, the
proposal and NPL hashing and signing, and the admission checks
`get_peer_message_info`, `verify_proposal_msg_trust` and
`verify_npl_msg_trust`. The global `conf::cfg` is passed as `cfg`, the UNL of
`unl::exists` as `unl`, and the clock (`util::get_epoch_milliseconds`) as
`now`. -/

namespace Hpcore.Msg
open Hpcore.Conf

/-- `MAX_SIZE_FOR_TIME_CHECK`: 1 MB. -/
def maxSizeForTimeCheck : Nat := 1 * 1024 * 1024

/-- `verify_peer_message`: the flatbuffers verifier on the received bytes. -/
def verifyPeerMessage {β : Type} (fb : Flatbuffers β) (message : β) : Bool :=
  fb.verifyP2PMsgBuffer message

/-- `p2p::peer_comm_session`, as far as the time check reads it. -/
structure PeerSession where
  challengeVerified : Bool
  deriving DecidableEq

/-- `p2p::peer_message_info`; a dropped message has no root table (`NULL`). -/
structure PeerMessageInfo where
  p2pMsg : Option P2PMsg
  originatedOn : Nat
  deriving DecidableEq

/-- `get_peer_message_info`: messages of at most 1 MB from a challenge-verified
session are dropped when created before `now - roundtime * 3`, computed in
`uint32_t` and `uint64_t`. -/
def getPeerMessageInfo (cfg : HpConfig) (now : Nat) (buf : Buffer)
    (session : Option PeerSession) : PeerMessageInfo :=
  if (session.map PeerSession.challengeVerified).getD false = true ∧
      buf.size ≤ maxSizeForTimeCheck ∧
      buf.msg.createdOn < sub64 now (u32 (cfg.contract.consensus.roundtime * 3)) then
    ⟨none, 0⟩
  else ⟨some buf.msg, buf.msg.createdOn⟩

/-- What `get_peer_message_info` lets through is the buffer's own message. -/
theorem getPeerMessageInfo_eq {cfg : HpConfig} {now : Nat} {buf : Buffer}
    {session : Option PeerSession} {m : P2PMsg}
    (h : m ∈ (getPeerMessageInfo cfg now buf session).p2pMsg) :
    m = buf.msg ∧ getPeerMessageInfo cfg now buf session = ⟨some buf.msg, buf.msg.createdOn⟩ := by
  unfold getPeerMessageInfo at h ⊢
  split at h
  · cases h
  · rename_i hc
    exact ⟨(Option.some.inj h).symm, by rw [if_neg hc]⟩

/-! ## Flatbuf to std -/

def flatbufSeqhashToSeqhash (f : FbSequenceHash) : SequenceHash := ⟨f.seqNo, H32.ofBytes f.hash⟩

def flatbufBytearrayvectorToStringlist (v : List Bytes) : Finset Bytes := listToSet v

/-- `std::unordered_map::emplace`: no effect when the key is present. -/
def emplace {β : Type} (m : List (Bytes × β)) (k : Bytes) (v : β) : List (Bytes × β) :=
  if m.any (·.1 = k) then m else m ++ [(k, v)]

theorem emplace_nodup {β : Type} {m : List (Bytes × β)} (h : (m.map Prod.fst).Nodup) (k : Bytes)
    (v : β) : ((emplace m k v).map Prod.fst).Nodup := by
  unfold emplace
  split
  · exact h
  · rename_i hk
    simp only [List.map_append, List.map_cons, List.map_nil]
    refine List.Nodup.append h (List.nodup_singleton k) (List.disjoint_singleton.mpr ?_)
    simpa using hk

def flatbufUserInputGroupToUserInputMap (groups : List UserInputGroup) :
    List (Bytes × List SubmittedUserInput) :=
  groups.foldl (fun m g => emplace m g.pubkey
    (g.messages.map fun u => ⟨u.inputContainer, u.sig, u.protocol⟩)) []

theorem flatbufUserInputGroupToUserInputMap_nodup (groups : List UserInputGroup) :
    ((flatbufUserInputGroupToUserInputMap groups).map Prod.fst).Nodup := by
  suffices ∀ (m : List (Bytes × List SubmittedUserInput)), (m.map Prod.fst).Nodup →
      ((groups.foldl (fun m g => emplace m g.pubkey
        (g.messages.map fun u => ⟨u.inputContainer, u.sig, u.protocol⟩)) m).map Prod.fst).Nodup from
    this [] List.nodup_nil
  induction groups with
  | nil => exact fun m h => h
  | cons g gs ih => exact fun m h => ih _ (emplace_nodup h _ _)

def flatbufHpfsfshashentriesToHpfsfshashentries (fsEntries : List HpfsFsHashEntry)
    (fhashes : List HpfsFSHashEntry) : List HpfsFsHashEntry :=
  fsEntries ++ fhashes.map fun f => ⟨f.name, f.isFile, H32.ofBytes f.hash, f.responseType⟩

def flatbufPeerPropertieslistToPeerPropertiesvector (peers : List PeerProperties) :
    List PeerPropertiesValue :=
  peers.map fun p => ⟨⟨p.hostAddress, p.port⟩, p.timestamp, p.availableCapacity⟩

def createPeerChallengeFromMsg (msg : PeerChallengeMsg) : PeerChallenge :=
  ⟨msg.contractId, msg.timeConfig, msg.isFullHistory, msg.challenge⟩

def createPeerChallengeResponseFromMsg (msg : PeerChallengeResponseMsg) : PeerChallengeResponse :=
  ⟨msg.challenge, msg.sig, msg.pubkey⟩

/-- `create_proposal_from_msg`: `hash` is the one `verify_proposal_msg_trust`
returned, `now` the receive time. -/
def createProposalFromMsg (cfg : HpConfig) (now : Nat) (mi : PeerMessageInfo) (msg : ProposalMsg)
    (hash : H32) : Proposal where
  pubkey := msg.pubkey
  rootHash := hash
  fromSelf := msg.pubkey == cfg.node.publicKey
  sentTimestamp := mi.originatedOn
  recvTimestamp := now
  time := msg.time
  timeConfig := msg.timeConfig
  nodeNonce := H32.ofBytes msg.nodeNonce
  groupNonce := H32.ofBytes msg.groupNonce
  stage := msg.stage
  stateHash := H32.ofBytes msg.stateHash
  patchHash := H32.ofBytes msg.patchHash
  lastPrimaryShardId := flatbufSeqhashToSeqhash msg.lastPrimaryShardId
  lastRawShardId := flatbufSeqhashToSeqhash msg.lastRawShardId
  users := (msg.users.map flatbufBytearrayvectorToStringlist).getD ∅
  inputOrderedHashes := (msg.inputHashes.map flatbufBytearrayvectorToStringlist).getD ∅
  outputHash := msg.outputHash.getD []
  outputSig := msg.outputSig.getD []

def createNplFromMsg (msg : NplMsg) : NplMessage :=
  ⟨msg.pubkey, flatbufSeqhashToSeqhash msg.lclId, msg.data⟩

def createNonunlProposalFromMsg (msg : NonUnlProposalMsg) : NonunlProposal :=
  match msg.userInputs with
  | some groups => ⟨flatbufUserInputGroupToUserInputMap groups,
      flatbufUserInputGroupToUserInputMap_nodup groups⟩
  | none => ⟨[], List.nodup_nil⟩

def createPeerListResponseFromMsg (peerList : List PeerProperties) : List PeerPropertiesValue :=
  flatbufPeerPropertieslistToPeerPropertiesvector peerList

def createPeerCapacityAnnouncementFromMsg (msg : PeerCapacityAnnouncementMsg) :
    PeerCapacityAnnouncement :=
  ⟨msg.availableCapacity, msg.timestamp⟩

def createPeerRequirementAnnouncementFromMsg (needConsensusMsgForwarding : Bool) : Bool :=
  needConsensusMsgForwarding

/-- The copy `create_hpfs_request_from_msg` makes of a file hash map hint:
`resize(size / sizeof(util::h32))` leaves `file_hashmap_hints` room for
`capacity` bytes, then `memcpy` writes all `size` bytes of the hint from its
start. -/
structure HashmapCopy where
  capacity : Nat
  written : Bytes

def copyFileHashmapHint (hashMap : Bytes) : HashmapCopy := ⟨hashMap.length / 32 * 32, hashMap⟩

/-- `create_hpfs_request_from_msg`. The hash map hint is resized to
`size / sizeof(h32)` blocks before the `memcpy` of `size` bytes; the blocks
below are what the resized vector holds, the bytes of `copyFileHashmapHint`
that fall inside it. -/
def createHpfsRequestFromMsg (msg : HpfsRequestMsg) : HpfsRequest :=
  let hr : HpfsRequest := ⟨msg.mountId, msg.blockId, msg.isFile, msg.parentPath,
    H32.ofBytes msg.expectedHash, [], []⟩
  match msg.hint with
  | .hpfsFsEntryHint entries =>
    { hr with fsEntryHints := flatbufHpfsfshashentriesToHpfsfshashentries hr.fsEntryHints entries }
  | .hpfsFileHashMapHint hashMap =>
    { hr with fileHashmapHints := bytesToHashes (hashMap.length / 32) hashMap }
  | .none => hr

def createHpfsLogRequestFromMsg (msg : HpfsLogRequestMsg) : HpfsLogRequest :=
  ⟨msg.targetSeqNo, flatbufSeqhashToSeqhash msg.minRecordId⟩

def createHpfsLogResponseFromMsg (msg : HpfsLogResponseMsg) : HpfsLogResponse :=
  ⟨flatbufSeqhashToSeqhash msg.minRecordId, msg.logRecordBytes⟩

def createSuppressFromMsg (msg : SuppressMsg) : SuppressMessage := ⟨msg.pubkey, msg.reason⟩

/-! ## Hashing, signing and trust -/

/-- The values `hash_proposal_msg` adds to its hasher, in order. -/
def proposalMsgHashItems (msg : ProposalMsg) : List HashItem :=
  [.num msg.stage, .num msg.time, .num msg.timeConfig, .bytes (some msg.groupNonce),
    .byteList msg.users, .byteList msg.inputHashes, .bytes msg.outputHash, .bytes msg.outputSig,
    .bytes (some msg.stateHash), .bytes (some msg.patchHash),
    .seqHash (some (msg.lastPrimaryShardId.seqNo, msg.lastPrimaryShardId.hash)),
    .seqHash (some (msg.lastRawShardId.seqNo, msg.lastRawShardId.hash))]

/-- The values `generate_proposal_signature` adds to its hasher, in order. -/
def proposalHashItems (p : Proposal) : List HashItem :=
  [.num p.stage, .num p.time, .num p.timeConfig, .bytes (some p.groupNonce.bytes),
    .byteList (some (setToList p.users)), .byteList (some (setToList p.inputOrderedHashes)),
    .bytes (some p.outputHash), .bytes (some p.outputSig),
    .bytes (some p.stateHash.bytes), .bytes (some p.patchHash.bytes),
    .seqHash (some (p.lastPrimaryShardId.seqNo, p.lastPrimaryShardId.hash.bytes)),
    .seqHash (some (p.lastRawShardId.seqNo, p.lastRawShardId.hash.bytes))]

def hashProposalMsg (prim : Primitives) (msg : ProposalMsg) : H32 :=
  prim.digest (proposalMsgHashItems msg)

def generateProposalSignature (prim : Primitives) (cfg : HpConfig) (p : Proposal) : Bytes :=
  prim.sign (prim.digest (proposalHashItems p)).bytes cfg.node.privateKey

def nplHashItems (data : Bytes) (lclId : SequenceHash) : List HashItem :=
  [.bytes (some data), .seqHash (some (lclId.seqNo, lclId.hash.bytes))]

def generateNplSignature (prim : Primitives) (cfg : HpConfig) (data : Bytes)
    (lclId : SequenceHash) : Bytes :=
  prim.sign (prim.digest (nplHashItems data lclId)).bytes cfg.node.privateKey

/-- `verify_proposal_msg_trust`: the proposal hash when the pubkey is in the
UNL and the signature verifies over it, else `h32_empty`. -/
def verifyProposalMsgTrust (prim : Primitives) (unl : Finset Bytes) (msg : ProposalMsg) : H32 :=
  if msg.pubkey ∉ unl then H32.empty
  else
    let hash := hashProposalMsg prim msg
    if prim.verify hash.bytes msg.sig msg.pubkey then hash else H32.empty

/-- The values `verify_npl_msg_trust` adds to its hasher, in order. -/
def nplMsgHashItems (msg : NplMsg) : List HashItem :=
  [.bytes (some msg.data), .seqHash (some (msg.lclId.seqNo, msg.lclId.hash))]

def verifyNplMsgTrust (prim : Primitives) (unl : Finset Bytes) (msg : NplMsg) : Bool :=
  if msg.pubkey ∉ unl then false
  else prim.verify (prim.digest (nplMsgHashItems msg)).bytes msg.sig msg.pubkey

/-! ## Std to flatbuf -/

/-- `create_p2p_msg`: the content stamped with the creation time. -/
def createP2pMsg (now : Nat) (content : P2PMsgContent) : P2PMsg := ⟨now, content⟩

def seqhashToFlatbufSeqhash (s : SequenceHash) : FbSequenceHash := ⟨s.seqNo, s.hash.bytes⟩

def stringlistToFlatbufBytearrayvector (s : Finset Bytes) : List Bytes := setToList s

def userInputMapToFlatbufUserInputGroup (map : List (Bytes × List SubmittedUserInput)) :
    List UserInputGroup :=
  map.map fun (pubkey, msglist) =>
    ⟨pubkey, msglist.map fun m => ⟨m.inputContainer, m.sig, m.protocol⟩⟩

def hpfsfshashentryToFlatbufHpfsfshashentry (fsEntries : List HpfsFsHashEntry) :
    List HpfsFSHashEntry :=
  fsEntries.map fun e => ⟨e.name, e.isFile, e.hash.bytes, e.responseType⟩

/-- Peers with a blank host address and the skipped peer are left out. -/
def peerPropertiesvectorToFlatbufPeerPropertieslist (peers : List PeerPropertiesValue)
    (skippingIpPort : Option PeerIpPort) : List PeerProperties :=
  peers.filterMap fun peer =>
    if peer.ipPort.hostAddress.isEmpty then none
    else if skippingIpPort.isNone ∨ skippingIpPort ≠ some peer.ipPort then
      some ⟨peer.ipPort.hostAddress, peer.ipPort.port, peer.availableCapacity, peer.timestamp⟩
    else none

/-- `create_msg_from_peer_challenge`: `challenge` holds the
`PEERCHALLENGE_LEN` random bytes drawn into the out-parameter;
`currentTimeConfig` is `CURRENT_TIME_CONFIG`. -/
def createMsgFromPeerChallenge (cfg : HpConfig) (currentTimeConfig now : Nat) (challenge : Bytes) :
    P2PMsg :=
  createP2pMsg now (.peerChallengeMsg
    ⟨cfg.contract.id, currentTimeConfig, cfg.node.history == .full, challenge⟩)

def createPeerChallengeResponseFromChallenge (prim : Primitives) (cfg : HpConfig) (now : Nat)
    (challenge : Bytes) : P2PMsg :=
  createP2pMsg now (.peerChallengeResponseMsg
    ⟨challenge, prim.sign challenge cfg.node.privateKey, cfg.node.publicKey⟩)

def createMsgFromNonunlProposal (now : Nat) (nup : NonunlProposal) : P2PMsg :=
  createP2pMsg now (.nonUnlProposalMsg ⟨some (userInputMapToFlatbufUserInputGroup nup.userInputs)⟩)

def createMsgFromProposal (prim : Primitives) (cfg : HpConfig) (now : Nat) (p : Proposal) :
    P2PMsg :=
  createP2pMsg now (.proposalMsg
    { pubkey := cfg.node.publicKey
      sig := generateProposalSignature prim cfg p
      stage := p.stage
      time := p.time
      timeConfig := p.timeConfig
      nodeNonce := p.nodeNonce.bytes
      groupNonce := p.groupNonce.bytes
      users := some (stringlistToFlatbufBytearrayvector p.users)
      inputHashes := some (stringlistToFlatbufBytearrayvector p.inputOrderedHashes)
      outputHash := some p.outputHash
      outputSig := some p.outputSig
      stateHash := p.stateHash.bytes
      patchHash := p.patchHash.bytes
      lastPrimaryShardId := seqhashToFlatbufSeqhash p.lastPrimaryShardId
      lastRawShardId := seqhashToFlatbufSeqhash p.lastRawShardId })

def createMsgFromNplOutput (prim : Primitives) (cfg : HpConfig) (now : Nat) (data : Bytes)
    (lclId : SequenceHash) : P2PMsg :=
  createP2pMsg now (.nplMsg ⟨cfg.node.publicKey, generateNplSignature prim cfg data lclId, data,
    seqhashToFlatbufSeqhash lclId⟩)

def createHpfsRequestMsg (now : Nat) (hr : HpfsRequest) (hint : HpfsRequestHint) : P2PMsg :=
  createP2pMsg now (.hpfsRequestMsg
    ⟨hr.mountId, hr.parentPath, hr.isFile, hr.blockId, hr.expectedHash.bytes, hint⟩)

/-- `create_msg_from_hpfs_request`: a directory request carries its entry
hints, a file hash map request (`block_id == -1`) its block hashes, a block
request no hint. -/
def createMsgFromHpfsRequest (now : Nat) (hr : HpfsRequest) : P2PMsg :=
  if !hr.isFile then
    createHpfsRequestMsg now hr (.hpfsFsEntryHint (hpfsfshashentryToFlatbufHpfsfshashentry hr.fsEntryHints))
  else if hr.isFile ∧ hr.blockId = -1 then
    createHpfsRequestMsg now hr (.hpfsFileHashMapHint (hr.fileHashmapHints.flatMap H32.bytes))
  else createHpfsRequestMsg now hr .none

def createMsgFromHpfsLogRequest (now : Nat) (r : HpfsLogRequest) : P2PMsg :=
  createP2pMsg now (.hpfsLogRequest ⟨r.targetSeqNo, seqhashToFlatbufSeqhash r.minRecordId⟩)

def createMsgFromHpfsLogResponse (now : Nat) (r : HpfsLogResponse) : P2PMsg :=
  createP2pMsg now (.hpfsLogResponse ⟨seqhashToFlatbufSeqhash r.minRecordId, r.logRecordBytes⟩)

def createMsgFromPeerRequirementAnnouncement (now : Nat) (needConsensusMsgForwarding : Bool) :
    P2PMsg :=
  createP2pMsg now (.peerRequirementAnnouncementMsg needConsensusMsgForwarding)

def createMsgFromAvailableCapacityAnnouncement (now : Nat) (availableCapacity : Int)
    (timestamp : Nat) : P2PMsg :=
  createP2pMsg now (.peerCapacityAnnouncementMsg ⟨availableCapacity, timestamp⟩)

def createMsgFromPeerListRequest (now : Nat) : P2PMsg := createP2pMsg now .peerListRequestMsg

def createMsgFromPeerListResponse (now : Nat) (peers : List PeerPropertiesValue)
    (skippingIpPort : Option PeerIpPort) : P2PMsg :=
  createP2pMsg now (.peerListResponseMsg
    (peerPropertiesvectorToFlatbufPeerPropertieslist peers skippingIpPort))

def createSuppressMsg (cfg : HpConfig) (now : Nat) (reason : Byte) : P2PMsg :=
  createP2pMsg now (.suppressMsg ⟨cfg.node.publicKey, reason⟩)

end Hpcore.Msg
