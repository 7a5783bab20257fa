import Hpcore.Conf.Types

/-! # The peer wire messages

Both sides of `p2pmsg_conversion.cpp`: the flatbuffers tables of
`p2pmsg.fbs` as the accessors read them, and the `p2p::` values the
conversions build (neither header is part of the sources; the fields are the
ones the conversions touch). A finished flatbuffer is represented by its root
table: `GetP2PMsg` after `Finish` gives back the table that was built.

Vector and table fields the decoders test for null (`if (msg.users())`) are
`Option`; the fields they dereference directly are always present. One-byte
enums (`SuppressReason`, `HpfsFsEntryResponseType`, `util::PROTOCOL`) are bytes
on both sides. -/

namespace Hpcore.Msg
open Hpcore.Conf

/-! ## Flatbuffers tables -/

/-- `SequenceHash`. -/
structure FbSequenceHash where
  seqNo : Nat
  hash : Bytes
  deriving DecidableEq

/-- `ProposalMsg`. -/
structure ProposalMsg where
  pubkey : Bytes
  sig : Bytes
  stage : Nat
  time : Nat
  timeConfig : Nat
  nodeNonce : Bytes
  groupNonce : Bytes
  users : Option (List Bytes)
  inputHashes : Option (List Bytes)
  outputHash : Option Bytes
  outputSig : Option Bytes
  stateHash : Bytes
  patchHash : Bytes
  lastPrimaryShardId : FbSequenceHash
  lastRawShardId : FbSequenceHash
  deriving DecidableEq

/-- `NplMsg`. -/
structure NplMsg where
  pubkey : Bytes
  sig : Bytes
  data : Bytes
  lclId : FbSequenceHash
  deriving DecidableEq

/-- `UserInput`. -/
structure UserInput where
  inputContainer : Bytes
  sig : Bytes
  protocol : Byte
  deriving DecidableEq

/-- `UserInputGroup`. -/
structure UserInputGroup where
  pubkey : Bytes
  messages : List UserInput
  deriving DecidableEq

/-- `NonUnlProposalMsg`. -/
structure NonUnlProposalMsg where
  userInputs : Option (List UserInputGroup)
  deriving DecidableEq

/-- `PeerChallengeMsg`. -/
structure PeerChallengeMsg where
  contractId : String
  timeConfig : Nat
  isFullHistory : Bool
  challenge : Bytes
  deriving DecidableEq

/-- `PeerChallengeResponseMsg`. -/
structure PeerChallengeResponseMsg where
  challenge : Bytes
  sig : Bytes
  pubkey : Bytes
  deriving DecidableEq

/-- `PeerProperties`. -/
structure PeerProperties where
  hostAddress : String
  port : Nat
  availableCapacity : Int
  timestamp : Nat
  deriving DecidableEq

/-- `PeerCapacityAnnouncementMsg`. -/
structure PeerCapacityAnnouncementMsg where
  availableCapacity : Int
  timestamp : Nat
  deriving DecidableEq

/-- `HpfsFSHashEntry`. -/
structure HpfsFSHashEntry where
  name : String
  isFile : Bool
  hash : Bytes
  responseType : Byte
  deriving DecidableEq

/-- The `HpfsRequestHint` union of an `HpfsRequestMsg`. -/
inductive HpfsRequestHint
  | none
  | hpfsFsEntryHint (entries : List HpfsFSHashEntry)
  | hpfsFileHashMapHint (hashMap : Bytes)
  deriving DecidableEq

/-- `HpfsRequestMsg`. -/
structure HpfsRequestMsg where
  mountId : Nat
  parentPath : String
  isFile : Bool
  blockId : Int
  expectedHash : Bytes
  hint : HpfsRequestHint
  deriving DecidableEq

/-- `HpfsLogRequest`. -/
structure HpfsLogRequestMsg where
  targetSeqNo : Nat
  minRecordId : FbSequenceHash
  deriving DecidableEq

/-- `HpfsLogResponse`. -/
structure HpfsLogResponseMsg where
  minRecordId : FbSequenceHash
  logRecordBytes : Bytes
  deriving DecidableEq

/-- `SuppressMsg`. -/
structure SuppressMsg where
  pubkey : Bytes
  reason : Byte
  deriving DecidableEq

/-- The `P2PMsgContent` union, one constructor per kind that has an encoder
here (`HpfsResponseMsg` is left out: no decoder of it is in the sources). -/
inductive P2PMsgContent
  | peerChallengeMsg (m : PeerChallengeMsg)
  | peerChallengeResponseMsg (m : PeerChallengeResponseMsg)
  | proposalMsg (m : ProposalMsg)
  | nonUnlProposalMsg (m : NonUnlProposalMsg)
  | nplMsg (m : NplMsg)
  | hpfsRequestMsg (m : HpfsRequestMsg)
  | hpfsLogRequest (m : HpfsLogRequestMsg)
  | hpfsLogResponse (m : HpfsLogResponseMsg)
  | peerListRequestMsg
  | peerListResponseMsg (peerList : List PeerProperties)
  | peerCapacityAnnouncementMsg (m : PeerCapacityAnnouncementMsg)
  | peerRequirementAnnouncementMsg (needConsensusMsgForwarding : Bool)
  | suppressMsg (m : SuppressMsg)
  deriving DecidableEq

/-- `P2PMsg`: the creation time and the content (the version bytes are
written by `create_p2p_msg` and read by no function modelled here). -/
structure P2PMsg where
  createdOn : Nat
  content : P2PMsgContent
  deriving DecidableEq

namespace P2PMsgContent

/-! The generated `content_as_*` accessors: the table when the union holds that
kind, `nullptr` otherwise. -/

def asPeerChallengeMsg : P2PMsgContent → Option PeerChallengeMsg
  | .peerChallengeMsg m => some m | _ => none
def asPeerChallengeResponseMsg : P2PMsgContent → Option PeerChallengeResponseMsg
  | .peerChallengeResponseMsg m => some m | _ => none
def asProposalMsg : P2PMsgContent → Option ProposalMsg
  | .proposalMsg m => some m | _ => none
def asNonUnlProposalMsg : P2PMsgContent → Option NonUnlProposalMsg
  | .nonUnlProposalMsg m => some m | _ => none
def asNplMsg : P2PMsgContent → Option NplMsg
  | .nplMsg m => some m | _ => none
def asHpfsRequestMsg : P2PMsgContent → Option HpfsRequestMsg
  | .hpfsRequestMsg m => some m | _ => none
def asHpfsLogRequest : P2PMsgContent → Option HpfsLogRequestMsg
  | .hpfsLogRequest m => some m | _ => none
def asHpfsLogResponse : P2PMsgContent → Option HpfsLogResponseMsg
  | .hpfsLogResponse m => some m | _ => none
def asPeerListResponseMsg : P2PMsgContent → Option (List PeerProperties)
  | .peerListResponseMsg m => some m | _ => none
def asPeerCapacityAnnouncementMsg : P2PMsgContent → Option PeerCapacityAnnouncementMsg
  | .peerCapacityAnnouncementMsg m => some m | _ => none
def asPeerRequirementAnnouncementMsg : P2PMsgContent → Option Bool
  | .peerRequirementAnnouncementMsg m => some m | _ => none
def asSuppressMsg : P2PMsgContent → Option SuppressMsg
  | .suppressMsg m => some m | _ => none

end P2PMsgContent

/-- A received buffer: its root table and its size in bytes. -/
structure Buffer where
  msg : P2PMsg
  size : Nat
  deriving DecidableEq

/-- The flatbuffers library on `P2PMsg` buffers of type `β` (not part of the
sources): the generated verifier `VerifyP2PMsgBuffer`, the root accessor
`GetP2PMsg`, and the buffer `FlatBufferBuilder::Finish` leaves for a root
table. A finished buffer passes the verifier and reads back as its table. -/
structure Flatbuffers (β : Type) where
  verifyP2PMsgBuffer : β → Bool
  getP2PMsg : β → P2PMsg
  finish : P2PMsg → β
  verify_finish : ∀ m, verifyP2PMsgBuffer (finish m) = true
  getP2PMsg_finish : ∀ m, getP2PMsg (finish m) = m

/-- The representation the rest of the model uses: a buffer given by its root
table. -/
def tableBuffers : Flatbuffers P2PMsg := ⟨fun _ => true, id, id, fun _ => rfl, fun _ => rfl⟩

/-! ## `p2p::` values -/

/-- `p2p::proposal`, the fields the conversions set. -/
structure Proposal where
  pubkey : Bytes
  rootHash : H32
  fromSelf : Bool
  sentTimestamp : Nat
  recvTimestamp : Nat
  time : Nat
  timeConfig : Nat
  nodeNonce : H32
  groupNonce : H32
  stage : Nat
  stateHash : H32
  patchHash : H32
  lastPrimaryShardId : SequenceHash
  lastRawShardId : SequenceHash
  users : Finset Bytes
  inputOrderedHashes : Finset Bytes
  outputHash : Bytes
  outputSig : Bytes
  deriving DecidableEq

/-- `p2p::npl_message`. -/
structure NplMessage where
  pubkey : Bytes
  lclId : SequenceHash
  data : Bytes
  deriving DecidableEq

/-- `usr::submitted_user_input`. -/
structure SubmittedUserInput where
  inputContainer : Bytes
  sig : Bytes
  protocol : Byte
  deriving DecidableEq

/-- `p2p::nonunl_proposal`: user inputs grouped by user pubkey (an
`unordered_map`, iterated in the order of the list, so one entry per key). -/
structure NonunlProposal where
  userInputs : List (Bytes × List SubmittedUserInput)
  keys_nodup : (userInputs.map Prod.fst).Nodup
  deriving DecidableEq

/-- `p2p::peer_challenge`. -/
structure PeerChallenge where
  contractId : String
  timeConfig : Nat
  isFullHistory : Bool
  challenge : Bytes
  deriving DecidableEq

/-- `p2p::peer_challenge_response`. -/
structure PeerChallengeResponse where
  challenge : Bytes
  signature : Bytes
  pubkey : Bytes
  deriving DecidableEq

/-- `p2p::peer_properties`. -/
structure PeerPropertiesValue where
  ipPort : PeerIpPort
  timestamp : Nat
  availableCapacity : Int
  deriving DecidableEq

/-- `p2p::peer_capacity_announcement`. -/
structure PeerCapacityAnnouncement where
  availableCapacity : Int
  timestamp : Nat
  deriving DecidableEq

/-- `p2p::hpfs_fs_hash_entry`. -/
structure HpfsFsHashEntry where
  name : String
  isFile : Bool
  hash : H32
  responseType : Byte
  deriving DecidableEq

/-- `p2p::hpfs_request`. -/
structure HpfsRequest where
  mountId : Nat
  blockId : Int
  isFile : Bool
  parentPath : String
  expectedHash : H32
  fsEntryHints : List HpfsFsHashEntry
  fileHashmapHints : List H32
  deriving DecidableEq

/-- `p2p::hpfs_log_request`. -/
structure HpfsLogRequest where
  targetSeqNo : Nat
  minRecordId : SequenceHash
  deriving DecidableEq

/-- `p2p::hpfs_log_response`. -/
structure HpfsLogResponse where
  minRecordId : SequenceHash
  logRecordBytes : Bytes
  deriving DecidableEq

/-- `p2p::suppress_message`. -/
structure SuppressMessage where
  pubkey : Bytes
  reason : Byte
  deriving DecidableEq

/-! ## External primitives -/

/-- One value added to a `flatbuf_hasher`. The hasher's overloads for a
`std::set<std::string>` and for a vector of `ByteArray`, and for an `h32` and
for a `[ubyte]` vector, add the same item when the contents agree; an absent
vector or table is an absent item. -/
inductive HashItem
  | num (v : Nat)
  | bytes (b : Option Bytes)
  | byteList (bs : Option (List Bytes))
  | seqHash (s : Option (Nat × Bytes))
  deriving DecidableEq

/-- The primitives the conversions call and the sources do not contain:
`crypto::sign`, `crypto::verify` (true for a return of 0) and the blake3
digest that `flatbuf_hasher::hash` takes of the added items. -/
structure Primitives where
  sign : Bytes → Bytes → Bytes
  verify : Bytes → Bytes → Bytes → Bool
  digest : List HashItem → H32

end Hpcore.Msg
