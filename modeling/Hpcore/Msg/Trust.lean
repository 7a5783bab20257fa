import Hpcore.Msg.Conversion

/-! # Signatures and admission of proposals

Completeness and soundness of proposal and NPL signatures over an ideal
signature scheme and a hasher without collisions on the messages compared,
and the admission predicate that `get_peer_message_info` and
`verify_proposal_msg_trust` implement together. `hash_proposal_msg` leaves
`node_nonce` out of the signed values, so the signature does not bind it. -/

namespace Hpcore.Msg
open Hpcore.Conf

/-- An ideal signature scheme for the key pairs `(pub sk, sk)`: a signature
made with a key verifies under its public key, and a signature verifies under
one public key for at most one message. -/
structure IdealSignatures (prim : Primitives) (pub : Bytes → Bytes) : Prop where
  correct : ∀ m sk, prim.verify m (prim.sign m sk) (pub sk) = true
  unique : ∀ m m' s pk, prim.verify m s pk = true → prim.verify m' s pk = true → m = m'

/-- The fields of a decoded proposal the signature covers: all but
`node_nonce` and the wall timestamps. -/
def Proposal.signedPart (p : Proposal) : Proposal :=
  { p with nodeNonce := H32.empty, sentTimestamp := 0, recvTimestamp := 0 }

theorem verifyProposalMsgTrust_ne_empty {prim : Primitives} {unl : Finset Bytes} {m : ProposalMsg}
    (h : verifyProposalMsgTrust prim unl m ≠ H32.empty) :
    m.pubkey ∈ unl ∧ prim.verify (hashProposalMsg prim m).bytes m.sig m.pubkey = true ∧
      verifyProposalMsgTrust prim unl m = hashProposalMsg prim m := by
  unfold verifyProposalMsgTrust at h ⊢
  by_cases hu : m.pubkey ∈ unl <;> by_cases hv : prim.verify (hashProposalMsg prim m).bytes m.sig m.pubkey
    <;> simp_all

/-- The table `create_msg_from_proposal` builds hashes to the values
`generate_proposal_signature` signed. -/
theorem createMsgFromProposal_table {prim : Primitives} {cfg : HpConfig} {now : Nat} {p : Proposal}
    {m : ProposalMsg} (h : (createMsgFromProposal prim cfg now p).content = .proposalMsg m) :
    proposalMsgHashItems m = proposalHashItems p ∧ m.pubkey = cfg.node.publicKey ∧
      m.sig = generateProposalSignature prim cfg p := by
  simp only [createMsgFromProposal, createP2pMsg, P2PMsgContent.proposalMsg.injEq] at h
  subst h
  simp [proposalMsgHashItems, proposalHashItems, stringlistToFlatbufBytearrayvector,
    seqhashToFlatbufSeqhash]

theorem createMsgFromNplOutput_table {prim : Primitives} {cfg : HpConfig} {now : Nat} {data : Bytes}
    {lclId : SequenceHash} {m : NplMsg}
    (h : (createMsgFromNplOutput prim cfg now data lclId).content = .nplMsg m) :
    nplMsgHashItems m = nplHashItems data lclId ∧ m.pubkey = cfg.node.publicKey ∧
      m.sig = generateNplSignature prim cfg data lclId := by
  simp only [createMsgFromNplOutput, createP2pMsg, P2PMsgContent.nplMsg.injEq] at h
  subst h
  simp [nplMsgHashItems, nplHashItems, seqhashToFlatbufSeqhash]

/-- Equal hash items give equal decoded proposals up to the unsigned fields. -/
theorem signedPart_eq_of_hashItems {cfg : HpConfig} {now₁ now₂ : Nat} {mi₁ mi₂ : PeerMessageInfo}
    {m₁ m₂ : ProposalMsg} {h : H32} (hk : m₁.pubkey = m₂.pubkey)
    (hi : proposalMsgHashItems m₁ = proposalMsgHashItems m₂) :
    (createProposalFromMsg cfg now₁ mi₁ m₁ h).signedPart =
      (createProposalFromMsg cfg now₂ mi₂ m₂ h).signedPart := by
  simp only [proposalMsgHashItems, List.cons.injEq, HashItem.num.injEq, HashItem.bytes.injEq,
    Option.some.injEq, HashItem.byteList.injEq, HashItem.seqHash.injEq, Prod.mk.injEq] at hi
  obtain ⟨hs, ht, hc, hg, hu, hin, ho, hos, hst, hp, ⟨hps, hph⟩, ⟨hrs, hrh⟩, -⟩ := hi
  simp [createProposalFromMsg, Proposal.signedPart, flatbufSeqhashToSeqhash, hk, hs, ht, hc, hg, hu,
    hin, ho, hos, hst, hp, hps, hph, hrs, hrh]

/-- Completeness and soundness of the proposal and NPL signatures, for the
key pairs `(pub sk, sk)`. Completeness: a message encoded at a node whose public
key is in the receiver's UNL is trusted, and `verify_proposal_msg_trust`
returns the hash `generate_proposal_signature` signed. Soundness: two trusted
messages with the same pubkey and signature, whose hash items do not collide,
decode to proposals that agree on every field but `node_nonce` and the wall
timestamps, and to equal NPL messages. -/
structure SignaturesSoundComplete (prim : Primitives) (pub : Bytes → Bytes) : Prop where
  complete : ∀ (cfg : HpConfig) unl now (p : Proposal), cfg.node.publicKey = pub cfg.node.privateKey →
    cfg.node.publicKey ∈ unl → ∃ m, (createMsgFromProposal prim cfg now p).content = .proposalMsg m ∧
      verifyProposalMsgTrust prim unl m = prim.digest (proposalHashItems p)
  nplComplete : ∀ (cfg : HpConfig) unl now data lclId, cfg.node.publicKey = pub cfg.node.privateKey →
    cfg.node.publicKey ∈ unl → ∃ m, (createMsgFromNplOutput prim cfg now data lclId).content = .nplMsg m ∧
      verifyNplMsgTrust prim unl m = true
  sound : ∀ unl (m₁ m₂ : ProposalMsg), m₁.pubkey = m₂.pubkey → m₁.sig = m₂.sig →
    verifyProposalMsgTrust prim unl m₁ ≠ H32.empty → verifyProposalMsgTrust prim unl m₂ ≠ H32.empty →
    (prim.digest (proposalMsgHashItems m₁) = prim.digest (proposalMsgHashItems m₂) →
      proposalMsgHashItems m₁ = proposalMsgHashItems m₂) →
    ∀ cfg now₁ now₂ mi₁ mi₂,
      (createProposalFromMsg cfg now₁ mi₁ m₁ (verifyProposalMsgTrust prim unl m₁)).signedPart =
        (createProposalFromMsg cfg now₂ mi₂ m₂ (verifyProposalMsgTrust prim unl m₂)).signedPart
  nplSound : ∀ unl (m₁ m₂ : NplMsg), m₁.pubkey = m₂.pubkey → m₁.sig = m₂.sig →
    verifyNplMsgTrust prim unl m₁ = true → verifyNplMsgTrust prim unl m₂ = true →
    (prim.digest (nplMsgHashItems m₁) = prim.digest (nplMsgHashItems m₂) →
      nplMsgHashItems m₁ = nplMsgHashItems m₂) →
    createNplFromMsg m₁ = createNplFromMsg m₂

/-- **Proposal and NPL signatures are complete, and sound except for
`node_nonce`**, over every ideal signature scheme. -/
theorem proposal_npl_signatures_sound_complete (prim : Primitives) (pub : Bytes → Bytes)
    (hideal : IdealSignatures prim pub) : SignaturesSoundComplete prim pub := by
  constructor
  case complete =>
    intro cfg unl now p hkey hunl
    refine ⟨_, rfl, ?_⟩
    have hi := (@createMsgFromProposal_table prim cfg now p _ rfl).1
    have hv := hideal.correct (prim.digest (proposalHashItems p)).bytes cfg.node.privateKey
    rw [← hkey] at hv
    rw [verifyProposalMsgTrust, hashProposalMsg, hi, if_neg (by simpa using hunl)]
    simp [generateProposalSignature, hv]
  case nplComplete =>
    intro cfg unl now data lclId hkey hunl
    refine ⟨_, rfl, ?_⟩
    have hi := (@createMsgFromNplOutput_table prim cfg now data lclId _ rfl).1
    have hv := hideal.correct (prim.digest (nplHashItems data lclId)).bytes cfg.node.privateKey
    rw [← hkey] at hv
    rw [verifyNplMsgTrust, hi, if_neg (by simpa using hunl)]
    simpa [generateNplSignature] using hv
  case sound =>
    intro unl m₁ m₂ hk hsig h₁ h₂ hcol cfg now₁ now₂ mi₁ mi₂
    obtain ⟨-, hv₁, he₁⟩ := verifyProposalMsgTrust_ne_empty h₁
    obtain ⟨-, hv₂, he₂⟩ := verifyProposalMsgTrust_ne_empty h₂
    rw [hk, hsig] at hv₁
    have hh : hashProposalMsg prim m₁ = hashProposalMsg prim m₂ :=
      H32.bytes_injective (hideal.unique _ _ _ _ hv₁ hv₂)
    rw [he₁, he₂, ← hh]
    exact signedPart_eq_of_hashItems hk (hcol hh)
  case nplSound =>
    intro unl m₁ m₂ hk hsig h₁ h₂ hcol
    simp only [verifyNplMsgTrust] at h₁ h₂
    split at h₁ <;> split at h₂ <;> try contradiction
    rw [hk, hsig] at h₁
    have hi := hcol (H32.bytes_injective (hideal.unique _ _ _ _ h₁ h₂))
    simp only [nplMsgHashItems, List.cons.injEq, HashItem.bytes.injEq, Option.some.injEq,
      HashItem.seqHash.injEq, Prod.mk.injEq] at hi
    obtain ⟨hd, ⟨hs, hh⟩, -⟩ := hi
    simp [createNplFromMsg, flatbufSeqhashToSeqhash, hk, hd, hs, hh]

/-- A toy ideal scheme: a signature is the message followed by the key, and
every digest is `fill 1`. -/
def toyPrimitives : Primitives where
  sign m sk := m ++ sk
  verify m s pk := s == m ++ pk
  digest _ := H32.fill 1

theorem toyPrimitives_ideal : IdealSignatures toyPrimitives id where
  correct m sk := by simp [toyPrimitives]
  unique m m' s pk h h' := by
    simp only [toyPrimitives, beq_iff_eq] at h h'
    exact List.append_cancel_right (h.symm.trans h')

theorem toy_signatures_sound_complete :
    IdealSignatures toyPrimitives id ∧ SignaturesSoundComplete toyPrimitives id :=
  ⟨toyPrimitives_ideal, proposal_npl_signatures_sound_complete _ _ toyPrimitives_ideal⟩

/-- A trusted proposal from the empty key under `toyPrimitives`, with node
nonce `nonce`. -/
def toyProposalMsg (nonce : Bytes) : ProposalMsg :=
  { pubkey := [], sig := (H32.fill 1).bytes, stage := 0, time := 0, timeConfig := 0,
    nodeNonce := nonce, groupNonce := [], users := none, inputHashes := none, outputHash := none,
    outputSig := none, stateHash := [], patchHash := [], lastPrimaryShardId := ⟨0, []⟩,
    lastRawShardId := ⟨0, []⟩ }

/-- Two trusted messages with the same pubkey, signature and hash items decode
to proposals with different node nonces. -/
theorem node_nonce_not_signed :
    IdealSignatures toyPrimitives id ∧
    (toyProposalMsg [0]).pubkey = (toyProposalMsg [1]).pubkey ∧
    (toyProposalMsg [0]).sig = (toyProposalMsg [1]).sig ∧
    verifyProposalMsgTrust toyPrimitives {[]} (toyProposalMsg [0]) ≠ H32.empty ∧
    verifyProposalMsgTrust toyPrimitives {[]} (toyProposalMsg [1]) ≠ H32.empty ∧
    proposalMsgHashItems (toyProposalMsg [0]) = proposalMsgHashItems (toyProposalMsg [1]) ∧
    (createProposalFromMsg default 0 ⟨none, 0⟩ (toyProposalMsg [0]) (H32.fill 1)).nodeNonce ≠
      (createProposalFromMsg default 0 ⟨none, 0⟩ (toyProposalMsg [1]) (H32.fill 1)).nodeNonce :=
  ⟨toyPrimitives_ideal, rfl, rfl, by decide, by decide, rfl, by decide⟩

/-! ## Admission -/

theorem verifyProposalMsgTrust_ne_empty_iff {prim : Primitives} {unl : Finset Bytes}
    {m : ProposalMsg} : verifyProposalMsgTrust prim unl m ≠ H32.empty ↔
      m.pubkey ∈ unl ∧ prim.verify (hashProposalMsg prim m).bytes m.sig m.pubkey = true ∧
        hashProposalMsg prim m ≠ H32.empty := by
  unfold verifyProposalMsgTrust
  by_cases hu : m.pubkey ∈ unl <;> by_cases hv : prim.verify (hashProposalMsg prim m).bytes m.sig m.pubkey
    <;> simp [hu, hv]

/-- A buffer is accepted as a proposal at `now` from a challenge-verified
session: `get_peer_message_info` keeps it, its content is a `ProposalMsg`, and
`verify_proposal_msg_trust` returns a hash for it. -/
def proposalAccepted (prim : Primitives) (unl : Finset Bytes) (cfg : HpConfig) (now : Nat)
    (buf : Buffer) : Prop :=
  ∃ msg ∈ (getPeerMessageInfo cfg now buf (some ⟨true⟩)).p2pMsg,
    ∃ m ∈ msg.content.asProposalMsg, verifyProposalMsgTrust prim unl m ≠ H32.empty

/-- **Proposal admission.** For a roundtime that `parse_contract_section_json`
admits and `now ≥ 3·roundtime`, `roundtime * 3` and `now - roundtime * 3`
are exact, and a proposal is accepted iff its pubkey is in the UNL, its
signature verifies over a hash other than `h32_empty`, and it is larger than
1 MB or created no earlier than `now - 3·roundtime`. Only messages that are
too old are dropped: a creation time in the future passes. -/
theorem proposal_admission (prim : Primitives) (unl : Finset Bytes) (cfg : HpConfig) (now : Nat)
    (buf : Buffer) (m : ProposalMsg) (hc : buf.msg.content = .proposalMsg m)
    (hrt : 1 ≤ cfg.contract.consensus.roundtime ∧ cfg.contract.consensus.roundtime ≤ 3600000)
    (hnow : 3 * cfg.contract.consensus.roundtime ≤ now) (h64 : now < 2 ^ 64) :
    u32 (cfg.contract.consensus.roundtime * 3) = 3 * cfg.contract.consensus.roundtime ∧
    sub64 now (u32 (cfg.contract.consensus.roundtime * 3)) = now - 3 * cfg.contract.consensus.roundtime ∧
    (proposalAccepted prim unl cfg now buf ↔
      m.pubkey ∈ unl ∧ prim.verify (hashProposalMsg prim m).bytes m.sig m.pubkey = true ∧
        hashProposalMsg prim m ≠ H32.empty ∧
        (maxSizeForTimeCheck < buf.size ∨ now - 3 * cfg.contract.consensus.roundtime ≤ buf.msg.createdOn)) := by
  have hu : u32 (cfg.contract.consensus.roundtime * 3) = 3 * cfg.contract.consensus.roundtime := by
    rw [u32_of_lt (by omega)]; omega
  have hs := sub64_of_le hnow h64
  refine ⟨hu, hu ▸ hs, ?_⟩
  have hkeep : buf.msg ∈ (getPeerMessageInfo cfg now buf (some ⟨true⟩)).p2pMsg ↔
      (maxSizeForTimeCheck < buf.size ∨ now - 3 * cfg.contract.consensus.roundtime ≤ buf.msg.createdOn) := by
    rw [getPeerMessageInfo, hu, hs]
    split <;> simp_all <;> omega
  constructor
  · rintro ⟨msg, hm, pm, hp, hv⟩
    obtain rfl := (getPeerMessageInfo_eq hm).1
    rw [hc] at hp; cases hp
    obtain ⟨hu', hv', he⟩ := verifyProposalMsgTrust_ne_empty_iff.mp hv
    exact ⟨hu', hv', he, hkeep.mp hm⟩
  · rintro ⟨hu', hv, he, ht⟩
    exact ⟨buf.msg, hkeep.mpr ht, m, by rw [hc]; rfl, verifyProposalMsgTrust_ne_empty_iff.mpr ⟨hu', hv, he⟩⟩

/-- The default configuration with a roundtime of 1 ms, so that the age window
of `get_peer_message_info` is 3 ms. -/
def roundtimeOneConfig : HpConfig := { (default : HpConfig) with contract.consensus.roundtime := 1 }

/-- At roundtime 1 and time 3, the toy proposal created at 3 is accepted. -/
theorem proposal_admission_roundtime_one :
    roundtimeOneConfig.contract.consensus.roundtime = 1 ∧
    proposalAccepted toyPrimitives {[]} roundtimeOneConfig 3 ⟨⟨3, .proposalMsg (toyProposalMsg [])⟩, 0⟩ :=
  ⟨rfl, ((proposal_admission toyPrimitives {[]} roundtimeOneConfig 3 _ (toyProposalMsg []) rfl
    ⟨by decide, by decide⟩ (by decide) (by decide)).2.2).mpr ⟨by decide, by decide, by decide, by decide⟩⟩

/-- A proposal created 97 ms in the future, at roundtime 1, is accepted. -/
theorem future_proposal_accepted :
    proposalAccepted toyPrimitives {[]} roundtimeOneConfig 3 ⟨⟨100, .proposalMsg (toyProposalMsg [])⟩, 0⟩ ∧
    ¬ (maxSizeForTimeCheck < 0 ∨ ((100 : Int) - 3).natAbs ≤ 3 * 1) :=
  ⟨⟨⟨100, .proposalMsg (toyProposalMsg [])⟩, by decide, toyProposalMsg [], rfl, by decide⟩, by decide⟩

end Hpcore.Msg
