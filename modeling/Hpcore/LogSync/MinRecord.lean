import Hpcore.LogSync.Context

/-! # The joining point of a log sync

`get_verified_min_record` and `set_joining_point_for_fork`, and what they
compute: the highest `seq_no` where the hpfs log index agrees with the
ledger's roots, searched up to the lower of the two last `seq_no`s, except
that a log index ahead of the ledger makes the search skip the ledger's own
last `seq_no`. -/

namespace Hpcore.LogSync

variable {σ : Type}

/-- Modelled from the spec: `ledger::get_root_hash_from_ledger` (`ledger.cpp`
is not part of the sources) gives the root of a ledger row as
`H(config_hash, state_hash)`. -/
def getRootHashFromLedger (deps : SyncDeps σ) (l : LedgerView) (seqNo : Nat) : Option H32 :=
  (l.record seqNo).map fun r => deps.getRootHash r.1 r.2

/-! ## `set_joining_point_for_fork` -/

/-- The `do ... while (current_seq_no > 0 && ledger_root_hash != index_root_hash)`
loop, entered with `current_seq_no = n`: the final `current_seq_no` and the
last pair of roots compared, or `none` when a read fails. The loop is never
entered at 0. -/
def forkLoop (deps : SyncDeps σ) (st : NodeState σ) : Nat → Option (Nat × H32 × H32)
  | 0 => none
  | n + 1 => do
    let ledgerRoot ← getRootHashFromLedger deps st.ledger (n + 1)
    let indexRoot ← deps.hpfs.getHashFromIndexBySeqNo st.fs (n + 1)
    if n > 0 ∧ ledgerRoot ≠ indexRoot then forkLoop deps st n else some (n, ledgerRoot, indexRoot)

/-- `set_joining_point_for_fork`: `-1` on error, `0` with `min_log_record` set
to the joining point (the log truncated there) or to genesis. -/
def setJoiningPointForFork (deps : SyncDeps σ) (st : NodeState σ) (startingPoint : Nat) :
    Int × NodeState σ :=
  if startingPoint = 0 then (0, { st with ctx := { st.ctx with minLogRecord := genesisSeqHash deps } })
  else if !st.ledger.roSessionOk then (-1, st)
  else match forkLoop deps st startingPoint with
    | none => (-1, st)
    | some (cur, ledgerRoot, indexRoot) =>
      if ledgerRoot ≠ indexRoot then
        match deps.hpfs.truncateLogFile st.fs (genesisSeqHash deps).seqNo with
        | none => (-1, st)
        | some fs => (0, { st with fs, ctx := { st.ctx with minLogRecord := genesisSeqHash deps } })
      else
        match deps.hpfs.truncateLogFile st.fs (cur + 1) with
        | none => (-1, st)
        | some fs => (0, { st with fs, ctx := { st.ctx with minLogRecord := ⟨cur + 1, ledgerRoot⟩ } })

/-! ## `get_verified_min_record` -/

/-- The target-achieved branch: the ro-session hashes against the target. -/
def checkTargetAchieved (deps : SyncDeps σ) (st : NodeState σ) (lastFromLedger : SequenceHash) :
    Int × NodeState σ :=
  match deps.hpfs.rootHashes st.fs with
  | none => (-1, st)
  | some (stateHash, patchHash) =>
    if deps.getRootHash patchHash stateHash = st.ctx.targetRootHash then
      (1, { st with parentHashes :=
        setParentHash (setParentHash st.parentHashes stateDirPath stateHash) stateDirPath stateHash })
    else match deps.hpfs.truncateLogFile st.fs lastFromLedger.seqNo with
      | none => (-1, st)
      | some fs => (0, { st with fs, ctx := { st.ctx with minLogRecord := lastFromLedger } })

/-- `get_verified_min_record`: `-1` on error, `0` with `min_log_record` set, `1`
when the log already reaches the target root. The `seq_no - 1` arguments are
`uint64_t` subtractions. -/
def getVerifiedMinRecord (deps : SyncDeps σ) (st : NodeState σ) : Int × NodeState σ :=
  match deps.hpfs.getLastSeqNoFromIndex st.fs with
  | none => (-1, st)
  | some li =>
    match deps.hpfs.getHashFromIndexBySeqNo st.fs li with
    | none => (-1, st)
    | some indexHash =>
      let lg := st.ledger.lclSeqNo
      if li = 0 ∨ lg = 0 then (0, { st with ctx := { st.ctx with minLogRecord := genesisSeqHash deps } })
      else match getRootHashFromLedger deps st.ledger lg with
        | none => (-1, st)
        | some ledgerHash =>
          if (⟨li, indexHash⟩ : SequenceHash) = ⟨lg, ledgerHash⟩ then
            checkTargetAchieved deps st ⟨lg, ledgerHash⟩
          else if li = lg then setJoiningPointForFork deps st (sub64 li 1)
          else if lg > li then
            match getRootHashFromLedger deps st.ledger li with
            | none => (-1, st)
            | some rootHashFromLedger =>
              if rootHashFromLedger = indexHash then
                (0, { st with ctx := { st.ctx with minLogRecord := ⟨li, indexHash⟩ } })
              else setJoiningPointForFork deps st (sub64 li 1)
          else setJoiningPointForFork deps st (sub64 lg 1)

/-! ## The joining point, as the spec describes it -/

/-- The ledger and the index agree at `j`, on root `r`. -/
def agreesAt (deps : SyncDeps σ) (st : NodeState σ) (j : Nat) : Option H32 :=
  match getRootHashFromLedger deps st.ledger j, deps.hpfs.getHashFromIndexBySeqNo st.fs j with
  | some l, some i => if l = i then some l else none
  | _, _ => none

/-- The highest `(j, root_j)` with `1 ≤ j ≤ n` where the index agrees with the
ledger, or genesis when there is none. -/
def largestAgreeing (deps : SyncDeps σ) (st : NodeState σ) : Nat → SequenceHash
  | 0 => genesisSeqHash deps
  | j + 1 => match agreesAt deps st (j + 1) with
    | some r => ⟨j + 1, r⟩
    | none => largestAgreeing deps st j

theorem largestAgreeing_succ_of_some {deps : SyncDeps σ} {st : NodeState σ} {j : Nat} {r : H32}
    (h : agreesAt deps st (j + 1) = some r) : largestAgreeing deps st (j + 1) = ⟨j + 1, r⟩ := by
  simp [largestAgreeing, h]

theorem largestAgreeing_succ_of_none {deps : SyncDeps σ} {st : NodeState σ} {j : Nat}
    (h : agreesAt deps st (j + 1) = none) : largestAgreeing deps st (j + 1) = largestAgreeing deps st j := by
  simp [largestAgreeing, h]

theorem agreesAt_of_reads {deps : SyncDeps σ} {st : NodeState σ} {j : Nat} {l i : H32}
    (hl : getRootHashFromLedger deps st.ledger j = some l)
    (hi : deps.hpfs.getHashFromIndexBySeqNo st.fs j = some i) :
    agreesAt deps st j = if l = i then some l else none := by
  simp [agreesAt, hl, hi]

theorem largestAgreeing_succ_of_reads {deps : SyncDeps σ} {st : NodeState σ} {j : Nat} {r : H32}
    (hl : getRootHashFromLedger deps st.ledger (j + 1) = some r)
    (hi : deps.hpfs.getHashFromIndexBySeqNo st.fs (j + 1) = some r) :
    largestAgreeing deps st (j + 1) = ⟨j + 1, r⟩ :=
  largestAgreeing_succ_of_some (by rw [agreesAt_of_reads hl hi, if_pos rfl])

/-- A `seq_no` whose ledger root is not the index root there is not a joining
point. -/
theorem largestAgreeing_succ_of_ne {deps : SyncDeps σ} {st : NodeState σ} {j : Nat} {i : H32}
    (hi : deps.hpfs.getHashFromIndexBySeqNo st.fs (j + 1) = some i)
    (hl : getRootHashFromLedger deps st.ledger (j + 1) ≠ some i) :
    largestAgreeing deps st (j + 1) = largestAgreeing deps st j := by
  apply largestAgreeing_succ_of_none
  cases hrl : getRootHashFromLedger deps st.ledger (j + 1) with
  | none => simp [agreesAt, hrl]
  | some r =>
    rw [agreesAt_of_reads hrl hi, if_neg]
    rintro rfl
    exact hl hrl

/-! ## The loop finds the joining point -/

/-- When the loop of `set_joining_point_for_fork` from `n + 1` ends on equal
roots it stops at the largest agreeing `seq_no` (the `++` after the loop undoes
its last `--`); when it ends on different roots there is none. -/
theorem forkLoop_spec {deps : SyncDeps σ} {st : NodeState σ} :
    ∀ {n cur : Nat} {lr ir : H32}, forkLoop deps st (n + 1) = some (cur, lr, ir) →
      (lr = ir → largestAgreeing deps st (n + 1) = ⟨cur + 1, lr⟩) ∧
      (lr ≠ ir → largestAgreeing deps st (n + 1) = genesisSeqHash deps)
  | n, cur, lr, ir, h => by
    simp only [forkLoop, Option.bind_eq_bind, Option.bind_eq_some] at h
    obtain ⟨l, hl, i, hi, h⟩ := h
    have ha := agreesAt_of_reads hl hi
    split at h
    · rename_i hc
      obtain ⟨m, rfl⟩ : ∃ m, n = m + 1 := ⟨n - 1, by omega⟩
      rw [largestAgreeing_succ_of_none (by rw [ha, if_neg hc.2])]
      exact forkLoop_spec h
    · rename_i hc
      simp only [Option.some.injEq, Prod.mk.injEq] at h
      obtain ⟨rfl, rfl, rfl⟩ := h
      refine ⟨fun he => largestAgreeing_succ_of_some (by rw [ha, if_pos he]), fun hne => ?_⟩
      have hn : n = 0 := by by_contra h0; exact hc ⟨Nat.pos_of_ne_zero h0, hne⟩
      subst hn
      rw [largestAgreeing_succ_of_none (by rw [ha, if_neg hne])]
      rfl

/-- `set_joining_point_for_fork` keeps the ledger and the parent hashes, and
either fails leaving the context as it was or sets `min_log_record` to the
largest agreeing `seq_no` up to its starting point. -/
theorem setJoiningPointForFork_spec (deps : SyncDeps σ) (st : NodeState σ) (s : Nat) :
    let r := setJoiningPointForFork deps st s
    r.2.ledger = st.ledger ∧ r.2.parentHashes = st.parentHashes ∧
      ((r.1 = -1 ∧ r.2.ctx = st.ctx) ∨
        (r.1 = 0 ∧ r.2.ctx = { st.ctx with minLogRecord := largestAgreeing deps st s })) := by
  unfold setJoiningPointForFork
  split
  · subst s; simp [largestAgreeing]
  split
  · simp
  obtain ⟨n, rfl⟩ : ∃ n, s = n + 1 := ⟨s - 1, by omega⟩
  split
  · simp
  rename_i cur lr ir hloop
  have hs := forkLoop_spec hloop
  split
  · rename_i hne
    split <;> simp [hs.2 hne]
  · rename_i heq
    split <;> simp [hs.1 (not_not.mp heq)]

/-! ## Everything `get_verified_min_record` can do -/

/-- The outcomes of `get_verified_min_record` on `st`, for a search of the
joining point up to `p`: an error that changes neither the context nor the
parent hashes; `0` with `min_log_record` the largest agreeing `seq_no` up to
`p`; or `1` when the ro-session root is the target, with `STATE_DIR_PATH` set
(twice) to the state hash. The ledger is never written. -/
def MinRecordOutcome (deps : SyncDeps σ) (st : NodeState σ) (p : Nat) (r : Int × NodeState σ) :
    Prop :=
  r.2.ledger = st.ledger ∧
    ((r.1 = -1 ∧ r.2.ctx = st.ctx ∧ r.2.parentHashes = st.parentHashes) ∨
     (r.1 = 0 ∧ r.2.ctx = { st.ctx with minLogRecord := largestAgreeing deps st p } ∧
        r.2.parentHashes = st.parentHashes) ∨
     (r.1 = 1 ∧ r.2.ctx = st.ctx ∧ ∃ sh ph, deps.hpfs.rootHashes st.fs = some (sh, ph) ∧
        deps.getRootHash ph sh = st.ctx.targetRootHash ∧
        r.2.parentHashes = setParentHash (setParentHash st.parentHashes stateDirPath sh) stateDirPath sh))

theorem MinRecordOutcome.congr {deps : SyncDeps σ} {st : NodeState σ} {p q : Nat}
    {r : Int × NodeState σ} (h : largestAgreeing deps st p = largestAgreeing deps st q)
    (ho : MinRecordOutcome deps st p r) : MinRecordOutcome deps st q r := by
  rwa [MinRecordOutcome, ← h]

theorem MinRecordOutcome.error {deps : SyncDeps σ} {st : NodeState σ} {p : Nat} :
    MinRecordOutcome deps st p (-1, st) :=
  ⟨rfl, .inl ⟨rfl, rfl, rfl⟩⟩

theorem MinRecordOutcome.found {deps : SyncDeps σ} {st : NodeState σ} {p : Nat} {m : SequenceHash}
    {fs : σ} (h : largestAgreeing deps st p = m) :
    MinRecordOutcome deps st p (0, { st with fs, ctx := { st.ctx with minLogRecord := m } }) :=
  ⟨rfl, .inr (.inl ⟨rfl, by rw [h], rfl⟩)⟩

theorem setJoiningPointForFork_outcome (deps : SyncDeps σ) (st : NodeState σ) (s : Nat) :
    MinRecordOutcome deps st s (setJoiningPointForFork deps st s) := by
  obtain ⟨hl, hp, h | h⟩ := setJoiningPointForFork_spec deps st s
  · exact ⟨hl, .inl ⟨h.1, h.2, hp⟩⟩
  · exact ⟨hl, .inr (.inl ⟨h.1, h.2, hp⟩)⟩

/-- The target check, entered when the last points agree on `m`. -/
theorem checkTargetAchieved_outcome {deps : SyncDeps σ} {st : NodeState σ} {p : Nat}
    {m : SequenceHash} (h : largestAgreeing deps st p = m) :
    MinRecordOutcome deps st p (checkTargetAchieved deps st m) := by
  unfold checkTargetAchieved
  split
  · exact .error
  rename_i sh ph hrh
  split
  · exact ⟨rfl, .inr (.inr ⟨rfl, rfl, sh, ph, hrh, ‹_›, rfl⟩)⟩
  split
  · exact .error
  · exact .found h

/-- The `seq_no` up to which `get_verified_min_record` looks for the joining
point, given the last `seq_no`s of the index and of the ledger: the lower of
the two, except that when the index is ahead the ledger's own last `seq_no`
is skipped. -/
def searchBound (li lg : Nat) : Nat := if lg < li then lg - 1 else min li lg

theorem searchBound_of_le {li lg : Nat} (h : li ≤ lg) : searchBound li lg = li := by
  simp [searchBound, Nat.not_lt.mpr h, h]

theorem searchBound_of_lt {li lg : Nat} (h : lg < li) : searchBound li lg = lg - 1 := by
  simp [searchBound, h]

/-- The fork searches are called with `seq_no - 1` of a positive `uint64_t`,
which does not wrap. -/
theorem sub64_one {n : Nat} (h0 : n ≠ 0) (h64 : n < 2 ^ 64) : sub64 n 1 = n - 1 :=
  sub64_of_le (by omega) h64

/-- **What `get_verified_min_record` does**, when the index's last `seq_no` is
`li`: one of the outcomes of `MinRecordOutcome`, with the joining point
searched up to `searchBound li lcl`. -/
theorem getVerifiedMinRecord_outcome (deps : SyncDeps σ) (st : NodeState σ) {li : Nat}
    (hli : deps.hpfs.getLastSeqNoFromIndex st.fs = some li) :
    MinRecordOutcome deps st (searchBound li st.ledger.lclSeqNo) (getVerifiedMinRecord deps st) := by
  have hli64 := deps.hpfs.lastSeqNo_lt _ _ hli
  have hlg64 := st.ledger.lclSeqNo_lt
  unfold getVerifiedMinRecord
  rw [hli]
  simp only
  split
  · exact .error
  rename_i indexHash hih
  split
  · exact .found (by rw [show searchBound li _ = 0 by unfold searchBound; split <;> omega]; rfl)
  split
  · exact .error
  rename_i h0 ledgerHash hlh
  obtain ⟨m, rfl⟩ : ∃ m, li = m + 1 := ⟨li - 1, by omega⟩
  split
  · -- the last points agree: target check, or truncation at the ledger's last point
    obtain ⟨hsq, rfl⟩ := SequenceHash.mk.inj ‹_›
    rw [← hsq] at hlh ⊢
    exact checkTargetAchieved_outcome
      (by rw [searchBound_of_le le_rfl, largestAgreeing_succ_of_reads hlh hih])
  rename_i hne
  split
  · -- same seq_no, different roots: a fork below it
    rename_i hsame
    have hr : getRootHashFromLedger deps st.ledger (m + 1) ≠ some indexHash := by
      rw [hsame, hlh]
      rintro ⟨⟩
      exact hne (by rw [hsame])
    rw [sub64_one (by omega) hli64]
    refine (setJoiningPointForFork_outcome deps st _).congr ?_
    rw [searchBound_of_le hsame.le, largestAgreeing_succ_of_ne hih hr]
    rfl
  split
  · -- the ledger is ahead
    rename_i hahead
    split
    · exact .error
    rename_i r hr
    split
    · rename_i hri
      subst hri
      exact .found (by rw [searchBound_of_le hahead.le, largestAgreeing_succ_of_reads hr hih])
    · rename_i hri
      rw [sub64_one (by omega) hli64]
      refine (setJoiningPointForFork_outcome deps st _).congr ?_
      rw [searchBound_of_le hahead.le,
        largestAgreeing_succ_of_ne hih (by rw [hr]; exact mt Option.some.inj hri)]
      rfl
  · -- the index is ahead: the search starts below the ledger's last seq_no
    rw [sub64_one (by omega) hlg64]
    exact (setJoiningPointForFork_outcome deps st _).congr (by rw [searchBound_of_lt (by omega)])

/-- A node whose index reaches `seq_no` 2 while its ledger is at 1, the two
agreeing at 1. -/
def indexAheadNode : NodeState IndexLog :=
  ⟨SyncContext.initial, ⟨[H32.fill 1, H32.fill 2], by decide, H32.empty, H32.empty⟩,
    ledgerOf [(H32.fill 1, H32.empty)] (by decide), []⟩

/-- On `indexAheadNode` the joining point found is genesis, while the highest
agreeing `seq_no` up to `min(Li, Lg) = 1` is 1. -/
theorem index_ahead_skips_ledger_tip :
    (getVerifiedMinRecord runDeps indexAheadNode).1 = 0 ∧
    (getVerifiedMinRecord runDeps indexAheadNode).2.ctx.minLogRecord = genesisSeqHash runDeps ∧
    largestAgreeing runDeps indexAheadNode (min 2 1) = ⟨1, H32.fill 1⟩ := by
  decide

theorem getVerifiedMinRecord_of_none {deps : SyncDeps σ} {st : NodeState σ}
    (h : deps.hpfs.getLastSeqNoFromIndex st.fs = none) : getVerifiedMinRecord deps st = (-1, st) := by
  simp [getVerifiedMinRecord, h]

end Hpcore.LogSync
