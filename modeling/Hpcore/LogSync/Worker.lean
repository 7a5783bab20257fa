import Hpcore.LogSync.MinRecord
import Hpcore.Msg.Conversion

/-! # The log-sync worker

`set_sync_target` in its two halves (the block it runs under
`target_log_seq_no_mutex`, and the tail it runs after releasing it), one
iteration of `hpfs_log_syncer_loop` (the request
sending with its resubmission and abandon branch, the processing of the
collected responses and the target-achieved check), and the serving of
requests from other nodes. The functions return, beside the new state, what
the source logs or sends: whether a sync was started, and the request sent or
the sync abandoned. -/

namespace Hpcore.LogSync
open Hpcore.Msg

variable {σ : Type}

/-- `ABANDON_THRESHOLD`. -/
def abandonThreshold : Nat := 10

/-- The block `set_sync_target` runs under `target_log_seq_no_mutex`, and
whether the call goes on past it to start the sync. When
`get_verified_min_record` returns `-1` or `1` it returns early, after the
target has been written. -/
def setSyncTargetLocked (deps : SyncDeps σ) (st : NodeState σ) (target : Nat) (targetRootHash : H32) :
    NodeState σ × Bool :=
  if st.ctx.isShuttingDown ∨ (st.ctx.isSyncing ∧ st.ctx.targetLogSeqNo = target) then (st, false)
  else
    let st := { st with ctx := { st.ctx with targetLogSeqNo := target, targetRootHash } }
    let r := getVerifiedMinRecord deps st
    if r.1 = -1 ∨ r.1 = 1 then (r.2, false) else (r.2, true)

/-- The tail of `set_sync_target`, which runs after the mutex is released. -/
def SyncContext.startSync (ctx : SyncContext) : SyncContext :=
  { ctx with targetRequestedOn := 0, requestSubmissions := 0, isSyncing := true }

/-- What `send_hpfs_log_sync_request` did. -/
inductive SendOutcome
  | idle
  | sent (request : HpfsLogRequest)
  | abandoned
  deriving DecidableEq

/-- The requests an outcome puts on the wire. -/
def SendOutcome.requests : SendOutcome → List HpfsLogRequest
  | .sent r => [r]
  | _ => []

theorem SendOutcome.requests_length_le (o : SendOutcome) : o.requests.length ≤ 1 := by
  cases o <;> simp [SendOutcome.requests]

/-- `send_hpfs_log_sync_request` at time `now`, with `request_resubmit_timeout`
given (it is `roundtime * 0.7`, computed in floating point). -/
def sendHpfsLogSyncRequest (ctx : SyncContext) (now requestResubmitTimeout : Nat) :
    SyncContext × SendOutcome :=
  if ctx.targetRequestedOn = 0 ∨ sub64 now ctx.targetRequestedOn > requestResubmitTimeout then
    if ctx.requestSubmissions < abandonThreshold then
      ({ ctx with targetRequestedOn := now, requestSubmissions := ctx.requestSubmissions + 1 },
        .sent ⟨ctx.targetLogSeqNo, ctx.minLogRecord⟩)
    else (ctx.clearTarget, .abandoned)
  else (ctx, .idle)

/-- `handle_hpfs_log_sync_response`: append the records only when the response
starts at `min_log_record`. -/
def handleHpfsLogSyncResponse (deps : SyncDeps σ) (st : NodeState σ) (r : HpfsLogResponse) :
    Int × NodeState σ :=
  if r.minRecordId ≠ st.ctx.minLogRecord then (-1, st)
  else match deps.hpfs.appendHpfsLogRecords st.fs r.logRecordBytes with
    | none => (-1, st)
    | some fs => (0, { st with fs })

/-- `check_hpfs_log_sync_responses` on the responses moved out of the collected
list, handled in order. -/
def checkHpfsLogSyncResponses (deps : SyncDeps σ) (st : NodeState σ) (responses : List HpfsLogResponse) :
    NodeState σ :=
  responses.foldl (fun st r => (handleHpfsLogSyncResponse deps st r).2) st

/-- The request part of a `hpfs_log_syncer_loop` iteration:
`send_hpfs_log_sync_request` when there is a target. -/
def syncerSend (ctx : SyncContext) (now requestResubmitTimeout : Nat) : SyncContext × SendOutcome :=
  if ctx.targetLogSeqNo > 0 then sendHpfsLogSyncRequest ctx now requestResubmitTimeout else (ctx, .idle)

/-- The response part of a `hpfs_log_syncer_loop` iteration: when there is a
target, every collected response is moved out and handled, and when any was,
a syncing node checks whether the target is achieved. Returns the responses
left collected. -/
def syncerProcess (deps : SyncDeps σ) (st : NodeState σ) (collected : List HpfsLogResponse) :
    NodeState σ × List HpfsLogResponse :=
  if st.ctx.targetLogSeqNo > 0 then
    let st := checkHpfsLogSyncResponses deps st collected
    if st.ctx.isSyncing ∧ !collected.isEmpty then
      let r := getVerifiedMinRecord deps st
      (if r.1 = 1 then { r.2 with ctx := r.2.ctx.clearTarget } else r.2, [])
    else (st, [])
  else (st, collected)

/-- The locked block of one `hpfs_log_syncer_loop` iteration, on the collected
responses: the new state, what the request sending did, and the responses left
collected. -/
def syncerIteration (deps : SyncDeps σ) (now requestResubmitTimeout : Nat) (st : NodeState σ)
    (collected : List HpfsLogResponse) : NodeState σ × SendOutcome × List HpfsLogResponse :=
  let sent := syncerSend st.ctx now requestResubmitTimeout
  let processed := syncerProcess deps { st with ctx := sent.1 } collected
  (processed.1, sent.2, processed.2)

/-- `check_required_log_record_availability`: genesis is always served, any
other `min_record_id` only when the index holds its hash. -/
def checkRequiredLogRecordAvailability (deps : SyncDeps σ) (fs : σ) (lr : HpfsLogRequest) : Bool :=
  lr.minRecordId = genesisSeqHash deps ||
    deps.hpfs.getHashFromIndexBySeqNo fs lr.minRecordId.seqNo == some lr.minRecordId.hash

/-- The response `check_hpfs_log_sync_requests` sends for one request. -/
def serveHpfsLogRequest (deps : SyncDeps σ) (fs : σ) (lr : HpfsLogRequest) : Option HpfsLogResponse :=
  if checkRequiredLogRecordAvailability deps fs lr then
    (deps.hpfs.readHpfsLogs fs lr.minRecordId.seqNo lr.targetSeqNo).map fun bytes => ⟨lr.minRecordId, bytes⟩
  else none

/-! ## What each function does to the context -/

theorem sendHpfsLogSyncRequest_requestSubmissions (ctx : SyncContext) (now t : Nat) :
    (sendHpfsLogSyncRequest ctx now t).1.requestSubmissions =
      ctx.requestSubmissions + (sendHpfsLogSyncRequest ctx now t).2.requests.length := by
  unfold sendHpfsLogSyncRequest
  split
  · split <;> rfl
  · rfl

theorem handleHpfsLogSyncResponse_ctx (deps : SyncDeps σ) (st : NodeState σ) (r : HpfsLogResponse) :
    (handleHpfsLogSyncResponse deps st r).2.ctx = st.ctx := by
  unfold handleHpfsLogSyncResponse
  split
  · rfl
  · split <;> rfl

theorem checkHpfsLogSyncResponses_ctx (deps : SyncDeps σ) (st : NodeState σ) (rs : List HpfsLogResponse) :
    (checkHpfsLogSyncResponses deps st rs).ctx = st.ctx := by
  induction rs generalizing st with
  | nil => rfl
  | cons r rs ih => exact (ih _).trans (handleHpfsLogSyncResponse_ctx deps st r)

/-- `get_verified_min_record` writes no field of the context but
`min_log_record`. -/
theorem getVerifiedMinRecord_ctx (deps : SyncDeps σ) (st : NodeState σ) :
    ∃ m, (getVerifiedMinRecord deps st).2.ctx = { st.ctx with minLogRecord := m } := by
  cases hli : deps.hpfs.getLastSeqNoFromIndex st.fs with
  | none => exact ⟨_, by rw [getVerifiedMinRecord_of_none hli]⟩
  | some li =>
    obtain ⟨-, ⟨-, h, -⟩ | ⟨-, h, -⟩ | ⟨-, h, -⟩⟩ := getVerifiedMinRecord_outcome deps st hli <;>
      exact ⟨_, h⟩

theorem getVerifiedMinRecord_requestSubmissions (deps : SyncDeps σ) (st : NodeState σ) :
    (getVerifiedMinRecord deps st).2.ctx.requestSubmissions = st.ctx.requestSubmissions := by
  obtain ⟨m, hm⟩ := getVerifiedMinRecord_ctx deps st
  rw [hm]

/-- The locked block of `set_sync_target` writes no field of the context but
the target and `min_log_record`. -/
theorem setSyncTargetLocked_ctx (deps : SyncDeps σ) (st : NodeState σ) (target : Nat) (h : H32) :
    (setSyncTargetLocked deps st target h).1.ctx = st.ctx ∨
      ∃ m, (setSyncTargetLocked deps st target h).1.ctx =
        { st.ctx with targetLogSeqNo := target, targetRootHash := h, minLogRecord := m } := by
  unfold setSyncTargetLocked
  split
  · exact .inl rfl
  · obtain ⟨m, hm⟩ := getVerifiedMinRecord_ctx deps
      { st with ctx := { st.ctx with targetLogSeqNo := target, targetRootHash := h } }
    refine .inr ⟨m, ?_⟩
    dsimp only
    split <;> exact hm

theorem setSyncTargetLocked_of_shuttingDown (deps : SyncDeps σ) {st : NodeState σ}
    (h : st.ctx.isShuttingDown = true) (target : Nat) (hash : H32) :
    setSyncTargetLocked deps st target hash = (st, false) := by
  simp [setSyncTargetLocked, h]

theorem syncerSend_requestSubmissions (ctx : SyncContext) (now t : Nat) :
    (syncerSend ctx now t).1.requestSubmissions =
      ctx.requestSubmissions + (syncerSend ctx now t).2.requests.length := by
  unfold syncerSend
  split
  · exact sendHpfsLogSyncRequest_requestSubmissions ctx now t
  · rfl

/-- Handling the collected responses writes no field of the context but
`min_log_record`, and clears the target when it finds it achieved. -/
theorem syncerProcess_ctx (deps : SyncDeps σ) (st : NodeState σ) (rs : List HpfsLogResponse) :
    ∃ m, (syncerProcess deps st rs).1.ctx = { st.ctx with minLogRecord := m } ∨
      (syncerProcess deps st rs).1.ctx = { st.ctx with minLogRecord := m }.clearTarget := by
  unfold syncerProcess
  split
  · dsimp only
    obtain ⟨m, hm⟩ := getVerifiedMinRecord_ctx deps (checkHpfsLogSyncResponses deps st rs)
    rw [checkHpfsLogSyncResponses_ctx] at hm
    split
    · split
      · exact ⟨m, .inr (by rw [hm])⟩
      · exact ⟨m, .inl hm⟩
    · exact ⟨_, .inl (checkHpfsLogSyncResponses_ctx deps st rs)⟩
  · exact ⟨_, .inl rfl⟩

theorem syncerProcess_requestSubmissions (deps : SyncDeps σ) (st : NodeState σ)
    (rs : List HpfsLogResponse) :
    (syncerProcess deps st rs).1.ctx.requestSubmissions = st.ctx.requestSubmissions := by
  obtain ⟨m, h | h⟩ := syncerProcess_ctx deps st rs <;> simp [h, SyncContext.clearTarget]

/-- What an iteration sends is decided by the context alone. -/
theorem syncerIteration_outcome (deps : SyncDeps σ) (now t : Nat) (st : NodeState σ) (rs : List HpfsLogResponse) :
    (syncerIteration deps now t st rs).2.1 = (syncerSend st.ctx now t).2 := rfl

/-- A request is sent only below `ABANDON_THRESHOLD`. -/
theorem syncerSend_sent_lt (ctx : SyncContext) (now t : Nat) :
    (syncerSend ctx now t).2.requests = [] ∨ ctx.requestSubmissions < abandonThreshold := by
  unfold syncerSend sendHpfsLogSyncRequest
  split
  · split
    · split
      · exact .inr ‹_›
      · exact .inl rfl
    · exact .inl rfl
  · exact .inl rfl

/-- One loop iteration counts exactly the request it sends. -/
theorem syncerIteration_requestSubmissions (deps : SyncDeps σ) (now t : Nat) (st : NodeState σ)
    (rs : List HpfsLogResponse) :
    (syncerIteration deps now t st rs).1.ctx.requestSubmissions =
      st.ctx.requestSubmissions + (syncerIteration deps now t st rs).2.1.requests.length :=
  (syncerProcess_requestSubmissions deps _ rs).trans (syncerSend_requestSubmissions st.ctx now t)

/-- An iteration keeps `request_submissions` within `ABANDON_THRESHOLD`: it
sends at most one request, and only below the threshold. -/
theorem syncerIteration_requestSubmissions_le (deps : SyncDeps σ) (now t : Nat) (st : NodeState σ)
    (rs : List HpfsLogResponse) (h : st.ctx.requestSubmissions ≤ abandonThreshold) :
    (syncerIteration deps now t st rs).1.ctx.requestSubmissions ≤ abandonThreshold := by
  rw [syncerIteration_requestSubmissions, syncerIteration_outcome]
  rcases syncerSend_sent_lt st.ctx now t with hs | hs
  · simpa [hs] using h
  · have := (syncerSend st.ctx now t).2.requests_length_le
    omega

/-! ## A sync makes progress -/

/-- With a target and a (re)submission due, the request sending either
abandons, clearing the target, or counts a request sent at `now`. -/
theorem syncerSend_due {ctx : SyncContext} {now t : Nat} (htarget : ctx.targetLogSeqNo > 0)
    (hdue : ctx.targetRequestedOn = 0 ∨ sub64 now ctx.targetRequestedOn > t) :
    (syncerSend ctx now t).1 = ctx.clearTarget ∨
      (syncerSend ctx now t).1 =
        { ctx with targetRequestedOn := now, requestSubmissions := ctx.requestSubmissions + 1 } := by
  simp only [syncerSend, sendHpfsLogSyncRequest, htarget, hdue, if_true]
  split
  · exact .inr rfl
  · exact .inl rfl

theorem syncerIteration_isShuttingDown (deps : SyncDeps σ) (now t : Nat) (st : NodeState σ)
    (rs : List HpfsLogResponse) :
    (syncerIteration deps now t st rs).1.ctx.isShuttingDown = st.ctx.isShuttingDown := by
  obtain ⟨m, h | h⟩ := syncerProcess_ctx deps { st with ctx := (syncerSend st.ctx now t).1 } rs <;>
    simp only [syncerIteration, h, SyncContext.clearTarget] <;>
    unfold syncerSend sendHpfsLogSyncRequest <;> split_ifs <;> rfl

/-- Without a target an iteration leaves the target unset. -/
theorem syncerIteration_target_of_eq_zero (deps : SyncDeps σ) (now t : Nat) {st : NodeState σ}
    (rs : List HpfsLogResponse) (h : st.ctx.targetLogSeqNo = 0) :
    (syncerIteration deps now t st rs).1.ctx.targetLogSeqNo = 0 := by
  simp [syncerIteration, syncerSend, syncerProcess, h]

/-- An iteration with a target and a (re)submission due either ends the
target, or counts one more request, sent at `now`. -/
theorem syncerIteration_due (deps : SyncDeps σ) {now t : Nat} {st : NodeState σ}
    (rs : List HpfsLogResponse) (htarget : st.ctx.targetLogSeqNo > 0)
    (hdue : st.ctx.targetRequestedOn = 0 ∨ sub64 now st.ctx.targetRequestedOn > t) :
    (syncerIteration deps now t st rs).1.ctx.targetLogSeqNo = 0 ∨
      ((syncerIteration deps now t st rs).1.ctx.requestSubmissions = st.ctx.requestSubmissions + 1 ∧
        (syncerIteration deps now t st rs).1.ctx.targetRequestedOn = now) := by
  obtain ⟨m, h | h⟩ := syncerProcess_ctx deps { st with ctx := (syncerSend st.ctx now t).1 } rs <;>
    simp only [syncerIteration, h] <;>
    rcases syncerSend_due htarget hdue with hs | hs <;> simp [hs, SyncContext.clearTarget]

end Hpcore.LogSync
