import Hpcore.LogSync.Worker

/-! # Log sync as a system

A node running log sync, its peers and the network between them. The node is
the worker's state and the responses the p2p layer has collected for it;
the peers are any log stores that serve the requests in flight; messages in
flight can be delivered (and stay in flight, so a message can arrive twice),
reordered and lost. Consensus calls `set_sync_target` at any time, and other
components may replace the log store and the ledger.

The two threads of the node do not run their code whole. `set_sync_target`
releases `target_log_seq_no_mutex` before its tail resets the counter and
starts the sync, so a worker iteration can run in between; `deinit` writes
`is_shutting_down` without the mutex, so a `set_sync_target` past its check
or an iteration past its loop test still runs after it. The system keeps
where each thread stands.

A ghost counter records the requests sent since the tail of
`set_sync_target` last reset `request_submissions`. The counter equals it in
every reachable state, so the resubmission counter never sees the responses:
a sync is abandoned at the first due resubmission after `ABANDON_THRESHOLD`
requests, answered or not, and every sync ends within
`ABANDON_THRESHOLD + 1` due iterations. -/

namespace Hpcore.LogSync
open Hpcore.Msg Hpcore.Conf

variable {σ : Type}

/-- The node's log sync, the messages in flight, the ghost count of the
requests sent since the counter was last reset, and where the two threads
stand. -/
structure SyncSystem (σ : Type) where
  node : NodeState σ
  collected : List HpfsLogResponse
  network : List P2PMsg
  sendsSinceReset : Nat
  /-- the caller of `set_sync_target` has left its locked block and not yet
  run its tail -/
  tailPending : Bool
  /-- the worker has passed its `while (!is_shutting_down)` test and not yet
  run the iteration -/
  pastCheck : Bool

/-- What can happen next. -/
inductive SyncAction (σ : Type)
  /-- consensus calls `set_sync_target`, and nothing runs between its halves -/
  | setSyncTarget (target : Nat) (targetRootHash : H32)
  /-- consensus calls `set_sync_target` and stops after its locked block -/
  | setSyncTargetLocked (target : Nat) (targetRootHash : H32)
  /-- the `set_sync_target` call that stopped runs its tail -/
  | setSyncTargetTail
  /-- the worker passes its loop test and stops there -/
  | syncerCheck
  /-- one iteration of `hpfs_log_syncer_loop` at time `now`, from its loop
  test on unless the worker is past it -/
  | syncerIteration (now : Nat)
  /-- a peer with log store `peerFs` serves the `i`-th message in flight -/
  | serve (i : Nat) (peerFs : σ) (now : Nat)
  /-- the `i`-th message in flight reaches the node in a buffer of `size`
  bytes; it stays in flight -/
  | deliver (i : Nat) (now size : Nat) (challengeVerified : Bool)
  /-- the `i`-th message in flight is lost -/
  | drop (i : Nat)
  /-- another component replaces the log store and the ledger -/
  | external (fs : σ) (ledger : LedgerView)
  /-- `deinit` writes `is_shutting_down` -/
  | shutdown

/-- The actions that leave the sync context alone: serving, delivering and
losing messages, and changes of the log store and the ledger. -/
def SyncAction.keepsCtx : SyncAction σ → Bool
  | .serve .. | .deliver .. | .drop _ | .external .. => true
  | _ => false

/-- The node at start-up, with nothing collected or in flight. -/
def SyncSystem.init (node : NodeState σ) : SyncSystem σ := ⟨node, [], [], 0, false, false⟩

/-- `k` worker iterations from time `t` on, spaced `T + 1` apart; after the
iteration at time `t'` come the actions `between t'`. -/
def spacedRounds (T : Nat) (between : Nat → List (SyncAction σ)) : Nat → Nat → List (SyncAction σ)
  | _, 0 => []
  | t, k + 1 => .syncerIteration t :: (between t ++ spacedRounds T between (t + T + 1) k)

section Run

variable (deps : SyncDeps σ) (cfg : HpConfig) (requestResubmitTimeout : Nat)

/-- The locked block of `set_sync_target`, when its caller is free. -/
def SyncSystem.setTargetLocked (s : SyncSystem σ) (target : Nat) (h : H32) : SyncSystem σ :=
  if s.tailPending then s
  else
    let r := setSyncTargetLocked deps s.node target h
    { s with node := r.1, tailPending := r.2 }

/-- The tail of `set_sync_target`, when a call stopped before it: the counter
and the ghost count are reset. -/
def SyncSystem.setTargetTail (s : SyncSystem σ) : SyncSystem σ :=
  if s.tailPending then
    { s with node := { s.node with ctx := s.node.ctx.startSync }, sendsSinceReset := 0, tailPending := false }
  else s

/-- One step of the system. A request is served as `check_hpfs_log_sync_requests`
does, and a response reaches the worker's collected list when
`get_peer_message_info` admits it. -/
def SyncSystem.step (s : SyncSystem σ) : SyncAction σ → SyncSystem σ
  | .setSyncTarget target h => if s.tailPending then s else (s.setTargetLocked deps target h).setTargetTail
  | .setSyncTargetLocked target h => s.setTargetLocked deps target h
  | .setSyncTargetTail => s.setTargetTail
  | .syncerCheck => if s.pastCheck || s.node.ctx.isShuttingDown then s else { s with pastCheck := true }
  | .syncerIteration now =>
    if !s.pastCheck && s.node.ctx.isShuttingDown then s
    else
      let r := syncerIteration deps now requestResubmitTimeout s.node s.collected
      { s with node := r.1, collected := r.2.2
               network := s.network ++ r.2.1.requests.map (createMsgFromHpfsLogRequest now)
               sendsSinceReset := s.sendsSinceReset + r.2.1.requests.length
               pastCheck := false }
  | .serve i peerFs now =>
    match s.network[i]? >>= (·.content.asHpfsLogRequest) with
    | some lm =>
      match serveHpfsLogRequest deps peerFs (createHpfsLogRequestFromMsg lm) with
      | some r => { s with network := s.network ++ [createMsgFromHpfsLogResponse now r] }
      | none => s
    | none => s
  | .deliver i now size verified =>
    match s.network[i]? >>= (fun m => (getPeerMessageInfo cfg now ⟨m, size⟩ (some ⟨verified⟩)).p2pMsg) >>=
        (·.content.asHpfsLogResponse) with
    | some lm => { s with collected := s.collected ++ [createHpfsLogResponseFromMsg lm] }
    | none => s
  | .drop i => { s with network := s.network.eraseIdx i }
  | .external fs ledger => { s with node := { s.node with fs, ledger } }
  | .shutdown => { s with node := { s.node with ctx := { s.node.ctx with isShuttingDown := true } } }

/-- A whole `set_sync_target`, made while no call is stopped before its tail,
is its locked block followed at once by its tail. -/
theorem SyncSystem.step_setSyncTarget {s : SyncSystem σ} (hp : s.tailPending = false) (target : Nat) (h : H32) :
    s.step deps cfg requestResubmitTimeout (.setSyncTarget target h) =
      (s.step deps cfg requestResubmitTimeout (.setSyncTargetLocked target h)).step deps cfg
        requestResubmitTimeout .setSyncTargetTail := by
  simp [SyncSystem.step, hp]

/-- The actions `as` taken one after the other. -/
def SyncSystem.run (s : SyncSystem σ) (as : List (SyncAction σ)) : SyncSystem σ :=
  as.foldl (SyncSystem.step deps cfg requestResubmitTimeout) s

@[simp] theorem SyncSystem.run_cons (s : SyncSystem σ) (a : SyncAction σ) (as : List (SyncAction σ)) :
    s.run deps cfg requestResubmitTimeout (a :: as) =
      (s.step deps cfg requestResubmitTimeout a).run deps cfg requestResubmitTimeout as := rfl

@[simp] theorem SyncSystem.run_append (s : SyncSystem σ) (as bs : List (SyncAction σ)) :
    s.run deps cfg requestResubmitTimeout (as ++ bs) =
      (s.run deps cfg requestResubmitTimeout as).run deps cfg requestResubmitTimeout bs :=
  List.foldl_append _ _ _ _

/-- Serving, delivering and losing messages and outside changes leave the
sync context alone and move neither thread. -/
theorem SyncSystem.step_of_keepsCtx {s : SyncSystem σ} {a : SyncAction σ} (ha : a.keepsCtx) :
    (s.step deps cfg requestResubmitTimeout a).node.ctx = s.node.ctx ∧
      (s.step deps cfg requestResubmitTimeout a).tailPending = s.tailPending ∧
      (s.step deps cfg requestResubmitTimeout a).pastCheck = s.pastCheck := by
  cases a with
  | serve i peerFs now =>
    simp only [SyncSystem.step]
    split
    · split <;> exact ⟨rfl, rfl, rfl⟩
    · exact ⟨rfl, rfl, rfl⟩
  | deliver i now size verified =>
    simp only [SyncSystem.step]
    split <;> exact ⟨rfl, rfl, rfl⟩
  | drop _ | external _ _ => exact ⟨rfl, rfl, rfl⟩
  | setSyncTarget _ _ | setSyncTargetLocked _ _ | setSyncTargetTail | syncerCheck | syncerIteration _
  | shutdown => cases ha

theorem SyncSystem.run_ctx_of_keepsCtx {s : SyncSystem σ} {as : List (SyncAction σ)}
    (h : ∀ a ∈ as, a.keepsCtx) : (s.run deps cfg requestResubmitTimeout as).node.ctx = s.node.ctx := by
  induction as generalizing s with
  | nil => rfl
  | cons a as ih =>
    rw [List.forall_mem_cons] at h
    exact (ih h.2).trans (SyncSystem.step_of_keepsCtx deps cfg requestResubmitTimeout h.1).1

/-- The states reachable from a node that starts with no target. -/
inductive Reachable : SyncSystem σ → Prop
  | init (node : NodeState σ) (h : node.ctx = SyncContext.initial) : Reachable (SyncSystem.init node)
  | step {s : SyncSystem σ} (a : SyncAction σ) : Reachable s →
      Reachable (s.step deps cfg requestResubmitTimeout a)

theorem Reachable.run {s : SyncSystem σ} (h : Reachable deps cfg requestResubmitTimeout s) :
    ∀ as, Reachable deps cfg requestResubmitTimeout (s.run deps cfg requestResubmitTimeout as) := by
  intro as
  induction as generalizing s with
  | nil => exact h
  | cons a as ih => exact ih (.step a h)

/-! ## A target installed without a sync

When `get_verified_min_record` finds the log already at the target,
`set_sync_target` returns after writing the target, without starting the
sync; the worker then requests logs for it. -/

/-- A node whose log and ledger agree at 1 and whose files hash to `fill 1`. -/
def inSyncNode : NodeState IndexLog :=
  ⟨SyncContext.initial, { chainLog 1 with patchHash := H32.fill 1 },
    ledgerOf [(H32.fill 1, H32.empty)] (by decide), []⟩

/-- The node after consensus sets the target `(1, fill 1)` it already holds. -/
def inSyncSystem : SyncSystem IndexLog :=
  (SyncSystem.init inSyncNode).run runDeps default 5 [.setSyncTarget 1 (H32.fill 1)]

theorem in_sync_target_left_installed :
    Reachable runDeps default 5 inSyncSystem ∧
    inSyncSystem.node.ctx.targetLogSeqNo = 1 ∧ inSyncSystem.node.ctx.isSyncing = false ∧
    (inSyncSystem.step runDeps default 5 (.syncerIteration 5)).network =
      [createMsgFromHpfsLogRequest 5 ⟨1, ⟨0, H32.empty⟩⟩] :=
  ⟨(Reachable.init _ rfl).run _ _ _ _, by decide⟩

/-! ## Appends at a stale joining point

`handle_hpfs_log_sync_response` compares a response with `min_log_record`,
which the appends of a batch do not move: a response that arrives twice is
appended twice. -/

/-- The end of a log: the last `(seq_no, root)` of its index. -/
def logEnd (deps : SyncDeps σ) (fs : σ) : Option SequenceHash :=
  deps.hpfs.getLastSeqNoFromIndex fs >>= fun li => (deps.hpfs.getHashFromIndexBySeqNo fs li).map (⟨li, ·⟩)

/-- A node holding record 1 of a ledger at 3. -/
def behindNode : NodeState IndexLog :=
  ⟨SyncContext.initial, chainLog 1, ledgerOf ((chainRoots 3).map fun h => (h, H32.empty)) (by decide), []⟩

/-- The node starts the sync to 3, sends its request, a peer holding records
`1..3` answers, and the answer is delivered twice. -/
def duplicateSystem : SyncSystem IndexLog :=
  (SyncSystem.init behindNode).run runDeps default 5
    [.setSyncTarget 3 (H32.fill 3), .syncerIteration 10, .serve 0 (chainLog 3) 10,
      .deliver 1 10 100 true, .deliver 1 10 100 true]

/-- The peer's answer: records 2 and 3 after the joining point `(1, fill 1)`. -/
def duplicateResponse : HpfsLogResponse :=
  ⟨⟨1, H32.fill 1⟩, ((chainRoots 3).drop 1).flatMap H32.bytes⟩

/-- The next iteration (at 11, no resubmission due) handles the batch
`[r, r]` from the node's state: the first append continues the log from its
end `(1, fill 1)`, the second is made at the end `(3, fill 3)` and appends
records 2 and 3 again. -/
theorem duplicate_response_appended_twice :
    Reachable runDeps default 5 duplicateSystem ∧
    duplicateSystem.collected = [duplicateResponse, duplicateResponse] ∧
    syncerSend duplicateSystem.node.ctx 11 5 = (duplicateSystem.node.ctx, .idle) ∧
    logEnd runDeps duplicateSystem.node.fs = some duplicateResponse.minRecordId ∧
    logEnd runDeps (handleHpfsLogSyncResponse runDeps duplicateSystem.node duplicateResponse).2.fs =
      some ⟨3, H32.fill 3⟩ ∧
    (handleHpfsLogSyncResponse runDeps (handleHpfsLogSyncResponse runDeps duplicateSystem.node
      duplicateResponse).2 duplicateResponse).2.fs.roots = chainRoots 3 ++ (chainRoots 3).drop 1 :=
  ⟨(Reachable.init _ rfl).run _ _ _ _, by decide⟩

/-! ## The resubmission counter counts requests, not answers -/

/-- The invariant of the resubmission counter: `request_submissions` is the
number of requests sent since the tail of `set_sync_target` last reset it, and
at most `ABANDON_THRESHOLD`. -/
structure CounterInv (s : SyncSystem σ) : Prop where
  counted : s.node.ctx.requestSubmissions = s.sendsSinceReset
  le_threshold : s.node.ctx.requestSubmissions ≤ abandonThreshold

theorem CounterInv.setTargetLocked {s : SyncSystem σ} (h : CounterInv s) (target : Nat) (hash : H32) :
    CounterInv (s.setTargetLocked deps target hash) := by
  unfold SyncSystem.setTargetLocked
  split
  · exact h
  · have hr : (setSyncTargetLocked deps s.node target hash).1.ctx.requestSubmissions =
        s.node.ctx.requestSubmissions := by
      rcases setSyncTargetLocked_ctx deps s.node target hash with hc | ⟨m, hc⟩ <;> rw [hc]
    exact ⟨hr.trans h.counted, hr ▸ h.le_threshold⟩

theorem CounterInv.setTargetTail {s : SyncSystem σ} (h : CounterInv s) : CounterInv s.setTargetTail := by
  unfold SyncSystem.setTargetTail
  split
  · exact ⟨rfl, Nat.zero_le _⟩
  · exact h

theorem CounterInv.step {s : SyncSystem σ} (h : CounterInv s) (a : SyncAction σ) :
    CounterInv (s.step deps cfg requestResubmitTimeout a) := by
  obtain ⟨hc, hle⟩ := h
  cases a with
  | setSyncTarget target hash =>
    simp only [SyncSystem.step]
    split
    · exact ⟨hc, hle⟩
    · exact (CounterInv.setTargetLocked deps ⟨hc, hle⟩ target hash).setTargetTail
  | setSyncTargetLocked target hash => exact CounterInv.setTargetLocked deps ⟨hc, hle⟩ target hash
  | setSyncTargetTail => exact CounterInv.setTargetTail ⟨hc, hle⟩
  | syncerCheck =>
    simp only [SyncSystem.step]
    split <;> exact ⟨hc, hle⟩
  | syncerIteration now =>
    simp only [SyncSystem.step]
    split
    · exact ⟨hc, hle⟩
    · exact ⟨by simp only [syncerIteration_requestSubmissions, hc],
        syncerIteration_requestSubmissions_le deps now _ _ _ hle⟩
  | serve i peerFs now =>
    simp only [SyncSystem.step]
    split
    · split <;> exact ⟨hc, hle⟩
    · exact ⟨hc, hle⟩
  | deliver i now size verified =>
    simp only [SyncSystem.step]
    split <;> exact ⟨hc, hle⟩
  | drop _ | external _ _ | shutdown => exact ⟨hc, hle⟩

theorem Reachable.counterInv {s : SyncSystem σ}
    (h : Reachable deps cfg requestResubmitTimeout s) : CounterInv s := by
  induction h with
  | init node h => constructor <;> simp [SyncSystem.init, h, SyncContext.initial]
  | step a _ ih => exact ih.step deps cfg requestResubmitTimeout a

/-- **The resubmission counter stays within its threshold.** In every
reachable state `request_submissions`, a `uint16_t`, is at most
`ABANDON_THRESHOLD`, so its increment never wraps. -/
theorem request_submissions_le_threshold {s : SyncSystem σ} (hr : Reachable deps cfg requestResubmitTimeout s) :
    s.node.ctx.requestSubmissions ≤ abandonThreshold :=
  (hr.counterInv deps cfg requestResubmitTimeout).le_threshold

/-! ## After `deinit`

`deinit` writes `is_shutting_down` without taking the mutex. A thread that
has passed its check of the flag still runs: a `set_sync_target` stopped
before its tail, and a worker past its loop test. No new call or iteration
starts, and once those two have run the context no longer changes. -/

/-- After `deinit`'s write a new `set_sync_target` returns at its check. -/
theorem SyncSystem.setTargetLocked_of_shuttingDown {s : SyncSystem σ} (h : s.node.ctx.isShuttingDown = true)
    (target : Nat) (hash : H32) : s.setTargetLocked deps target hash = s := by
  unfold SyncSystem.setTargetLocked
  split
  · rfl
  · next hp => simp only [setSyncTargetLocked_of_shuttingDown deps h, ← Bool.eq_false_iff.2 hp]

/-- One step after `deinit`'s write: the flag stays, no thread gets past its
check anew, and only a thread already past it changes the context. -/
theorem SyncSystem.step_of_shuttingDown {s : SyncSystem σ} (h : s.node.ctx.isShuttingDown = true)
    (a : SyncAction σ) :
    (s.step deps cfg requestResubmitTimeout a).node.ctx.isShuttingDown = true ∧
      ((s.step deps cfg requestResubmitTimeout a).tailPending = true → s.tailPending = true) ∧
      ((s.step deps cfg requestResubmitTimeout a).pastCheck = true → s.pastCheck = true) ∧
      (s.tailPending = false → s.pastCheck = false →
        (s.step deps cfg requestResubmitTimeout a).node.ctx = s.node.ctx) := by
  by_cases ha : a.keepsCtx
  · obtain ⟨hctx, ht, hp⟩ := SyncSystem.step_of_keepsCtx deps cfg requestResubmitTimeout (s := s) ha
    exact ⟨hctx ▸ h, fun e => ht ▸ e, fun e => hp ▸ e, fun _ _ => hctx⟩
  cases a with
  | setSyncTarget target hash =>
    have hs : s.step deps cfg requestResubmitTimeout (.setSyncTarget target hash) = s := by
      by_cases hp : s.tailPending <;>
        simp [SyncSystem.step, SyncSystem.setTargetLocked_of_shuttingDown deps h, SyncSystem.setTargetTail, hp]
    rw [hs]
    exact ⟨h, id, id, fun _ _ => rfl⟩
  | setSyncTargetLocked target hash =>
    rw [SyncSystem.step, SyncSystem.setTargetLocked_of_shuttingDown deps h]
    exact ⟨h, id, id, fun _ _ => rfl⟩
  | setSyncTargetTail =>
    simp only [SyncSystem.step, SyncSystem.setTargetTail]
    split
    · next hp => exact ⟨h, fun _ => hp, id, fun ht => absurd hp (by simp [ht])⟩
    · exact ⟨h, id, id, fun _ _ => rfl⟩
  | syncerCheck =>
    have hs : s.step deps cfg requestResubmitTimeout .syncerCheck = s := by simp [SyncSystem.step, h]
    rw [hs]
    exact ⟨h, id, id, fun _ _ => rfl⟩
  | syncerIteration now =>
    simp only [SyncSystem.step]
    split
    · exact ⟨h, id, id, fun _ _ => rfl⟩
    · next hp =>
      refine ⟨by rw [syncerIteration_isShuttingDown, h], id, by simp, fun _ hc => absurd hc ?_⟩
      simpa [h] using hp
  | serve _ _ _ | deliver _ _ _ _ | drop _ | external _ _ => exact absurd rfl ha
  | shutdown =>
    refine ⟨rfl, id, id, fun _ _ => ?_⟩
    show { s.node.ctx with isShuttingDown := true } = s.node.ctx
    rw [← h]

/-- **After `deinit`, only work in flight changes the sync context.** Once
`is_shutting_down` is set, every run keeps it set and lets no `set_sync_target`
call or loop iteration start anew; a `set_sync_target` stopped before its tail
or a worker past its loop test may still write the context, and from a state
where neither is in flight no run changes the sync context. -/
theorem shutdown_freezes_sync_context {s : SyncSystem σ} (h : s.node.ctx.isShuttingDown = true)
    (as : List (SyncAction σ)) :
    (s.run deps cfg requestResubmitTimeout as).node.ctx.isShuttingDown = true ∧
      ((s.run deps cfg requestResubmitTimeout as).tailPending = true → s.tailPending = true) ∧
      ((s.run deps cfg requestResubmitTimeout as).pastCheck = true → s.pastCheck = true) ∧
      (s.tailPending = false → s.pastCheck = false →
        (s.run deps cfg requestResubmitTimeout as).node.ctx = s.node.ctx) := by
  induction as generalizing s with
  | nil => exact ⟨h, id, id, fun _ _ => rfl⟩
  | cons a as ih =>
    obtain ⟨h1, h2, h3, h4⟩ := SyncSystem.step_of_shuttingDown deps cfg requestResubmitTimeout h a
    obtain ⟨i1, i2, i3, i4⟩ := ih h1
    refine ⟨i1, h2 ∘ i2, h3 ∘ i3, fun ht hp => (i4 ?_ ?_).trans (h4 ht hp)⟩
    · exact Bool.eq_false_iff.2 (mt h2 (by simp [ht]))
    · exact Bool.eq_false_iff.2 (mt h3 (by simp [hp]))

/-- A node shut down with nothing in flight. -/
def shutDownSystem : SyncSystem IndexLog := (SyncSystem.init inSyncNode).step runDeps default 5 .shutdown

/-- Calls after the shutdown: a new target, the worker's loop test and an
iteration. -/
def lateCalls : List (SyncAction IndexLog) := [.setSyncTarget 1 (H32.fill 1), .syncerCheck, .syncerIteration 5]

theorem shut_down_node_ignores_target :
    shutDownSystem.node.ctx.isShuttingDown = true ∧
      ((shutDownSystem.run runDeps default 5 lateCalls).node.ctx.isShuttingDown = true ∧
        ((shutDownSystem.run runDeps default 5 lateCalls).tailPending = true → shutDownSystem.tailPending = true) ∧
        ((shutDownSystem.run runDeps default 5 lateCalls).pastCheck = true → shutDownSystem.pastCheck = true) ∧
        (shutDownSystem.tailPending = false → shutDownSystem.pastCheck = false →
          (shutDownSystem.run runDeps default 5 lateCalls).node.ctx = shutDownSystem.node.ctx)) :=
  ⟨rfl, shutdown_freezes_sync_context runDeps default 5 rfl _⟩

/-- The rounds of `spacedRounds` from time `t` end the target when it is unset
already, or when the first is due and they are enough to reach
`ABANDON_THRESHOLD + 1` requests. -/
theorem SyncSystem.spacedRounds_target {between : Nat → List (SyncAction σ)}
    (hb : ∀ t, ∀ a ∈ between t, a.keepsCtx) (k : Nat) {t : Nat} {s : SyncSystem σ}
    (hr : Reachable deps cfg requestResubmitTimeout s) (hshut : s.node.ctx.isShuttingDown = false)
    (h64 : t + k * (requestResubmitTimeout + 1) ≤ 2 ^ 64)
    (h : s.node.ctx.targetLogSeqNo = 0 ∨
      ((s.node.ctx.targetRequestedOn = 0 ∨ s.node.ctx.targetRequestedOn + requestResubmitTimeout < t) ∧
        abandonThreshold + 1 ≤ s.node.ctx.requestSubmissions + k)) :
    (s.run deps cfg requestResubmitTimeout
      (spacedRounds requestResubmitTimeout between t k)).node.ctx.targetLogSeqNo = 0 := by
  induction k generalizing t s with
  | zero =>
    rcases h with h | ⟨-, hk⟩
    · exact h
    · have := (hr.counterInv deps cfg requestResubmitTimeout).le_threshold
      omega
  | succ k ih =>
    have hmul : (k + 1) * (requestResubmitTimeout + 1) =
        k * (requestResubmitTimeout + 1) + (requestResubmitTimeout + 1) := Nat.succ_mul _ _
    -- the state after the iteration at `t` and the actions after it
    have hctx : ((s.step deps cfg requestResubmitTimeout (.syncerIteration t)).run deps cfg
        requestResubmitTimeout (between t)).node.ctx =
        (syncerIteration deps t requestResubmitTimeout s.node s.collected).1.ctx := by
      rw [SyncSystem.run_ctx_of_keepsCtx deps cfg requestResubmitTimeout (hb t)]
      simp [SyncSystem.step, hshut]
    rw [spacedRounds, SyncSystem.run_cons, SyncSystem.run_append]
    refine ih ((hr.step _).run _ _ _ _) (by rw [hctx, syncerIteration_isShuttingDown, hshut]) (by omega) ?_
    rw [hctx]
    rcases Nat.eq_zero_or_pos s.node.ctx.targetLogSeqNo with h0 | hpos
    · exact .inl (syncerIteration_target_of_eq_zero deps t _ _ h0)
    obtain ⟨hdue, hk⟩ := h.resolve_left (by omega)
    have hdue' : s.node.ctx.targetRequestedOn = 0 ∨
        sub64 t s.node.ctx.targetRequestedOn > requestResubmitTimeout :=
      hdue.imp_right fun hlt => by rw [sub64_of_le (by omega) (by omega)]; omega
    rcases syncerIteration_due deps s.collected hpos hdue' with h0 | ⟨hrs, hon⟩
    · exact .inl h0
    · exact .inr ⟨.inr (by omega), by omega⟩

/-- **Every sync ends.** From any reachable state of a running node, whatever
the peers answer and whatever messages are served, delivered or lost in
between, `ABANDON_THRESHOLD + 1` worker iterations spaced more than
`request_resubmit_timeout` apart, the first with a (re)submission due, leave
the node without a target: the sync was achieved or abandoned. -/
theorem sync_ends_within_threshold {s : SyncSystem σ} (hr : Reachable deps cfg requestResubmitTimeout s)
    (hshut : s.node.ctx.isShuttingDown = false) {t : Nat}
    (hdue : s.node.ctx.targetRequestedOn = 0 ∨ s.node.ctx.targetRequestedOn + requestResubmitTimeout < t)
    (h64 : t + (abandonThreshold + 1) * (requestResubmitTimeout + 1) ≤ 2 ^ 64)
    (between : Nat → List (SyncAction σ)) (hb : ∀ t, ∀ a ∈ between t, a.keepsCtx) :
    (s.run deps cfg requestResubmitTimeout
      (spacedRounds requestResubmitTimeout between t (abandonThreshold + 1))).node.ctx.targetLogSeqNo = 0 :=
  SyncSystem.spacedRounds_target deps cfg requestResubmitTimeout hb _ hr hshut h64 (.inr ⟨hdue, by omega⟩)

/-- The target installed without a sync is dropped after ten unanswered
requests. -/
theorem installed_target_abandoned :
    inSyncSystem.node.ctx.targetLogSeqNo = 1 ∧
    (inSyncSystem.run runDeps default 5
      (spacedRounds 5 (fun _ => []) 10 (abandonThreshold + 1))).node.ctx.targetLogSeqNo = 0 :=
  ⟨by decide, sync_ends_within_threshold runDeps default 5 ((Reachable.init _ rfl).run _ _ _ _) (by decide)
    (.inl (by decide)) (by decide) _ (by simp)⟩

end Run

/-- A node with an empty log and a ledger at 12. -/
def advancingNode : NodeState IndexLog :=
  ⟨SyncContext.initial, chainLog 0, ledgerOf ((chainRoots 12).map fun h => (h, H32.empty)) (by decide), []⟩

/-- Round `k`: a due request, answered by a peer one record ahead, the answer
delivered and handled. -/
def advancingRound (k : Fin 10) : List (SyncAction IndexLog) :=
  [.syncerIteration (10 * k + 10), .serve 0 (chainLog ⟨k + 1, by omega⟩) (10 * k + 10),
    .deliver 1 (10 * k + 10) 100 true, .drop 1, .drop 0, .syncerIteration (10 * k + 11)]

/-- The sync to 12 after ten answered rounds. -/
def advancedSystem : SyncSystem IndexLog :=
  (SyncSystem.init advancingNode).run runDeps default 5
    (.setSyncTarget 12 (H32.fill 12) :: (List.finRange 10).flatMap advancingRound)

theorem advancedSystem_reachable : Reachable runDeps default 5 advancedSystem :=
  (Reachable.init advancingNode rfl).run _ _ _ (.setSyncTarget 12 (H32.fill 12) :: (List.finRange 10).flatMap advancingRound)

theorem advanced_system_submissions_bounded :
    advancedSystem.node.ctx.requestSubmissions ≤ abandonThreshold :=
  request_submissions_le_threshold runDeps default 5 advancedSystem_reachable

end Hpcore.LogSync
