import Hpcore.Util

/-! # The log-sync context and the node it runs on

The state `hpfs_log_sync.cpp` works on. The hpfs daemon and the ledger
database are outside the sources: the hpfs log of a node is a store `σ` with
the operations log sync calls (`HpfsLog`), and the ledger is what log sync
reads of it (`LedgerView`). Every call that can fail returns `Option`; `none`
is the `-1` of the source. `IndexLog` is one concrete hpfs log, used to run
the model on concrete nodes. -/

namespace Hpcore.LogSync

/-- `sc::STATE_DIR_PATH` (`sc.hpp` is not part of the sources). -/
def stateDirPath : String := "/state"

/-- `sc::PATCH_FILE_PATH` (`sc.hpp` is not part of the sources). -/
def patchFilePath : String := "/patch.cfg"

/-- `sync_context`, the fields `hpfs_log_sync.cpp` uses (`hpfs_log_sync.hpp` is
not part of the sources). -/
structure SyncContext where
  targetLogSeqNo : Nat
  targetRootHash : H32
  minLogRecord : SequenceHash
  isSyncing : Bool
  targetRequestedOn : Nat
  requestSubmissions : Nat
  isShuttingDown : Bool
  deriving DecidableEq

/-- The state before any target: no target, not syncing. -/
def SyncContext.initial : SyncContext :=
  ⟨0, H32.empty, ⟨0, H32.empty⟩, false, 0, 0, false⟩

/-- `sync_context::clear_target` (declared in `hpfs_log_sync.hpp`, not part of
the sources; modelled from its name and its two callers, which end the sync):
the target is dropped and the sync ends, the other fields are kept. -/
def SyncContext.clearTarget (ctx : SyncContext) : SyncContext :=
  { ctx with targetLogSeqNo := 0, targetRootHash := H32.empty, isSyncing := false }

/-- The hpfs log operations log sync calls on a store `σ`. `rootHashes` reads
`(state_hash, patch_hash)` through a read-only session. Sequence numbers are
`uint64_t`. -/
structure HpfsLog (σ : Type) where
  getLastSeqNoFromIndex : σ → Option Nat
  lastSeqNo_lt : ∀ s n, getLastSeqNoFromIndex s = some n → n < 2 ^ 64
  getHashFromIndexBySeqNo : σ → Nat → Option H32
  truncateLogFile : σ → Nat → Option σ
  readHpfsLogs : σ → Nat → Nat → Option Bytes
  appendHpfsLogRecords : σ → Bytes → Option σ
  rootHashes : σ → Option (H32 × H32)

/-- What log sync reads of the ledger: the last closed ledger's `seq_no`, and
the `(config_hash, state_hash)` of a row (`none` when the shard or the row
cannot be read, or the read-only session fails). -/
structure LedgerView where
  lclSeqNo : Nat
  lclSeqNo_lt : lclSeqNo < 2 ^ 64
  record : Nat → Option (H32 × H32)
  roSessionOk : Bool

/-- The external pieces: the hpfs operations, `hpfs::get_root_hash`, and the
`(config_hash, state_hash)` of `ledger::genesis`, whose `seq_no` is 0. -/
structure SyncDeps (σ : Type) where
  hpfs : HpfsLog σ
  getRootHash : H32 → H32 → H32
  genesis : H32 × H32

/-- A node as log sync sees it: the sync context, its hpfs log, its ledger and
the in-memory parent hash tree of its contract fs. -/
structure NodeState (σ : Type) where
  ctx : SyncContext
  fs : σ
  ledger : LedgerView
  parentHashes : List (String × H32)

variable {σ : Type}

/-- `genesis_seq_hash`. -/
def genesisSeqHash (deps : SyncDeps σ) : SequenceHash :=
  ⟨0, deps.getRootHash deps.genesis.1 deps.genesis.2⟩

/-- `hpfs_mount::set_parent_hash`. -/
def setParentHash (m : List (String × H32)) (vpath : String) (h : H32) : List (String × H32) :=
  (vpath, h) :: m.filter (·.1 ≠ vpath)

/-- `hpfs_mount::get_parent_hash`. -/
def getParentHash (m : List (String × H32)) (vpath : String) : Option H32 :=
  (m.find? (·.1 = vpath)).map Prod.snd

theorem getParentHash_filter_ne (m : List (String × H32)) {v w : String} (hw : w ≠ v) :
    getParentHash (m.filter (·.1 ≠ v)) w = getParentHash m w := by
  induction m with
  | nil => rfl
  | cons e m ih =>
    by_cases he : e.1 = v
    · have : e.1 ≠ w := fun h => hw (h ▸ he)
      simp_all [getParentHash, List.find?_cons]
    · by_cases hew : e.1 = w <;> simp_all [getParentHash, List.find?_cons]

@[simp] theorem getParentHash_setParentHash (m : List (String × H32)) (v w : String) (h : H32) :
    getParentHash (setParentHash m v h) w = if w = v then some h else getParentHash m w := by
  by_cases hw : w = v
  · subst hw; simp [getParentHash, setParentHash]
  · rw [if_neg hw, ← getParentHash_filter_ne m hw]
    simp [getParentHash, setParentHash, List.find?_cons, Ne.symm hw]

/-! ## A concrete hpfs log -/

/-- An hpfs log holding the index root of each `seq_no` from 1 on, and the
`(state_hash, patch_hash)` of the fs it replays to. Its log records are the
32 bytes of each root. -/
structure IndexLog where
  roots : List H32
  roots_length_lt : roots.length < 2 ^ 64
  stateHash : H32
  patchHash : H32

/-- The operations of `IndexLog`; the index root of `seq_no` 0 is `h32_empty`. -/
def indexLog : HpfsLog IndexLog where
  getLastSeqNoFromIndex s := some s.roots.length
  lastSeqNo_lt s n h := by cases h; exact s.roots_length_lt
  getHashFromIndexBySeqNo s n := if n = 0 then some H32.empty else s.roots[n - 1]?
  truncateLogFile s n := some { s with
    roots := s.roots.take n
    roots_length_lt := lt_of_le_of_lt (List.length_take_le' _ _) s.roots_length_lt }
  readHpfsLogs s min max := some (((s.roots.drop min).take (max - min)).flatMap H32.bytes)
  appendHpfsLogRecords s b :=
    let roots := s.roots ++ bytesToHashes (b.length / 32) b
    if h : roots.length < 2 ^ 64 then some { s with roots, roots_length_lt := h } else none
  rootHashes s := some (s.stateHash, s.patchHash)

/-- The roots `fill 1, ..., fill k` of a log holding records `1..k`. -/
def chainRoots (k : Nat) : List H32 := (List.range k).map fun j => H32.fill (Fin.ofNat (j + 1))

/-- A log store holding records `1..k` of one history. -/
def chainLog (k : Fin 256) : IndexLog :=
  ⟨chainRoots k, by simp [chainRoots]; omega, H32.empty, H32.empty⟩

/-- A ledger whose row `j` is `rows[j - 1]`, read without errors. -/
def ledgerOf (rows : List (H32 × H32)) (h : rows.length < 2 ^ 64) : LedgerView :=
  ⟨rows.length, h, fun j => if j = 0 then none else rows[j - 1]?, true⟩

/-- The dependencies used to run the model: `IndexLog`, a root hash that is
its first argument, and an all-zero genesis. -/
def runDeps : SyncDeps IndexLog := ⟨indexLog, fun a _ => a, (H32.empty, H32.empty)⟩

end Hpcore.LogSync
