import Hpcore.Ledger.Store

/-! # A primary shard database over whole runs

`initialize_ledger_db` makes the ledger table of a new shard database and its
two unique indexes, `create_hp_table` adds the `hp` table and writes a
version into it, and `insert_ledger_row` stores records. After
`initialize_ledger_db` on a new file, every sequence of these calls keeps the
database of the form `primaryDb σ` for a `Shard` σ: the ledger store and the
versions written. Each call is one step of `PrimaryOp.apply` on the shard and
returns the same code, so every read of the database answers from the shard:
a record acknowledged by `insert_ledger_row` is found by
`get_ledger_by_seq_no` after any later calls. -/

namespace Hpcore.Ledger

/-! ## Runs of calls -/

/-- Calls made one after the other: the code each returns, and the state
after them. -/
def runCalls {σ α : Type} (step : σ → α → Int × σ) : σ → List α → List Int × σ
  | x, [] => ([], x)
  | x, a :: as => ((step x a).1 :: (runCalls step (step x a).2 as).1, (runCalls step (step x a).2 as).2)

section Simulation

variable {σ τ α : Type} {stepC : σ → α → Int × σ} {stepA : τ → α → Int × τ} {f : τ → σ} {P : α → Prop}

/-- A run of concrete calls from the image of an abstract state is the image
of the abstract run, when each call is one abstract step. -/
theorem runCalls_simulation (hstep : ∀ x a, P a → stepC (f x) a = ((stepA x a).1, f (stepA x a).2)) :
    ∀ (x : τ) (as : List α), (∀ a ∈ as, P a) →
      runCalls stepC (f x) as = ((runCalls stepA x as).1, f (runCalls stepA x as).2)
  | _, [], _ => rfl
  | x, a :: as, h => by
    simp only [runCalls, hstep x a (h a (List.mem_cons_self a as)),
      runCalls_simulation hstep _ as fun b hb => h b (List.mem_cons_of_mem a hb)]

end Simulation

/-! ## The database of a shard -/

def ledgerTableOf (s : LedgerStore) : Table := ⟨Sql.ledgerTable, ledgerDefs, s.ledgers.map ledgerRow⟩

/-- The column `create_hp_table` declares. -/
def hpDefs : List ColumnDef := [⟨Sql.ledgerVersionColumn, "TEXT", false, false⟩]

/-- The `hp` table with a row per version written. -/
def hpTableOf (versions : List String) : Table := ⟨Sql.hpTable, hpDefs, versions.map fun v => [.text v]⟩

/-- A primary shard database seen from above: the records of its ledger
table, and the versions written to its `hp` table once that table exists. -/
structure Shard where
  store : LedgerStore
  hp : Option (List String)

/-- The shard `initialize_ledger_db` makes in a new file. -/
def Shard.new : Shard := ⟨LedgerStore.empty, none⟩

/-- The database of a shard: the ledger table, the `hp` table once made, and
the two unique indexes of `initialize_ledger_db`. -/
def primaryDb (σ : Shard) : Db :=
  ⟨ledgerTableOf σ.store :: (σ.hp.map hpTableOf).toList, [ledgerTimeIndex, ledgerHashIndex]⟩

theorem primaryDb_ledgerTableIs (σ : Shard) : LedgerTableIs (primaryDb σ) σ.store where
  table := rfl
  unique cols := by simp [ledgerUniqueIndexes, primaryDb, ledgerTimeIndex, ledgerHashIndex]

theorem primaryDb_setRows_ledger (σ : Shard) (s : LedgerStore) :
    (primaryDb σ).setRows Sql.ledgerTable (s.ledgers.map ledgerRow) = primaryDb { σ with store := s } := by
  rcases σ with ⟨_, _ | _⟩ <;> rfl

/-! ## Each call on the database of a shard -/

theorem ledgerColumns_plain : ∀ c ∈ ledgerColumns, plainName c.name = true := by decide

/-- `initialize_ledger_db` on a new file. -/
theorem initializeLedgerDb_empty : initializeLedgerDb Db.empty = (0, primaryDb Shard.new) := by
  simp (disch := first | exact ledgerColumns_plain | decide) only [initializeLedgerDb, createTable_exec,
    createIndex_exec]
  rfl

/-- A second `initialize_ledger_db` fails at its first `CREATE INDEX`, whose
name is taken, and changes nothing. -/
theorem initializeLedgerDb_primaryDb (σ : Shard) : initializeLedgerDb (primaryDb σ) = (-1, primaryDb σ) := by
  have ht : ((primaryDb σ).tableNamed Sql.ledgerTable).isSome := by
    simp [Db.tableNamed, primaryDb, ledgerTableOf]
  have hi : (primaryDb σ).nameTaken (indexName Sql.ledgerTable "time") = true := by
    simp only [Db.nameTaken, Bool.or_eq_true, List.any_eq_true]
    exact .inr ⟨ledgerTimeIndex, by simp [primaryDb], by decide⟩
  have hcreate : createTable (primaryDb σ) Sql.ledgerTable ledgerColumns = (0, primaryDb σ) := by
    rw [createTable_exec _ _ _ (by decide) ledgerColumns_plain (by decide), Db.exec_createTable_existing (by decide) ht]
  have hindex : createIndex (primaryDb σ) Sql.ledgerTable "time" true = (-1, primaryDb σ) := by
    rw [createIndex_exec _ _ _ _ (by decide) (by decide), Db.exec_createIndex_taken hi]
  rw [initializeLedgerDb, runUntilError_ok (createTable · Sql.ledgerTable ledgerColumns) hcreate,
    runUntilError_fail (createIndex · Sql.ledgerTable "time" true) hindex]

theorem insertLedgerRow_primaryDb (σ : Shard) (l : LedgerRecord) :
    insertLedgerRow (primaryDb σ) l = match σ.store.insert l with
      | some s => (0, primaryDb { σ with store := s })
      | none => (-1, primaryDb σ) := by
  rw [(primaryDb_ledgerTableIs σ).insertLedgerRow_eq]
  cases σ.store.insert l <;> simp only [primaryDb_setRows_ledger]

/-- `create_hp_table` makes the `hp` table if it is missing and adds a row
holding the version. -/
theorem createHpTable_primaryDb (σ : Shard) (v : String) (hv : '"' ∉ v.data) (hn : '\x00' ∉ v.data) :
    createHpTable (primaryDb σ) v = (0, primaryDb { σ with hp := some (σ.hp.getD [] ++ [v]) }) := by
  have hcreate : createTable (primaryDb σ) Sql.hpTable [{ name := Sql.ledgerVersionColumn, columnType := .text }] =
      (0, primaryDb { σ with hp := some (σ.hp.getD []) }) := by
    rw [createTable_exec _ _ _ (by decide) (by decide) (by decide)]
    rcases σ with ⟨s, _ | vs⟩ <;> rfl
  have hinsert : ∀ vs, insertRow (primaryDb { σ with hp := some vs }) Sql.hpTable Sql.ledgerVersionColumn
      ("\"" ++ v ++ "\"") = (0, primaryDb { σ with hp := some (vs ++ [v]) }) := fun vs => by
    have hx : (primaryDb { σ with hp := some vs }).exec [] (.insert Sql.hpTable [Sql.ledgerVersionColumn]
        [[.lit (.text v)]]) = some ((primaryDb { σ with hp := some vs }).setRows Sql.hpTable
          (vs.map (fun v => [.text v]) ++ [[.text v]]), []) := rfl
    rw [insertRow_quoted _ (by decide) (by decide) hv hn, hx]
    · simp [Db.setRows, primaryDb, hpTableOf, ledgerTableOf, show sameName Sql.ledgerTable Sql.hpTable = false by decide]
    · rfl
  rw [createHpTable, runUntilError_ok _ hcreate, runUntilError_ok _ (hinsert _)]
  rfl

/-! ## The shard machine -/

/-- The calls of sqlite.cpp that write a primary shard database. -/
inductive PrimaryOp where
  /-- `initialize_ledger_db`. -/
  | initializeDb
  /-- `create_hp_table`. -/
  | createHp (version : String)
  /-- `insert_ledger_row`. -/
  | insertLedger (ledger : LedgerRecord)

namespace PrimaryOp

def run (db : Db) : PrimaryOp → Int × Db
  | initializeDb => initializeLedgerDb db
  | createHp v => createHpTable db v
  | insertLedger l => insertLedgerRow db l

/-- A call on the shard: its code, and the shard after it. -/
def apply (σ : Shard) : PrimaryOp → Int × Shard
  | initializeDb => (-1, σ)
  | createHp v => (0, { σ with hp := some (σ.hp.getD [] ++ [v]) })
  | insertLedger l => match σ.store.insert l with
    | some s => (0, { σ with store := s })
    | none => (-1, σ)

/-- `create_hp_table` writes its version between double quotes as it is, and
`exec_sql` hands sqlite the text up to its first NUL: the calls here write
versions with no double quote and no NUL. -/
def Quoted : PrimaryOp → Prop
  | createHp v => '"' ∉ v.data ∧ '\x00' ∉ v.data
  | _ => True

/-- Each call on the database of a shard is the call on the shard. -/
theorem run_primaryDb (σ : Shard) (op : PrimaryOp) (h : op.Quoted) :
    op.run (primaryDb σ) = ((op.apply σ).1, primaryDb (op.apply σ).2) := by
  cases op with
  | initializeDb => exact initializeLedgerDb_primaryDb σ
  | createHp v => exact createHpTable_primaryDb σ v h.1 h.2
  | insertLedger l =>
    rw [run, insertLedgerRow_primaryDb, apply]
    cases σ.store.insert l <;> rfl

/-- The shard's records only grow. -/
theorem apply_ledgers_grow (σ : Shard) (op : PrimaryOp) : σ.store.ledgers <+: (op.apply σ).2.store.ledgers := by
  cases op with
  | initializeDb | createHp _ => exact List.prefix_refl _
  | insertLedger l =>
    rw [apply]
    cases h : σ.store.insert l with
    | none => exact List.prefix_refl _
    | some s => exact LedgerStore.insert_ledgers h ▸ List.prefix_append _ _

end PrimaryOp

theorem runCalls_apply_ledgers_grow (σ : Shard) (ops : List PrimaryOp) :
    σ.store.ledgers <+: (runCalls PrimaryOp.apply σ ops).2.store.ledgers := by
  induction ops generalizing σ with
  | nil => exact List.prefix_refl _
  | cons op ops ih => exact (op.apply_ledgers_grow σ).trans (ih _)

/-- The record of a stored `seq_no` is the one stored. -/
theorem LedgerStore.find_of_mem (s : LedgerStore) {l : LedgerRecord} (hl : l ∈ s.ledgers) :
    s.find l.seqNo = some l := by
  cases hf : s.find l.seqNo with
  | none => exact absurd hl (by simpa using List.find?_eq_none.1 hf l)
  | some m =>
    have hm := List.find?_some hf
    rw [s.eq_of_seqNo_eq (List.mem_of_find?_eq_some hf) hl (by simpa using hm)]

/-! ## Runs -/

/-- **A primary shard database over whole runs.** `initialize_ledger_db` on a
new file returns `0` with the database of the new shard; from there every
sequence of `initialize_ledger_db`, `create_hp_table` (with versions holding
no double quote) and `insert_ledger_row` calls returns the codes of the shard
machine and leaves the database of the shard the machine reaches. -/
theorem primary_db_run_refines (ops : List PrimaryOp) (h : ∀ op ∈ ops, op.Quoted) :
    initializeLedgerDb Db.empty = (0, primaryDb Shard.new) ∧
      runCalls PrimaryOp.run (initializeLedgerDb Db.empty).2 ops =
        ((runCalls PrimaryOp.apply Shard.new ops).1, primaryDb (runCalls PrimaryOp.apply Shard.new ops).2) := by
  rw [initializeLedgerDb_empty]
  exact ⟨rfl, runCalls_simulation PrimaryOp.run_primaryDb Shard.new ops h⟩

/-- A new shard database with a version written follows the shard machine. -/
theorem version_run_refines :
    (∀ op ∈ [PrimaryOp.createHp "2.0"], op.Quoted) ∧ initializeLedgerDb Db.empty = (0, primaryDb Shard.new) ∧
      runCalls PrimaryOp.run (initializeLedgerDb Db.empty).2 [.createHp "2.0"] =
        ((runCalls PrimaryOp.apply Shard.new [.createHp "2.0"]).1,
          primaryDb (runCalls PrimaryOp.apply Shard.new [.createHp "2.0"]).2) :=
  have hq : ∀ op ∈ [PrimaryOp.createHp "2.0"], op.Quoted := by simp [PrimaryOp.Quoted]
  ⟨hq, primary_db_run_refines _ hq⟩

/-- **An acknowledged record is never lost.** After `initialize_ledger_db` on
a new file and any calls, an `insert_ledger_row` that returns `0`, then any
further calls, `get_ledger_by_seq_no` of the record's `seq_no` returns `1`
with the record. -/
theorem acknowledged_ledger_found (pre post : List PrimaryOp) (l x : LedgerRecord)
    (hpre : ∀ op ∈ pre, op.Quoted) (hpost : ∀ op ∈ post, op.Quoted)
    (h0 : (insertLedgerRow (runCalls PrimaryOp.run (initializeLedgerDb Db.empty).2 pre).2 l).1 = 0) :
    getLedgerBySeqNo (runCalls PrimaryOp.run
      (insertLedgerRow (runCalls PrimaryOp.run (initializeLedgerDb Db.empty).2 pre).2 l).2 post).2 l.seqNo x =
        some (1, l) := by
  rw [initializeLedgerDb_empty, runCalls_simulation PrimaryOp.run_primaryDb _ pre hpre,
    insertLedgerRow_primaryDb] at h0 ⊢
  cases hi : (runCalls PrimaryOp.apply Shard.new pre).2.store.insert l with
  | none => simp [hi] at h0
  | some s =>
    have hl : l ∈ (runCalls PrimaryOp.apply { (runCalls PrimaryOp.apply Shard.new pre).2 with store := s }
        post).2.store.ledgers :=
      (runCalls_apply_ledgers_grow _ post).subset (by simp [LedgerStore.insert_ledgers hi])
    simp only [runCalls_simulation PrimaryOp.run_primaryDb _ post hpost,
      (primaryDb_ledgerTableIs _).getLedgerBySeqNo_eq, LedgerStore.find_of_mem _ hl]

/-- A record whose nine hashes have 32 bytes. -/
def sampleLedger : LedgerRecord :=
  ⟨1, 1, List.replicate 32 1, List.replicate 32 0, List.replicate 32 0, List.replicate 32 0,
    List.replicate 32 0, List.replicate 32 0, List.replicate 32 0, List.replicate 32 0, List.replicate 32 0⟩

/-- The sample record, inserted into a new shard, is found afterwards. -/
theorem sample_ledger_found :
    (insertLedgerRow (runCalls PrimaryOp.run (initializeLedgerDb Db.empty).2 []).2 sampleLedger).1 = 0 ∧
      getLedgerBySeqNo (runCalls PrimaryOp.run
        (insertLedgerRow (runCalls PrimaryOp.run (initializeLedgerDb Db.empty).2 []).2 sampleLedger).2
          [.createHp "2.0"]).2 1 sampleLedger = some (1, sampleLedger) := by
  have h0 : (insertLedgerRow (runCalls PrimaryOp.run (initializeLedgerDb Db.empty).2 []).2 sampleLedger).1 = 0 := by
    rw [initializeLedgerDb_empty]
    simp only [runCalls, insertLedgerRow_primaryDb]
    rw [LedgerStore.insert, dif_pos ⟨by decide, fun m hm => absurd hm (List.not_mem_nil m)⟩]
  exact ⟨h0, acknowledged_ledger_found [] [.createHp "2.0"] sampleLedger sampleLedger (by simp)
    (by simp [PrimaryOp.Quoted]) h0⟩

/-- A record whose `seq_no` is `2^63` and whose `time` and `ledger_hash` differ
from the sample record's. -/
def wrappedLedger : LedgerRecord :=
  { sampleLedger with seqNo := 9223372036854775808, timestamp := 2, ledgerHash := List.replicate 32 2 }

/-- The store of the sample record. -/
def sampleStore : LedgerStore := ⟨[sampleLedger], by decide, List.pairwise_singleton _ _⟩

/-- The store of the sample record and the record of `seq_no` `2^63`. -/
def wrappedStore : LedgerStore := ⟨[sampleLedger, wrappedLedger], by decide, by decide⟩

/-! ## The calls on any ledger table -/

/-- **`insert_ledger_row` on a ledger table.** On a database whose ledger
table holds the store `s`, with the columns and unique indexes of
`initialize_ledger_db`, `insert_ledger_row` returns `0` exactly when every
hash of the record has 32 bytes and no stored record shares its `seq_no`, its
`time` or its `ledger_hash`; the table then holds the stored records followed
by the new one. Otherwise it returns `-1` and leaves the database as it was. -/
theorem insert_ledger_row_accepts_iff {db : Db} {s : LedgerStore} (h : LedgerTableIs db s) (l : LedgerRecord) :
    ((insertLedgerRow db l).1 = 0 ↔ (∀ b ∈ l.hashes, b.length = 32) ∧
        ∀ m ∈ s.ledgers, m.seqNo ≠ l.seqNo ∧ m.timestamp ≠ l.timestamp ∧ m.ledgerHash ≠ l.ledgerHash) ∧
      ((insertLedgerRow db l).1 = 0 → (insertLedgerRow db l).2.tableNamed Sql.ledgerTable =
        some ⟨Sql.ledgerTable, ledgerDefs, (s.ledgers ++ [l]).map ledgerRow⟩) ∧
      ((insertLedgerRow db l).1 ≠ 0 → insertLedgerRow db l = (-1, db)) := by
  rw [h.insertLedgerRow_eq]
  cases hi : s.insert l with
  | some s' =>
    have hc : l.HashesWf ∧ ∀ m ∈ s.ledgers, m.Compatible l := by
      unfold LedgerStore.insert at hi
      split at hi
      · assumption
      · cases hi
    have ht := (h.setRows : LedgerTableIs _ s').table
    dsimp only
    rw [LedgerStore.insert_ledgers hi] at ht ⊢
    exact ⟨iff_of_true rfl hc, fun _ => ht, fun h0 => absurd rfl h0⟩
  | none =>
    have hc : ¬(l.HashesWf ∧ ∀ m ∈ s.ledgers, m.Compatible l) := fun hc => by
      simp [LedgerStore.insert, dif_pos hc] at hi
    dsimp only
    exact ⟨iff_of_false (by decide) hc, fun h0 => absurd h0 (by decide), fun _ => rfl⟩

/-- The sample record goes into a new shard; next to it, a record of its
`seq_no` is refused and the record of `seq_no` `2^63` is stored. -/
theorem ledger_inserts_decided :
    (insertLedgerRow (primaryDb Shard.new) sampleLedger).1 = 0 ∧
      (insertLedgerRow (primaryDb ⟨sampleStore, none⟩) { sampleLedger with timestamp := 2 }).1 ≠ 0 ∧
      (insertLedgerRow (primaryDb ⟨sampleStore, none⟩) wrappedLedger).1 = 0 :=
  ⟨(insert_ledger_row_accepts_iff (primaryDb_ledgerTableIs Shard.new) sampleLedger).1.2
      ⟨by decide, fun m hm => absurd hm (List.not_mem_nil m)⟩,
    mt (insert_ledger_row_accepts_iff (primaryDb_ledgerTableIs ⟨sampleStore, none⟩) _).1.1
      fun h => (h.2 sampleLedger (List.mem_singleton_self _)).1 rfl,
    (insert_ledger_row_accepts_iff (primaryDb_ledgerTableIs ⟨sampleStore, none⟩) wrappedLedger).1.2
      ⟨by decide, by decide⟩⟩

/-- **`get_ledger_by_seq_no` on a ledger table.** It never fails and never
reads past a blob: it returns `1` with the stored record of that `seq_no`,
or `0` with `ledger` untouched when no stored record has it. -/
theorem get_ledger_by_seq_no_reads_stored {db : Db} {s : LedgerStore} (h : LedgerTableIs db s) (n : UInt64)
    (x : LedgerRecord) :
    ((∀ l ∈ s.ledgers, l.seqNo ≠ n) ∧ getLedgerBySeqNo db n x = some (0, x)) ∨
      ∃ l ∈ s.ledgers, l.seqNo = n ∧ getLedgerBySeqNo db n x = some (1, l) := by
  rw [h.getLedgerBySeqNo_eq]
  cases hf : s.find n with
  | none => exact .inl ⟨by simpa using List.find?_eq_none.1 hf, rfl⟩
  | some l => exact .inr ⟨l, List.mem_of_find?_eq_some hf, by simpa using List.find?_some hf, rfl⟩

/-- A new shard has no record of `seq_no` 1, and the shard of the sample
record returns it. -/
theorem ledger_reads_decided :
    getLedgerBySeqNo (primaryDb Shard.new) 1 sampleLedger = some (0, sampleLedger) ∧
      getLedgerBySeqNo (primaryDb ⟨sampleStore, none⟩) 1 wrappedLedger = some (1, sampleLedger) := by
  refine ⟨(get_ledger_by_seq_no_reads_stored (primaryDb_ledgerTableIs Shard.new) 1 sampleLedger).elim (·.2)
    fun ⟨l, hl, _⟩ => absurd hl (List.not_mem_nil l), ?_⟩
  rcases get_ledger_by_seq_no_reads_stored (primaryDb_ledgerTableIs ⟨sampleStore, none⟩) 1 wrappedLedger with
    ⟨hnone, -⟩ | ⟨l, hl, -, hget⟩
  · exact absurd rfl (hnone sampleLedger (List.mem_singleton_self _))
  · rwa [List.mem_singleton.1 hl] at hget

/-- **`get_last_ledger` on a ledger table.** It returns `-1` with `ledger`
untouched exactly on an empty table, and otherwise `0` with a stored record
whose `seq_no`, read as the signed 64-bit integer the table stores, is the
largest: a `seq_no` of `2^63` or more ranks below every smaller one. -/
theorem get_last_ledger_returns_largest {db : Db} {s : LedgerStore} (h : LedgerTableIs db s) (x : LedgerRecord) :
    (s.ledgers = [] ∧ getLastLedger db x = some (-1, x)) ∨
      ∃ l ∈ s.ledgers, getLastLedger db x = some (0, l) ∧ ∀ m ∈ s.ledgers, toInt64 m.seqNo ≤ toInt64 l.seqNo := by
  rw [h.getLastLedger_eq]
  cases hl : s.last with
  | none => exact .inl ⟨List.argmax_eq_none.1 hl, rfl⟩
  | some l =>
    exact .inr ⟨l, List.argmax_mem hl, rfl,
      fun m hm => @List.le_of_mem_argmax _ _ _ (fun l : LedgerRecord => toInt64 l.seqNo) _ _ _ hm hl⟩

/-- A new shard has no last record; of the records of `seq_no` 1 and `2^63`,
the last is the one of `seq_no` 1, since `2^63` reads as a negative integer. -/
theorem signed_last_ledger :
    getLastLedger (primaryDb Shard.new) sampleLedger = some (-1, sampleLedger) ∧
      getLastLedger (primaryDb ⟨wrappedStore, none⟩) wrappedLedger = some (0, sampleLedger) := by
  refine ⟨(get_last_ledger_returns_largest (primaryDb_ledgerTableIs Shard.new) sampleLedger).elim (·.2)
    fun ⟨l, hl, _⟩ => absurd hl (List.not_mem_nil l), ?_⟩
  rcases get_last_ledger_returns_largest (primaryDb_ledgerTableIs ⟨wrappedStore, none⟩) wrappedLedger with
    ⟨hnil, -⟩ | ⟨l, hl, hget, hmax⟩
  · cases hnil
  · obtain rfl | rfl : l = sampleLedger ∨ l = wrappedLedger := by simpa [wrappedStore] using hl
    · exact hget
    · exact absurd (hmax sampleLedger (List.mem_cons_self _ _)) (by decide)

end Hpcore.Ledger
