import Hpcore.Ledger.Engine

/-! # The ledger database: `ledger::sqlite`

The helpers of `ledger/sqlite.cpp` as the source writes them: the SQL text
they build, the constant statements they prepare, the checks of their `&&`
chains, and what they read back from a result row. Every `sqlite3_*` call is
the engine of `Hpcore.Ledger.Engine`. A function that fills an output
argument takes the argument's value on entry and returns its value on exit.
A read that runs past a stored blob (`GET_H32_BLOB`, `GET_PUBKEY_BLOB` on a
shorter value) is undefined behaviour: the readers return `none` for it. -/

namespace Hpcore.Ledger

/-! ## The constants -/

namespace Sql

def ledgerTable : String := "ledger"
def usersTable : String := "users"
def inputsTable : String := "inputs"
def outputsTable : String := "outputs"
def hpTable : String := "hp"
def ledgerVersionColumn : String := "ledger_version"
def columnDataTypes : List String := ["INT", "TEXT", "BLOB"]
def createTable : String := "CREATE TABLE IF NOT EXISTS "
def createIndex : String := "CREATE INDEX "
def createUniqueIndex : String := "CREATE UNIQUE INDEX "
def insertInto : String := "INSERT INTO "
def primaryKey : String := "PRIMARY KEY"
def notNull : String := "NOT NULL"
def values : String := "VALUES"
def selectAll : String := "SELECT * FROM "
def sqliteMaster : String := "sqlite_master"
def whereKw : String := " WHERE "
def andKw : String := " AND "
def selectLastLedger : String := "SELECT * FROM ledger ORDER BY seq_no DESC LIMIT 1"
def selectLedgerBySeqNo : String := "SELECT * FROM ledger WHERE seq_no=? LIMIT 1"
def selectUsersBySeqNo : String := "SELECT * FROM users WHERE ledger_seq_no=?"
def selectInputsBySeqNo : String := "SELECT * FROM inputs WHERE ledger_seq_no=?"
def selectOutputsBySeqNo : String := "SELECT * FROM outputs WHERE ledger_seq_no=?"
def selectInputByHash : String := "SELECT * FROM inputs WHERE hash=?"
def insertIntoLedger : String := "INSERT INTO ledger(" ++
  "seq_no, time, ledger_hash, prev_ledger_hash, data_hash," ++
  "state_hash, config_hash, nonce, user_hash, input_hash, output_hash" ++
  ") VALUES(?,?,?,?,?,?,?,?,?,?,?)"
def insertIntoUsers : String := "INSERT INTO users(ledger_seq_no, pubkey) VALUES(?,?)"
def insertIntoUserInputs : String := "INSERT INTO inputs(ledger_seq_no, pubkey, hash, nonce," ++
  " blob_offset, blob_size) VALUES(?,?,?,?,?,?)"
def insertIntoUserOutputs : String := "INSERT INTO outputs(ledger_seq_no, pubkey, hash," ++
  " blob_offset, blob_count) VALUES(?,?,?,?,?)"

/-- `PUBKEY_SIZE`. -/
def pubkeySize : Nat := 33

end Sql

/-! ## The records -/

/-- `COLUMN_DATA_TYPE` (`ledger_common.hpp` is not part of the sources): the
index into `COLUMN_DATA_TYPES`. -/
inductive ColumnDataType where
  | int
  | text
  | blob
  deriving DecidableEq, Repr

def ColumnDataType.index : ColumnDataType → Nat
  | int => 0
  | text => 1
  | blob => 2

/-- `table_column_info` (`ledger_common.hpp` is not part of the sources): a
column is no key and may hold `NULL` unless its constructor says otherwise. -/
structure TableColumnInfo where
  name : String
  columnType : ColumnDataType
  isKey : Bool := false
  isNull : Bool := true
  deriving DecidableEq, Repr

/-- `ledger::ledger_record`, the fields this file stores and reads. -/
structure LedgerRecord where
  seqNo : UInt64
  timestamp : UInt64
  ledgerHash : Bytes
  prevLedgerHash : Bytes
  dataHash : Bytes
  stateHash : Bytes
  configHash : Bytes
  nonce : Bytes
  userHash : Bytes
  inputHash : Bytes
  outputHash : Bytes
  deriving DecidableEq, Repr

/-- `ledger::ledger_user_input`. -/
structure LedgerUserInput where
  ledgerSeqNo : UInt64
  pubkey : Bytes
  hash : Bytes
  nonce : UInt64
  blobOffset : UInt64
  blobSize : UInt64
  deriving DecidableEq, Repr

/-- `ledger::ledger_user_output`. -/
structure LedgerUserOutput where
  ledgerSeqNo : UInt64
  pubkey : Bytes
  hash : Bytes
  blobOffset : UInt64
  blobCount : UInt64
  deriving DecidableEq, Repr

/-- A `uint64_t` passed to `sqlite3_bind_int64`: the `sqlite3_int64` with the
same bits. -/
def toInt64 (u : UInt64) : Int := if u.toNat < 2 ^ 63 then u.toNat else u.toNat - 2 ^ 64

/-- An `sqlite3_int64` assigned to a `uint64_t`: its value modulo `2^64`. -/
def ofInt64 (i : Int) : UInt64 := UInt64.ofNat (i % 2 ^ 64).toNat

theorem ofInt64_toInt64 (u : UInt64) : ofInt64 (toInt64 u) = u := by
  have hu := u.toNat_lt
  have h : (toInt64 u % 2 ^ 64).toNat = u.toNat := by
    unfold toInt64; split <;> omega
  refine UInt64.ext_iff.mpr ?_
  show (UInt64.ofNat _).toNat = _
  rw [h]
  exact Nat.mod_eq_of_lt hu

theorem toInt64_injective : Function.Injective toInt64 :=
  fun a b h => by rw [← ofInt64_toInt64 a, h, ofInt64_toInt64]

/-! ## Statements built from text -/

/-- The text a C function reads from `sql.data()`: up to the first NUL. -/
def cString (sql : String) : String := ⟨sql.data.takeWhile (· ≠ '\x00')⟩

theorem cString_of_nul_not_mem {sql : String} (h : '\x00' ∉ sql.data) : cString sql = sql :=
  congrArg String.mk (List.takeWhile_eq_self_iff.2 fun c hc => by simpa using ne_of_mem_of_not_mem hc h)

/-- `exec_sql` with no callback: `sqlite3_exec` of `sql.data()`, which reads the
text up to its first NUL. `0`, or `-1` when a statement fails (those before
it keep their effect). -/
def execSql (db : Db) (sql : String) : Int × Db :=
  match db.execSql (cString sql) with
  | (true, db') => (0, db')
  | (false, db') => (-1, db')

/-- `exec_sql` of a text holding one statement and no NUL. -/
theorem execSql_of_parseScript {db : Db} {sql : String} {s : Statement} (hn : '\x00' ∉ sql.data)
    (h : parseScript sql = some [some s]) (hr : db.resolves s = true) :
    execSql db sql = match db.exec [] s with
      | some (db', _) => (0, db')
      | none => (-1, db) := by
  rw [execSql, cString_of_nul_not_mem hn, Db.execSql_single h hr]
  rcases db.exec [] s with _ | ⟨db', _⟩ <;> rfl

/-- One column of `create_table`'s statement. -/
def columnSql (c : TableColumnInfo) : String :=
  c.name ++ " " ++ Sql.columnDataTypes.getD c.columnType.index "" ++
    (if c.isKey then " " ++ Sql.primaryKey else "") ++ (if !c.isNull then " " ++ Sql.notNull else "")

/-- The column list of `create_table`'s statement: a `,` after every column
but the last. -/
def columnsSql : List TableColumnInfo → String
  | [] => ""
  | [c] => columnSql c
  | c :: cs => columnSql c ++ "," ++ columnsSql cs

def createTableSql (tableName : String) (columnInfo : List TableColumnInfo) : String :=
  Sql.createTable ++ tableName ++ " (" ++ columnsSql columnInfo ++ ")"

/-- `create_table`. -/
def createTable (db : Db) (tableName : String) (columnInfo : List TableColumnInfo) : Int × Db :=
  execSql db (createTableSql tableName columnInfo)

/-- The index name of `create_index`: `idx_<table>_<columns>` with every `,`
replaced by `_`. -/
def indexName (tableName columnNames : String) : String :=
  ⟨("idx_" ++ tableName ++ "_" ++ columnNames).data.map fun c => if c = ',' then '_' else c⟩

def createIndexSql (tableName columnNames : String) (isUnique : Bool) : String :=
  (if isUnique then Sql.createUniqueIndex else Sql.createIndex) ++ indexName tableName columnNames ++
    " ON " ++ tableName ++ "(" ++ columnNames ++ ")"

/-- `create_index`. -/
def createIndex (db : Db) (tableName columnNames : String) (isUnique : Bool) : Int × Db :=
  execSql db (createIndexSql tableName columnNames isUnique)

/-- The value tuples of `insert_rows`: a `,` after every tuple but the last. -/
def valueTuples : List String → String
  | [] => ""
  | [v] => "(" ++ v ++ ")"
  | v :: vs => "(" ++ v ++ ")" ++ "," ++ valueTuples vs

/-- `insert_rows`. -/
def insertRows (db : Db) (tableName columnNamesString : String) (valueStrings : List String) : Int × Db :=
  execSql db (Sql.insertInto ++ tableName ++ "(" ++ columnNamesString ++ ") " ++ Sql.values ++
    valueTuples valueStrings)

/-- `insert_row`. -/
def insertRow (db : Db) (tableName columnNamesString valueString : String) : Int × Db :=
  execSql db (Sql.insertInto ++ tableName ++ "(" ++ columnNamesString ++ ") " ++ Sql.values ++
    "(" ++ valueString ++ ")")

def isTableExistsSql (tableName : String) : String :=
  Sql.selectAll ++ Sql.sqliteMaster ++ Sql.whereKw ++ "type='table'" ++ Sql.andKw ++ "name='" ++
    tableName ++ "'"

/-- `is_table_exists`: whether the query on `sqlite_master` prepares and
returns a row. -/
def isTableExists (db : Db) (tableName : String) : Bool :=
  match db.prepare (isTableExistsSql tableName) >>= db.exec [] with
  | some (_, _ :: _) => true
  | _ => false

/-- `f₁(db) == -1 || f₂(db) == -1 || ...`: the calls in order until one
returns `-1`. -/
def runUntilError (db : Db) : List (Db → Int × Db) → Int × Db
  | [] => (0, db)
  | f :: fs => match f db with
    | (c, db') => if c = -1 then (-1, db') else runUntilError db' fs

theorem runUntilError_ok (f : Db → Int × Db) {db db' : Db} {fs : List (Db → Int × Db)} (h : f db = (0, db')) :
    runUntilError db (f :: fs) = runUntilError db' fs := by
  rw [runUntilError, h]
  rfl

theorem runUntilError_fail (f : Db → Int × Db) {db db' : Db} {fs : List (Db → Int × Db)} (h : f db = (-1, db')) :
    runUntilError db (f :: fs) = (-1, db') := by
  rw [runUntilError, h]
  rfl

/-! ## The schema -/

def ledgerColumns : List TableColumnInfo :=
  [{ name := "seq_no", columnType := .int, isKey := true }, { name := "time", columnType := .int },
    { name := "ledger_hash", columnType := .blob }, { name := "prev_ledger_hash", columnType := .blob },
    { name := "data_hash", columnType := .blob }, { name := "state_hash", columnType := .blob },
    { name := "config_hash", columnType := .blob }, { name := "nonce", columnType := .blob },
    { name := "user_hash", columnType := .blob }, { name := "input_hash", columnType := .blob },
    { name := "output_hash", columnType := .blob }]

/-- `initialize_ledger_db`. -/
def initializeLedgerDb (db : Db) : Int × Db :=
  runUntilError db [(createTable · Sql.ledgerTable ledgerColumns),
    (createIndex · Sql.ledgerTable "time" true), (createIndex · Sql.ledgerTable "ledger_hash" true)]

def userColumns : List TableColumnInfo :=
  [{ name := "ledger_seq_no", columnType := .int }, { name := "pubkey", columnType := .blob }]

def inputColumns : List TableColumnInfo :=
  [{ name := "ledger_seq_no", columnType := .int }, { name := "pubkey", columnType := .blob },
    { name := "hash", columnType := .blob }, { name := "nonce", columnType := .int },
    { name := "blob_offset", columnType := .int }, { name := "blob_size", columnType := .int }]

def outputColumns : List TableColumnInfo :=
  [{ name := "ledger_seq_no", columnType := .int }, { name := "pubkey", columnType := .blob },
    { name := "hash", columnType := .blob }, { name := "blob_offset", columnType := .int },
    { name := "blob_count", columnType := .int }]

/-- `initialize_ledger_raw_db`: its three blocks, each returning `-1` at its
first failing call. -/
def initializeLedgerRawDb (db : Db) : Int × Db :=
  runUntilError db [(createTable · Sql.usersTable userColumns),
    (createIndex · Sql.usersTable "ledger_seq_no" false), (createIndex · Sql.usersTable "pubkey" false),
    (createTable · Sql.inputsTable inputColumns),
    (createIndex · Sql.inputsTable "ledger_seq_no" false), (createIndex · Sql.inputsTable "hash" false),
    (createIndex · Sql.inputsTable "ledger_seq_no,pubkey" false),
    (createTable · Sql.outputsTable outputColumns),
    (createIndex · Sql.outputsTable "ledger_seq_no" false), (createIndex · Sql.outputsTable "hash" false),
    (createIndex · Sql.outputsTable "ledger_seq_no,pubkey" false)]

/-- `create_hp_table`: the version is written between double quotes, as it is. -/
def createHpTable (db : Db) (version : String) : Int × Db :=
  runUntilError db [(createTable · Sql.hpTable [{ name := Sql.ledgerVersionColumn, columnType := .text }]),
    (insertRow · Sql.hpTable Sql.ledgerVersionColumn ("\"" ++ version ++ "\""))]

/-! ## Prepared inserts -/

abbrev Binding := Nat × SqlValue

def bindInt64 (idx : Nat) (v : UInt64) : Option Binding := some (idx, .int (toInt64 v))

/-- `BIND_H32_BLOB(idx, field)`: bound only when the field has
`sizeof(util::h32)` bytes. -/
def bindH32Blob (idx : Nat) (field : Bytes) : Option Binding :=
  if field.length = 32 then some (idx, .blob field) else none

/-- `BIND_PUBKEY_BLOB(idx, field)`: bound only when the field has `PUBKEY_SIZE`
bytes. -/
def bindPubkeyBlob (idx : Nat) (field : Bytes) : Option Binding :=
  if field.length = Sql.pubkeySize then some (idx, .blob field) else none

/-- The `&&` chain of the insert helpers: a statement, its binds in order, and
`sqlite3_step(stmt) == SQLITE_DONE`. `0`, or `-1` with the database as it was
when there is no statement, a bind check fails, or the step fails. -/
def stepInsert (db : Db) (stmt : Option Statement) (binds : List (Option Binding)) : Int × Db :=
  match stmt, binds.mapM id with
  | some s, some bs => match db.exec bs s with
    | some (db', _) => (0, db')
    | none => (-1, db)
  | _, _ => (-1, db)

/-- `insert_ledger_row`. -/
def insertLedgerRow (db : Db) (ledger : LedgerRecord) : Int × Db :=
  stepInsert db (db.prepare Sql.insertIntoLedger)
    [bindInt64 1 ledger.seqNo, bindInt64 2 ledger.timestamp, bindH32Blob 3 ledger.ledgerHash,
      bindH32Blob 4 ledger.prevLedgerHash, bindH32Blob 5 ledger.dataHash, bindH32Blob 6 ledger.stateHash,
      bindH32Blob 7 ledger.configHash, bindH32Blob 8 ledger.nonce, bindH32Blob 9 ledger.userHash,
      bindH32Blob 10 ledger.inputHash, bindH32Blob 11 ledger.outputHash]

/-- `prepare_user_insert` (`NULL` is `none`). -/
def prepareUserInsert (db : Db) : Option Statement := db.prepare Sql.insertIntoUsers

/-- `prepare_user_input_insert`. -/
def prepareUserInputInsert (db : Db) : Option Statement := db.prepare Sql.insertIntoUserInputs

/-- `prepare_user_output_insert`. -/
def prepareUserOutputInsert (db : Db) : Option Statement := db.prepare Sql.insertIntoUserOutputs

/-- `insert_user_record`. `sqlite3_reset` returns `SQLITE_OK`: in the model no
step of an insert into `users` fails. -/
def insertUserRecord (db : Db) (stmt : Option Statement) (ledgerSeqNo : UInt64) (pubkey : Bytes) : Int × Db :=
  stepInsert db stmt [bindInt64 1 ledgerSeqNo, bindPubkeyBlob 2 pubkey]

/-- `insert_user_input_record`. -/
def insertUserInputRecord (db : Db) (stmt : Option Statement) (ledgerSeqNo : UInt64) (pubkey hash : Bytes)
    (nonce blobOffset blobSize : UInt64) : Int × Db :=
  stepInsert db stmt [bindInt64 1 ledgerSeqNo, bindPubkeyBlob 2 pubkey, bindH32Blob 3 hash,
    bindInt64 4 nonce, bindInt64 5 blobOffset, bindInt64 6 blobSize]

/-- `insert_user_output_record`. -/
def insertUserOutputRecord (db : Db) (stmt : Option Statement) (ledgerSeqNo : UInt64) (pubkey hash : Bytes)
    (blobOffset outputCount : UInt64) : Int × Db :=
  stepInsert db stmt [bindInt64 1 ledgerSeqNo, bindPubkeyBlob 2 pubkey, bindH32Blob 3 hash,
    bindInt64 4 blobOffset, bindInt64 5 outputCount]

/-! ## Reading rows -/

/-- `sqlite3_column_int64` on an integer column (`NULL` reads as 0; the file
reads no text or blob through it). -/
def columnInt64 : SqlValue → Int
  | .int i => i
  | _ => 0

/-- `sqlite3_column_blob`: the bytes of a blob (`NULL` has none). -/
def columnBlob : SqlValue → Bytes
  | .blob b => b
  | _ => []

/-- `sqlite3_column_int64` assigned to a `uint64_t` field. -/
def columnUInt64 (row : List SqlValue) (idx : Nat) : UInt64 := ofInt64 (columnInt64 (row.getD idx .null))

/-- `std::string((char *)sqlite3_column_blob(stmt, idx), n)`: `n` bytes read
from the column, `none` when its blob is shorter. -/
def getBlob (n : Nat) (row : List SqlValue) (idx : Nat) : Option Bytes :=
  let b := columnBlob (row.getD idx .null)
  if n ≤ b.length then some (b.take n) else none

/-- `GET_H32_BLOB(idx)`. -/
def getH32Blob : List SqlValue → Nat → Option Bytes := getBlob 32

/-- `GET_PUBKEY_BLOB(idx)`. -/
def getPubkeyBlob : List SqlValue → Nat → Option Bytes := getBlob Sql.pubkeySize

/-- `populate_ledger_from_sql_record`. -/
def populateLedgerFromSqlRecord (row : List SqlValue) : Option LedgerRecord := do
  let ledgerHash ← getH32Blob row 2
  let prevLedgerHash ← getH32Blob row 3
  let dataHash ← getH32Blob row 4
  let stateHash ← getH32Blob row 5
  let configHash ← getH32Blob row 6
  let nonce ← getH32Blob row 7
  let userHash ← getH32Blob row 8
  let inputHash ← getH32Blob row 9
  let outputHash ← getH32Blob row 10
  some ⟨columnUInt64 row 0, columnUInt64 row 1, ledgerHash, prevLedgerHash, dataHash, stateHash, configHash,
    nonce, userHash, inputHash, outputHash⟩

/-- `populate_user_input_from_sql_record`. -/
def populateUserInputFromSqlRecord (row : List SqlValue) : Option LedgerUserInput := do
  let pubkey ← getPubkeyBlob row 1
  let hash ← getH32Blob row 2
  some ⟨columnUInt64 row 0, pubkey, hash, columnUInt64 row 3, columnUInt64 row 4, columnUInt64 row 5⟩

/-- `populate_user_output_from_sql_record`. -/
def populateUserOutputFromSqlRecord (row : List SqlValue) : Option LedgerUserOutput := do
  let pubkey ← getPubkeyBlob row 1
  let hash ← getH32Blob row 2
  some ⟨columnUInt64 row 0, pubkey, hash, columnUInt64 row 3, columnUInt64 row 4⟩

/-! ## Queries -/

/-- `get_last_ledger`: `0` with the row of the largest `seq_no`, or `-1` with
`ledger` untouched when the query fails or returns no row. -/
def getLastLedger (db : Db) (ledger : LedgerRecord) : Option (Int × LedgerRecord) :=
  match db.prepare Sql.selectLastLedger >>= db.exec [] with
  | some (_, row :: _) => (0, ·) <$> populateLedgerFromSqlRecord row
  | _ => some (-1, ledger)

/-- `get_ledger_by_seq_no`: `1` with the row, `0` with `ledger` untouched when
there is none, `-1` on error. -/
def getLedgerBySeqNo (db : Db) (seqNo : UInt64) (ledger : LedgerRecord) : Option (Int × LedgerRecord) :=
  match db.prepare Sql.selectLedgerBySeqNo >>= db.exec [(1, .int (toInt64 seqNo))] with
  | some (_, row :: _) => (1, ·) <$> populateLedgerFromSqlRecord row
  | some (_, []) => some (0, ledger)
  | none => some (-1, ledger)

/-- The loop of `get_users_by_seq_no`, `get_user_inputs_by_seq_no` and
`get_user_outputs_by_seq_no`: every row of the query for `seq_no`, read and
appended to the caller's vector; `-1` with the vector untouched when the query
does not prepare. -/
def getAllBySeqNo {α : Type} (sql : String) (read : List SqlValue → Option α) (db : Db) (seqNo : UInt64)
    (out : List α) : Option (Int × List α) :=
  match db.prepare sql with
  | some s => match db.exec [(1, .int (toInt64 seqNo))] s with
    | some (_, rows) => (fun xs => (0, out ++ xs)) <$> rows.mapM read
    | none => some (0, out)
  | none => some (-1, out)

/-- `get_users_by_seq_no`: the `pubkey` column of each row. -/
def getUsersBySeqNo : Db → UInt64 → List Bytes → Option (Int × List Bytes) :=
  getAllBySeqNo Sql.selectUsersBySeqNo (getPubkeyBlob · 1)

/-- `get_user_inputs_by_seq_no`. -/
def getUserInputsBySeqNo : Db → UInt64 → List LedgerUserInput → Option (Int × List LedgerUserInput) :=
  getAllBySeqNo Sql.selectInputsBySeqNo populateUserInputFromSqlRecord

/-- `get_user_outputs_by_seq_no`. -/
def getUserOutputsBySeqNo : Db → UInt64 → List LedgerUserOutput → Option (Int × List LedgerUserOutput) :=
  getAllBySeqNo Sql.selectOutputsBySeqNo populateUserOutputFromSqlRecord

/-- `get_user_input_by_hash`: `0` with the first input of that hash, or with
`input` untouched when there is none; `-1` when the query does not prepare or
the hash is not 32 bytes. -/
def getUserInputByHash (db : Db) (hash : Bytes) (input : Option LedgerUserInput) :
    Option (Int × Option LedgerUserInput) :=
  match db.prepare Sql.selectInputByHash, bindH32Blob 1 hash with
  | some s, some b => match db.exec [b] s with
    | some (_, row :: _) => (fun i => (0, some i)) <$> populateUserInputFromSqlRecord row
    | _ => some (0, input)
  | _, _ => some (-1, input)

end Hpcore.Ledger
