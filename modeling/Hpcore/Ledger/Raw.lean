import Hpcore.Ledger.Shard

/-! # A raw data shard database over whole runs

`initialize_ledger_raw_db` makes the `users`, `inputs` and `outputs` tables
of a raw data shard database, each with plain indexes and no key, and the
`insert_user_*` helpers add a row through a statement prepared once with
`prepare_user_*`. After `initialize_ledger_raw_db` on a new file, every
sequence of these calls keeps the database of the form `rawDb ρ` for a
`RawStore` ρ: the records each table holds, in the order they were inserted.
Each call is one step of `RawOp.apply`, so the readers answer from ρ: the
records of a `seq_no` in insertion order, and the first input of a hash. -/

namespace Hpcore.Ledger

/-! ## Records as rows -/

/-- The row `insert_user_record` stores. -/
def userRow (u : UInt64 × Bytes) : List SqlValue := [.int (toInt64 u.1), .blob u.2]

/-- The row `insert_user_input_record` stores. -/
def inputRow (i : LedgerUserInput) : List SqlValue :=
  [.int (toInt64 i.ledgerSeqNo), .blob i.pubkey, .blob i.hash, .int (toInt64 i.nonce), .int (toInt64 i.blobOffset),
    .int (toInt64 i.blobSize)]

/-- The row `insert_user_output_record` stores. -/
def outputRow (o : LedgerUserOutput) : List SqlValue :=
  [.int (toInt64 o.ledgerSeqNo), .blob o.pubkey, .blob o.hash, .int (toInt64 o.blobOffset),
    .int (toInt64 o.blobCount)]

/-- What the `BIND_PUBKEY_BLOB` and `BIND_H32_BLOB` checks ask of an input. -/
def LedgerUserInput.Wf (i : LedgerUserInput) : Prop := i.pubkey.length = Sql.pubkeySize ∧ i.hash.length = 32

/-- What the `BIND_PUBKEY_BLOB` and `BIND_H32_BLOB` checks ask of an output. -/
def LedgerUserOutput.Wf (o : LedgerUserOutput) : Prop := o.pubkey.length = Sql.pubkeySize ∧ o.hash.length = 32

instance (i : LedgerUserInput) : Decidable i.Wf := inferInstanceAs (Decidable (_ ∧ _))

instance (o : LedgerUserOutput) : Decidable o.Wf := inferInstanceAs (Decidable (_ ∧ _))

theorem getPubkeyBlob_userRow {u : UInt64 × Bytes} (h : u.2.length = Sql.pubkeySize) :
    getPubkeyBlob (userRow u) 1 = some u.2 := by
  simp [getPubkeyBlob, getBlob, userRow, columnBlob, h, List.take_of_length_le h.le]

theorem populateUserInputFromSqlRecord_inputRow {i : LedgerUserInput} (h : i.Wf) :
    populateUserInputFromSqlRecord (inputRow i) = some i := by
  obtain ⟨hp, hh⟩ := h
  simp [populateUserInputFromSqlRecord, inputRow, getPubkeyBlob, getH32Blob, getBlob, columnBlob, columnUInt64,
    columnInt64, ofInt64_toInt64, hp, hh, List.take_of_length_le hp.le, List.take_of_length_le hh.le]

theorem populateUserOutputFromSqlRecord_outputRow {o : LedgerUserOutput} (h : o.Wf) :
    populateUserOutputFromSqlRecord (outputRow o) = some o := by
  obtain ⟨hp, hh⟩ := h
  simp [populateUserOutputFromSqlRecord, outputRow, getPubkeyBlob, getH32Blob, getBlob, columnBlob, columnUInt64,
    columnInt64, ofInt64_toInt64, hp, hh, List.take_of_length_le hp.le, List.take_of_length_le hh.le]

/-! ## The store -/

/-- What a raw data shard database holds: the rows of each table in the order
inserted, each with the key and hash lengths the insert helpers check. -/
structure RawStore where
  users : List (UInt64 × Bytes)
  inputs : List LedgerUserInput
  outputs : List LedgerUserOutput
  usersWf : ∀ u ∈ users, u.2.length = Sql.pubkeySize
  inputsWf : ∀ i ∈ inputs, i.Wf
  outputsWf : ∀ o ∈ outputs, o.Wf

namespace RawStore

def empty : RawStore := ⟨[], [], [], (fun _ h => nomatch h), (fun _ h => nomatch h), (fun _ h => nomatch h)⟩

/-- A user is stored when its key has `PUBKEY_SIZE` bytes. -/
def addUser (ρ : RawStore) (u : UInt64 × Bytes) : Option RawStore :=
  if h : u.2.length = Sql.pubkeySize then
    some { ρ with users := ρ.users ++ [u]
                  usersWf := fun v hv => (List.mem_append.1 hv).elim (ρ.usersWf v)
                    fun hv => List.eq_of_mem_singleton hv ▸ h }
  else none

def addInput (ρ : RawStore) (i : LedgerUserInput) : Option RawStore :=
  if h : i.Wf then
    some { ρ with inputs := ρ.inputs ++ [i]
                  inputsWf := fun j hj => (List.mem_append.1 hj).elim (ρ.inputsWf j)
                    fun hj => List.eq_of_mem_singleton hj ▸ h }
  else none

def addOutput (ρ : RawStore) (o : LedgerUserOutput) : Option RawStore :=
  if h : o.Wf then
    some { ρ with outputs := ρ.outputs ++ [o]
                  outputsWf := fun p hp => (List.mem_append.1 hp).elim (ρ.outputsWf p)
                    fun hp => List.eq_of_mem_singleton hp ▸ h }
  else none

end RawStore

/-! ## The database of a store -/

def userDefs : List ColumnDef := userColumns.map TableColumnInfo.toDef

def inputDefs : List ColumnDef := inputColumns.map TableColumnInfo.toDef

def outputDefs : List ColumnDef := outputColumns.map TableColumnInfo.toDef

/-- The plain indexes of `initialize_ledger_raw_db`. -/
def rawIndexes : List Index :=
  [⟨"idx_users_ledger_seq_no", Sql.usersTable, ["ledger_seq_no"], false⟩,
    ⟨"idx_users_pubkey", Sql.usersTable, ["pubkey"], false⟩,
    ⟨"idx_inputs_ledger_seq_no", Sql.inputsTable, ["ledger_seq_no"], false⟩,
    ⟨"idx_inputs_hash", Sql.inputsTable, ["hash"], false⟩,
    ⟨"idx_inputs_ledger_seq_no_pubkey", Sql.inputsTable, ["ledger_seq_no", "pubkey"], false⟩,
    ⟨"idx_outputs_ledger_seq_no", Sql.outputsTable, ["ledger_seq_no"], false⟩,
    ⟨"idx_outputs_hash", Sql.outputsTable, ["hash"], false⟩,
    ⟨"idx_outputs_ledger_seq_no_pubkey", Sql.outputsTable, ["ledger_seq_no", "pubkey"], false⟩]

/-- The database holding a store: the three tables and their indexes. -/
def rawDb (ρ : RawStore) : Db :=
  ⟨[⟨Sql.usersTable, userDefs, ρ.users.map userRow⟩, ⟨Sql.inputsTable, inputDefs, ρ.inputs.map inputRow⟩,
    ⟨Sql.outputsTable, outputDefs, ρ.outputs.map outputRow⟩], rawIndexes⟩

/-! ## The engine on tables without constraints -/

/-- A table with no key, no unique index and no `NOT NULL` column takes every
row. -/
theorem Db.admits_plain {db : Db} {tab : Table} (hfree : db.uniqueSets tab = [])
    (hnull : ∀ c ∈ tab.columns, c.notNull = false) (rows : List (List SqlValue)) (r : List SqlValue) :
    db.admits tab rows r = true := by
  simp only [Db.admits, hfree, List.all_nil, Bool.and_true, List.all_eq_true]
  intro c hc
  simp [hnull c hc]

/-- The `&&` chain of an insert helper, with a statement filling every column
of a table without constraints: `0` with the bound row appended, or `-1` with
the database unchanged when a bind check fails. -/
theorem stepInsert_plain {db : Db} {tab : Table} (ht : db.tableNamed tab.name = some tab)
    (hn : (tab.columnNames.map foldName).Nodup) (hfree : db.uniqueSets tab = []) (hnull : ∀ c ∈ tab.columns, c.notNull = false)
    (binds : List (Option Binding)) :
    stepInsert db (some (.insert tab.name tab.columnNames [params tab.columnNames.length])) binds =
      match binds.mapM id with
      | some bs => (0, db.setRows tab.name (tab.rows ++ [(params tab.columnNames.length).map (evalExpr bs)]))
      | none => (-1, db) := by
  unfold stepInsert
  cases binds.mapM id with
  | none => rfl
  | some bs => simp only [Db.exec_insertAll ht hn bs, Db.admits_plain hfree hnull, if_true]

/-- The rows a list of records is stored as, read back one by one. -/
theorem mapM_map_read {α β : Type} {read : List SqlValue → Option α} {enc : β → List SqlValue} {view : β → α}
    {xs : List β} (h : ∀ x ∈ xs, read (enc x) = some (view x)) : (xs.map enc).mapM read = some (xs.map view) := by
  induction xs with
  | nil => rfl
  | cons x xs ih =>
    rw [List.map_cons, List.mapM_cons, h x (List.mem_cons_self _ _),
      ih fun y hy => h y (List.mem_cons_of_mem _ hy)]
    rfl

/-- The loop of the `get_*_by_seq_no` readers on a table holding the rows of
`xs`: the records of the `seq_no`, in order, appended to the caller's list. -/
theorem getAllBySeqNo_table {α β : Type} {sql : String} {read : List SqlValue → Option α} {db : Db} {tab : Table}
    {xs : List β} {enc : β → List SqlValue} {view : β → α} {key : β → UInt64}
    (hp : db.prepare sql = some (.select tab.name [("ledger_seq_no", .param 1)] none none))
    (hs : db.source tab.name = some tab) (hrows : tab.rows = xs.map enc)
    (hm : ∀ x n, tab.matches [(1, .int (toInt64 n))] [("ledger_seq_no", .param 1)] (enc x) = (key x == n))
    (hr : ∀ x ∈ xs, read (enc x) = some (view x)) (n : UInt64) (out : List α) :
    getAllBySeqNo sql read db n out = some (0, out ++ (xs.filter (key · == n)).map view) := by
  simp only [getAllBySeqNo, hp, Db.exec_select_all hs, hrows, List.filter_map, Function.comp_def, hm]
  rw [mapM_map_read fun x hx => hr x (List.mem_of_mem_filter hx)]
  rfl

/-! ## The statements on a raw database -/

set_option maxRecDepth 2000 in
theorem parseScript_insertIntoUsers :
    parseScript Sql.insertIntoUsers =
      some [some (.insert Sql.usersTable ["ledger_seq_no", "pubkey"] [params 2])] := by decide

set_option maxRecDepth 2000 in
theorem parseScript_insertIntoUserInputs :
    parseScript Sql.insertIntoUserInputs = some [some (.insert Sql.inputsTable
      ["ledger_seq_no", "pubkey", "hash", "nonce", "blob_offset", "blob_size"] [params 6])] := by decide

set_option maxRecDepth 2000 in
theorem parseScript_insertIntoUserOutputs :
    parseScript Sql.insertIntoUserOutputs = some [some (.insert Sql.outputsTable
      ["ledger_seq_no", "pubkey", "hash", "blob_offset", "blob_count"] [params 5])] := by decide

set_option maxRecDepth 2000 in
theorem parseScript_selectUsersBySeqNo :
    parseScript Sql.selectUsersBySeqNo =
      some [some (.select Sql.usersTable [("ledger_seq_no", .param 1)] none none)] := by decide

set_option maxRecDepth 2000 in
theorem parseScript_selectInputsBySeqNo :
    parseScript Sql.selectInputsBySeqNo =
      some [some (.select Sql.inputsTable [("ledger_seq_no", .param 1)] none none)] := by decide

set_option maxRecDepth 2000 in
theorem parseScript_selectOutputsBySeqNo :
    parseScript Sql.selectOutputsBySeqNo =
      some [some (.select Sql.outputsTable [("ledger_seq_no", .param 1)] none none)] := by decide

set_option maxRecDepth 2000 in
theorem parseScript_selectInputByHash :
    parseScript Sql.selectInputByHash = some [some (.select Sql.inputsTable [("hash", .param 1)] none none)] := by
  decide

/-! ## Each call on the database of a store -/

/-- `initialize_ledger_raw_db` on a new file. -/
theorem initializeLedgerRawDb_empty : initializeLedgerRawDb Db.empty = (0, rawDb RawStore.empty) := by
  simp (disch := decide) only [initializeLedgerRawDb, createTable_exec, createIndex_exec]
  rfl

/-- A second `initialize_ledger_raw_db` fails at its first `CREATE INDEX`,
whose name is taken, and changes nothing. -/
theorem initializeLedgerRawDb_rawDb (ρ : RawStore) : initializeLedgerRawDb (rawDb ρ) = (-1, rawDb ρ) := by
  have ht : ((rawDb ρ).tableNamed Sql.usersTable).isSome := rfl
  have hi : (rawDb ρ).nameTaken (indexName Sql.usersTable "ledger_seq_no") = true := rfl
  have hcreate : createTable (rawDb ρ) Sql.usersTable userColumns = (0, rawDb ρ) := by
    rw [createTable_exec _ _ _ (by decide) (by decide) (by decide), Db.exec_createTable_existing (by decide) ht]
  have hindex : createIndex (rawDb ρ) Sql.usersTable "ledger_seq_no" false = (-1, rawDb ρ) := by
    rw [createIndex_exec _ _ _ _ (by decide) (by decide), Db.exec_createIndex_taken hi]
  rw [initializeLedgerRawDb, runUntilError_ok (createTable · Sql.usersTable userColumns) hcreate,
    runUntilError_fail (createIndex · Sql.usersTable "ledger_seq_no" false) hindex]

theorem prepareUserInsert_rawDb (ρ : RawStore) :
    prepareUserInsert (rawDb ρ) = some (.insert Sql.usersTable ["ledger_seq_no", "pubkey"] [params 2]) := by
  rw [prepareUserInsert, Db.prepare_single parseScript_insertIntoUsers]
  exact if_pos rfl

theorem prepareUserInputInsert_rawDb (ρ : RawStore) :
    prepareUserInputInsert (rawDb ρ) = some (.insert Sql.inputsTable
      ["ledger_seq_no", "pubkey", "hash", "nonce", "blob_offset", "blob_size"] [params 6]) := by
  rw [prepareUserInputInsert, Db.prepare_single parseScript_insertIntoUserInputs]
  exact if_pos rfl

theorem prepareUserOutputInsert_rawDb (ρ : RawStore) :
    prepareUserOutputInsert (rawDb ρ) = some (.insert Sql.outputsTable
      ["ledger_seq_no", "pubkey", "hash", "blob_offset", "blob_count"] [params 5]) := by
  rw [prepareUserOutputInsert, Db.prepare_single parseScript_insertIntoUserOutputs]
  exact if_pos rfl

section Inserts

variable (ρ : RawStore) (binds : List (Option Binding))

theorem rawDb_stepInsert_users :
    stepInsert (rawDb ρ) (some (.insert Sql.usersTable ["ledger_seq_no", "pubkey"] [params 2])) binds =
      match binds.mapM id with
      | some bs => (0, (rawDb ρ).setRows Sql.usersTable (ρ.users.map userRow ++ [(params 2).map (evalExpr bs)]))
      | none => (-1, rawDb ρ) :=
  @stepInsert_plain (rawDb ρ) ⟨Sql.usersTable, userDefs, ρ.users.map userRow⟩ rfl
    (show ((userDefs.map (·.name)).map foldName).Nodup by decide) rfl (show ∀ c ∈ userDefs, c.notNull = false by decide) binds

theorem rawDb_stepInsert_inputs :
    stepInsert (rawDb ρ) (some (.insert Sql.inputsTable
        ["ledger_seq_no", "pubkey", "hash", "nonce", "blob_offset", "blob_size"] [params 6])) binds =
      match binds.mapM id with
      | some bs => (0, (rawDb ρ).setRows Sql.inputsTable (ρ.inputs.map inputRow ++ [(params 6).map (evalExpr bs)]))
      | none => (-1, rawDb ρ) :=
  @stepInsert_plain (rawDb ρ) ⟨Sql.inputsTable, inputDefs, ρ.inputs.map inputRow⟩ rfl
    (show ((inputDefs.map (·.name)).map foldName).Nodup by decide) rfl (show ∀ c ∈ inputDefs, c.notNull = false by decide) binds

theorem rawDb_stepInsert_outputs :
    stepInsert (rawDb ρ) (some (.insert Sql.outputsTable
        ["ledger_seq_no", "pubkey", "hash", "blob_offset", "blob_count"] [params 5])) binds =
      match binds.mapM id with
      | some bs => (0, (rawDb ρ).setRows Sql.outputsTable (ρ.outputs.map outputRow ++ [(params 5).map (evalExpr bs)]))
      | none => (-1, rawDb ρ) :=
  @stepInsert_plain (rawDb ρ) ⟨Sql.outputsTable, outputDefs, ρ.outputs.map outputRow⟩ rfl
    (show ((outputDefs.map (·.name)).map foldName).Nodup by decide) rfl (show ∀ c ∈ outputDefs, c.notNull = false by decide) binds

end Inserts

theorem insertUserRecord_rawDb (ρ : RawStore) (n : UInt64) (pk : Bytes) :
    insertUserRecord (rawDb ρ) (prepareUserInsert (rawDb ρ)) n pk = match ρ.addUser (n, pk) with
      | some ρ' => (0, rawDb ρ')
      | none => (-1, rawDb ρ) := by
  rw [insertUserRecord, prepareUserInsert_rawDb, rawDb_stepInsert_users, RawStore.addUser, bindPubkeyBlob]
  by_cases h : pk.length = Sql.pubkeySize
  · rw [dif_pos h, if_pos h]
    simp only [rawDb, List.map_append, List.map_cons, List.map_nil]
    rfl
  · rw [dif_neg h, if_neg h]
    rfl

theorem insertUserInputRecord_rawDb (ρ : RawStore) (i : LedgerUserInput) :
    insertUserInputRecord (rawDb ρ) (prepareUserInputInsert (rawDb ρ)) i.ledgerSeqNo i.pubkey i.hash i.nonce
      i.blobOffset i.blobSize = match ρ.addInput i with
      | some ρ' => (0, rawDb ρ')
      | none => (-1, rawDb ρ) := by
  rw [insertUserInputRecord, prepareUserInputInsert_rawDb, rawDb_stepInsert_inputs, RawStore.addInput,
    bindPubkeyBlob, bindH32Blob]
  by_cases hp : i.pubkey.length = Sql.pubkeySize
  · by_cases hh : i.hash.length = 32
    · rw [dif_pos ⟨hp, hh⟩, if_pos hp, if_pos hh]
      simp only [rawDb, List.map_append, List.map_cons, List.map_nil]
      rfl
    · rw [dif_neg (show ¬i.Wf from hh ∘ And.right), if_pos hp, if_neg hh]
      rfl
  · rw [dif_neg (show ¬i.Wf from hp ∘ And.left), if_neg hp]
    rfl

theorem insertUserOutputRecord_rawDb (ρ : RawStore) (o : LedgerUserOutput) :
    insertUserOutputRecord (rawDb ρ) (prepareUserOutputInsert (rawDb ρ)) o.ledgerSeqNo o.pubkey o.hash
      o.blobOffset o.blobCount = match ρ.addOutput o with
      | some ρ' => (0, rawDb ρ')
      | none => (-1, rawDb ρ) := by
  rw [insertUserOutputRecord, prepareUserOutputInsert_rawDb, rawDb_stepInsert_outputs, RawStore.addOutput,
    bindPubkeyBlob, bindH32Blob]
  by_cases hp : o.pubkey.length = Sql.pubkeySize
  · by_cases hh : o.hash.length = 32
    · rw [dif_pos ⟨hp, hh⟩, if_pos hp, if_pos hh]
      simp only [rawDb, List.map_append, List.map_cons, List.map_nil]
      rfl
    · rw [dif_neg (show ¬o.Wf from hh ∘ And.right), if_pos hp, if_neg hh]
      rfl
  · rw [dif_neg (show ¬o.Wf from hp ∘ And.left), if_neg hp]
    rfl

/-! ## Reading the database of a store -/

/-- A `WHERE c = ?1` comparison with an integer bound to `?1`. -/
theorem Table.matches_int {t : Table} {r : List SqlValue} {c : String} {k n : UInt64}
    (h : t.value r c = .int (toInt64 k)) : t.matches [(1, .int (toInt64 n))] [(c, .param 1)] r = (k == n) := by
  simp [Table.matches, evalExpr, bne, h, toInt64_injective.eq_iff]
  rfl

/-- A `WHERE c = ?1` comparison with a blob bound to `?1`. -/
theorem Table.matches_blob {t : Table} {r : List SqlValue} {c : String} {b b' : Bytes}
    (h : t.value r c = .blob b) : t.matches [(1, .blob b')] [(c, .param 1)] r = (b == b') := by
  simp only [Table.matches, evalExpr, h, List.all_cons, List.all_nil, List.lookup_cons, Bool.and_true,
    beq_self_eq_true, Option.getD_some]
  by_cases hb : b = b' <;> simp [hb]

theorem getUsersBySeqNo_rawDb (ρ : RawStore) (n : UInt64) (out : List Bytes) :
    getUsersBySeqNo (rawDb ρ) n out = some (0, out ++ (ρ.users.filter (·.1 == n)).map (·.2)) :=
  @getAllBySeqNo_table _ _ Sql.selectUsersBySeqNo (getPubkeyBlob · 1) (rawDb ρ)
    ⟨Sql.usersTable, userDefs, ρ.users.map userRow⟩ ρ.users userRow Prod.snd Prod.fst
    (by rw [Db.prepare_single parseScript_selectUsersBySeqNo]; exact if_pos rfl) rfl rfl
    (fun _ _ => Table.matches_int rfl) (fun u hu => getPubkeyBlob_userRow (ρ.usersWf u hu)) n out

theorem getUserInputsBySeqNo_rawDb (ρ : RawStore) (n : UInt64) (out : List LedgerUserInput) :
    getUserInputsBySeqNo (rawDb ρ) n out = some (0, out ++ ρ.inputs.filter (·.ledgerSeqNo == n)) :=
  (@getAllBySeqNo_table _ _ Sql.selectInputsBySeqNo populateUserInputFromSqlRecord (rawDb ρ)
    ⟨Sql.inputsTable, inputDefs, ρ.inputs.map inputRow⟩ ρ.inputs inputRow id LedgerUserInput.ledgerSeqNo
    (by rw [Db.prepare_single parseScript_selectInputsBySeqNo]; exact if_pos rfl) rfl rfl
    (fun _ _ => Table.matches_int rfl) (fun i hi => populateUserInputFromSqlRecord_inputRow (ρ.inputsWf i hi))
    n out).trans (by rw [List.map_id])

theorem getUserOutputsBySeqNo_rawDb (ρ : RawStore) (n : UInt64) (out : List LedgerUserOutput) :
    getUserOutputsBySeqNo (rawDb ρ) n out = some (0, out ++ ρ.outputs.filter (·.ledgerSeqNo == n)) :=
  (@getAllBySeqNo_table _ _ Sql.selectOutputsBySeqNo populateUserOutputFromSqlRecord (rawDb ρ)
    ⟨Sql.outputsTable, outputDefs, ρ.outputs.map outputRow⟩ ρ.outputs outputRow id LedgerUserOutput.ledgerSeqNo
    (by rw [Db.prepare_single parseScript_selectOutputsBySeqNo]; exact if_pos rfl) rfl rfl
    (fun _ _ => Table.matches_int rfl) (fun o ho => populateUserOutputFromSqlRecord_outputRow (ρ.outputsWf o ho))
    n out).trans (by rw [List.map_id])

/-- `get_user_input_by_hash` reads the first stored input of the hash. -/
theorem getUserInputByHash_rawDb (ρ : RawStore) (hash : Bytes) (input : Option LedgerUserInput) :
    getUserInputByHash (rawDb ρ) hash input =
      if hash.length = 32 then some (0, match ρ.inputs.find? (·.hash == hash) with
        | some i => some i
        | none => input)
      else some (-1, input) := by
  have hp : (rawDb ρ).prepare Sql.selectInputByHash =
      some (.select Sql.inputsTable [("hash", .param 1)] none none) := by
    rw [Db.prepare_single parseScript_selectInputByHash]
    exact if_pos rfl
  have hs : (rawDb ρ).source Sql.inputsTable = some ⟨Sql.inputsTable, inputDefs, ρ.inputs.map inputRow⟩ := rfl
  have hm : Table.matches ⟨Sql.inputsTable, inputDefs, ρ.inputs.map inputRow⟩ [(1, .blob hash)]
      [("hash", .param 1)] ∘ inputRow = (·.hash == hash) := funext fun _ => Table.matches_blob rfl
  unfold getUserInputByHash
  rw [hp, bindH32Blob]
  by_cases hh : hash.length = 32
  · rw [if_pos hh, if_pos hh]
    dsimp only
    rw [Db.exec_select_all hs, List.filter_map, hm, ← List.filter_head?]
    cases hf : ρ.inputs.filter (·.hash == hash) with
    | nil => rfl
    | cons i rest =>
      have hi : i ∈ ρ.inputs := List.mem_of_mem_filter (hf ▸ List.mem_cons_self i rest)
      simp only [List.map_cons, List.head?_cons, populateUserInputFromSqlRecord_inputRow (ρ.inputsWf i hi)]
      rfl
  · rw [if_neg hh, if_neg hh]

/-! ## The raw shard machine -/

/-- The calls of sqlite.cpp that write a raw data shard database, each insert
made with the statement its `prepare_user_*` gives on the database. -/
inductive RawOp where
  /-- `initialize_ledger_raw_db`. -/
  | initializeDb
  /-- `insert_user_record`. -/
  | insertUser (ledgerSeqNo : UInt64) (pubkey : Bytes)
  /-- `insert_user_input_record`, with the fields of an input. -/
  | insertInput (input : LedgerUserInput)
  /-- `insert_user_output_record`, with the fields of an output. -/
  | insertOutput (output : LedgerUserOutput)

namespace RawOp

def run (db : Db) : RawOp → Int × Db
  | initializeDb => initializeLedgerRawDb db
  | insertUser n pk => insertUserRecord db (prepareUserInsert db) n pk
  | insertInput i => insertUserInputRecord db (prepareUserInputInsert db) i.ledgerSeqNo i.pubkey i.hash i.nonce
      i.blobOffset i.blobSize
  | insertOutput o => insertUserOutputRecord db (prepareUserOutputInsert db) o.ledgerSeqNo o.pubkey o.hash
      o.blobOffset o.blobCount

/-- A call on the store: its code, and the store after it. -/
def apply (ρ : RawStore) : RawOp → Int × RawStore
  | initializeDb => (-1, ρ)
  | insertUser n pk => match ρ.addUser (n, pk) with
    | some ρ' => (0, ρ')
    | none => (-1, ρ)
  | insertInput i => match ρ.addInput i with
    | some ρ' => (0, ρ')
    | none => (-1, ρ)
  | insertOutput o => match ρ.addOutput o with
    | some ρ' => (0, ρ')
    | none => (-1, ρ)

/-- The user a call stores: that of an `insert_user_record` whose key has
`PUBKEY_SIZE` bytes. -/
def user? : RawOp → Option (UInt64 × Bytes)
  | insertUser n pk => if pk.length = Sql.pubkeySize then some (n, pk) else none
  | _ => none

/-- The input a call stores: that of an `insert_user_input_record` whose key
and hash have the sizes the binds check. -/
def input? : RawOp → Option LedgerUserInput
  | insertInput i => if i.Wf then some i else none
  | _ => none

/-- The output a call stores. -/
def output? : RawOp → Option LedgerUserOutput
  | insertOutput o => if o.Wf then some o else none
  | _ => none

/-- Each call on the database of a store is the call on the store. -/
theorem run_rawDb (ρ : RawStore) (op : RawOp) : op.run (rawDb ρ) = ((op.apply ρ).1, rawDb (op.apply ρ).2) := by
  cases op with
  | initializeDb => exact initializeLedgerRawDb_rawDb ρ
  | insertUser n pk =>
    rw [run, insertUserRecord_rawDb, apply]
    cases ρ.addUser (n, pk) <;> rfl
  | insertInput i =>
    rw [run, insertUserInputRecord_rawDb, apply]
    cases ρ.addInput i <;> rfl
  | insertOutput o =>
    rw [run, insertUserOutputRecord_rawDb, apply]
    cases ρ.addOutput o <;> rfl

/-- What one call adds to each table of the store. -/
theorem apply_tables (ρ : RawStore) (op : RawOp) :
    (op.apply ρ).2.users = ρ.users ++ op.user?.toList ∧ (op.apply ρ).2.inputs = ρ.inputs ++ op.input?.toList ∧
      (op.apply ρ).2.outputs = ρ.outputs ++ op.output?.toList := by
  cases op with
  | initializeDb => simp [apply, user?, input?, output?]
  | insertUser n pk =>
    by_cases h : pk.length = Sql.pubkeySize <;> simp [apply, user?, input?, output?, RawStore.addUser, h]
  | insertInput i => by_cases h : i.Wf <;> simp [apply, user?, input?, output?, RawStore.addInput, h]
  | insertOutput o => by_cases h : o.Wf <;> simp [apply, user?, input?, output?, RawStore.addOutput, h]

theorem runCalls_rawDb (ρ : RawStore) (ops : List RawOp) :
    runCalls run (rawDb ρ) ops = ((runCalls apply ρ ops).1, rawDb (runCalls apply ρ ops).2) :=
  @runCalls_simulation Db RawStore RawOp run apply rawDb (fun _ => True) (fun ρ op _ => run_rawDb ρ op) ρ ops
    fun _ _ => trivial

end RawOp

/-- A list a run only appends to holds, after the run, what each call added,
in the order of the calls. -/
theorem runCalls_collect {σ α β : Type} (step : σ → α → Int × σ) (get : σ → List β) (new : α → Option β)
    (h : ∀ x a, get (step x a).2 = get x ++ (new a).toList) (x : σ) (as : List α) :
    get (runCalls step x as).2 = get x ++ as.filterMap new := by
  induction as generalizing x with
  | nil => simp [runCalls]
  | cons a as ih =>
    rw [runCalls, ih, h, List.filterMap_cons]
    cases new a <;> simp

/-! ## Runs -/

/-- **A raw data shard database over whole runs.** `initialize_ledger_raw_db`
on a new file returns `0` with the database of the empty store; from there
every sequence of `initialize_ledger_raw_db` and `insert_user_*` calls returns
the codes of the store machine and leaves the database of the store it
reaches. -/
theorem raw_db_run_refines (ops : List RawOp) :
    initializeLedgerRawDb Db.empty = (0, rawDb RawStore.empty) ∧
      runCalls RawOp.run (initializeLedgerRawDb Db.empty).2 ops =
        ((runCalls RawOp.apply RawStore.empty ops).1, rawDb (runCalls RawOp.apply RawStore.empty ops).2) := by
  rw [initializeLedgerRawDb_empty]
  exact ⟨rfl, RawOp.runCalls_rawDb _ ops⟩

/-- **The `seq_no` readers after any run.** After `initialize_ledger_raw_db`
on a new file and any calls, each `get_*_by_seq_no` returns `0` and appends to
the caller's list the records of that `seq_no` the calls stored, in the order
of the calls: an insert stores its record when the key has `PUBKEY_SIZE`
bytes and the hash 32. -/
theorem raw_db_reads_by_seq_no (ops : List RawOp) (n : UInt64) (us : List Bytes) (is : List LedgerUserInput)
    (os : List LedgerUserOutput) :
    getUsersBySeqNo (runCalls RawOp.run (initializeLedgerRawDb Db.empty).2 ops).2 n us =
        some (0, us ++ ((ops.filterMap RawOp.user?).filter (·.1 == n)).map (·.2)) ∧
      getUserInputsBySeqNo (runCalls RawOp.run (initializeLedgerRawDb Db.empty).2 ops).2 n is =
        some (0, is ++ (ops.filterMap RawOp.input?).filter (·.ledgerSeqNo == n)) ∧
      getUserOutputsBySeqNo (runCalls RawOp.run (initializeLedgerRawDb Db.empty).2 ops).2 n os =
        some (0, os ++ (ops.filterMap RawOp.output?).filter (·.ledgerSeqNo == n)) := by
  rw [initializeLedgerRawDb_empty, RawOp.runCalls_rawDb, getUsersBySeqNo_rawDb, getUserInputsBySeqNo_rawDb,
    getUserOutputsBySeqNo_rawDb,
    runCalls_collect _ RawStore.users _ (fun ρ op => (op.apply_tables ρ).1),
    runCalls_collect _ RawStore.inputs _ (fun ρ op => (op.apply_tables ρ).2.1),
    runCalls_collect _ RawStore.outputs _ (fun ρ op => (op.apply_tables ρ).2.2)]
  exact ⟨rfl, rfl, rfl⟩

/-- **`get_user_input_by_hash` after any run.** After
`initialize_ledger_raw_db` on a new file and any calls, it returns `-1` with
`input` untouched when the hash is not 32 bytes; otherwise `0` with the first
input of that hash the calls stored, or with `input` untouched when there is
none. -/
theorem raw_db_input_by_hash (ops : List RawOp) (hash : Bytes) (input : Option LedgerUserInput) :
    getUserInputByHash (runCalls RawOp.run (initializeLedgerRawDb Db.empty).2 ops).2 hash input =
      if hash.length = 32 then some (0, match (ops.filterMap RawOp.input?).find? (·.hash == hash) with
        | some i => some i
        | none => input)
      else some (-1, input) := by
  rw [initializeLedgerRawDb_empty, RawOp.runCalls_rawDb, getUserInputByHash_rawDb,
    runCalls_collect _ RawStore.inputs _ (fun ρ op => (op.apply_tables ρ).2.1)]
  rfl

end Hpcore.Ledger
