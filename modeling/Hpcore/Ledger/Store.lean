import Hpcore.Ledger.Text

/-! # What the ledger table holds

The ledger table of a shard database as `ledger::sqlite` keeps it, seen from
above: a `LedgerStore` is the list of records it holds, each with nine
32-byte hashes, no two sharing a `seq_no` (the primary key), a `time` or a
`ledger_hash` (the two unique indexes of `initialize_ledger_db`). The table
refines the store: `insert_ledger_row` is `LedgerStore.insert`,
`get_ledger_by_seq_no` is `LedgerStore.find`, and `get_last_ledger` returns
the record of largest `seq_no` read as a signed 64-bit integer. -/

namespace Hpcore.Ledger

/-! ## Records as rows -/

/-- The nine hashes of a record, in the table's column order. -/
def LedgerRecord.hashes (l : LedgerRecord) : List Bytes :=
  [l.ledgerHash, l.prevLedgerHash, l.dataHash, l.stateHash, l.configHash, l.nonce, l.userHash,
    l.inputHash, l.outputHash]

/-- What the `BIND_H32_BLOB` checks of `insert_ledger_row` ask of a record. -/
def LedgerRecord.HashesWf (l : LedgerRecord) : Prop := ∀ h ∈ l.hashes, h.length = 32

instance (l : LedgerRecord) : Decidable l.HashesWf := inferInstanceAs (Decidable (∀ h ∈ l.hashes, _))

/-- Two records the table can hold together: their `seq_no`, `time` and
`ledger_hash` all differ. -/
def LedgerRecord.Compatible (a b : LedgerRecord) : Prop :=
  a.seqNo ≠ b.seqNo ∧ a.timestamp ≠ b.timestamp ∧ a.ledgerHash ≠ b.ledgerHash

instance (a b : LedgerRecord) : Decidable (a.Compatible b) := inferInstanceAs (Decidable (_ ∧ _ ∧ _))

theorem LedgerRecord.Compatible.symm {a b : LedgerRecord} (h : a.Compatible b) : b.Compatible a :=
  ⟨h.1.symm, h.2.1.symm, h.2.2.symm⟩

/-- The row `insert_ledger_row` stores for a record. -/
def ledgerRow (l : LedgerRecord) : List SqlValue :=
  .int (toInt64 l.seqNo) :: .int (toInt64 l.timestamp) :: l.hashes.map .blob

/-- The binds `insert_ledger_row` makes for a record that passes its checks. -/
def ledgerBinds (l : LedgerRecord) : List Binding :=
  (List.range 11).zip (ledgerRow l) |>.map fun (k, v) => (k + 1, v)

theorem populateLedgerFromSqlRecord_ledgerRow {l : LedgerRecord} (h : l.HashesWf) :
    populateLedgerFromSqlRecord (ledgerRow l) = some l := by
  simp only [LedgerRecord.HashesWf, LedgerRecord.hashes, List.mem_cons, forall_eq_or_imp,
    List.not_mem_nil, false_imp_iff, imp_true_iff, and_true] at h
  obtain ⟨h2, h3, h4, h5, h6, h7, h8, h9, h10⟩ := h
  simp [populateLedgerFromSqlRecord, ledgerRow, LedgerRecord.hashes, getH32Blob, getBlob, columnBlob,
    columnUInt64, columnInt64, ofInt64_toInt64, h2, h3, h4, h5, h6, h7, h8, h9, h10,
    List.take_of_length_le h2.le, List.take_of_length_le h3.le, List.take_of_length_le h4.le,
    List.take_of_length_le h5.le, List.take_of_length_le h6.le, List.take_of_length_le h7.le,
    List.take_of_length_le h8.le, List.take_of_length_le h9.le, List.take_of_length_le h10.le]

/-- A failed check anywhere in an `&&` chain of binds fails the chain. -/
theorem mapM_id_eq_none {α : Type} {l : List (Option α)} (h : none ∈ l) : l.mapM id = none := by
  induction l with
  | nil => cases h
  | cons o os ih =>
    rcases o with _ | a
    · rfl
    · rw [List.mapM_cons, ih (by simpa using h)]
      rfl

theorem insertLedgerRow_binds (l : LedgerRecord) :
    [bindInt64 1 l.seqNo, bindInt64 2 l.timestamp, bindH32Blob 3 l.ledgerHash,
      bindH32Blob 4 l.prevLedgerHash, bindH32Blob 5 l.dataHash, bindH32Blob 6 l.stateHash,
      bindH32Blob 7 l.configHash, bindH32Blob 8 l.nonce, bindH32Blob 9 l.userHash,
      bindH32Blob 10 l.inputHash, bindH32Blob 11 l.outputHash].mapM id =
      if l.HashesWf then some (ledgerBinds l) else none := by
  by_cases h : l.HashesWf
  · have h' := h
    simp only [LedgerRecord.HashesWf, LedgerRecord.hashes, List.mem_cons, forall_eq_or_imp,
      List.not_mem_nil, false_imp_iff, imp_true_iff, and_true] at h'
    obtain ⟨h3, h4, h5, h6, h7, h8, h9, h10, h11⟩ := h'
    simp only [bindH32Blob, h3, h4, h5, h6, h7, h8, h9, h10, h11, if_true, if_pos h]
    rfl
  · simp only [if_neg h]
    simp only [LedgerRecord.HashesWf, LedgerRecord.hashes, List.mem_cons, forall_eq_or_imp,
      List.not_mem_nil, false_imp_iff, imp_true_iff, and_true, not_and_or] at h
    rcases h with h | h | h | h | h | h | h | h | h <;> exact mapM_id_eq_none (by simp [bindH32Blob, h])

/-! ## The statements -/

def ledgerDefs : List ColumnDef := ledgerColumns.map TableColumnInfo.toDef

/-- The parameters `?1` to `?n`. -/
def params (n : Nat) : List Expr := (List.range n).map fun k => .param (k + 1)

set_option maxRecDepth 2000 in
theorem parseScript_insertIntoLedger :
    parseScript Sql.insertIntoLedger =
      some [some (.insert Sql.ledgerTable (ledgerDefs.map (·.name)) [params 11])] := by decide

set_option maxRecDepth 2000 in
theorem parseScript_selectLedgerBySeqNo :
    parseScript Sql.selectLedgerBySeqNo =
      some [some (.select Sql.ledgerTable [("seq_no", .param 1)] none (some 1))] := by decide

set_option maxRecDepth 2000 in
theorem parseScript_selectLastLedger :
    parseScript Sql.selectLastLedger = some [some (.select Sql.ledgerTable [] (some "seq_no") (some 1))] := by
  decide

/-! ## The store -/

/-- What a ledger table holds: well-formed, pairwise compatible records, in the
order they were inserted. -/
structure LedgerStore where
  ledgers : List LedgerRecord
  wf : ∀ l ∈ ledgers, l.HashesWf
  compatible : ledgers.Pairwise LedgerRecord.Compatible

def LedgerStore.empty : LedgerStore := ⟨[], (fun _ h => nomatch h), .nil⟩

/-- Storing a record: refused when a hash is not 32 bytes long, or a stored
record has its `seq_no`, its `time` or its `ledger_hash`. -/
def LedgerStore.insert (s : LedgerStore) (l : LedgerRecord) : Option LedgerStore :=
  if h : l.HashesWf ∧ ∀ m ∈ s.ledgers, m.Compatible l then
    some { ledgers := s.ledgers ++ [l]
           wf := fun m hm => (List.mem_append.1 hm).elim (s.wf m) fun hl => List.eq_of_mem_singleton hl ▸ h.1
           compatible := List.pairwise_append.2 ⟨s.compatible, List.pairwise_singleton _ _,
             fun m hm _ hl => List.eq_of_mem_singleton hl ▸ h.2 m hm⟩ }
  else none

theorem LedgerStore.insert_ledgers {s s' : LedgerStore} {l : LedgerRecord} (h : s.insert l = some s') :
    s'.ledgers = s.ledgers ++ [l] := by
  unfold LedgerStore.insert at h
  split at h
  · cases h
    rfl
  · cases h

/-- The record of a `seq_no`. -/
def LedgerStore.find (s : LedgerStore) (seqNo : UInt64) : Option LedgerRecord :=
  s.ledgers.find? (·.seqNo == seqNo)

/-- The record of the largest `seq_no`, read as the signed integer the table
stores. -/
def LedgerStore.last (s : LedgerStore) : Option LedgerRecord :=
  s.ledgers.argmax fun l => toInt64 l.seqNo

/-- A store holds at most one record per `seq_no`. -/
theorem LedgerStore.eq_of_seqNo_eq (s : LedgerStore) {l m : LedgerRecord} (hl : l ∈ s.ledgers)
    (hm : m ∈ s.ledgers) (h : l.seqNo = m.seqNo) : l = m :=
  Classical.byContradiction fun hne => (s.compatible.forall (fun _ _ h => h.symm) hl hm hne).1 h

/-! ## The table refines the store -/

def ledgerTimeIndex : Index := ⟨"idx_ledger_time", Sql.ledgerTable, ["time"], true⟩

def ledgerHashIndex : Index := ⟨"idx_ledger_ledger_hash", Sql.ledgerTable, ["ledger_hash"], true⟩

/-- The unique column sets of the ledger table's indexes. -/
def ledgerUniqueIndexes (db : Db) : List (List String) :=
  (db.indexes.filter fun i => sameName i.table Sql.ledgerTable && i.unique).map (·.columns)

/-- A database whose ledger table holds the store `s`, with the columns and
unique indexes of `initialize_ledger_db`. -/
structure LedgerTableIs (db : Db) (s : LedgerStore) : Prop where
  table : db.tableNamed Sql.ledgerTable = some ⟨Sql.ledgerTable, ledgerDefs, s.ledgers.map ledgerRow⟩
  unique : ∀ cols, cols ∈ ledgerUniqueIndexes db ↔ cols = ["time"] ∨ cols = ["ledger_hash"]

section LedgerTable

variable (rows : List (List SqlValue)) (l m : LedgerRecord)

theorem ledgerTable_value_seqNo :
    Table.value ⟨Sql.ledgerTable, ledgerDefs, rows⟩ (ledgerRow l) "seq_no" = .int (toInt64 l.seqNo) := rfl

theorem ledgerTable_value_time :
    Table.value ⟨Sql.ledgerTable, ledgerDefs, rows⟩ (ledgerRow l) "time" = .int (toInt64 l.timestamp) := rfl

theorem ledgerTable_value_ledgerHash :
    Table.value ⟨Sql.ledgerTable, ledgerDefs, rows⟩ (ledgerRow l) "ledger_hash" = .blob l.ledgerHash := rfl

theorem ledgerTable_clash_seqNo :
    Table.clash ⟨Sql.ledgerTable, ledgerDefs, rows⟩ ["seq_no"] (ledgerRow l) (ledgerRow m) =
      decide (l.seqNo = m.seqNo) := by
  simp [Table.clash, ledgerTable_value_seqNo, toInt64_injective.eq_iff]

theorem ledgerTable_clash_time :
    Table.clash ⟨Sql.ledgerTable, ledgerDefs, rows⟩ ["time"] (ledgerRow l) (ledgerRow m) =
      decide (l.timestamp = m.timestamp) := by
  simp [Table.clash, ledgerTable_value_time, toInt64_injective.eq_iff]

theorem ledgerTable_clash_ledgerHash :
    Table.clash ⟨Sql.ledgerTable, ledgerDefs, rows⟩ ["ledger_hash"] (ledgerRow l) (ledgerRow m) =
      decide (l.ledgerHash = m.ledgerHash) := by
  simp [Table.clash, ledgerTable_value_ledgerHash]

end LedgerTable

/-- An insert of one tuple of parameters naming every column of a table in
order: the row of the bound values is stored when the table admits it. -/
theorem Db.exec_insertAll {db : Db} {tab : Table} (ht : db.tableNamed tab.name = some tab)
    (hn : (tab.columnNames.map foldName).Nodup) (binds : List Binding) :
    db.exec binds (.insert tab.name tab.columnNames [params tab.columnNames.length]) =
      if db.admits tab tab.rows ((params tab.columnNames.length).map (evalExpr binds)) then
        some (db.setRows tab.name (tab.rows ++ [(params tab.columnNames.length).map (evalExpr binds)]), [])
      else none := by
  have hl : ((params tab.columnNames.length).map (evalExpr binds)).length = tab.columnNames.length := by
    simp [params]
  simp only [Db.exec, ht, Option.bind_eq_bind, Option.some_bind, List.map_cons, List.map_nil,
    Table.rowOf_columnNames tab hn hl, Db.insertRows_singleton]
  rw [if_pos (by simpa [params] using fun c (h : c ∈ tab.columnNames) => Table.hasColumn_of_mem h)]
  split <;> rfl

/-- The unique column sets of a ledger table refined by a store. -/
theorem LedgerTableIs.mem_uniqueSets {db : Db} {s : LedgerStore} (h : LedgerTableIs db s) (cols : List String) :
    cols ∈ db.uniqueSets ⟨Sql.ledgerTable, ledgerDefs, s.ledgers.map ledgerRow⟩ ↔
      cols = ["seq_no"] ∨ cols = ["time"] ∨ cols = ["ledger_hash"] := by
  have hk : (ledgerDefs.filter (·.primaryKey)).map (fun c => [c.name]) = [["seq_no"]] := rfl
  rw [Db.uniqueSets, hk, List.singleton_append, List.mem_cons, ← h.unique cols]
  rfl

/-- The ledger table admits the row of a record exactly when the record is
compatible with every stored one. -/
theorem LedgerTableIs.admits_iff {db : Db} {s : LedgerStore} (h : LedgerTableIs db s) (l : LedgerRecord) :
    db.admits ⟨Sql.ledgerTable, ledgerDefs, s.ledgers.map ledgerRow⟩ (s.ledgers.map ledgerRow) (ledgerRow l) = true ↔
      ∀ m ∈ s.ledgers, m.Compatible l := by
  have hsets : ∀ f : List String → Bool,
      (db.uniqueSets ⟨Sql.ledgerTable, ledgerDefs, s.ledgers.map ledgerRow⟩).all f = true ↔
        f ["seq_no"] = true ∧ f ["time"] = true ∧ f ["ledger_hash"] = true := fun f => by
    simp only [List.all_eq_true, h.mem_uniqueSets]
    aesop
  have hnn : (ledgerDefs.all fun c => !(c.notNull &&
      Table.value ⟨Sql.ledgerTable, ledgerDefs, s.ledgers.map ledgerRow⟩ (ledgerRow l) c.name == .null)) = true :=
    rfl
  rw [Db.admits, hnn, Bool.true_and, hsets]
  simp only [List.all_eq_true, List.forall_mem_map, ledgerTable_clash_seqNo, ledgerTable_clash_time,
    ledgerTable_clash_ledgerHash, Bool.not_eq_true', decide_eq_false_iff_not, LedgerRecord.Compatible]
  constructor
  · rintro ⟨h1, h2, h3⟩ m hm
    exact ⟨Ne.symm (h1 m hm), Ne.symm (h2 m hm), Ne.symm (h3 m hm)⟩
  · intro hc
    exact ⟨fun m hm => Ne.symm (hc m hm).1, fun m hm => Ne.symm (hc m hm).2.1,
      fun m hm => Ne.symm (hc m hm).2.2⟩

theorem LedgerTableIs.prepare_insertIntoLedger {db : Db} {s : LedgerStore} (h : LedgerTableIs db s) :
    db.prepare Sql.insertIntoLedger = some (.insert Sql.ledgerTable (ledgerDefs.map (·.name)) [params 11]) := by
  rw [Db.prepare_single parseScript_insertIntoLedger, if_pos]
  simp only [Db.resolves, h.table]
  rfl

/-- **`insert_ledger_row` is `LedgerStore.insert`**: on a ledger table holding
`s` it stores the record's row when the store takes the record, and fails
with the database unchanged when it refuses it. -/
theorem LedgerTableIs.insertLedgerRow_eq {db : Db} {s : LedgerStore} (h : LedgerTableIs db s) (l : LedgerRecord) :
    insertLedgerRow db l = match s.insert l with
      | some s' => (0, db.setRows Sql.ledgerTable (s'.ledgers.map ledgerRow))
      | none => (-1, db) := by
  have hx := @Db.exec_insertAll _ ⟨Sql.ledgerTable, ledgerDefs, s.ledgers.map ledgerRow⟩ h.table
    (show ((ledgerDefs.map (·.name)).map foldName).Nodup by decide) (ledgerBinds l)
  have hrow : (params 11).map (evalExpr (ledgerBinds l)) = ledgerRow l := rfl
  simp only [Table.columnNames, show (ledgerDefs.map (·.name)).length = 11 from rfl, hrow] at hx
  unfold insertLedgerRow stepInsert LedgerStore.insert
  rw [h.prepare_insertIntoLedger, insertLedgerRow_binds]
  by_cases hw : l.HashesWf
  · by_cases hc : ∀ m ∈ s.ledgers, m.Compatible l
    · rw [dif_pos ⟨hw, hc⟩]
      simp [hw, hx, (h.admits_iff l).2 hc]
    · have hna : db.admits ⟨Sql.ledgerTable, ledgerDefs, s.ledgers.map ledgerRow⟩ (s.ledgers.map ledgerRow)
          (ledgerRow l) = false := by simpa using mt (h.admits_iff l).1 hc
      rw [dif_neg fun h' => hc h'.2]
      simp [hw, hx, hna]
  · rw [dif_neg fun h' => hw h'.1]
    simp [hw]

/-- After a successful insert the table holds the new store. -/
theorem LedgerTableIs.setRows {db : Db} {s s' : LedgerStore} (h : LedgerTableIs db s) :
    LedgerTableIs (db.setRows Sql.ledgerTable (s'.ledgers.map ledgerRow)) s' where
  table := by simp [Db.tableNamed_setRows, h.table]
  unique := h.unique

/-! ## Lookups -/

theorem LedgerTableIs.source {db : Db} {s : LedgerStore} (h : LedgerTableIs db s) :
    db.source Sql.ledgerTable = some ⟨Sql.ledgerTable, ledgerDefs, s.ledgers.map ledgerRow⟩ := by
  rw [Db.source, if_neg (by decide), h.table]

/-- The `WHERE seq_no=?` comparison on a record's row. -/
theorem ledgerTable_matches_seqNo (rows : List (List SqlValue)) (n : UInt64) (l : LedgerRecord) :
    Table.matches ⟨Sql.ledgerTable, ledgerDefs, rows⟩ [(1, .int (toInt64 n))] [("seq_no", .param 1)]
      (ledgerRow l) = (l.seqNo == n) := by
  simp [Table.matches, evalExpr, bne, ledgerTable_value_seqNo, toInt64_injective.eq_iff]
  rfl

/-- What a stored row reads back as. -/
theorem LedgerStore.populate_of_mem (s : LedgerStore) {l : LedgerRecord} (hl : l ∈ s.ledgers) :
    populateLedgerFromSqlRecord (ledgerRow l) = some l :=
  populateLedgerFromSqlRecord_ledgerRow (s.wf l hl)

/-- **`get_ledger_by_seq_no` is `LedgerStore.find`**: `1` with the stored
record of that `seq_no`, or `0` with `ledger` untouched when there is none. It
never fails and never reads past a blob. -/
theorem LedgerTableIs.getLedgerBySeqNo_eq {db : Db} {s : LedgerStore} (h : LedgerTableIs db s) (n : UInt64)
    (x : LedgerRecord) :
    getLedgerBySeqNo db n x = some (match s.find n with
      | some l => (1, l)
      | none => (0, x)) := by
  have hp : db.prepare Sql.selectLedgerBySeqNo = some (.select Sql.ledgerTable [("seq_no", .param 1)] none (some 1)) := by
    rw [Db.prepare_single parseScript_selectLedgerBySeqNo, if_pos]
    simp only [Db.resolves, h.source]
    rfl
  have hf : (s.ledgers.map ledgerRow).filter (Table.matches ⟨Sql.ledgerTable, ledgerDefs, s.ledgers.map ledgerRow⟩
      [(1, .int (toInt64 n))] [("seq_no", .param 1)]) = (s.ledgers.filter (·.seqNo == n)).map ledgerRow := by
    simp only [List.filter_map, Function.comp_def, ledgerTable_matches_seqNo]
  have hfind : s.find n = (s.ledgers.filter (·.seqNo == n)).head? := (List.filter_head? _ _).symm
  simp only [getLedgerBySeqNo, hp, Option.bind_eq_bind, Option.some_bind, Db.exec, h.source, hf,
    ← List.map_take, hfind]
  cases hs : s.ledgers.filter (·.seqNo == n) with
  | nil => rfl
  | cons l t =>
    have hl : l ∈ s.ledgers := List.mem_of_mem_filter (hs ▸ List.mem_cons_self l t)
    simp [s.populate_of_mem hl]

/-- `ORDER BY seq_no DESC` puts the row of `LedgerStore.last` first. -/
theorem LedgerStore.head?_sortBySeqNo (s : LedgerStore) (rows : List (List SqlValue)) :
    ((s.ledgers.map ledgerRow).insertionSort fun a b =>
      (Table.value ⟨Sql.ledgerTable, ledgerDefs, rows⟩ b "seq_no").sortKey ≤
        (Table.value ⟨Sql.ledgerTable, ledgerDefs, rows⟩ a "seq_no").sortKey).head? =
      s.last.map ledgerRow := by
  cases hs : ((s.ledgers.map ledgerRow).insertionSort fun a b =>
      (Table.value ⟨Sql.ledgerTable, ledgerDefs, rows⟩ b "seq_no").sortKey ≤
        (Table.value ⟨Sql.ledgerTable, ledgerDefs, rows⟩ a "seq_no").sortKey).head? with
  | none =>
    have hl := congrArg List.length (List.head?_eq_none_iff.1 hs)
    rw [List.length_insertionSort, List.length_map, List.length_nil, List.length_eq_zero] at hl
    simp [LedgerStore.last, hl]
  | some row =>
    obtain ⟨hrow, hmax⟩ := head?_insertionSort_desc _ _ row hs
    obtain ⟨l, hl, rfl⟩ := List.mem_map.1 hrow
    simp only [List.forall_mem_map, ledgerTable_value_seqNo, SqlValue.sortKey_int_le] at hmax
    cases hm : s.last with
    | none => exact absurd (List.argmax_eq_none.1 hm) (List.ne_nil_of_mem hl)
    | some m =>
      have hm' : m ∈ s.ledgers := List.argmax_mem hm
      have hle : toInt64 l.seqNo ≤ toInt64 m.seqNo :=
        @List.le_of_mem_argmax _ _ _ (fun l : LedgerRecord => toInt64 l.seqNo) _ _ _ hl hm
      have heq : l = m := s.eq_of_seqNo_eq hl hm' (toInt64_injective (le_antisymm hle (hmax m hm')))
      rw [heq]
      rfl

/-- **`get_last_ledger` returns `LedgerStore.last`**: `0` with the record of
the largest signed `seq_no`, or `-1` with `ledger` untouched on an empty
table. -/
theorem LedgerTableIs.getLastLedger_eq {db : Db} {s : LedgerStore} (h : LedgerTableIs db s) (x : LedgerRecord) :
    getLastLedger db x = some (match s.last with
      | some l => (0, l)
      | none => (-1, x)) := by
  have hp : db.prepare Sql.selectLastLedger = some (.select Sql.ledgerTable [] (some "seq_no") (some 1)) := by
    rw [Db.prepare_single parseScript_selectLastLedger, if_pos]
    simp only [Db.resolves, h.source]
    rfl
  have hall : (s.ledgers.map ledgerRow).filter
      (Table.matches ⟨Sql.ledgerTable, ledgerDefs, s.ledgers.map ledgerRow⟩ [] []) = s.ledgers.map ledgerRow :=
    List.filter_eq_self.2 fun _ _ => rfl
  simp only [getLastLedger, hp, Option.bind_eq_bind, Option.some_bind, Db.exec, h.source, hall, List.take_one,
    s.head?_sortBySeqNo]
  cases hl : s.last with
  | none => rfl
  | some l => simp [s.populate_of_mem (List.argmax_mem hl)]

end Hpcore.Ledger
