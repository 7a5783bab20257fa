import Hpcore.Util
import Mathlib

/-! # The sqlite engine, as the ledger database uses it

`ledger/sqlite.cpp` drives sqlite3 with SQL text: the statements it builds
(`CREATE TABLE`, `CREATE INDEX`, `INSERT`) and the constant statements it
prepares and binds (`INSERT ... VALUES(?,...)`, `SELECT * FROM ...`). This
module is the engine's side of that interface, and it is trusted: it is what
sqlite3 documents for the statement forms the file sends. It holds the lexer,
the grammar of those forms, name resolution at prepare time, and what a
statement does to a database: tables with their rows in rowid order, indexes,
the `PRIMARY KEY`, `UNIQUE` and `NOT NULL` constraints (a `NULL` never
conflicts), and statement atomicity (a failed statement changes nothing).

Names are compared as sqlite compares them, with ASCII letters folded to
lower case; a reserved keyword or a word starting with a digit is no name, and
`CREATE` refuses the names starting with `sqlite_`, which are sqlite's own.
Text outside these forms is a syntax error here, where sqlite accepts more.
Type affinity conversions are left out: every value the file stores already
has its column's type. A `SELECT` without `ORDER BY` returns rows in rowid
order, which is the order of the index scan sqlite uses for the equality
lookups the file makes. -/

namespace Hpcore.Ledger

/-! ## Values -/

/-- A value stored in a column or bound to a parameter. -/
inductive SqlValue where
  | null
  | int (i : Int)
  | text (s : String)
  | blob (b : Bytes)
  deriving DecidableEq, Repr

/-- sqlite's sort order: `NULL` first, then numbers, text and blobs, text and
blobs compared bytewise (the `BINARY` collation). -/
def SqlValue.sortKey : SqlValue → Lex (Unit ⊕ Lex (Int ⊕ Lex (String ⊕ Bytes)))
  | null => toLex (.inl ())
  | int i => toLex (.inr (toLex (.inl i)))
  | text s => toLex (.inr (toLex (.inr (toLex (.inl s)))))
  | blob b => toLex (.inr (toLex (.inr (toLex (.inr b)))))

@[simp] theorem SqlValue.beq_eq (a b : SqlValue) : (a == b) = decide (a = b) := rfl

@[simp] theorem SqlValue.sortKey_int_le (a b : Int) : (int a).sortKey ≤ (int b).sortKey ↔ a ≤ b := by
  simp [sortKey]

/-! ## Lexing -/

/-- A token: a word (keyword, name or number), a quoted literal with its quote
character, or a punctuation character. -/
inductive Token where
  | word (s : String)
  | quoted (q : Char) (s : String)
  | punct (c : Char)
  deriving DecidableEq, Repr

def isWordChar (c : Char) : Bool := c.isAlphanum || c = '_'

def punctChars : List Char := ['(', ')', ',', '=', '*', ';', '?']

/-- Where the lexer is: between tokens, in a word, in a quoted literal, or
just after a quote inside a literal (which closes it unless doubled). The
characters read so far are kept in reverse. -/
inductive LexState where
  | between
  | inWord (acc : List Char)
  | inQuote (q : Char) (acc : List Char)
  | afterQuote (q : Char) (acc : List Char)

/-- What one character does between tokens: the state it starts and the
tokens it completes, or `none` for a character outside the grammar. -/
def startToken (c : Char) : Option (LexState × List Token) :=
  if isWordChar c then some (.inWord [c], [])
  else if c.isWhitespace then some (.between, [])
  else if c = '\'' ∨ c = '"' then some (.inQuote c [], [])
  else if c ∈ punctChars then some (.between, [.punct c])
  else none

/-- One character: the next state and the tokens it completes, or `none` for
a character outside the grammar. -/
def lexStep : LexState → Char → Option (LexState × List Token)
  | .between, c => startToken c
  | .inWord acc, c =>
    if isWordChar c then some (.inWord (c :: acc), [])
    else (fun (s, ts) => (s, .word ⟨acc.reverse⟩ :: ts)) <$> startToken c
  | .inQuote q acc, c => some (if c = q then .afterQuote q acc else .inQuote q (c :: acc), [])
  | .afterQuote q acc, c =>
    if c = q then some (.inQuote q (q :: acc), [])
    else (fun (s, ts) => (s, .quoted q ⟨acc.reverse⟩ :: ts)) <$> startToken c

/-- The end of the text completes the token being read; a literal left open is
an error. -/
def lexEnd : LexState → Option (List Token)
  | .between => some []
  | .inWord acc => some [.word ⟨acc.reverse⟩]
  | .inQuote _ _ => none
  | .afterQuote q acc => some [.quoted q ⟨acc.reverse⟩]

/-- The lexer, one character per step. -/
def lexFrom : LexState → List Char → Option (List Token)
  | s, [] => lexEnd s
  | s, c :: cs => lexStep s c >>= fun (s', ts) => (ts ++ ·) <$> lexFrom s' cs

def lex (sql : String) : Option (List Token) := lexFrom .between sql.data

/-! ## Names -/

/-- A name as sqlite compares names (`sqlite3StrICmp`): ASCII letters folded
to lower case. -/
def foldName (n : String) : String := ⟨n.data.map Char.toLower⟩

/-- Two names sqlite takes for the same. -/
def sameName (a b : String) : Bool := foldName a == foldName b

@[simp] theorem sameName_self (a : String) : sameName a a = true := beq_self_eq_true _

/-- The keywords sqlite's grammar never takes as a name (those with no fallback
to `ID`), folded. -/
def reservedWords : List String :=
  ["add", "all", "alter", "and", "as", "autoincrement", "between", "case", "check", "collate", "commit",
    "constraint", "create", "default", "deferrable", "delete", "distinct", "drop", "else", "escape", "except",
    "exists", "foreign", "from", "group", "having", "in", "index", "insert", "intersect", "into", "is",
    "isnull", "join", "limit", "not", "nothing", "notnull", "null", "on", "or", "order", "primary",
    "references", "returning", "select", "set", "table", "then", "to", "transaction", "union", "unique",
    "update", "using", "values", "when", "where"]

/-- A word the grammar reads as a name: not a number (a word starting with a
digit is a number or no token at all) and no reserved keyword, in any case. -/
def isName (w : String) : Bool := !(w.data.head?.any Char.isDigit) && decide (foldName w ∉ reservedWords)

/-- `sqlite3CheckObjectName`: the names starting with `sqlite_`, in any case,
are sqlite's own, and no `CREATE` may take one. -/
def checkObjectName (n : String) : Bool := (foldName n).data.take 7 != "sqlite_".data

/-! ## The statement forms -/

/-- A value in a `VALUES` tuple or a `WHERE` comparison: a literal, or the
`?` parameter of the given index. -/
inductive Expr where
  | lit (v : SqlValue)
  | param (k : Nat)
  deriving DecidableEq, Repr

/-- A column as `CREATE TABLE` declares it. -/
structure ColumnDef where
  name : String
  type : String
  primaryKey : Bool
  notNull : Bool
  deriving DecidableEq, Repr

inductive Statement where
  /-- `CREATE TABLE IF NOT EXISTS table (columns)`. -/
  | createTable (table : String) (columns : List ColumnDef)
  /-- `CREATE [UNIQUE] INDEX name ON table(columns)`. -/
  | createIndex (unique : Bool) (name table : String) (columns : List String)
  /-- `INSERT INTO table(columns) VALUES(...),...`. -/
  | insert (table : String) (columns : List String) (rows : List (List Expr))
  /-- `SELECT * FROM table [WHERE c = e AND ...] [ORDER BY c DESC] [LIMIT n]`. -/
  | select (table : String) (conds : List (String × Expr)) (orderDesc : Option String) (limit : Option Nat)
  deriving DecidableEq, Repr

/-! ## Parsing -/

def digitsValue (ds : List Char) : Nat := ds.foldl (fun n d => 10 * n + (d.toNat - '0'.toNat)) 0

def isNumeral (w : String) : Bool := !w.data.isEmpty && w.data.all Char.isDigit

/-- A literal or a `?`; `?`s are numbered afterwards. A double-quoted word that
names no column is a string literal, as sqlite reads it. -/
def parseExpr : Token → Option Expr
  | .punct '?' => some (.param 0)
  | .quoted _ s => some (.lit (.text s))
  | .word w => if w = "NULL" then some (.lit .null)
      else if isNumeral w then some (.lit (.int (digitsValue w.data))) else none
  | _ => none

def parseSingle : List Token → Option Expr
  | [t] => parseExpr t
  | _ => none

/-- A token read as a name. -/
def nameOf : Token → Option String
  | .word w => if isName w then some w else none
  | _ => none

def parseName : List Token → Option String
  | [t] => nameOf t
  | _ => none

/-- Number the `?` parameters of a list from `k`, left to right. -/
def numberFrom : Nat → List Expr → List Expr
  | _, [] => []
  | k, .param _ :: es => .param k :: numberFrom (k + 1) es
  | k, .lit v :: es => .lit v :: numberFrom k es

def paramCount (es : List Expr) : Nat := (es.filter fun e => e matches .param _).length

/-- Number the parameters of `VALUES` tuples, across the tuples. -/
def numberRows : Nat → List (List Expr) → List (List Expr)
  | _, [] => []
  | k, r :: rs => numberFrom k r :: numberRows (k + paramCount r) rs

/-- `( items )` and the tokens after it: the comma-separated items up to the
first `)`. -/
def parenList : List Token → Option (List (List Token) × List Token)
  | .punct '(' :: rest =>
    match rest.dropWhile (· != .punct ')') with
    | .punct ')' :: after => some ((rest.takeWhile (· != .punct ')')).splitOn (.punct ','), after)
    | _ => none
  | _ => none

/-- The constraints after a column's type: whether it is the `PRIMARY KEY`
and whether it is `NOT NULL`. -/
def columnConstraints : List Token → Option (Bool × Bool)
  | [] => some (false, false)
  | [.word "PRIMARY", .word "KEY"] => some (true, false)
  | [.word "NOT", .word "NULL"] => some (false, true)
  | [.word "PRIMARY", .word "KEY", .word "NOT", .word "NULL"] => some (true, true)
  | _ => none

/-- A column: its name, its type name and its constraints. -/
def parseColumnDef : List Token → Option ColumnDef
  | n :: t :: cs => do
    let (primaryKey, notNull) ← columnConstraints cs
    some ⟨← nameOf n, ← nameOf t, primaryKey, notNull⟩
  | _ => none

/-- The tuples of `VALUES (...),(...)`: the text split at each `)`, the first
piece opening with `(`, the others with `, (`, and nothing after the last `)`. -/
def parseTupleSegs (first : Bool) : List (List Token) → Option (List (List Expr))
  | [] => none
  | [[]] => if first then none else some []
  | seg :: segs => do
    let inside ← match first, seg with
      | true, .punct '(' :: inside => some inside
      | false, .punct ',' :: .punct '(' :: inside => some inside
      | _, _ => none
    let row ← (inside.splitOn (.punct ',')).mapM parseSingle
    (row :: ·) <$> parseTupleSegs false segs

/-- `c = e AND ...` and the tokens after it. -/
def parseConds : List Token → Option (List (String × Expr) × List Token)
  | c :: .punct '=' :: e :: .word "AND" :: rest => do
    let (cs, r) ← parseConds rest
    some ((← nameOf c, ← parseExpr e) :: cs, r)
  | c :: .punct '=' :: e :: rest => do some ([(← nameOf c, ← parseExpr e)], rest)
  | _ => none

def parseOrderLimit : List Token → Option (Option String × Option Nat)
  | [] => some (none, none)
  | [.word "LIMIT", .word n] => if isNumeral n then some (none, some (digitsValue n.data)) else none
  | [.word "ORDER", .word "BY", c, .word "DESC"] => do some (some (← nameOf c), none)
  | [.word "ORDER", .word "BY", c, .word "DESC", .word "LIMIT", .word n] => do
    if isNumeral n then some (some (← nameOf c), some (digitsValue n.data)) else none
  | _ => none

def parseSelect (t : String) : List Token → Option Statement
  | .word "WHERE" :: rest => do
    let (cs, r) ← parseConds rest
    let (o, l) ← parseOrderLimit r
    some (.select t (cs.zip (numberFrom 1 (cs.map (·.2))) |>.map fun (c, e) => (c.1, e)) o l)
  | rest => do
    let (o, l) ← parseOrderLimit rest
    some (.select t [] o l)

/-- `CREATE TABLE IF NOT EXISTS` after the table's name. -/
def parseCreateTable (t : String) (rest : List Token) : Option Statement := do
  let (defs, after) ← parenList rest
  if after = [] then .createTable t <$> defs.mapM parseColumnDef else none

/-- `CREATE [UNIQUE] INDEX` after the index's and the table's names. -/
def parseCreateIndex (u : Bool) (i t : String) (rest : List Token) : Option Statement := do
  let (cols, after) ← parenList rest
  if after = [] then .createIndex u i t <$> cols.mapM parseName else none

/-- `INSERT INTO` after the table's name. -/
def parseInsert (t : String) (rest : List Token) : Option Statement := do
  let (cols, after) ← parenList rest
  let cols ← cols.mapM parseName
  match after with
  | .word "VALUES" :: tuples => do
    let rows ← parseTupleSegs true (tuples.splitOn (.punct ')'))
    some (.insert t cols (numberRows 1 rows))
  | _ => none

def parseStatement : List Token → Option Statement
  | .word "CREATE" :: .word "TABLE" :: .word "IF" :: .word "NOT" :: .word "EXISTS" :: t :: rest =>
    nameOf t >>= (parseCreateTable · rest)
  | .word "CREATE" :: .word "INDEX" :: i :: .word "ON" :: t :: rest => do
    parseCreateIndex false (← nameOf i) (← nameOf t) rest
  | .word "CREATE" :: .word "UNIQUE" :: .word "INDEX" :: i :: .word "ON" :: t :: rest => do
    parseCreateIndex true (← nameOf i) (← nameOf t) rest
  | .word "INSERT" :: .word "INTO" :: t :: rest => nameOf t >>= (parseInsert · rest)
  | .word "SELECT" :: .punct '*' :: .word "FROM" :: t :: rest => nameOf t >>= (parseSelect · rest)
  | _ => none

/-- The statements of a token list, separated by `;` (empty ones skipped). -/
def splitStatements (ts : List Token) : List (List Token) :=
  (ts.splitOn (.punct ';')).filter (· != [])

/-! ## Databases -/

structure Table where
  name : String
  columns : List ColumnDef
  /-- The rows in rowid order, each with one value per column. -/
  rows : List (List SqlValue)
  deriving DecidableEq, Repr

structure Index where
  name : String
  table : String
  columns : List String
  unique : Bool
  deriving DecidableEq, Repr

structure Db where
  tables : List Table
  indexes : List Index
  deriving DecidableEq, Repr

/-- A new database file. -/
def Db.empty : Db := ⟨[], []⟩

def Db.tableNamed (db : Db) (t : String) : Option Table := db.tables.find? (sameName ·.name t)

/-- `sqlite_master`: a `table` row per table and an `index` row per index,
with the columns `type`, `name`, `tbl_name`. -/
def Db.master (db : Db) : Table :=
  ⟨"sqlite_master", [⟨"type", "text", false, false⟩, ⟨"name", "text", false, false⟩,
      ⟨"tbl_name", "text", false, false⟩],
    db.tables.map (fun t => [.text "table", .text t.name, .text t.name]) ++
      db.indexes.map fun i => [.text "index", .text i.name, .text i.table]⟩

/-- The table a `SELECT` reads. -/
def Db.source (db : Db) (t : String) : Option Table :=
  if sameName t "sqlite_master" then some db.master else db.tableNamed t

def Table.columnNames (t : Table) : List String := t.columns.map (·.name)

/-- Whether the table has a column of the name. -/
def Table.hasColumn (t : Table) (c : String) : Bool := t.columnNames.any (sameName · c)

/-- The value of the named column in a row of the table. -/
def Table.value (t : Table) (row : List SqlValue) (c : String) : SqlValue :=
  row.getD (t.columnNames.findIdx (sameName · c)) .null

theorem Table.hasColumn_of_mem {t : Table} {c : String} (h : c ∈ t.columnNames) : t.hasColumn c = true :=
  List.any_eq_true.2 ⟨c, h, sameName_self c⟩

/-- The row an `INSERT` naming `cols` stores for the values `vals`: `NULL` in
the columns it does not name. -/
def Table.rowOf (t : Table) (cols : List String) (vals : List SqlValue) : List SqlValue :=
  t.columnNames.map fun c => (((cols.map foldName).zip vals).lookup (foldName c)).getD .null

/-- The column sets the rows of a table must be unique on: each `PRIMARY KEY`
column and each `UNIQUE` index of it. -/
def Db.uniqueSets (db : Db) (t : Table) : List (List String) :=
  (t.columns.filter (·.primaryKey)).map (fun c => [c.name]) ++
    ((db.indexes.filter fun i => sameName i.table t.name && i.unique).map (·.columns))

/-- Two rows clash on a column set when they agree on it, with no `NULL`. -/
def Table.clash (t : Table) (cols : List String) (r r' : List SqlValue) : Bool :=
  cols.all fun c => t.value r c != .null && t.value r c == t.value r' c

/-- Whether a row may join the rows `rows` of the table: no `NULL` in a
`NOT NULL` column and no clash on a unique column set. -/
def Db.admits (db : Db) (t : Table) (rows : List (List SqlValue)) (r : List SqlValue) : Bool :=
  (t.columns.all fun c => !(c.notNull && t.value r c.name == .null)) &&
    (db.uniqueSets t).all fun cols => rows.all fun r' => !t.clash cols r r'

/-- The rows of a table after inserting `new` one by one, or `none` when one
of them is refused (and the statement changes nothing). -/
def Db.insertRows (db : Db) (t : Table) (new : List (List SqlValue)) : Option (List (List SqlValue)) :=
  new.foldlM (fun acc r => if db.admits t acc r then some (acc ++ [r]) else none) t.rows

def Db.setRows (db : Db) (t : String) (rows : List (List SqlValue)) : Db :=
  { db with tables := db.tables.map fun tab => if sameName tab.name t then { tab with rows } else tab }

/-- A name is taken by a table or an index. -/
def Db.nameTaken (db : Db) (n : String) : Bool :=
  db.tables.any (sameName ·.name n) || db.indexes.any (sameName ·.name n)

/-- The value of an expression under the parameters bound with
`sqlite3_bind_*` (an unbound parameter is `NULL`). -/
def evalExpr (binds : List (Nat × SqlValue)) : Expr → SqlValue
  | .lit v => v
  | .param k => (binds.lookup k).getD .null

/-- Whether a row meets the `WHERE` comparisons (`=` with `NULL` is never true). -/
def Table.matches (t : Table) (binds : List (Nat × SqlValue)) (conds : List (String × Expr))
    (r : List SqlValue) : Bool :=
  conds.all fun (c, e) => evalExpr binds e != .null && t.value r c == evalExpr binds e

/-- Name resolution at prepare time: the table and every named column exist. -/
def Db.resolves (db : Db) : Statement → Bool
  | .createTable _ _ | .createIndex _ _ _ _ => true
  | .insert t cols _ => match db.tableNamed t with
    | some tab => cols.all tab.hasColumn
    | none => false
  | .select t conds o _ => match db.source t with
    | some tab => conds.all (tab.hasColumn ·.1) && o.all tab.hasColumn
    | none => false

/-- A statement's tokens compiled against the database: `none` for a syntax
error or a name that does not resolve. -/
def Db.compile (db : Db) (ts : List Token) : Option Statement :=
  parseStatement ts >>= fun s => if db.resolves s then some s else none

/-- `sqlite3_prepare_v2`: the first statement of the text, compiled. -/
def Db.prepare (db : Db) (sql : String) : Option Statement :=
  lex sql >>= fun ts => (splitStatements ts).head? >>= db.compile

/-- Stepping a statement to its end: the database after it and the rows it
returns, or `none` when it fails (and changes nothing). -/
def Db.exec (db : Db) (binds : List (Nat × SqlValue)) : Statement → Option (Db × List (List SqlValue))
  | .createTable t cols =>
    if !checkObjectName t then none
    else if (db.tableNamed t).isSome then some (db, [])
    else if db.nameTaken t || 1 < (cols.filter (·.primaryKey)).length || !(cols.map (foldName ·.name)).Nodup then
      none
    else some ({ db with tables := db.tables ++ [⟨t, cols, []⟩] }, [])
  | .createIndex u i t cols => do
    let tab ← db.tableNamed t
    if cols.all tab.hasColumn && checkObjectName tab.name && checkObjectName i && !db.nameTaken i &&
        (!u || decide (tab.rows.Pairwise fun r r' => tab.clash cols r r' = false)) then
      some ({ db with indexes := db.indexes ++ [⟨i, tab.name, cols, u⟩] }, [])
    else none
  | .insert t cols rows => do
    let tab ← db.tableNamed t
    if cols.all tab.hasColumn && rows.all (·.length = cols.length) then
      (fun new => (db.setRows t new, [])) <$>
        db.insertRows tab (rows.map fun r => tab.rowOf cols (r.map (evalExpr binds)))
    else none
  | .select t conds o l => do
    let tab ← db.source t
    let rs := tab.rows.filter (tab.matches binds conds)
    let rs := match o with
      | some c => rs.insertionSort fun a b => (tab.value b c).sortKey ≤ (tab.value a c).sortKey
      | none => rs
    some (db, match l with | some n => rs.take n | none => rs)

/-- Statements run one after the other until one fails: whether all ran, and
the database after those that did. -/
def Db.runStatements : Db → List (List Token) → Bool × Db
  | db, [] => (true, db)
  | db, ts :: rest => match db.compile ts >>= db.exec [] with
    | some (db', _) => db'.runStatements rest
    | none => (false, db)

/-- `sqlite3_exec`: every statement of the text, in order, until one fails; the
statements before a failing one keep their effect. A text that does not lex
runs no statement. -/
def Db.execSql (db : Db) (sql : String) : Bool × Db :=
  match lex sql with
  | some ts => db.runStatements (splitStatements ts)
  | none => (false, db)

/-! ## Lexing a text in pieces -/

/-- The lexer over a piece of text: the state it ends in and the tokens it
completed. -/
def lexRun : LexState → List Char → Option (LexState × List Token)
  | s, [] => some (s, [])
  | s, c :: cs => lexStep s c >>= fun (s', ts) => (fun (s'', ts') => (s'', ts ++ ts')) <$> lexRun s' cs

theorem lexFrom_append (s : LexState) (xs ys : List Char) :
    lexFrom s (xs ++ ys) = lexRun s xs >>= fun (s', ts) => (ts ++ ·) <$> lexFrom s' ys := by
  induction xs generalizing s with
  | nil => cases h : lexFrom s ys <;> simp [lexRun, h]
  | cons c cs ih =>
    show lexStep s c >>= (fun (s', ts) => (ts ++ ·) <$> lexFrom s' (cs ++ ys)) = _
    simp only [lexRun]
    rcases lexStep s c with _ | ⟨s1, ts⟩
    · rfl
    · simp only [Option.bind_eq_bind, Option.some_bind, ih s1]
      rcases lexRun s1 cs with _ | ⟨s2, ts2⟩
      · rfl
      · simp [Function.comp_def]

/-- A literal's text with no quote of its own is read into the literal. -/
theorem lexRun_inQuote (q : Char) (acc s : List Char) (hs : q ∉ s) :
    lexRun (.inQuote q acc) s = some (.inQuote q (s.reverse ++ acc), []) := by
  induction s generalizing acc with
  | nil => rfl
  | cons c cs ih =>
    have hc : c ≠ q := fun h => hs (h ▸ List.mem_cons_self c cs)
    simp [lexRun, lexStep, hc, ih _ fun h => hs (List.mem_cons_of_mem c h)]

/-- The character after a literal's closing quote, when it is no second quote,
ends the literal. -/
theorem lexFrom_afterQuote (q : Char) (acc rest : List Char) (hr : rest.head? ≠ some q) :
    lexFrom (.afterQuote q acc) rest = (.quoted q ⟨acc.reverse⟩ :: ·) <$> lexFrom .between rest := by
  cases rest with
  | nil => rfl
  | cons c cs =>
    have hc : c ≠ q := fun h => hr (h ▸ rfl)
    simp only [lexFrom, lexStep, hc, if_false]
    rcases startToken c with _ | ⟨s', ts⟩ <;> simp [Option.bind_eq_bind, Function.comp_def]

/-! ## Texts of one statement -/

/-- The statements of a text, parsed, before name resolution. -/
def parseScript (sql : String) : Option (List (Option Statement)) :=
  (lex sql).map fun ts => (splitStatements ts).map parseStatement

theorem parseScript_single {sql : String} {s : Statement} (h : parseScript sql = some [some s]) :
    ∃ ts seg, lex sql = some ts ∧ splitStatements ts = [seg] ∧ parseStatement seg = some s := by
  unfold parseScript at h
  rcases hl : lex sql with _ | ts
  · simp [hl] at h
  · simp only [hl, Option.map_some', Option.some.injEq, List.map_eq_cons_iff, List.map_eq_nil_iff] at h
    obtain ⟨seg, _, hseg, hp, rfl⟩ := h
    exact ⟨ts, seg, rfl, hseg, hp⟩

/-- `sqlite3_exec` of a text holding one statement. -/
theorem Db.execSql_single {db : Db} {sql : String} {s : Statement} (h : parseScript sql = some [some s])
    (hr : db.resolves s = true) :
    db.execSql sql = match db.exec [] s with
      | some (db', _) => (true, db')
      | none => (false, db) := by
  obtain ⟨ts, seg, hl, hs, hp⟩ := parseScript_single h
  simp only [Db.execSql, hl, hs, Db.runStatements, Db.compile, hp, hr, Option.bind_eq_bind,
    Option.some_bind, if_true]

/-- `sqlite3_prepare_v2` of a text holding one statement. -/
theorem Db.prepare_single {db : Db} {sql : String} {s : Statement} (h : parseScript sql = some [some s]) :
    db.prepare sql = if db.resolves s then some s else none := by
  obtain ⟨ts, seg, hl, hs, hp⟩ := parseScript_single h
  simp [Db.prepare, hl, hs, Db.compile, hp]

/-! ## Inserts and lookups -/

/-- Looking up each name of a list of distinct names in its pairing with as
many values gives the values back. -/
theorem map_lookup_zip {cols : List String} {vals : List SqlValue} (hn : cols.Nodup)
    (hl : vals.length = cols.length) : cols.map (fun c => ((cols.zip vals).lookup c).getD .null) = vals := by
  induction cols generalizing vals with
  | nil => exact (List.length_eq_zero.1 hl).symm
  | cons c cs ih =>
    obtain ⟨v, vs, rfl⟩ := List.exists_cons_of_length_eq_add_one hl
    obtain ⟨hc, hcs⟩ := List.nodup_cons.1 hn
    have htail : cs.map (fun c' => (((c :: cs).zip (v :: vs)).lookup c').getD .null) =
        cs.map fun c' => ((cs.zip vs).lookup c').getD .null :=
      List.map_congr_left fun c' hc' => by
        have : (c' == c) = false := beq_false_of_ne fun h => hc (h ▸ hc')
        simp only [List.zip_cons_cons, List.lookup, this]
        rfl
    rw [List.map_cons, htail, ih hcs (Nat.succ.inj hl)]
    simp [List.lookup]

/-- An `INSERT` naming every column of the table in order stores its values as
they are. -/
theorem Table.rowOf_columnNames (t : Table) {vals : List SqlValue} (hn : (t.columnNames.map foldName).Nodup)
    (hl : vals.length = t.columnNames.length) : t.rowOf t.columnNames vals = vals := by
  have h := map_lookup_zip hn (hl.trans (List.length_map _ _).symm)
  rw [List.map_map] at h
  exact h

theorem Db.insertRows_singleton (db : Db) (t : Table) (r : List SqlValue) :
    db.insertRows t [r] = if db.admits t t.rows r then some (t.rows ++ [r]) else none := by
  simp only [Db.insertRows, List.foldlM_cons, List.foldlM_nil]
  split <;> rfl

theorem Db.source_master (db : Db) : db.source "sqlite_master" = some db.master := if_pos (by decide)

/-- A `SELECT` with no `ORDER BY` and no `LIMIT`: the matching rows in rowid
order. -/
theorem Db.exec_select_all {db : Db} {t : String} {tab : Table} (h : db.source t = some tab)
    (binds : List (Nat × SqlValue)) (conds : List (String × Expr)) :
    db.exec binds (.select t conds none none) = some (db, tab.rows.filter (tab.matches binds conds)) := by
  simp [Db.exec, h]

/-- `CREATE TABLE IF NOT EXISTS` of a table that exists changes nothing. -/
theorem Db.exec_createTable_existing {db : Db} {t : String} {cols : List ColumnDef} (hn : checkObjectName t = true)
    (h : (db.tableNamed t).isSome) (binds : List (Nat × SqlValue)) :
    db.exec binds (.createTable t cols) = some (db, []) := by
  simp [Db.exec, hn, h]

/-- `CREATE INDEX` under a name already taken fails. -/
theorem Db.exec_createIndex_taken {db : Db} {u : Bool} {i t : String} {cols : List String}
    (h : db.nameTaken i = true) (binds : List (Nat × SqlValue)) : db.exec binds (.createIndex u i t cols) = none := by
  simp only [Db.exec, h]
  cases db.tableNamed t <;> simp

theorem Db.tableNamed_setRows (db : Db) (t t' : String) (rows : List (List SqlValue)) :
    (db.setRows t rows).tableNamed t' =
      (db.tableNamed t').map fun tab => if sameName tab.name t then { tab with rows } else tab := by
  simp only [Db.tableNamed, Db.setRows, List.find?_map]
  congr 2
  funext tab
  by_cases h : sameName tab.name t <;> simp [h]

/-! ## Sorted selects -/

/-- The first row of a descending sort holds the largest key. -/
theorem head?_insertionSort_desc {α K : Type} [LinearOrder K] (key : α → K) :
    ∀ (rows : List α) (x : α), (rows.insertionSort fun a b => key b ≤ key a).head? = some x →
      x ∈ rows ∧ ∀ y ∈ rows, key y ≤ key x
  | [], _, h => nomatch h
  | a :: rows, x, h => by
    rw [List.insertionSort] at h
    cases hs : rows.insertionSort fun a b => key b ≤ key a with
    | nil =>
      have hr : rows = [] := List.length_eq_zero.1 (by
        rw [← List.length_insertionSort (fun a b => key b ≤ key a), hs]; rfl)
      rw [hs] at h
      cases h
      simp [hr]
    | cons b t =>
      obtain ⟨hb, hmax⟩ := head?_insertionSort_desc key rows b (by rw [hs]; rfl)
      rw [hs, List.orderedInsert] at h
      by_cases hab : key b ≤ key a
      · rw [if_pos hab] at h
        cases h
        exact ⟨List.mem_cons_self _ _, by
          simpa using fun y hy => (hmax y hy).trans hab⟩
      · rw [if_neg hab] at h
        cases h
        exact ⟨List.mem_cons_of_mem _ hb, by simpa using ⟨le_of_not_le hab, hmax⟩⟩

end Hpcore.Ledger
