import DepthRig.Store.Statement
import DepthRig.Time.Stamp

/-!
# The database

A database is its tables, the tables as an open transaction found them, whether it is closed
and the clock that time defaults read. Writing is checked as the store checks it (tables and
columns, empty values, unique keys, references both ways), and a failed statement changes
nothing.
-/

namespace DepthRig.Store

/-- Why the store refused a statement. -/
inductive StoreError where
  | unreadable (e : SyntaxError)
  | noSuchTable (name : String)
  | noColumnNamed (table column : String)
  | noSuchColumn (column : String)
  | valueCount (values columns : Nat)
  | notNull (table column : String)
  /-- A repeated value in a column that is a primary key (`key`) or uniquely indexed. -/
  | unique (table column : String) (key : Bool)
  | foreignKey
  | nestedBegin
  /-- A commit or rollback without a transaction. -/
  | noTransaction (what : String)
  | vacuumInTransaction
  | closed
  /-- A stored value that does not convert to what it is read as. -/
  | scan (index : Nat) (column : String) (why : String)
  deriving BEq, Repr, Inhabited

/-- The text of a store error, with the store's result code where it has one. -/
def StoreError.message : StoreError → String
  | .unreadable e => "SQL logic error: " ++ e.message ++ " (1)"
  | .noSuchTable n => "SQL logic error: no such table: " ++ n ++ " (1)"
  | .noColumnNamed t c => "SQL logic error: table " ++ t ++ " has no column named " ++ c ++ " (1)"
  | .noSuchColumn c => "SQL logic error: no such column: " ++ c ++ " (1)"
  | .valueCount v c =>
    "SQL logic error: " ++ toString v ++ " values for " ++ toString c ++ " columns (1)"
  | .notNull t c => "constraint failed: NOT NULL constraint failed: " ++ t ++ "." ++ c ++ " (1299)"
  | .unique t c key =>
    "constraint failed: UNIQUE constraint failed: " ++ t ++ "." ++ c ++ (if key then " (1555)" else " (2067)")
  | .foreignKey => "constraint failed: FOREIGN KEY constraint failed (787)"
  | .nestedBegin => "SQL logic error: cannot start a transaction within a transaction (1)"
  | .noTransaction w => "SQL logic error: cannot " ++ w ++ " - no transaction is active (1)"
  | .vacuumInTransaction => "SQL logic error: cannot VACUUM from within a transaction (1)"
  | .closed => "sql: database is closed"
  | .scan i c why => "sql: Scan error on column index " ++ toString i ++ ", name \"" ++ c ++ "\": " ++ why

/-- Whether two names are the same without regard to case. -/
def sameName (a b : String) : Bool := a.toLower == b.toLower

/-- A database. -/
structure Database where
  tables : List Table := []
  /-- The tables as they were when the open transaction began. -/
  saved : Option (List Table) := none
  closed : Bool := false
  clock : Time.Stamp := Time.Stamp.zero
  deriving Inhabited

namespace Database

/-- A table by name. -/
def table? (db : Database) (name : String) : Option Table := db.tables.find? (sameName ·.name name)

/-- A table by name, which must exist. -/
def table (db : Database) (name : String) : Except StoreError Table :=
  match db.table? name with
  | some t => .ok t
  | none => .error (.noSuchTable name)

/-- Store a table, replacing the one of its name or adding it last. -/
def put (db : Database) (t : Table) : Database :=
  if (db.table? t.name).isSome then
    { db with tables := db.tables.map fun u => if sameName u.name t.name then t else u }
  else { db with tables := db.tables ++ [t] }

/-- Add a table unless one of its name exists. -/
def create (db : Database) (t : Table) : Database :=
  if (db.table? t.name).isSome then db else db.put t

/-- The time of writing as stored by default: `YYYY-MM-DD hh:mm:ss` in UTC. -/
def now (db : Database) : String :=
  let t := ({ db.clock with nanos := 0 }).utc.text.toList
  String.ofList (t.take 10) ++ " " ++ String.ofList ((t.drop 11).take 8)

/-- Whether a table has a row whose `column` is `v`. -/
def holds (t : Table) (column : String) (v : Cell) : Bool :=
  t.rows.any fun r => (t.cell r column).same v

/-- The first column that must not be empty but is in `row`. -/
def nullViolation (t : Table) (row : List Cell) : Option Column :=
  ((t.columns.zip row).find? fun (c, v) => c.notNull && v == .null).map (·.1)

/-- The first distinct-valued column in which `row` repeats a value of `others`. -/
def uniqueViolation (t : Table) (others : List (List Cell)) (row : List Cell) : Option Column :=
  ((t.columns.zipIdx).find? fun (c, i) =>
    (c.key || c.unique || c.counter) && row.getD i .null != .null
      && others.any fun o => (o.getD i .null).same (row.getD i .null)).map (·.1)

/-- Check a row against its table's not-null and distinctness rules. -/
def checkRow (t : Table) (others : List (List Cell)) (row : List Cell) : Except StoreError Unit := do
  if let some c := nullViolation t row then throw (.notNull t.name c.name)
  if let some c := uniqueViolation t others row then throw (.unique t.name c.name c.key)

/-- Check that a row of `t` refers only to rows that exist. -/
def checkReferences (db : Database) (t : Table) (row : List Cell) : Except StoreError Unit :=
  t.references.forM fun r => do
    let v := t.cell row r.column
    if v == .null then return
    match db.table? r.parent with
    | none => throw (.noSuchTable ("main." ++ r.parent))
    | some p => if holds p r.parentColumn v then pure () else throw .foreignKey

/-- Check that no row of another table loses the row it refers to when `before` becomes
`after`. -/
def checkReferrers (db : Database) (before after : Table) : Except StoreError Unit :=
  db.tables.forM fun c => c.references.forM fun r =>
    if !sameName r.parent before.name then pure ()
    else if c.rows.any (fun row =>
        let v := c.cell row r.column
        v != .null && holds before r.parentColumn v && !holds after r.parentColumn v) then
      throw .foreignKey
    else pure ()

/-- The value a column starts with when a row does not give one. -/
def initial (db : Database) (t : Table) (c : Column) : Cell :=
  if c.counter then .int t.nextKey
  else match c.default with
    | .null => .null
    | .value v => v
    | .now => .text db.now

/-- Insert a row naming `columns` (all, in order, if none) with `values`. -/
def insert (db : Database) (name : String) (columns : List String) (values : List Cell) :
    Except StoreError Database := do
  let t ← db.table name
  let columns := if columns.isEmpty then t.columns.map (·.name) else columns
  if let some c := columns.find? fun c => (t.columnIndex c).isNone then
    throw (.noColumnNamed t.name c)
  if values.length != columns.length then throw (.valueCount values.length columns.length)
  let given := columns.zip values
  let row := t.columns.map fun c =>
    match given.find? fun (n, _) => sameName n c.name with
    | some (_, v) => if c.counter && v == .null then .int t.nextKey else v.withAffinity c.affinity
    | none => db.initial t c
  checkRow t t.rows row
  db.checkReferences t row
  let keys := (t.columns.zip row).filterMap fun (c, v) =>
    match v with
    | .int n => if c.counter then some (n.toNat + 1) else none
    | _ => none
  pure (db.put { t with rows := t.rows ++ [row], nextKey := keys.foldl max t.nextKey })

/-- Whether a row meets `column = value`, the value taking the column's affinity. -/
def meets (t : Table) (cond : Option (String × Cell)) (row : List Cell) : Bool :=
  match cond with
  | none => true
  | some (c, v) =>
    match t.columnIndex c with
    | some i => (row.getD i .null).same (v.withAffinity ((t.columns.getD i default).affinity))
    | none => false

/-- Check that the columns of assignments and a condition exist. -/
def checkColumns (t : Table) (names : List String) : Except StoreError Unit :=
  match names.find? fun c => (t.columnIndex c).isNone with
  | some c => .error (.noSuchColumn c)
  | none => .ok ()

/-- Set columns in the rows that meet a condition; the number of rows it met. -/
def update (db : Database) (name : String) (sets : List (String × Cell))
    (cond : Option (String × Cell)) : Except StoreError (Database × Nat) := do
  let t ← db.table name
  checkColumns t (sets.map (·.1) ++ (cond.map (·.1)).toList)
  let change (row : List Cell) : List Cell :=
    (t.columns.zip row).map fun (c, v) =>
      match sets.find? fun (n, _) => sameName n c.name with
      | some (_, w) => w.withAffinity c.affinity
      | none => v
  let rows := t.rows.map fun r => if meets t cond r then (true, change r) else (false, r)
  let after := { t with rows := rows.map (·.2) }
  let changed := rows.zipIdx.filter (·.1.1)
  for ((_, row), i) in changed do
    checkRow t ((rows.zipIdx.filter (·.2 != i)).map (·.1.2)) row
    if t.references.any fun r => sets.any fun (n, _) => sameName n r.column then
      db.checkReferences t row
  db.checkReferrers t after
  pure (db.put after, changed.length)

/-- Delete the rows that meet a condition; the number deleted. -/
def delete (db : Database) (name : String) (cond : Option (String × Cell)) :
    Except StoreError (Database × Nat) := do
  let t ← db.table name
  checkColumns t (cond.map (·.1)).toList
  let after := { t with rows := t.rows.filter fun r => !meets t cond r }
  db.checkReferrers t after
  pure (db.put after, t.rows.length - after.rows.length)

/-- Drop a table, first deleting its rows as `delete` would. -/
def drop (db : Database) (name : String) (ifExists : Bool) : Except StoreError Database :=
  match db.table? name with
  | none => if ifExists then .ok db else .error (.noSuchTable name)
  | some t => do
    db.checkReferrers t { t with rows := [] }
    pure { db with tables := db.tables.filter fun u => !sameName u.name name }

/-- Take the value of an operand, the argument it takes if any, and the arguments left;
a missing argument is `NULL`. -/
def bind (o : Operand) (args : List Cell) : Cell × List Cell :=
  match o with
  | .lit c => (c, args)
  | .param => (args.headD .null, args.tail)

/-- Take the values of operands in turn. -/
def bindAll : List Operand → List Cell → List Cell × List Cell
  | [], args => ([], args)
  | o :: os, args =>
    let (v, args) := bind o args
    let (vs, args) := bindAll os args
    (v :: vs, args)

/-- Bind the value of each assignment. -/
def bindSets : List (String × Operand) → List Cell → List (String × Cell) × List Cell
  | [], args => ([], args)
  | (c, o) :: rest, args =>
    let (v, args) := bind o args
    let (vs, args) := bindSets rest args
    ((c, v) :: vs, args)

/-- Bind a condition's value. -/
def bindCond (cond : Option (String × Operand)) (args : List Cell) :
    Option (String × Cell) × List Cell :=
  match cond with
  | none => (none, args)
  | some (c, o) =>
    let (v, args) := bind o args
    (some (c, v), args)

/-- Run one statement with arguments; the database after it and the arguments left. -/
def run (db : Database) (args : List Cell) : Statement → Except StoreError (Database × List Cell)
  | .begin =>
    if db.saved.isSome then .error .nestedBegin else .ok ({ db with saved := some db.tables }, args)
  | .commit =>
    if db.saved.isNone then .error (.noTransaction "commit") else .ok ({ db with saved := none }, args)
  | .rollback =>
    match db.saved with
    | none => .error (.noTransaction "rollback")
    | some ts => .ok ({ db with tables := ts, saved := none }, args)
  | .dropTable n ifExists => do return (← db.drop n ifExists, args)
  | .dropIndex _ _ => .ok (db, args)
  | .insert t cols vals =>
    let (vs, rest) := bindAll vals args
    do return (← db.insert t cols vs, rest)
  | .update t sets cond =>
    let (ss, rest) := bindSets sets args
    let (c, rest) := bindCond cond rest
    do return ((← db.update t ss c).1, rest)
  | .delete t cond =>
    let (c, rest) := bindCond cond args
    do return ((← db.delete t c).1, rest)
  | .vacuum into =>
    if db.saved.isSome then .error .vacuumInTransaction
    else .ok (db, match into with | some o => (bind o args).2 | none => args)
  | .select => .ok (db, args)

/-- Run statements in turn, stopping at the first that fails. -/
def runAll (db : Database) (args : List Cell) : List (List Token) → Database × Option StoreError
  | [] => (db, none)
  | s :: rest =>
    match Statement.read s with
    | .error e => (db, some (.unreadable e))
    | .ok st =>
      match db.run args st with
      | .error e => (db, some e)
      | .ok (db', args') => runAll db' args' rest

/-- Execute statement text with arguments: the database after the statements that ran,
and the error that stopped them, if any. -/
def exec (db : Database) (sql : String) (args : List Cell) : Database × Option StoreError :=
  if db.closed then (db, some .closed)
  else
    match tokenize sql.toList with
    | .error e => (db, some (.unreadable e))
    | .ok ts => db.runAll args (splitStatements ts)

end Database

end DepthRig.Store
