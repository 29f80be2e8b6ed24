import DepthRig.Store.Scan
import DepthRig.Store.Schema
import DepthRig.Fault

/-!
# Schema migrations

The schema has one version, 1, which creates the session store's tables; the version table
holds at most one row, the version and whether its migration was cut short. Migrating up or
down applies or undoes version 1 as needed, marking it dirty first and clean after, and a
dirty version stops both.
-/

namespace DepthRig.Store

/-- A line the migrations log. -/
inductive MigrateLog where
  /-- A version applied (`up`) or undone, with its name. -/
  | applied (version : Nat) (up : Bool) (name : String)
  /-- A failure noted on the way. -/
  | failed (message : String)
  deriving BEq, Repr, Inhabited

/-- The logged line, given how long the step took. -/
def MigrateLog.text (elapsed : String) : MigrateLog → String
  | .applied v up name =>
    "[migrate] " ++ toString v ++ "/" ++ (if up then "u" else "d") ++ " " ++ name ++ " (" ++ elapsed ++ ")"
  | .failed m => "[migrate] error: " ++ m

/-- What a migration did: the database after it, its log and its failure. -/
structure MigrationRun where
  db : Database
  log : List MigrateLog := []
  fault : Option Fault := none
  deriving Inhabited

namespace Database

/-- The applied version and whether it is dirty; version -1 for nothing applied. -/
def schemaVersion (db : Database) : Int × Bool :=
  match db.table? versionTable.name with
  | none => (-1, false)
  | some t =>
    match t.rows.head? with
    | none => (-1, false)
    | some row =>
      match scanInt 0 "version" (t.cell row "version"), scanBool 1 "dirty" (t.cell row "dirty") with
      | .ok v, .ok d => (v, d)
      | _, _ => (-1, false)

/-- Record the version, replacing the row; nothing applied and clean leaves no row. -/
def setVersion (db : Database) (v : Int) (dirty : Bool) : Except String Database :=
  if db.saved.isSome then
    .error ("transaction start failed in line 0:  (details: " ++ StoreError.nestedBegin.message ++ ")")
  else
    match db.delete versionTable.name none with
    | .error e => .error (e.message ++ " in line 0: DELETE FROM schema_migrations")
    | .ok (db, _) =>
      if 0 ≤ v || (v == -1 && dirty) then
        (db.insert versionTable.name ["version", "dirty"] [.int v, .int (if dirty then 1 else 0)]).mapError
          fun e => e.message ++ " in line 0: INSERT INTO schema_migrations (version, dirty) VALUES (?, ?)"
      else .ok db

/-- Make sure the version table exists. -/
def prepareMigration (db : Database) : Except Fault Database :=
  if db.closed then .error (.plain ("failed to create sqlite driver: " ++ StoreError.closed.message))
  else .ok (db.create versionTable)

/-- The failure of a version that no migration has. -/
def unknownVersion (v : Int) : String :=
  "no migration found for version " ++ toString v ++ ": read down for version " ++ toString v
    ++ " migrations: file does not exist"

/-- Apply (`up`) or undo version 1. -/
def step (db : Database) (up : Bool) : Except String Database := do
  let target : Int := if up then 1 else -1
  let db ← db.setVersion target true
  let db := if up then initialTables.foldl Database.create db
    else ["calibrations", "device_outcomes", "sessions", "takes"].foldl
      (fun db n => match db.drop n true with
        | .ok db => db
        | .error _ => db) db
  db.setVersion target false

/-- Migrate a step in one direction. -/
def migrate (db : Database) (up : Bool) : MigrationRun :=
  let context := if up then "migration up failed: " else "migration down failed: "
  match db.prepareMigration with
  | .error f => ⟨db, [], some f⟩
  | .ok db =>
    let (v, dirty) := db.schemaVersion
    if dirty then
      ⟨db, [], some (.plain (context ++ "Dirty database version " ++ toString v ++ ". Fix and force version."))⟩
    else if v == -1 && !up then ⟨db, [], some (.plain (context ++ "file does not exist"))⟩
    else if v == 1 && up then ⟨db, [], none⟩
    else if v == -1 || v == 1 then
      match db.step up with
      | .ok db' => ⟨db', [.applied 1 up "init"], none⟩
      | .error e => ⟨db, [], some (.plain (context ++ e))⟩
    else ⟨db, [.failed (unknownVersion v)], some (.plain (context ++ unknownVersion v))⟩

/-- Apply every migration not yet applied. -/
def migrateUp (db : Database) : MigrationRun := db.migrate true

/-- Undo the last applied migration. -/
def migrateDown (db : Database) : MigrationRun := db.migrate false

/-- The applied version (0 for none) and whether it is dirty. -/
def migrationVersion (db : Database) : Except Fault (Database × Int × Bool) := do
  let db ← db.prepareMigration
  let (v, dirty) := db.schemaVersion
  if v == -1 then pure (db, 0, false) else pure (db, v, dirty)

end Database

end DepthRig.Store
