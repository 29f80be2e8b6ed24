import DepthRig.Store.Migrations

/-!
# The session store

On top of its database the store keeps take indexes counting up per name, sessions with their
times in UTC, and per-device outcomes of each session's stages. The `n`-th session id issued
is `00000000-0000-4000-8000-` followed by `n` in twelve hexadecimal digits.
-/

namespace DepthRig.Store

open Time

/-- A recording session. -/
structure Session where
  id : String
  takeName : String
  takeIndex : Int
  syncMode : String
  startedAt : Stamp
  /-- The zero instant while the session is open. -/
  stoppedAt : Stamp := Stamp.zero
  framesCaptured : Int := 0
  syncStatus : String := ""
  deriving Inhabited

/-- The session in one line: id, take and index, sync mode, frames and quoted status. -/
def Session.text (s : Session) : String :=
  s.id ++ " " ++ s.takeName ++ "_" ++ toString s.takeIndex ++ " (" ++ s.syncMode ++ ") frames="
    ++ toString s.framesCaptured ++ " sync=" ++ Quote.text s.syncStatus

/-- A device's result for a stage of a session; the error is empty for success. -/
structure Outcome where
  stage : String
  endpoint : String
  serial : String
  error : String
  deriving BEq, Inhabited, Repr

/-- The session store: its database and how many session ids it has issued. -/
structure SessionStore where
  db : Database
  issued : Nat := 0
  deriving Inhabited

/-- A store error as a fault. -/
def StoreError.fault (e : StoreError) : Fault := .plain e.message

/-- The `n`-th session id. -/
def sessionId (n : Nat) : String :=
  let hex := String.ofList ((Nat.toDigits 16 n).map Char.toLower)
  "00000000-0000-4000-8000-" ++ String.ofList (List.replicate (12 - hex.length) '0') ++ hex

namespace SessionStore

/-- The failure of opening a store whose file cannot be created. -/
def unopenable : Fault := .plain "failed to create sqlite driver: unable to open database file: out of memory (14)"

/-- A new store at a creatable path, migrated up: the store or the failure, and the
migration log. -/
def fresh (clock : Stamp) : Except Fault SessionStore × List MigrateLog :=
  let run := Database.migrateUp { clock }
  match run.fault with
  | some f => (.error f, run.log)
  | none => (.ok { db := run.db }, run.log)

/-- Fail with the database's closing, as an unopened database does. -/
def ensureOpen (s : SessionStore) : Except StoreError Unit :=
  if s.db.closed then .error .closed else .ok ()

/-- A double plus one, rounded to a double. -/
def doublePlusOne (bits : Nat) : Nat :=
  match Place.ofDouble bits with
  | .at n s =>
    let num := n + (Nat.pow 2 s : Nat)
    BinaryFormat.double.roundRatio (decide (num < 0)) num.natAbs (Nat.pow 2 s)
  | _ => bits

/-- The value after `v` in a counter column, as stored arithmetic computes it and the
column then stores it: an integer past the greatest 64-bit one goes over to a double, and
a text counts as its leading integer. -/
def increment : Cell → Cell
  | .int n =>
    if n < maxInteger then .int (n + 1)
    else Cell.ofDouble (BinaryFormat.double.roundRatio (decide (n + 1 < 0)) (n + 1).natAbs 1)
  | .real b => Cell.ofDouble (doublePlusOne b)
  | .text s =>
    let digits := s.toList.takeWhile Char.isDigit
    .int (digits.foldl (fun n c => n * 10 + (c.toNat - 48 : Nat)) 0 + 1)
  | .null => .null

/-- Hand out the next index of a take name, starting at 1. -/
def nextTakeIndex (s : SessionStore) (take : String) : Except Fault (SessionStore × Int) := do
  if take.isEmpty then throw (.ofKind .emptyTake "take name is empty")
  let wrap := fun (e : StoreError) => e.fault.wrap ("failed to allocate take index for " ++ Quote.text take)
  let result : Except StoreError (Database × Cell) := do
    s.ensureOpen
    let t ← s.db.table takesTable.name
    match t.rows.find? fun r => (t.cell r "name").same (.text take) with
    | none =>
      let db ← s.db.insert takesTable.name ["name", "last_index"] [.text take, .int 1]
      pure (db, .int 1)
    | some r =>
      let next := increment (t.cell r "last_index")
      let (db, _) ← s.db.update takesTable.name [("last_index", next), ("updated_at", .text s.db.now)]
        (some ("name", .text take))
      pure (db, next)
  match result with
  | .error e => throw (wrap e)
  | .ok (db, v) =>
    match scanInt 0 "last_index" v with
    | .ok n => pure ({ s with db }, n)
    | .error e => throw (wrap e)

/-- Record a new session and return its id. -/
def startSession (s : SessionStore) (take : String) (index : Int) (syncMode : String)
    (started : Stamp) : Except Fault (SessionStore × String) := do
  let id := sessionId (s.issued + 1)
  let result : Except StoreError Database := do
    s.ensureOpen
    s.db.insert sessionsTable.name ["session_id", "take_name", "take_index", "sync_mode", "started_at"]
      [.text id, .text take, .int index, .text syncMode, .text started.utc.text]
  match result with
  | .error e => throw (e.fault.wrap "failed to start session")
  | .ok db => pure ({ s with db, issued := s.issued + 1 }, id)

/-- Close a session with its stop time, frame count and sync status. -/
def finishSession (s : SessionStore) (id : String) (stopped : Stamp) (frames : Int)
    (syncStatus : String) : Except Fault SessionStore := do
  let result : Except StoreError (Database × Nat) := do
    s.ensureOpen
    s.db.update sessionsTable.name
      [("stopped_at", .text stopped.utc.text), ("frames_captured", .int frames),
        ("sync_status", .text syncStatus)] (some ("session_id", .text id))
  match result with
  | .error e => throw (e.fault.wrap ("failed to finish session " ++ id))
  | .ok (_, 0) => throw (.ofKind .notFound ("session " ++ id ++ ": not found"))
  | .ok (db, _) => pure { s with db }

/-- Read a stored time, naming the column in a failure. -/
def readStamp (column : String) (text : String) : Except Fault Stamp :=
  (rfc3339.parse text).mapError fun e => .plain ("failed to parse " ++ column ++ ": " ++ e.message)

/-- Read a session from its row. -/
def readSession (t : Table) (row : List Cell) : Except Fault Session := do
  let col (c : String) := t.cell row c
  let scanned : Except StoreError (String × String × Int × String × String × Option String × Int × String) := do
    let id ← scanText 0 "session_id" (col "session_id")
    let take ← scanText 1 "take_name" (col "take_name")
    let index ← scanInt 2 "take_index" (col "take_index")
    let mode ← scanText 3 "sync_mode" (col "sync_mode")
    let started ← scanText 4 "started_at" (readTimeCell (col "started_at"))
    let stopped := scanOptionalText (readTimeCell (col "stopped_at"))
    let frames ← scanInt 6 "frames_captured" (col "frames_captured")
    let status ← scanText 7 "sync_status" (col "sync_status")
    pure (id, take, index, mode, started, stopped, frames, status)
  match scanned with
  | .error e => throw e.fault
  | .ok (id, take, index, mode, started, stopped, frames, status) =>
    let startedAt ← readStamp "started_at" started
    let stoppedAt ← match stopped with
      | some t => readStamp "stopped_at" t
      | none => pure Stamp.zero
    pure ⟨id, take, index, mode, startedAt, stoppedAt, frames, status⟩

/-- The session with an id. -/
def session (s : SessionStore) (id : String) : Except Fault Session := do
  let t ← (do s.ensureOpen; s.db.table sessionsTable.name).mapError StoreError.fault
  match t.rows.find? fun r => (t.cell r "session_id").same (.text id) with
  | none => throw (.ofKind .notFound ("session " ++ id ++ ": not found"))
  | some row => readSession t row

/-- The latest sessions by stored start time, newest first, at most `limit` of them
(100 for a limit of 0 or less); equal start times keep the order they were recorded in. -/
def sessions (s : SessionStore) (limit : Int) : Except Fault (List Session) := do
  let limit := if limit ≤ 0 then 100 else limit
  let t ← (do s.ensureOpen; s.db.table sessionsTable.name).mapError StoreError.fault
  let started (r : List Cell) := t.cell r "started_at"
  let newest := t.rows.mergeSort fun a b => !(started a).lt (started b)
  (newest.take limit.toNat).mapM (readSession t)

/-- Record a device's result for a stage of a session; no error is success. -/
def recordOutcome (s : SessionStore) (sessionId stage endpoint serial : String)
    (error : Option String) : Except Fault SessionStore := do
  let result : Except StoreError Database := do
    s.ensureOpen
    s.db.insert outcomesTable.name ["session_id", "stage", "endpoint", "serial", "error"]
      [.text sessionId, .text stage, .text endpoint, .text serial, .text (error.getD "")]
  match result with
  | .error e => throw (e.fault.wrap ("failed to record " ++ stage ++ " outcome for " ++ endpoint))
  | .ok db => pure { s with db }

/-- A session's outcomes in the order they were recorded. -/
def outcomes (s : SessionStore) (sessionId : String) : Except Fault (List Outcome) := do
  let t ← (do s.ensureOpen; s.db.table outcomesTable.name).mapError StoreError.fault
  let key (r : List Cell) := t.cell r "outcome_id"
  let rows := (t.rows.filter fun r => (t.cell r "session_id").same (.text sessionId)).mergeSort
    fun a b => !(key b).lt (key a)
  (rows.mapM fun r => do
    let stage ← scanText 0 "stage" (t.cell r "stage")
    let endpoint ← scanText 1 "endpoint" (t.cell r "endpoint")
    let serial ← scanText 2 "serial" (t.cell r "serial")
    let error ← scanText 3 "error" (t.cell r "error")
    pure (⟨stage, endpoint, serial, error⟩ : Outcome)).mapError StoreError.fault

/-- Run statements against the database directly: the store after the statements that
ran, and the failure that stopped them. -/
def exec (s : SessionStore) (sql : String) (args : List String) : SessionStore × Option Fault :=
  let (db, e) := s.db.exec sql (args.map Cell.text)
  ({ s with db }, e.map StoreError.fault)

/-- The file image of the store: the database file header, then each table's name and row
count, one per line. -/
def image (s : SessionStore) : List UInt8 :=
  Utf8.encode "SQLite format 3" ++ [0]
    ++ Utf8.encode (String.join (s.db.tables.map fun t => t.name ++ " " ++ toString t.rows.length ++ "\n"))

/-- Close the store; every later use fails. -/
def close (s : SessionStore) : SessionStore := { s with db := { s.db with closed := true } }

/-- Migrate up, keeping the log. -/
def migrateUp (s : SessionStore) : SessionStore × List MigrateLog × Option Fault :=
  let run := s.db.migrateUp
  ({ s with db := run.db }, run.log, run.fault)

/-- Undo the last migration, keeping the log. -/
def migrateDown (s : SessionStore) : SessionStore × List MigrateLog × Option Fault :=
  let run := s.db.migrateDown
  ({ s with db := run.db }, run.log, run.fault)

/-- The applied schema version and whether it is dirty. -/
def migrationVersion (s : SessionStore) : Except Fault (SessionStore × Int × Bool) := do
  let (db, v, d) ← s.db.migrationVersion
  pure ({ s with db }, v, d)

end SessionStore

end DepthRig.Store
