import DepthRig.Control.Routes
import DepthRig.Fleet.Steps

/-!
# Scripted server sessions

A server session sets up the capture station (configuration, store, sink and simulated
sensors) and runs steps against it: requests, fleet steps, watches of the event streams,
store dumps, listener faults, injected bytes and statements on the store. Every step reports
what it returned and its failure; a step that cannot run as asked refuses the session.
-/

namespace DepthRig.Control

open Http Fleet Json StationM

/-- One step of a server session. -/
inductive ServerStep where
  /-- Serve a request through the logging layer. -/
  | http (req : Request)
  /-- Watch the registry's event stream while inner steps run; the stream ends with the
  registry's closing, or else when the client leaves. -/
  | stream (byRegistry : Bool) (inner : List ServerStep)
  /-- Watch the coordinator's states while inner steps run. -/
  | states (inner : List ServerStep)
  | dbDump
  | diagnostics
  /-- The listener's next accept fails once. -/
  | acceptError
  | closeListener
  | cancelRecording
  /-- Wait for the recording with a context already cancelled. -/
  | waitCancelled
  /-- A sensor sends bytes on its connection. -/
  | send (device : Nat) (bytes : List UInt8)
  | storeExec (sql : String)
  | disconnect (device : Nat)
  | fleet (name : String) (s : Fleet.Step)
  deriving Inhabited

/-- The name of a step, as reported. -/
def ServerStep.name : ServerStep → String
  | .http _ => "http"
  | .stream .. => "sse"
  | .states _ => "states"
  | .dbDump => "db_dump"
  | .diagnostics => "diagnostics"
  | .acceptError => "accept_error"
  | .closeListener => "close_listener"
  | .cancelRecording => "cancel_recording"
  | .waitCancelled => "wait_session_cancelled_ctx"
  | .send .. => "sim_send"
  | .storeExec _ => "store_exec"
  | .disconnect _ => "disconnect"
  | .fleet n _ => n

/-- A request from its JSON: method, path, form or raw body, content type, headers, the
peer's address, and whether the connection can push. -/
def request? (j : Json) : Request :=
  let form := (j.get "form").members.flatMap fun (k, vs) => vs.items.filterMap fun v => v.str?.map (k, ·)
  let hasForm := !(j.get "form").isNull
  let body := if hasForm then Utf8.encode (encode form) else Utf8.encode ((j.get "body").str?.getD "")
  let contentType :=
    match (j.get "content_type").str? with
    | some t => [("Content-Type", t)]
    | none => if hasForm then [("Content-Type", "application/x-www-form-urlencoded")] else []
  let headers := (j.get "headers").members.filterMap fun (k, v) => v.str?.map (k, ·)
  { method := (j.get "method").str?.getD "GET", target := (j.get "path").str?.getD "/"
    headers := contentType ++ headers, body
    remote := (j.get "remote").str?.getD "127.0.0.1:12345"
    canFlush := !boolField j "no_flush" }

/-- Read a step, inner steps nested at most `fuel` deep. -/
def ServerStep.read? : Nat → Json → Except String ServerStep
  | fuel, j =>
    let device := ((integer? (j.get "device")).getD 0).toNat
    let inner : Except String (List ServerStep) :=
      match fuel with
      | 0 => .error "steps nested too deep"
      | fuel + 1 => (j.get "inner").items.mapM (ServerStep.read? fuel)
    match (j.get "do").str?.getD "" with
    | "http" => pure (.http (request? j))
    | "sse" =>
      match (j.get "end").str?.getD "registry" with
      | "registry" => do return .stream true (← inner)
      | "client" => do return .stream false (← inner)
      | _ => throw "sse end is client or registry"
    | "states" => do return .states (← inner)
    | "db_dump" => pure .dbDump
    | "diagnostics" => pure .diagnostics
    | "accept_error" => pure .acceptError
    | "close_listener" => pure .closeListener
    | "cancel_recording" => pure .cancelRecording
    | "wait_session_cancelled_ctx" => pure .waitCancelled
    | "sim_send" => do
      match Hex.decode? ((j.get "bytes").str?.getD "") with
      | some bs => return .send device bs
      | none => throw "bad hex"
    | "store_exec" => pure (.storeExec ((j.get "sql").str?.getD ""))
    | "disconnect" => pure (.disconnect device)
    | other => do return .fleet other (← Fleet.step? j)

/-- The published name of a link event, if it is published to the registry's stream. -/
def eventName : LinkEvent → Option String
  | .stateChanged => some "state-changed"
  | .configurationUpdated _ => some "configuration-updated"
  | .disconnected => some "disconnected"
  | .closed => none

/-- The events each member announced after its first `before` events, by endpoint. -/
def eventsSince (members : Array Member) (before : List Nat) : Json :=
  let groups := (members.toList.zip before).filterMap fun (m, n) =>
    let names := (m.conn.events.toList.drop n).filterMap eventName
    if names.isEmpty then none else some (m.link.endpoint, names)
  let merged := groups.foldl (fun (acc : List (String × List String)) (ep, names) =>
    if acc.any (·.1 == ep) then acc.map fun (k, v) => if k == ep then (k, v ++ names) else (k, v)
    else acc ++ [(ep, names)]) []
  .object (merged.map fun (ep, names) => (ep, .array (names.map .string)))

/-- A response as a step reports it: status, content type, the headers that matter, the
log line, and the body (JSON decoded, text, or what a compressed backup holds). -/
def ofResponse (resp : Response) (line : LogLine) : Json :=
  let optional := ["Content-Disposition", "Location", "Cache-Control"].filterMap fun h =>
    (resp.header? h).map fun v => (h.toLower, Json.string v)
  let body : List (String × Json) :=
    match resp.body with
    | .gzip content =>
      [("gzip_error", .null), ("sqlite_header", .bool (content.take 16 == Utf8.encode "SQLite format 3" ++ [0]))]
    | .bytes bs =>
      if resp.contentType.startsWith "application/json" then
        match Json.parseBytes bs with
        | .ok j => [("body", j)]
        | .error _ => [("body_text", .string (Utf8.decode bs))]
      else [("body_text", .string (Utf8.decode bs))]
  .object ([("status", ofNat resp.status), ("content_type", .string resp.contentType)] ++ optional
    ++ [("log", .array [.string (line.text "0")])] ++ body)

/-- A step's report. -/
def report (did : String) (result : Json) (fault : Option Fault) : Json :=
  .object [("do", .string did), ("result", result), ("error", ofFault? fault)]

/-- The store's sessions, oldest first, each with its outcomes sorted by stage and
endpoint; every sensor's latest calibration by serial; and the schema version. -/
def dumpStore (st : Store.SessionStore) (serials : List String) :
    Except Fault (Json × Store.SessionStore) := do
  let sessions ← st.sessions 1000
  let sessions ← sessions.reverse.mapM fun s => do
    let os ← st.outcomes s.id
    let os := os.mergeSort fun a b => a.stage < b.stage || (a.stage == b.stage && decide (a.endpoint ≤ b.endpoint))
    pure (Json.object [("id", .string s.id), ("take_name", .string s.takeName),
      ("take_index", ofInt s.takeIndex), ("sync_mode", .string s.syncMode),
      ("stopped", .bool !s.stoppedAt.isZero), ("frames_captured", ofInt s.framesCaptured),
      ("sync_status", .string s.syncStatus),
      ("outcomes", .array (os.map fun o => .object [("stage", .string o.stage),
        ("endpoint", .string o.endpoint), ("serial", .string o.serial), ("error", .string o.error)]))])
  let unique := serials.foldl (fun acc s => if acc.contains s then acc else acc ++ [s]) []
  let calibrations := unique.map fun serial =>
    (serial, match st.latestCalibration serial with
      | .ok c => Json.object [("refined", .bool c.refined), ("rotation", ofSingles c.rotation.toList),
          ("translation", ofPoint3 c.translation)]
      | .error f => ofFault f)
  let (version, st) := match st.migrationVersion with
    | .ok (st, v, dirty) => ([("migrate_version", ofInt v), ("dirty", .bool dirty), ("version_error", Json.null)], st)
    | .error f => ([("migrate_version", ofInt 0), ("dirty", .bool false), ("version_error", ofFault f)], st)
  pure (.object ([("sessions", .array sessions), ("calibrations", .object calibrations)] ++ version), st)

/-- The charts in the diagnostics directory, or why it cannot be listed. -/
def listCharts (r : Rig) (dir : String) : Except Fault (List String) :=
  let clean := Path.clean dir
  if (Path.prefixes clean).any r.plainFiles.contains then
    .error (.plain ("open " ++ dir ++ ": not a directory"))
  else
    let inDir := r.charts.filter fun p => Path.dir p == clean
    if inDir.isEmpty then .error (.ofKind .notExist ("open " ++ dir ++ ": no such file or directory"))
    else .ok ((inDir.map fun p => String.ofList ((p.toList.reverse.takeWhile (· != '/')).reverse)).mergeSort
      fun a b => decide (a ≤ b))

/-- The message of a write to a connection that has ended. -/
def closedPipe : Fault := .plain "io: read/write on closed pipe"

/-- The failure of serving on a closed listener. -/
def listenerClosedFault : Fault := .ofKind .closed "use of closed network connection"

mutual

/-- Run a step: its report, or why the session stops. -/
def ServerStep.run (setups : List Simulator.Setup) : ServerStep → StationM (Except Halt Json)
  | .http req => do
    if req.method == "GET" && cleanPath req.rawPath == "/debug/sensors-tail" && req.canFlush then
      return .error (.refused "a GET of /debug/sensors-tail that can flush streams forever; use sse")
    let (resp, line) ← serve req
    return .ok (report "http" (ofResponse resp line) none)
  | .stream byRegistry inner => do
    let s ← get
    let before := s.rig.members.toList.map fun m => m.conn.events.size
    let open_ := !s.registryClosed
    match ← runAll setups inner with
    | .error e => return .error e
    | .ok reports =>
      if byRegistry then closeRegistry
      let members := (← get).rig.members
      let events := if open_ then eventsSince members before else .object []
      return .ok (report "sse" (.object [("status", ofNat 200), ("content_type", .string "text/event-stream"),
        ("cache_control", .string "no-cache"), ("pings", ofNat 1), ("events_by_endpoint", events),
        ("inner", .array reports)]) none)
  | .states inner => do
    let n := (← get).rig.entered.size
    match ← runAll setups inner with
    | .error e => return .error e
    | .ok reports =>
      let names := ((← get).rig.entered.toList.drop n).map fun p => Json.string p.name
      return .ok (report "states" (.object [("states", .array names), ("inner", .array reports)]) none)
  | .dbDump => do
    let s ← get
    match s.rig.store with
    | none => return .error (.refused "server has no store")
    | some st =>
      let serials := s.rig.members.toList.map fun m => m.sensor.setup.serial
      match dumpStore st serials with
      | .ok (j, st) =>
        modify fun s => { s with rig := { s.rig with store := some st } }
        return .ok (report "db_dump" j none)
      | .error f => return .ok (report "db_dump" .null (some f))
  | .diagnostics => do
    let r := (← get).rig
    let dir := r.config.diagnosticsDirOr
    if dir.isEmpty then return .error (.refused "no diagnostics_dir configured")
    match listCharts r dir with
    | .ok files => return .ok (report "diagnostics" (.object [("files", .array (files.map .string))]) none)
    | .error f => return .ok (report "diagnostics" .null (some f))
  | .acceptError => do
    if (← get).listenerClosed then return .error (.refused "listener already closed")
    return .ok (report "accept_error" .null none)
  | .closeListener => do
    if (← get).listenerClosed then return .error (.refused "listener already closed")
    modify fun s => { s with listenerClosed := true }
    return .ok (report "close_listener" (.object [("serve_error", ofFault listenerClosedFault)]) none)
  | .cancelRecording => do
    match (← get).rig.recording with
    | none => return .ok (report "cancel_recording" (.object [("recording", .bool false)]) none)
    | some ongoing =>
      let s ← onRig (finishRecording ongoing true)
      return .ok (report "cancel_recording" (.object [("result", ofSummary s)]) none)
  | .waitCancelled => do
    if (← get).rig.recording.isNone then return .error (.refused "no recording in progress")
    return .ok (report "wait_session_cancelled_ctx" .null (some Fault.canceled))
  | .send i _ => do
    let r := (← get).rig
    if r.members.size ≤ i then return .error (.refused "device index out of range")
    let m := r.member i
    -- the sensor writes only once it has hung up, so the write fails and nothing arrives
    if m.sensor.serving then return .error (.refused "sim_send needs a disconnected device")
    let stored := m.sensor.storedNumbers
    return .ok (report "sim_send" (.object [("stored_frames", ofInts (stored.map Int32.toInt))])
      (some closedPipe))
  | .storeExec sql => do
    match (← get).rig.store with
    | none => return .error (.refused "server has no store")
    | some st =>
      let (st, fault) := st.exec sql []
      modify fun s => { s with rig := { s.rig with store := some st } }
      return .ok (report "store_exec" .null fault)
  | .disconnect i => do
    if (← get).rig.members.size ≤ i then return .error (.refused "device index out of range")
    onRig (RigM.onMember i MemberM.hangUp)
    return .ok (report "disconnect" .null none)
  | .fleet name step => do
    match ← onRig (step.run setups) with
    | .error e => return .error e
    | .ok (result, fault) => return .ok (report name result fault)

/-- Run steps in order, settling the fleet after each; the first refusal, or a run-time
fault a step made the program raise, stops them. -/
def runAll (setups : List Simulator.Setup) : List ServerStep → StationM (Except Halt (List Json))
  | [] => return .ok []
  | s :: rest => do
    match ← s.run setups with
    | .error e => return .error e
    | .ok j =>
      if let some message := (← get).panicked then return .error (.panicked message)
      settleFleet
      match ← runAll setups rest with
      | .error e => return .error e
      | .ok js => return .ok (j :: js)

end

mutual

/-- Replace `$TMP` in every text of a JSON value. -/
def substituteTemp (tmp : String) : Json → Json
  | .string s => .string (tmp.intercalate (s.splitOn "$TMP"))
  | .array xs => .array (substituteItems tmp xs)
  | .object ms => .object (substituteMembers tmp ms)
  | j => j

/-- Replace `$TMP` in the items of an array. -/
def substituteItems (tmp : String) : List Json → List Json
  | [] => []
  | x :: xs => substituteTemp tmp x :: substituteItems tmp xs

/-- Replace `$TMP` in the values of an object's members. -/
def substituteMembers (tmp : String) : List (String × Json) → List (String × Json)
  | [] => []
  | (k, v) :: ms => (k, substituteTemp tmp v) :: substituteMembers tmp ms

end

/-- The directory a session's files live in, as answers show it. -/
def tempDir : String := "<tmp>"

/-- A whole server session from its request. -/
def session (req : Json) : Except String Json := do
  let config ← match req.get "config" with
    | .null => pure SessionConfig.defaults
    | j => match fitDocument SessionConfig.fitConfig (substituteTemp tempDir j) {} with
      | .ok c => pure c
      | .error m => throw m.message
  let sink ← match (req.get "sink").str?.getD "none" with
    | "none" => pure none
    | "ply" => pure (some (PlySink.create {} "/takes" false))
    | other => throw ("unknown sink " ++ other)
  let withStore := boolField req "store"
  let store ← if withStore then
      match (Store.SessionStore.fresh Rig.startTime).1 with
      | .ok st => pure (some st)
      | .error f => throw f.message
    else pure none
  let sensors ← (req.get "devices").items.zipIdx.mapM fun (d, i) => setup? d i
  let rig := connectAll (Rig.create config sink (if withStore then .store else .none) store) sensors
  let watching := boolField req "run_coordinator"
  let rig := if watching && !rig.previewAllowed then { rig with preview := { rig.preview with paused := true } } else rig
  let depth := (Json.render (req.get "steps")).length
  let steps ← (req.get "steps").items.mapM (ServerStep.read? depth)
  let (reports, _) := (runAll (sensors.map (·.2)) steps).run { rig, watching }
  match reports with
  | .ok reports => pure (.object [("steps", .array reports)])
  | .error (.refused e) => throw e
  | .error (.panicked message) => pure (panicAnswer message)

end DepthRig.Control
