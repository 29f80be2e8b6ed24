import DepthRig.Launch.Options
import DepthRig.Launch.Host
import DepthRig.Launch.Run
import DepthRig.Config.SessionJson
import DepthRig.Store.Sessions
import DepthRig.Fleet.Rig
import DepthRig.Version

/-!
# Starting the capture server

The command line names the sensor and control addresses, the session configuration, the
session store, the take name, where frames go and a log file. Start-up checks and opens them
in a fixed order and the first failure ends the run with status 1; a sensor listener that
cannot listen shuts the server down in good order, and otherwise it serves until a
termination signal.
-/

namespace DepthRig.Launch

open Store

/-- The capture server's settings from its command line. -/
structure ServerSettings where
  sensorAddress : String := ":48001"
  controlAddress : String := ":8080"
  configPath : String := ""
  storePath : String := "livescan.db"
  take : String := ""
  framesDir : String := ""
  compressFrames : Bool := false
  logPath : String := ""
  showVersion : Bool := false
  deriving Inhabited, Repr

/-- The capture server's options. -/
def serverOptions : List (OptionSpec ServerSettings) :=
  let d : ServerSettings := {}
  [.ofText "listen" "Sensor TCP listen address" d.sensorAddress fun v s => { s with sensorAddress := v },
    .ofText "http" "HTTP control and debug listen address" d.controlAddress fun v s => { s with controlAddress := v },
    .ofText "config" "Session configuration JSON (defaults when empty)" d.configPath fun v s => { s with configPath := v },
    .ofText "db" "SQLite session store path" d.storePath fun v s => { s with storePath := v },
    .ofText "take" "Take name, overriding the configuration" d.take fun v s => { s with take := v },
    .ofText "out" "Directory for saved frames; frames stay on the sensors when empty" d.framesDir
      fun v s => { s with framesDir := v },
    .ofSwitch "compress" "zstd-compress saved frames" fun v s => { s with compressFrames := v },
    .ofText "log-file" "Write logs to this file, rotated by size, instead of stderr" d.logPath
      fun v s => { s with logPath := v },
    .ofSwitch "version" "Print the version and exit" fun v s => { s with showVersion := v }]

/-- The capture server's program name. -/
def serverProgram : String := "livescan"

/-- Read the configuration file at `path` from the working directory. -/
def readConfig (fs : MemoryFs) (path : String) : Except Fault SessionConfig :=
  let clean := Path.clean path
  if Path.ext clean != ".json" then SessionConfig.load path []
  else
    match fs.entry clean with
    | .missing => .error (.ofKind .notExist ("failed to stat config file: stat " ++ clean ++ ": no such file or directory"))
    | .blocked => .error (.plain ("failed to stat config file: stat " ++ clean ++ ": not a directory"))
    | .directory => .error (.plain ("failed to read config file: read " ++ clean ++ ": is a directory"))
    | .file bytes => SessionConfig.load path bytes

/-- The configuration for a run: the file's, or the defaults, with the take name given on
the command line in place of its own. -/
def ServerSettings.config (s : ServerSettings) (fs : MemoryFs) : Except Fault SessionConfig := do
  let c ← if s.configPath.isEmpty then pure SessionConfig.defaults else readConfig fs s.configPath
  return if s.take.isEmpty then c else { c with takeName := some s.take }

/-- The failure of a file that holds something other than a store. -/
def notAStore : Fault := .plain "failed to create sqlite driver: file is not a database (26)"

/-- Open the session store at `path`: the store, its migration log and the working
directory with its file; `:memory:` and the empty path keep the store off the disk. -/
def openStore (fs : MemoryFs) (path : String) : Except Fault (SessionStore × List MigrateLog × MemoryFs) :=
  let migrate := fun (fs : MemoryFs) => do
    match SessionStore.fresh Fleet.Rig.startTime with
    | (.error f, _) => Except.error f
    | (.ok st, log) => pure (st, log, fs)
  if path.isEmpty || path == ":memory:" then migrate fs
  else
    match fs.entry path with
    | .file [] => migrate fs
    | .file _ => .error notAStore
    | .directory | .blocked => .error SessionStore.unopenable
    | .missing =>
      if fs.entry (Path.dir path) != .directory then .error SessionStore.unopenable
      else do
        let (st, log, _) ← migrate fs
        let fs ← fs.create path st.image
        pure (st, log, fs)

/-- What the server logs as it shuts down after a termination signal. -/
def closingLines : List String :=
  ["[Registry] accept loop stopping due to context cancellation", "sensor listener terminated",
    "coordinator routine terminated", "shutting down HTTP server...", "HTTP server routine stopped",
    "Graceful shutdown complete"]

/-- What the server logs when its sensor listener fails: why, then its shutdown. -/
def listenerFailedLines (why : String) : List String :=
  ["sensor listener stopped: " ++ why, "sensor listener terminated", "coordinator routine terminated",
    "shutting down HTTP server...", "HTTP server routine stopped", "Graceful shutdown complete"]

/-- The run of the server once its options are read and its log placed. -/
def ServerSettings.start (s : ServerSettings) (host : Host) (r : Run) : Run :=
  if s.sensorAddress.isEmpty || s.controlAddress.isEmpty then
    (r.note "Listen addresses are required").exit 1
  else
    let r := r.note (BuildInfo.text {})
    match s.config r.files with
    | .error f => (r.note ("failed to load configuration: " ++ f.message)).exit 1
    | .ok _ =>
      match openStore r.files s.storePath with
      | .error f => (r.note ("Failed to open session store: " ++ f.message)).exit 1
      | .ok (_, log, fs) =>
        let r := log.foldl (fun r l => r.note (l.text (Duration.text ⟨0⟩))) { r with files := fs }
        match host.listen s.sensorAddress with
        | .error e =>
          let why := "failed to listen on " ++ s.sensorAddress ++ ": " ++ e
          ((listenerFailedLines why).foldl Run.note r).exit 0
        | .ok bound =>
          let r := r.note ("[Registry] listening for sensors on " ++ bound)
          match host.listen s.controlAddress with
          | .error e => (r.note ("failed to start server: " ++ e)).exit 1
          | .ok _ => { r with ending := .serving closingLines }

/-- Run the capture server with these arguments in a working directory on a host. -/
def launchServer (host : Host) (args : List String) (fs : MemoryFs) : Run :=
  match readOptions serverOptions {} args with
  | .error e =>
    { files := fs, log := e.message.toList ++ helpLines serverProgram serverOptions, ending := .exited e.exitCode }
  | .ok (s, _) =>
    if s.showVersion then { files := fs, out := [BuildInfo.text {}] }
    else s.start host { files := fs, logFile := if s.logPath.isEmpty then none else some s.logPath }

/-- What a supervisor sees of a server it started. -/
inductive Watch where
  /-- The server exited by itself. -/
  | exited (r : Run)
  /-- Its control surface never answered, so the supervisor stopped it. -/
  | neverUp (r : Run)
  /-- Its control surface answers. -/
  | up (r : Run)

/-- Watch a server run for its control surface at `control`. -/
def Host.watch (host : Host) (control : String) (r : Run) : Watch :=
  if r.hasExited then .exited r
  else
    match host.dial control with
    | .error _ => .neverUp r.stop
    | .ok () => .up r

end DepthRig.Launch
