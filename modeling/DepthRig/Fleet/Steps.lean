import DepthRig.Fleet.Json
import DepthRig.Config.SessionJson

/-!
# Scripted fleet sessions

A fleet session connects simulated sensors in order and runs steps against the coordinator,
each reporting what it returned, its failure, the status, the links and the commands every
sensor heard. A step that cannot be run as asked refuses the whole session.
-/

namespace DepthRig.Fleet

open Json Simulator

/-- One step of a fleet session. -/
inductive Step where
  | pushSettings
  | calibrate
  | enableHwSync
  | disableHwSync
  | restart (endpoints : List String)
  | refine
  | setSyncMode (mode : SyncMode)
  | captureRound
  | checkHwSync
  | saveStored (mode : ExportMode) (merge : Bool)
  | addStored (device : Nat) (timestamps : List UInt64)
  | reconcile (tolerance : Duration)
  | lastFrame (device : Nat)
  | startRecording
  | stopRecording
  | runPreview
  | disconnect (device : Nat)
  deriving Inhabited

/-- A calibration record from `{marker_id, rotation, translation}`; missing parts are
zero. -/
def record? (j : Json) : CalibrationRecord :=
  ⟨Int32.ofInt ((integer? (j.get "marker_id")).getD 0),
    (vectorOf 9 (j.get "rotation")).getD (Vector.replicate 9 .zero),
    (point3? (j.get "translation")).getD Point3.origin⟩

/-- A count from a JSON number; anything else is zero. -/
def count (j : Json) : Nat := ((integer? j).getD 0).toNat

/-- The setup of sensor `i` from its JSON, with its endpoint. -/
def setup? (j : Json) (i : Nat) : Except String (String × Setup) := do
  let endpoint := (j.get "endpoint").str?.getD ("dev-" ++ toString i)
  let scene :=
    if (j.get "scene_random").isNull then (points? (j.get "scene")).getD []
    else randomScene (count ((j.get "scene_random").get "n")) ((integer? ((j.get "scene_random").get "seed")).getD 0)
  let pose :=
    if !(j.get "yaw_pose").isNull then
      let yp := j.get "yaw_pose"
      yawPose ((double? (yp.get "yaw")).getD ⟨0⟩).toFloat ((point3? (yp.get "t")).getD Point3.origin)
    else record? (j.get "pose")
  let period := if (j.get "frame_period_us").isNull then 3600000000 else (integer? (j.get "frame_period_us")).getD 0
  pure (endpoint,
    { serial := (j.get "serial").str?.getD "", hardwareSync := ⟨byteField j "hardware_sync"⟩, scene
      colors := (j.get "colors").items.filterMap color?, bodies := (j.get "bodies").items.filterMap body?
      pose, calibration := if (j.get "calibration").isNull then none else some (record? (j.get "calibration"))
      framePeriodUs := period.toNat
      timestampOffset := ← unsigned? (j.get "timestamp_offset")
      timestampJitter := ← unsigned? (j.get "timestamp_jitter")
      compress := 0 < ((integer? (j.get "compress_level")).getD 0)
      rejectConfiguration := boolField j "reject_configuration", failRestart := boolField j "fail_restart"
      failDirectory := boolField j "fail_directory", failPostSync := boolField j "fail_post_sync"
      ignoreCapture := boolField j "ignore_capture" })

/-- A sync mode by number. -/
def syncModeOf (n : Int) : SyncMode :=
  if n == 1 then .network else if n == 2 then .hardware else .off

/-- Read a step. -/
def step? (j : Json) : Except String Step := do
  let device := count (j.get "device")
  match (j.get "do").str?.getD "" with
  | "push_settings" => pure .pushSettings
  | "calibrate" => pure .calibrate
  | "enable_hw_sync" => pure .enableHwSync
  | "disable_hw_sync" => pure .disableHwSync
  | "reinitialize" => pure (.restart ((j.get "endpoints").items.filterMap Json.str?))
  | "refine" => pure .refine
  | "set_sync_mode" => pure (.setSyncMode (syncModeOf ((integer? (j.get "mode")).getD 0)))
  | "capture_round" => pure .captureRound
  | "check_hw_sync" => pure .checkHwSync
  | "save_stored" =>
    pure (.saveStored ⟨Int32.ofInt ((integer? (j.get "export_mode")).getD 0)⟩ (boolField j "merge"))
  | "add_stored" => pure (.addStored device (← unsignedList? (j.get "timestamps")))
  | "reconcile" => pure (.reconcile ⟨← signed? (j.get "tolerance_ns")⟩)
  | "last_frame" => pure (.lastFrame device)
  | "start_recording" => pure .startRecording
  | "stop_recording" => pure .stopRecording
  | "run_preview" => pure .runPreview
  | "disconnect" => pure (.disconnect device)
  | other => throw ("unknown fleet step " ++ other)

/-- What a step answered: its result and its failure. -/
abbrev StepAnswer := Json × Option Fault

/-- One second, the shortest tick a scripted session can wait out. -/
def oneSecond : Duration := .seconds 1

/-- The file names of the sink, in name order. -/
def sinkFiles (r : Rig) : List String := (r.sink.map fun s => s.fs.listing.map (·.1)).getD []

/-- Why a session stops before its last step. -/
inductive Halt where
  /-- A step cannot run as asked: the session is refused with a reason. -/
  | refused (reason : String)
  /-- A step made the program fault at run time. -/
  | panicked (message : String)

/-- What a session answers when the program faulted at run time: the fault, in place of
every report. -/
def panicAnswer (message : String) : Json :=
  .object [("error", .string "panic"), ("message", .string message)]

/-- Run a step; a step that cannot run as asked refuses with a reason, and a refinement
that faults at run time halts the session. -/
def Step.run (setups : List Setup) (s : Step) : RigM (Except Halt StepAnswer) := do
  let r ← get
  match s with
  | .pushSettings => let a ← Fleet.pushSettings; return .ok (ofOutcomes? a.outcomes, a.fault)
  | .calibrate => let a ← Fleet.calibrate; return .ok (ofOutcomes? a.outcomes, a.fault)
  | .enableHwSync => let a ← Fleet.enableHwSync; return .ok (ofOutcomes? a.outcomes, a.fault)
  | .disableHwSync => let a ← Fleet.disableHwSync; return .ok (ofOutcomes? a.outcomes, a.fault)
  | .restart eps => let a ← restartSensors eps; return .ok (ofOutcomes? a.outcomes, a.fault)
  | .captureRound => let a ← Fleet.captureRound; return .ok (ofOutcomes? a.outcomes, a.fault)
  | .refine =>
    match ← Fleet.refine with
    | .returned report fault => return .ok ((report.map ofRefineReport).getD .null, fault)
    | .panicked message => return .error (.panicked message)
  | .setSyncMode m => return .ok (.null, ← Fleet.setSyncMode m)
  | .checkHwSync =>
    match ← Fleet.checkHwSync with
    | .ok eps => return .ok (.array (eps.map .string), none)
    | .error f => return .ok (.null, some f)
  | .saveStored mode merge =>
    let collect : FrameSink (List Json) := ⟨[], fun acc i d f =>
      .ok (acc ++ [.object [("index", ofNat i), ("device", .string (Utf8.decode d)), ("frame", ofFrame f)]])⟩
    let (n, frames, fault) ← Fleet.saveStored r.live mode merge collect
    return .ok (.object [("saved", ofNat n), ("frames", .array frames)], fault)
  | .addStored i ts => do
    if r.members.size ≤ i then return .error (.refused "device index out of range")
    modify fun r => { r with members := r.members.modify i fun m => { m with sensor := m.sensor.addStored ts } }
    return .ok (.null, none)
  | .reconcile tolerance =>
    let (plan, err, _) ← reconcileOn (Sync.Reconciler.create tolerance) r.live
    return .ok (.object ([("plan", ofPlan? plan)] ++ (err.map fun e => [("sync_error", ofRunError e)]).getD []), none)
  | .lastFrame i => do
    if r.members.size ≤ i then return .error (.refused "device index out of range")
    let (f, fault) ← RigM.onMember i MemberM.lastFrame
    return .ok (ofFrame? f, fault)
  | .startRecording =>
    if r.syncMode == .network && r.config.capturePollOr.nanos < oneSecond.nanos then
      return .error (.refused "a network recording needs capture_poll_interval of at least 1s")
    if r.syncMode == .hardware && setups.any (·.periodUs < 1000000) then
      return .error (.refused "a hardware recording needs frame_period_us of at least 1s")
    match ← Fleet.startRecording with
    | .ok take => return .ok (.object [("take", .string take)], none)
    | .error f => return .ok (.null, some f)
  | .stopRecording =>
    let result ← Fleet.stopRecording
    let files := .array ((sinkFiles (← get)).map .string)
    match result with
    | .ok s => return .ok (.object [("result", ofSummary s), ("files", files)], s.error)
    | .error f => return .ok (.object [("result", .null), ("files", files)], some f)
  | .runPreview =>
    if r.config.previewIntervalOr.nanos < oneSecond.nanos then
      return .error (.refused "run_preview needs preview_interval of at least 1s")
    Fleet.runPreview
    match ofPreview (← get).preview with
    | .object kvs => return .ok (.object (kvs ++ [("run_error", ofFault Fault.canceled)]), none)
    | j => return .ok (j, none)
  | .disconnect i => do
    if r.members.size ≤ i then return .error (.refused "device index out of range")
    RigM.onMember i MemberM.hangUp
    return .ok (.null, none)

/-- The report of a step: its answer, then the rig as it stands, each sensor with the
commands it heard since `before` (its count of commands when the step began). -/
def stepReport (did : String) (answer : StepAnswer) (before : List Nat) (r : Rig) : Json :=
  let registered := r.members.toList.filter (·.registered)
  .object [("do", .string did), ("result", answer.1), ("error", ofFault? answer.2),
    ("coordinator", ofCoordinator r), ("registry_len", ofNat registered.length),
    ("links", .array (registered.map fun m => ofLinkStatus m.link)),
    ("sims", .array ((r.members.toList.zip before).map fun (m, n) =>
      ofSensor m.sensor (m.sensor.commands.toList.drop n) r.recording.isSome))]

/-- Run steps in order, each reported; the first step that halts stops them all. -/
def runSteps (setups : List Setup) : List Json → RigM (Except Halt (List Json))
  | [] => return .ok []
  | j :: rest => do
    match step? j with
    | .error e => return .error (.refused e)
    | .ok s =>
      let before := (← get).members.toList.map fun m => m.sensor.commands.size
      match ← s.run setups with
      | .error e => return .error e
      | .ok answer =>
        RigM.prune
        let report := stepReport ((j.get "do").str?.getD "") answer before (← get)
        match ← runSteps setups rest with
        | .error e => return .error e
        | .ok more => return .ok (report :: more)

/-- A rig whose sensors connect in order, each greeted before the next. -/
def connectAll (rig : Rig) (sensors : List (String × Setup)) : Rig :=
  { rig with members := (sensors.map fun (ep, s) => Member.connect ep (Sensor.create s)).toArray }

/-- The files of a sink as `{name, size, content}`; compressed files have no content. -/
def ofSinkFiles (s : PlySink) : Json :=
  .array (s.fs.listing.map fun (name, bytes) =>
    .object ([("name", .string name), ("size", ofNat bytes.length)]
      ++ if s.compress then [] else [("content", .string (Hex.encode bytes))]))

/-- A whole fleet session from its request: the configuration, the sink, the sensors and
the steps. -/
def session (req : Json) : Except String Json := do
  let config ← match req.get "config" with
    | .null => pure SessionConfig.defaults
    | j => match fitDocument SessionConfig.fitConfig j {} with
      | .ok c => pure c
      | .error m => throw m.message
  let sink ← match (req.get "sink").str?.getD "none" with
    | "none" => pure none
    | "ply" => pure (some (PlySink.create {} "/takes" false))
    | "ply_compressed" => pure (some (PlySink.create {} "/takes" true))
    | other => throw ("unknown sink " ++ other)
  let sensors ← (req.get "devices").items.zipIdx.mapM fun (d, i) => setup? d i
  let rig := connectAll (Rig.create config sink (.memory []) none) sensors
  let (steps, rig) := (runSteps (sensors.map (·.2)) (req.get "steps").items).run rig
  let steps ← match steps with
    | .ok steps => pure steps
    | .error (.refused e) => throw e
    | .error (.panicked message) => return panicAnswer message
  pure (.object [("steps", .array steps),
    ("files", (rig.sink.map ofSinkFiles).getD (.array [])),
    ("calibration_store", match rig.calibrations with
      | .memory kept => .array (kept.map ofKeptCalibration)
      | _ => .array []),
    ("last_result", ofSummary? rig.lastSummary)])

end DepthRig.Fleet
