import DepthRig.Fleet.Preview
import DepthRig.Link.Json
import DepthRig.Sync.PlanJson
import DepthRig.Geometry.Json

/-!
# The rig as JSON

The JSON forms of what the rig answers: outcomes with their joined fault, a recording's
summary, the coordinator's status, and a simulated sensor's status with the commands it heard
and, outside recordings, its stored frame numbers.
-/

namespace DepthRig.Json

open Fleet

/-- Outcomes with their summary. -/
def ofOutcomes (os : List Outcome) : Json :=
  .object [("list", .array (os.map fun o => .object [("endpoint", .string o.endpoint),
      ("serial", .string o.serial), ("error", ofFault? o.fault)])),
    ("failed", .bool (Outcomes.failed os)),
    ("failed_endpoints", .array ((Outcomes.failedEndpoints os).map .string)),
    ("err", ofFault? (Outcomes.fault os)), ("string", .string (Outcomes.text os))]

/-- Outcomes, or `null` when the operation never ran on the sensors. -/
def ofOutcomes? : Option (List Outcome) → Json
  | some os => ofOutcomes os
  | none => .null

/-- A recording's summary. -/
def ofSummary (s : Summary) : Json :=
  .object [("take", .string s.take), ("sync_mode", .string s.mode.name), ("frames", ofNat s.frames),
    ("saved", ofNat s.saved), ("sync_error", ofRunError? s.syncError),
    ("sync_status", .string s.syncStatus),
    ("outcomes", .object (s.outcomes.map fun (k, os) => (k, ofOutcomes os))),
    ("error", ofFault? s.error), ("session_id", .string s.sessionId)]

/-- A summary or its absence. -/
def ofSummary? : Option Summary → Json
  | some s => ofSummary s
  | none => .null

/-- The coordinator's status. -/
def ofCoordinator (r : Rig) : Json :=
  .object [("state", .string r.phase.name), ("sync_mode", .string r.syncMode.name),
    ("hw_sync", .bool r.hwSync), ("recording", .bool r.recording.isSome),
    ("preview_paused", .bool r.preview.paused)]

/-- A calibration record as `{marker_id, rotation, translation}`. -/
def ofCalibrationRecord (c : CalibrationRecord) : Json :=
  .object [("marker_id", ofInt c.markerId.toInt), ("rotation", ofSingles c.rotation.toList),
    ("translation", ofPoint3 c.translation)]

/-- A simulated sensor's status, given the commands it heard during a step and whether a
recording runs. -/
def ofSensor (s : Simulator.Sensor) (heard : List Wire.Command) (recording : Bool) : Json :=
  .object ([("config", ofDeviceConfig s.config),
    ("commands", .array (heard.map fun c => .string c.name)),
    ("directories", .array (s.directories.map fun d => .string (Utf8.decode d))),
    ("restarts", ofNat s.restarts),
    ("settings", (s.settings.map ofSettings).getD .null),
    ("world", (s.world.map ofCalibrationRecord).getD .null)]
    ++ if recording then [] else [("stored_frame_numbers", ofInts (s.storedNumbers.map Int32.toInt))])

/-- A calibration the coordinator kept. -/
def ofKeptCalibration (c : KeptCalibration) : Json :=
  .object [("serial", .string c.serial), ("rotation", ofSingles c.rotation.toList),
    ("translation", ofPoint3 c.translation), ("refined", .bool c.refined)]

/-- One sensor's part of a refinement. -/
def ofDeviceReport (d : DeviceReport) : Json :=
  .object [("endpoint", .string d.endpoint), ("serial", .string d.serial),
    ("before", ofAffine d.before), ("after", ofAffine d.after), ("rms", ofFloat d.rms),
    ("error", ofFault? d.fault)]

/-- A refinement report with its joined push failures. -/
def ofRefineReport (r : RefineReport) : Json :=
  .object [("devices", .array (r.devices.map ofDeviceReport)), ("error", ofFault? r.fault)]

/-- The preview's last round. -/
def ofPreview (p : Preview) : Json :=
  .object [("round", ofNat p.round), ("merged", ofFrame? p.merged),
    ("devices", .array (p.devices.map fun d =>
      .object [("endpoint", .string d.endpoint), ("serial", .string d.serial), ("frame", ofFrame d.frame)])),
    ("paused", .bool p.paused)]

end DepthRig.Json
