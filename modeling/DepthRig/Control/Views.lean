import DepthRig.Control.Station
import DepthRig.Fleet.Json

/-!
# What the control surface shows

The state view lists the coordinator's phase, sync mode and preview, every sensor with its
link, calibration and sync settings, the recording in progress and the last result. The
preview view gives the round and the vertex and body counts; sessions of the store are shown
with their stored fields.
-/

namespace DepthRig.Json

open Fleet Control

/-- A sensor in the state view. -/
def ofDeviceState (l : Link) : Json :=
  .object [("endpoint", .string l.endpoint), ("serial", .string (Utf8.decode l.config.serial)),
    ("state", .string l.state.name), ("calibrated", .bool l.flags.calibrated),
    ("hardware_sync", .string l.config.hardwareSync.name),
    ("software_sync", .string l.config.softwareSync.name),
    ("sync_offset", ofNat l.config.syncOffset.toNat), ("camera_position", ofPoint3 l.pose.t),
    ("frames_received", ofNat l.received), ("frames_skipped", ofNat l.skipped)]

/-- A sensor in the debug pages' list. -/
def ofSensorStatus (l : Link) : Json :=
  .object [("endpoint", .string l.endpoint), ("serial", .string (Utf8.decode l.config.serial)),
    ("state", .string l.state.name), ("software_sync", .string l.config.softwareSync.name),
    ("hardware_sync", .string l.config.hardwareSync.name),
    ("sync_offset", ofNat l.config.syncOffset.toNat), ("depth_mode", .string l.config.depthMode.name),
    ("calibrated", .bool l.flags.calibrated), ("camera_position", ofPoint3 l.pose.t),
    ("frames_received", ofNat l.received), ("frames_skipped", ofNat l.skipped),
    ("summary", .string l.summary)]

/-- Outcomes as `{endpoint, serial, error?}`. -/
def ofOutcomeList (os : List Outcome) : Json :=
  .array (os.map fun o => .object ([("endpoint", .string o.endpoint), ("serial", .string o.serial)]
    ++ (o.fault.map fun f => [("error", .string f.message)]).getD []))

/-- A recording's result. -/
def ofResult (s : Summary) : Json :=
  let failed := s.outcomes.filter fun (_, os) => Outcomes.failed os
  .object ((if s.sessionId.isEmpty then [] else [("session_id", .string s.sessionId)])
    ++ [("take", .string s.take), ("sync_mode", .string s.mode.name),
      ("sync_status", .string s.syncStatus), ("started", .string s.started.text),
      ("stopped", .string s.stopped.text), ("frames", ofNat s.frames), ("saved", ofNat s.saved)]
    ++ (if failed.isEmpty then []
      else [("outcomes", .object (failed.map fun (stage, os) => (stage, ofOutcomeList os)))])
    ++ (s.error.map fun f => [("error", .string f.message)]).getD [])

/-- The state view. -/
def ofStationState (s : Station) : Json :=
  let r := s.rig
  .object ([("state", .string r.phase.name), ("sync_mode", .string r.syncMode.name),
    ("hardware_sync", .bool r.hwSync), ("preview_running", .bool !r.preview.paused),
    ("devices", .array (s.links.map ofDeviceState))]
    ++ (r.recording.map fun ongoing =>
      [("recording", .object [("take", .string ongoing.summary.take), ("frames", ofNat ongoing.frames)])]).getD []
    ++ (r.lastSummary.map fun res => [("last_result", ofResult res)]).getD [])

/-- The preview view. -/
def ofPreviewView (p : Preview) : Json :=
  .object [("round", ofNat p.round), ("updated", .string p.updated.text),
    ("vertices", ofNat ((p.merged.map (·.vertices.length)).getD 0)),
    ("devices", .array (p.devices.map fun d =>
      .object [("endpoint", .string d.endpoint), ("vertices", ofNat d.frame.vertices.length),
        ("bodies", ofNat d.frame.bodies.length)]))]

/-- A stored session with its stored field names. -/
def ofStoredSession (s : Store.Session) : Json :=
  .object [("ID", .string s.id), ("TakeName", .string s.takeName), ("TakeIndex", ofInt s.takeIndex),
    ("SyncMode", .string s.syncMode), ("StartedAt", .string s.startedAt.text),
    ("StoppedAt", .string s.stoppedAt.text), ("FramesCaptured", ofInt s.framesCaptured),
    ("SyncStatus", .string s.syncStatus)]

/-- One sensor's part of a refinement as the control surface shows it. -/
def ofRefinedDevice (d : DeviceReport) : Json :=
  .object ([("endpoint", .string d.endpoint), ("serial", .string d.serial), ("rms", ofFloat d.rms),
    ("rotation", ofSingles d.after.r.toList), ("translation", ofPoint3 d.after.t)]
    ++ (d.fault.map fun f => [("error", .string f.message)]).getD [])

end DepthRig.Json
