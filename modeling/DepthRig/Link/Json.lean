import DepthRig.Link.Script
import DepthRig.Wire.BlockJson
import DepthRig.Json.Fault

/-!
# Links as JSON

A link's status is answered with its endpoint, state, flags, configuration, world
transform, camera pose, marker, frame counts, summary line, serial, liveness and the fault
that took it down. Events are `state-changed`, `configuration-updated:` with the serial in
hex, `disconnected` and `closed`. Script steps are read from objects naming what to `do`.
-/

namespace DepthRig.Json

/-- A transform as `{r, t}`. -/
def ofAffine (a : Affine) : Json := ofRigid a.r a.t

/-- A transform from `{r, t}`; `null` is the identity. -/
def affine? (j : Json) : Option Affine :=
  if j.isNull then some Affine.identity
  else do
    let r ← vectorOf 9 (j.get "r")
    let t ← point3? (j.get "t")
    pure ⟨r, t⟩

/-- The readiness flags. -/
def ofLinkFlags (f : LinkFlags) : Json :=
  .object [("frame_captured", .bool f.frameCaptured),
    ("latest_frame_received", .bool f.latestFrameReceived),
    ("stored_frame_received", .bool f.storedFrameReceived),
    ("no_more_stored_frames", .bool f.noMoreStoredFrames),
    ("configuration_received", .bool f.configurationReceived),
    ("calibrated", .bool f.calibrated),
    ("reinitialized", .bool f.reinitialized),
    ("reinitialization_error", .bool f.reinitializationError),
    ("pre_record_confirmed", .bool f.preRecordConfirmed),
    ("post_record_confirmed", .bool f.postRecordConfirmed),
    ("directory_confirmed", .bool f.directoryConfirmed),
    ("timestamps_received", .bool f.timestampsReceived),
    ("post_sync_confirmed", .bool f.postSyncConfirmed)]

/-- A link's status. -/
def ofLinkStatus (l : Link) : Json :=
  .object [("endpoint", .string l.endpoint), ("state", .string l.state.name),
    ("flags", ofLinkFlags l.flags), ("configuration", ofDeviceConfig l.config),
    ("world", ofAffine l.world), ("camera_pose", ofAffine l.pose),
    ("marker_id", .ofInt l.markerId.toInt), ("frames_received", .ofNat l.received),
    ("frames_skipped", .ofNat l.skipped), ("summary", .string l.summary),
    ("serial_hex", .string (Hex.encode l.config.serial)), ("connected", .bool l.connected),
    ("calibrated", .bool l.calibrated), ("link_error", ofFault? l.error)]

/-- An event's name. -/
def ofLinkEvent : LinkEvent → Json
  | .stateChanged => .string "state-changed"
  | .configurationUpdated c => .string ("configuration-updated:" ++ Hex.encode c.serial)
  | .disconnected => .string "disconnected"
  | .closed => .string "closed"

/-- A timestamp list: the timestamps as decimal strings and the frame numbers. -/
def ofTimestampList (l : TimestampList) : Json :=
  .object [("timestamps", ofUnsignedList l.timestamps),
    ("frame_numbers", ofInts (l.frameNumbers.map Int32.toInt))]

/-- What a step returned. -/
def ofLinkAnswer : LinkAnswer → Json
  | .nothing => .null
  | .frame f => ofFrame? f
  | .stored f more => .object [("frame", ofFrame? f), ("more", .bool more)]
  | .configuration c => ofDeviceConfig c
  | .timestamps l => ofTimestampList l

/-- A step's report, under the name of what it did. -/
def ofStepReport (did : String) (r : StepReport) : Json :=
  .object [("do", .string did), ("result", ofLinkAnswer r.answer), ("error", ofFault? r.fault),
    ("sent", .string (Hex.encode r.sent)), ("status", ofLinkStatus r.after.link),
    ("frame", ofFrame? r.after.link.frame), ("events", .array (r.events.map ofLinkEvent)),
    ("run_finished", .bool r.after.readerEnd.isSome)]

/-- The fault the reader stopped with, if it stopped with one. -/
def ofReaderEnd (c : Connection) : Json :=
  match c.readerEnd with
  | some (some f) => ofFault f
  | _ => .null

/-- Bytes from a hex field; missing is none. -/
def hexField? (j : Json) (name : String) : Option (List UInt8) :=
  match (j.get name).str? with
  | some h => Hex.decode? h
  | none => some []

/-- A value that must be present, or the complaint. -/
def required {α : Type} (o : Option α) (what : String) : Except String α :=
  match o with
  | some a => .ok a
  | none => .error what

/-- A script step from its object: what to `do`, and its arguments. -/
def scriptStep? (j : Json) : Except String ScriptStep := do
  let reply ← required (hexField? j "reply") "bad hex"
  let did ← required (j.get "do").str? "missing do"
  match did with
  | "recv" => return .receive (← required (hexField? j "bytes") "bad hex")
  | "eof" => return .finish (← required (hexField? j "bytes") "bad hex")
  | "close" => return .close
  | "break_writes" => return .breakWrites
  | "set_world" => return .setWorld (← required (affine? (j.get "world")) "bad world")
  | "request_capture" => return .request .capture reply
  | "request_configuration" => return .request .configuration reply
  | "push_settings" => return .request (.settings (← required (settings? (j.get "settings")) "bad settings")) reply
  | "request_last_frame" => return .request .lastFrame reply
  | "request_stored_frame" => return .request .storedFrame reply
  | "clear_stored_frames" => return .request .clearStoredFrames reply
  | "calibrate" => return .request .calibrate reply
  | "send_calibration_data" => return .request .calibrationData reply
  | "reinitialize" => return .request .restart reply
  | "start_capture" => return .request .startCapture reply
  | "stop_capture" => return .request .stopCapture reply
  | "wait_captured" => return .wait .captured reply
  | "wait_configuration" => return .wait .configuration reply
  | "wait_last_frame" => return .wait .lastFrame reply
  | "wait_stored_frame" => return .wait .storedFrame reply
  | "wait_calibrated" => return .wait .calibrated reply
  | "wait_reinitialized" => return .wait .reinitialized reply
  | "push_configuration" =>
    return .call (.pushConfiguration (← required (deviceConfig? (j.get "config")) "bad config")) reply
  | "last_frame" => return .call .lastFrame reply
  | "next_stored_frame" => return .call .nextStoredFrame reply
  | "pre_record" => return .call .preRecord reply
  | "post_record" => return .call .postRecord reply
  | "create_directory" => return .call (.createDirectory (← required (bytesField? j "path") "bad hex")) reply
  | "request_timestamp_list" => return .call .timestampList reply
  | "send_post_sync_list" =>
    let ids (name : String) := (j.get name).items.filterMap fun x => (integer? x).map Int32.ofInt
    return .call (.postSyncList ⟨ids "frame_ids", ids "synced_frame_ids"⟩) reply
  | other => .error ("unknown step " ++ other)

end DepthRig.Json
