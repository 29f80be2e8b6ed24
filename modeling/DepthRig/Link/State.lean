import DepthRig.Geometry.Affine
import DepthRig.Wire.Device
import DepthRig.Wire.Lists
import DepthRig.Wire.Frame
import DepthRig.Fault

/-!
# Sensor links

A link is the server's side of one sensor connection: it waits for the sensor's
configuration, is ready once one arrives, is busy from a capture, calibration or restart until
the sensor confirms, and is disconnected for good once the sensor is lost. Each request clears
one readiness flag and its answer sets it; every change is announced as an event.
-/

namespace DepthRig

/-- The protocol state of a link. -/
inductive LinkState where
  | awaitingConfiguration
  | ready
  | capturing
  | calibrating
  | reinitializing
  | disconnected
  deriving BEq, DecidableEq, Repr, Inhabited

/-- The name of a state. -/
def LinkState.name : LinkState → String
  | .awaitingConfiguration => "AwaitingConfiguration"
  | .ready => "Ready"
  | .capturing => "Capturing"
  | .calibrating => "Calibrating"
  | .reinitializing => "Reinitializing"
  | .disconnected => "Disconnected"

/-- Whether a state waits for the sensor to finish a capture, a calibration or a restart. -/
def LinkState.busy (s : LinkState) : Bool :=
  s == .capturing || s == .calibrating || s == .reinitializing

/-- The readiness flags: each is cleared by its request and set by its answer. -/
structure LinkFlags where
  frameCaptured : Bool := false
  latestFrameReceived : Bool := false
  storedFrameReceived : Bool := false
  noMoreStoredFrames : Bool := false
  configurationReceived : Bool := false
  calibrated : Bool := false
  reinitialized : Bool := false
  reinitializationError : Bool := false
  preRecordConfirmed : Bool := false
  postRecordConfirmed : Bool := false
  directoryConfirmed : Bool := false
  timestampsReceived : Bool := false
  postSyncConfirmed : Bool := false
  deriving BEq, Repr, Inhabited

/-- What a link announces. -/
inductive LinkEvent where
  | stateChanged
  | configurationUpdated (config : DeviceConfig)
  | disconnected
  /-- The link will announce nothing more. -/
  | closed
  deriving BEq, Repr, Inhabited

/-- A link's knowledge of its sensor. -/
structure Link where
  endpoint : String
  state : LinkState := .awaitingConfiguration
  flags : LinkFlags := { noMoreStoredFrames := true }
  config : DeviceConfig := DeviceConfig.default
  world : Affine := Affine.identity
  pose : Affine := Affine.identity
  markerId : Int32 := 0
  frame : Option Frame := none
  stored : Option Frame := none
  timestamps : TimestampList := ⟨[], []⟩
  /-- Configurations received so far. -/
  configurations : Nat := 0
  /-- Configurations the sensor rejected so far. -/
  rejections : Nat := 0
  /-- Whether the last directory or relabelling answer reported success. -/
  replyOk : Bool := false
  received : Nat := 0
  skipped : Nat := 0
  connected : Bool := true
  /-- Why the link went down. -/
  error : Option Fault := none
  deriving Inhabited, Repr

namespace Link

/-- A new link to the sensor at `endpoint`: awaiting its configuration. -/
def create (endpoint : String) : Link := { endpoint }

/-- A ready link becomes busy with `s`; any other state stays. -/
def enter (l : Link) (s : LinkState) : Link :=
  if l.state == .ready then { l with state := s } else l

/-- A link busy with `s` becomes ready again; any other state stays. -/
def settle (l : Link) (s : LinkState) : Link :=
  if l.state == s then { l with state := .ready } else l

/-- Whether the sensor is calibrated. -/
def calibrated (l : Link) : Bool := l.flags.calibrated

/-- The one-line summary shown in sensor lists: endpoint, state, calibration and role. -/
def summary (l : Link) : String :=
  let role :=
    if l.config.softwareSync == SyncState.main then " [MAIN]"
    else if l.config.softwareSync == SyncState.subordinate then " [SUBORDINATE]"
    else ""
  l.endpoint ++ " " ++ l.state.name ++ " Calibrated = " ++ toString l.flags.calibrated ++ role

end Link

end DepthRig
