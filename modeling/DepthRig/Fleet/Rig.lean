import DepthRig.Fleet.Member
import DepthRig.Capture.Outcome
import DepthRig.Config.Session
import DepthRig.Export.PlySink
import DepthRig.Sync.Reconciler
import DepthRig.Store.Calibrations
import DepthRig.Sync.Plot

/-!
# The rig

The rig is the fleet of sensors in the order they connected and the coordinator that drives
them, with its configuration, state machine, sync mode, take counters, recording, preview and
optional sink and store. Fleet operations run on every selected sensor in fleet order, each
giving one outcome, and a failing sensor never stops the others.
-/

namespace DepthRig

/-- The fault of a state that does not allow an operation. -/
def Fault.invalidState (detail : String) : Fault :=
  .ofKind .invalidState ("invalid recording state: " ++ detail)

/-- The fault of a sync mode that does not allow an operation. -/
def Fault.syncModeConflict (detail : String) : Fault :=
  .ofKind .syncMode ("sync mode conflict: " ++ detail)

/-- The fault of an operation that needs point-cloud export. -/
def Fault.exportMode (detail : String) : Fault :=
  .ofKind .exportMode ("operation not available in this export mode: " ++ detail)

end DepthRig

namespace DepthRig.Fleet

open Store

/-- Where the recording state machine stands. -/
inductive Phase where
  | idle
  | recording
  | reconciling
  | saving
  deriving BEq, DecidableEq, Repr, Inhabited

/-- The name of a phase. -/
def Phase.name : Phase → String
  | .idle => "Idle"
  | .recording => "Recording"
  | .reconciling => "Reconciling"
  | .saving => "Saving"

/-- A calibration the coordinator recorded. -/
structure KeptCalibration where
  serial : String
  rotation : Rotation
  translation : Point3
  refined : Bool
  deriving Inhabited

/-- Where recorded calibrations go. -/
inductive CalibrationLog where
  /-- Calibrations are not recorded. -/
  | none
  /-- Calibrations are kept in memory, oldest first. -/
  | memory (kept : List KeptCalibration)
  /-- Calibrations go to the session store. -/
  | store
  deriving Inhabited

/-- What became of a finished recording. -/
structure Summary where
  sessionId : String := ""
  take : String
  mode : SyncMode
  /-- Network capture rounds, or synchronized frames of a hardware recording. -/
  frames : Nat := 0
  /-- Frame indexes handed to the sink. -/
  saved : Nat := 0
  /-- Why a hardware recording stayed unsynchronized. -/
  syncError : Option Sync.RunError := none
  /-- The outcomes of each stage, in the order the stages ran. -/
  outcomes : List (String × List Outcome) := []
  /-- When capturing started and stopped. -/
  started : Time.Stamp := Time.Stamp.zero
  stopped : Time.Stamp := Time.Stamp.zero
  /-- What cut the recording short. -/
  error : Option Fault := none
  deriving Inhabited

namespace Summary

/-- The synchronization outcome in a few words: the mode of a recording that was not
hardware-synchronized, else whether it synchronized and why not. -/
def syncStatus (s : Summary) : String :=
  if s.mode != .hardware then s.mode.name
  else match s.syncError with
    | some e => "unsynchronized: " ++ e.message
    | none => "synchronized"

/-- Set the outcomes of a stage, keeping the stage's place if it ran before. -/
def setStage (s : Summary) (stage : String) (os : List Outcome) : Summary :=
  if s.outcomes.any (·.1 == stage) then
    { s with outcomes := s.outcomes.map fun (k, v) => if k == stage then (k, os) else (k, v) }
  else { s with outcomes := s.outcomes ++ [(stage, os)] }

/-- The outcomes of a stage, if it ran. -/
def stage (s : Summary) (name : String) : List Outcome :=
  ((s.outcomes.find? (·.1 == name)).map (·.2)).getD []

end Summary

/-- A recording in progress: its sensors (by fleet position), its frames so far, and its
summary so far. -/
structure Recording where
  members : List Nat
  frames : Nat := 0
  summary : Summary
  /-- Whether capturing has already ended on its own. -/
  ended : Bool := false
  deriving Inhabited

/-- A sensor's part of a preview round: its frame in world coordinates. -/
structure PreviewFrame where
  endpoint : String
  serial : String
  frame : Frame
  deriving Inhabited

/-- The live preview: whether it is paused, how many rounds it published, and the last
round's merged frame and per-sensor frames. -/
structure Preview where
  paused : Bool := false
  round : Nat := 0
  /-- When the last round was published. -/
  updated : Time.Stamp := Time.Stamp.zero
  merged : Option Frame := none
  devices : List PreviewFrame := []
  deriving Inhabited

/-- The instant a rig's clock starts from: 2024-01-01T00:00:00Z. -/
def Rig.startTime : Time.Stamp := ⟨1704067200, 0, 0⟩

/-- The rig. -/
structure Rig where
  members : Array Member := #[]
  config : SessionConfig
  phase : Phase := .idle
  /-- Whether a refinement runs; no recording starts meanwhile. -/
  refining : Bool := false
  syncMode : SyncMode
  hwSync : Bool := false
  takes : List (String × Nat) := []
  recording : Option Recording := none
  lastSummary : Option Summary := none
  preview : Preview := {}
  reconciler : Sync.Reconciler
  sink : Option PlySink := none
  calibrations : CalibrationLog := .none
  store : Option SessionStore := none
  /-- The phases entered, oldest first, as subscribers to state changes see them. -/
  entered : Array Phase := #[]
  /-- The rig's clock: the time of the next event. -/
  clock : Time.Stamp := Rig.startTime
  /-- When the reconciler's last plan was built. -/
  planBuilt : Time.Stamp := Time.Stamp.zero
  /-- Paths that exist as plain files, where no directory can be made. -/
  plainFiles : List String := ["/dev/null"]
  /-- Synchronization charts written, by path. -/
  charts : List String := []
  deriving Inhabited

/-- A rig over no sensors yet, idle, with the configuration's sync mode and tolerance. -/
def Rig.create (config : SessionConfig) (sink : Option PlySink) (calibrations : CalibrationLog)
    (store : Option SessionStore) : Rig :=
  { config, syncMode := config.syncModeOr, reconciler := Sync.Reconciler.create config.syncToleranceOr
    sink, calibrations, store }

/-- Operations on the rig. -/
abbrev RigM := StateM Rig

namespace Rig

/-- Whether the configuration allows the live preview: it must be enabled, and frames must
be exported as point clouds. -/
def previewAllowed (r : Rig) : Bool := r.config.previewOn && r.config.exportModeOr == .pointcloud

/-- The positions of the sensors the coordinator can use, in fleet order. -/
def live (r : Rig) : List Nat :=
  (List.range r.members.size).filter fun i => (r.members.getD i default).live

/-- The member at a position. -/
def member (r : Rig) (i : Nat) : Member := r.members.getD i default

end Rig

namespace RigM

/-- Run a member operation on the member at position `i`. -/
def onMember {α : Type} [Inhabited α] (i : Nat) (op : MemberM α) : RigM α := fun r =>
  if h : i < r.members.size then
    let (a, m) := op.run r.members[i]
    (a, { r with members := r.members.set i m })
  else (default, r)

/-- Run an operation on each member in turn, with one outcome each; the endpoint and
serial are read before the operation. -/
def fanOut (ids : List Nat) (op : MemberM (Option Fault)) : RigM (List Outcome) :=
  ids.mapM fun i => do
    let m := (← get).member i
    let fault ← onMember i op
    return { endpoint := m.link.endpoint, serial := m.serial, fault }

/-- The usable sensors, or no devices. -/
def liveOrFail : RigM (Except Fault (List Nat)) := do
  let ids := (← get).live
  return if ids.isEmpty then .error .noDevices else .ok ids

/-- Move the state machine to a phase: all that is done under the coordinator's lock. -/
def setPhase (p : Phase) : RigM Unit := modify fun r => { r with phase := p }

/-- Announce a phase, once the lock is released: the preview pauses outside idle and resumes
in idle when allowed, and subscribers are told. -/
def announce (p : Phase) : RigM Unit := modify fun r =>
  let preview :=
    if p == .idle then (if r.previewAllowed then { r.preview with paused := false } else r.preview)
    else { r.preview with paused := true }
  { r with preview, entered := r.entered.push p }

/-- Enter a phase: move to it, then announce it. -/
def enter (p : Phase) : RigM Unit := do
  setPhase p
  announce p

/-- Drop hardware synchronization once no sensor is left to hold it: it goes off, and a
hardware sync mode becomes off. -/
def dropHardwareSync : RigM Unit := modify fun r =>
  if r.hwSync then { r with hwSync := false, syncMode := if r.syncMode == .hardware then .off else r.syncMode }
  else r

/-- The current time; the clock then moves on by a millisecond, so that later events are
later. The store's clock shows the same time. -/
def tick : RigM Time.Stamp := modifyGet fun r =>
  let t := r.clock
  (t, { r with clock := t.addNanos 1000000,
               store := r.store.map fun s => { s with db := { s.db with clock := t } } })

/-- Record a calibration where calibrations go; a failure to record is only noted. -/
def keepCalibration (serial : String) (w : Affine) (refined : Bool) : RigM Unit := do
  let _ ← tick
  modify fun r =>
    match r.calibrations with
    | .none => r
    | .memory kept => { r with calibrations := .memory (kept ++ [⟨serial, w.r, w.t, refined⟩]) }
    | .store =>
      match r.store with
      | some st =>
        match st.recordCalibration serial w.r w.t refined with
        | .ok st => { r with store := some st }
        | .error _ => r
      | none => r

/-- Drop from the registry every member whose link is down. -/
def prune : RigM Unit := modify fun r =>
  { r with members := r.members.map fun m => if m.connected then m else { m with registered := false } }

end RigM

end DepthRig.Fleet
