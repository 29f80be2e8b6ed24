import DepthRig.Fleet.Rig

/-!
# Fleet commands

The coordinator's operations over the fleet that do not record: settings, calibration,
restarts, hardware sync, the sync mode, capture rounds and reconciliation. Each answers the
outcomes of the sensors it ran on and a failure joining theirs; one refused before any sensor
was asked answers only the failure.
-/

namespace DepthRig.Fleet

open RigM

/-- What a fleet operation answered: the outcomes, if it ran on the sensors, and its
failure. -/
structure FleetAnswer where
  outcomes : Option (List Outcome)
  fault : Option Fault
  deriving Inhabited

namespace FleetAnswer

/-- Refused before any sensor was asked. -/
def refused (f : Fault) : FleetAnswer := ⟨none, some f⟩

/-- Ran on the sensors; the failure joins theirs. -/
def ran (os : List Outcome) : FleetAnswer := ⟨some os, Outcomes.fault os⟩

/-- Ran on the sensors, with the joined failure behind `context`. -/
def ranWithin (context : String) (os : List Outcome) : FleetAnswer :=
  ⟨some os, (Outcomes.fault os).map (Fault.wrap context)⟩

end FleetAnswer

/-- Endpoints as a bracketed list separated by blanks. -/
def endpointList (eps : List String) : String := "[" ++ " ".intercalate eps ++ "]"

/-- Refuse unless frames are exported as point clouds. -/
def requirePointcloud : RigM (Option Fault) := do
  let m := (← get).config.exportModeOr
  return if m == .pointcloud then none else some (.exportMode m.name)

/-- Push the session settings to every usable sensor. -/
def pushSettings : RigM FleetAnswer := do
  match ← liveOrFail with
  | .error f => return .refused f
  | .ok ids =>
    let settings := (← get).config.settings
    return .ran (← fanOut ids (MemberM.exchange (LinkM.pushSettings settings)))

/-- Calibrate every usable sensor and record the transforms of those that succeeded. -/
def calibrate : RigM FleetAnswer := do
  if let some f ← requirePointcloud then return .refused f
  match ← liveOrFail with
  | .error f => return .refused f
  | .ok ids =>
    let os ← fanOut ids MemberM.calibrate
    for i in Outcomes.succeeded ids os do
      let m := (← get).member i
      keepCalibration m.serial m.link.world false
    return .ran os

/-- The usable sensors with the given endpoints, or all of them when none are given. -/
def selectLive (endpoints : List String) : RigM (Except Fault (List Nat)) := do
  match ← liveOrFail with
  | .error f => return .error f
  | .ok ids =>
    if endpoints.isEmpty then return .ok ids
    let r ← get
    match ids.filter fun i => endpoints.contains (r.member i).link.endpoint with
    | [] => return .error (.ofKind .noDevices ("no devices connected: none of " ++ endpointList endpoints))
    | chosen => return .ok chosen

/-- Restart the sensors with the given endpoints (all when none are given). -/
def restartSensors (endpoints : List String) : RigM FleetAnswer := do
  match ← selectLive endpoints with
  | .error f => return .refused f
  | .ok ids => return .ran (← fanOut ids MemberM.restart)

/-- The usable sensors in hardware-sync order: the main sensor first. -/
def hardwareSyncOrder : RigM (Except Fault (List Nat)) := do
  match ← liveOrFail with
  | .error f => return .error f
  | .ok ids =>
    let r ← get
    return orderForHardwareSync (fun i => (r.member i).link) ids

/-- A configuration with a sync role and offset. -/
def withSync (cfg : DeviceConfig) (role : SyncState) (offset : Nat) : DeviceConfig :=
  { cfg with softwareSync := role, syncOffset := UInt8.ofNat offset }

/-- The check that opens setting hardware synchronization up: the state machine is Idle, and
the sync-jack layout gives the usable sensors in sync order. -/
def enableCheck : RigM (Except FleetAnswer (List Nat)) := do
  let r ← get
  if r.phase != .idle then return .error (.refused (.invalidState r.phase.name))
  match ← hardwareSyncOrder with
  | .error f => return .error (.refused f)
  | .ok ordered => return .ok ordered

/-- The configuration for place `k` of the sync order, over a sensor's own: the main sensor
at place 0 with offset 0, a subordinate at place `k` with offset `k`. -/
def configForPlace (cfg : DeviceConfig) (k : Nat) : DeviceConfig :=
  if k == 0 then withSync cfg .main 0 else withSync cfg .subordinate k

/-- Push a member the configuration for its place `k` of the sync order. -/
def pushForPlace (k : Nat) : MemberM (Option Fault) := do
  MemberM.pushConfiguration (configForPlace (← get).link.config k)

/-- Configure every sensor for its role: the main sensor offset 0, the subordinates 1, 2, …
in sync order. -/
def configureForSync (ordered : List Nat) : RigM (List Outcome) :=
  ordered.zipIdx.flatMapM fun (i, k) => fanOut [i] (pushForPlace k)

/-- Restart the subordinates, then the main sensor; the main sensor's outcome comes first. -/
def restartMainLast (ordered : List Nat) : RigM (List Outcome) := do
  let subs ← fanOut ordered.tail MemberM.restart
  let main ← fanOut (ordered.take 1) MemberM.restart
  return main ++ subs

/-- Record that hardware synchronization is on, and select it. -/
def markHwSync : RigM Unit :=
  modify fun r => { r with hwSync := true, syncMode := .hardware }

/-- Set hardware synchronization up: configure every sensor for its role, then restart
the subordinates and last the main sensor. -/
def enableHwSync : RigM FleetAnswer := do
  match ← enableCheck with
  | .error refusal => return refusal
  | .ok ordered =>
    let configured ← configureForSync ordered
    if Outcomes.failed configured then
      return .ranWithin "hardware sync configuration" configured
    let restarted ← restartMainLast ordered
    if Outcomes.failed restarted then
      return .ranWithin "hardware sync restart" restarted
    markHwSync
    return ⟨some restarted, none⟩

/-- The check that opens taking hardware synchronization down: the state machine is Idle. -/
def disableCheck : RigM (Option FleetAnswer) := do
  let r ← get
  return if r.phase != .idle then some (.refused (.invalidState r.phase.name)) else none

/-- Record that hardware synchronization is off; a hardware sync mode becomes off. -/
def clearHwSync : RigM Unit :=
  modify fun r =>
    { r with hwSync := false, syncMode := if r.syncMode == .hardware then .off else r.syncMode }

/-- Return every usable sensor to standalone operation and restart it. -/
def standaloneAll : RigM FleetAnswer := do
  match ← liveOrFail with
  | .error f => return .refused f
  | .ok ids =>
    let os ← fanOut ids do
      let cfg := (← get).link.config
      match ← MemberM.pushConfiguration (withSync cfg .standalone 0) with
      | some e => pure (some e)
      | none => MemberM.restart
    return .ranWithin "hardware sync disable" os

/-- Return every sensor to standalone operation and restart it; hardware synchronization
is off from the start, also when there are no sensors. -/
def disableHwSync : RigM FleetAnswer := do
  if let some refusal ← disableCheck then return refusal
  clearHwSync
  standaloneAll

/-- Choose the sync mode of the next recording: hardware only once hardware
synchronization is set up, and nothing else while it is. -/
def setSyncMode (m : SyncMode) : RigM (Option Fault) := do
  let r ← get
  if r.phase != .idle then return some (.invalidState ("cannot change sync mode while " ++ r.phase.name))
  if m == .hardware then
    if !r.hwSync then return some (.syncModeConflict "enable hardware sync first")
  else if r.hwSync then
    return some (.syncModeConflict ("hardware sync is enabled, disable it before selecting " ++ m.name))
  set { r with syncMode := m }
  return none

/-- The endpoints in hardware-sync order. -/
def checkHwSync : RigM (Except Fault (List String)) := do
  let r ← get
  return (← hardwareSyncOrder).map fun ids => ids.map fun i => (r.member i).link.endpoint

/-- One capture round on the given sensors: each is asked to capture, and the round waits
for every confirmation. -/
def captureOn (ids : List Nat) : RigM (List Outcome) := fanOut ids MemberM.capture

/-- One capture round on every usable sensor; its outcomes are its whole answer. -/
def captureRound : RigM FleetAnswer := do
  return ⟨some (← captureOn (← get).live), none⟩

/-- A sensor's part of a reconciliation, from its link. -/
def peerOf (m : Member) : Sync.Peer := ⟨m.link.endpoint, m.serial, m.link.config⟩

/-- Reconcile the stored frames of the given sensors: fetch every timestamp list, build
the plan, and send every sensor its relabelling. The plan, if one was built, the failure,
and the reconciler remembering the run. -/
def reconcileOn (rec : Sync.Reconciler) (ids : List Nat) :
    RigM (Option Sync.Plan × Option Sync.RunError × Sync.Reconciler) := do
  let answers ← ids.mapM fun i => do
    let (list, fault) ← onMember i MemberM.timestampList
    let m := (← get).member i
    return (peerOf m, match fault with | some f => .error f | none => .ok list)
  match rec.plan answers with
  | .error e =>
    let err := Sync.RunError.sync e
    return (none, some err, rec.record none (some err))
  | .ok plan =>
    let refusals ← (ids.zip plan.devices).mapM fun (i, d) => do
      let f ← onMember i (MemberM.postSyncList d.postSync)
      return (peerOf ((← get).member i), f)
    let err := Sync.Reconciler.reorderError refusals
    return (some plan, err, rec.record (some plan) err)

end DepthRig.Fleet
