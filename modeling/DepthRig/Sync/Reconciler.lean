import DepthRig.Sync.Plan
import DepthRig.Wire.Device

/-!
# Reconciliation runs

A reconciliation asks every sensor for its stored-frame timestamps, builds a plan and sends
every sensor its relabelling; it sends nothing when it has no sensors, a sensor gives no
timestamps or no plan can be built, and once there is a plan it names every sensor that fails
to apply it. A reconciler remembers its last plan and its last outcome.
-/

namespace DepthRig.Sync

/-- Why a reconciliation run failed. -/
inductive RunError where
  /-- No plan: the run stopped before any sensor was sent anything. -/
  | sync (e : SyncError)
  /-- A plan, but some sensors failed to apply their relabelling. -/
  | reorder (first : SyncError) (rest : List SyncError)
  deriving BEq, Inhabited, Repr

namespace RunError

/-- The text of a run failure. -/
def message : RunError → String
  | .sync e => e.message
  | .reorder e es => "reorder: " ++ "\n".intercalate ((e :: es).map SyncError.message)

/-- The failure that names a stage and a sensor: the only one, or the first failed
relabelling. -/
def detail : RunError → SyncError
  | .sync e => e
  | .reorder e _ => e

/-- As a fault. -/
def toFault : RunError → Fault
  | .sync e => e.toFault
  | .reorder e es => ⟨message (.reorder e es), (e :: es).flatMap fun x => x.toFault.kinds⟩

end RunError

/-- A sensor as the reconciler sees it: its name, serial and configuration. -/
structure Peer where
  endpoint : String
  serial : String
  config : DeviceConfig
  deriving Inhabited, Repr

/-- A sensor's input to a plan: it is main when its software sync state says so, and its
delay is its configured sync delay. -/
def Peer.times (p : Peer) (list : TimestampList) : DeviceTimes :=
  { endpoint := p.endpoint, serial := p.serial, main := p.config.softwareSync == SyncState.main
    delay := ⟨Int64.ofNat p.config.syncDelayNs⟩, list := list }

/-- What a run produced: the plan, if one was built, the failure, and per sensor the
relabelling it was sent, if any. -/
structure RunOutcome where
  plan : Option Plan
  error : Option RunError
  sent : List (Option PostSyncList)
  deriving Inhabited, Repr

/-- A reconciler: the matching tolerance, the last plan built and the last run's failure. -/
structure Reconciler where
  tolerance : Duration
  last : Option Plan := none
  lastError : Option RunError := none
  deriving Inhabited, Repr

namespace Reconciler

/-- The default tolerance: two milliseconds. -/
def defaultTolerance : Duration := Duration.millis 2

/-- A reconciler; a tolerance of zero or below selects the default. -/
def create (tolerance : Duration) : Reconciler :=
  ⟨if tolerance.isPositive then tolerance else defaultTolerance, none, none⟩

/-- The plan from the sensors' timestamp answers: the first sensor whose answer failed
stops it. -/
def plan (r : Reconciler) (answers : List (Peer × Except Fault TimestampList)) :
    Except SyncError Plan :=
  if answers.isEmpty then .error ⟨.noMain, "", some (.plain "no devices")⟩
  else
    match answers.find? (fun a => a.2.toOption.isNone) with
    | some (p, .error f) => .error ⟨.timestamps, p.endpoint, some f⟩
    | _ =>
      buildPlan (answers.map fun (p, a) => p.times (a.toOption.getD default)) r.tolerance

/-- The failure of the relabellings, from each sensor's refusal if it refused. -/
def reorderError (refusals : List (Peer × Option Fault)) : Option RunError :=
  match refusals.filterMap (fun (p, f) => f.map fun f => (⟨.reorder, p.endpoint, some f⟩ : SyncError)) with
  | [] => none
  | e :: es => some (.reorder e es)

/-- Remember a run: its plan if it built one, and its failure in any case. -/
def record (r : Reconciler) (plan : Option Plan) (error : Option RunError) : Reconciler :=
  { r with last := plan.orElse fun _ => r.last, lastError := error }

/-- One run over sensors with their timestamp answers and their answers to the
relabelling. -/
def run (r : Reconciler) (peers : List (Peer × Except Fault TimestampList × Option Fault)) :
    RunOutcome × Reconciler :=
  match r.plan (peers.map fun (p, a, _) => (p, a)) with
  | .error e =>
    let err := RunError.sync e
    (⟨none, some err, peers.map fun _ => none⟩, r.record none (some err))
  | .ok plan =>
    let err := reorderError (peers.map fun (p, _, f) => (p, f))
    (⟨some plan, err, plan.devices.map fun d => some d.postSync⟩, r.record (some plan) err)

/-- Several runs in turn, each with what the reconciler remembers after it. -/
def runAll (r : Reconciler) : List (List (Peer × Except Fault TimestampList × Option Fault)) →
    List (RunOutcome × Reconciler)
  | [] => []
  | peers :: more =>
    let (o, r) := r.run peers
    (o, r) :: runAll r more

end Reconciler

end DepthRig.Sync
