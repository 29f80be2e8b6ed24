import DepthRig.Fleet.Recording
import DepthRig.Calibration.Refine

/-!
# Live preview and refinement

The live preview polls every usable sensor's latest frame while no recording runs and
publishes the frames that arrived, moved into world coordinates, with their merge. Refinement
aligns the calibrated sensors' live clouds onto each other (`Refiner`), then pushes and records
the new transforms.
-/

namespace DepthRig.Fleet

open RigM

/-- Run the preview until it has published one more round, or find it paused: a preview
the configuration does not allow is paused first. -/
def runPreview : RigM Unit := do
  if !(← get).previewAllowed then
    modify fun r => { r with preview := { r.preview with paused := true } }
  if (← get).preview.paused then return
  let ids := (← get).live
  let polled ← ids.mapM fun i => do
    let (f, fault) ← onMember i MemberM.lastFrame
    let m := (← get).member i
    return match fault, f with
      | none, some f => some (⟨m.link.endpoint, m.serial, toWorld m.link.world f⟩ : PreviewFrame)
      | _, _ => none
  let kept := polled.filterMap id
  let updated ← tick
  modify fun r => { r with preview := { r.preview with
    round := r.preview.round + 1, merged := some (Frame.merge (kept.map fun d => some d.frame))
    devices := kept, updated } }

/-- Take the refinement flag under the coordinator's lock: refused unless the state machine
is idle and no other refinement runs. -/
def beginRefine : RigM (Option Fault) := do
  let r ← get
  if r.phase != .idle then return some (.invalidState ("refine while " ++ r.phase.name))
  if r.refining then return some (.invalidState "refinement already running")
  set { r with refining := true }
  return none

/-- Drop the refinement flag. -/
def endRefine : RigM Unit := modify fun r => { r with refining := false }

/-- The sensor at a position as a refinement uses it: a frame fetch answers the fetch's
failure or the snapshot, and a push sets the transform and sends the calibration data in
one exchange. -/
def refineDevice (i : Nat) (m : Member) : RefineDevice RigM where
  view := { endpoint := m.link.endpoint, serial := m.serial, calibrated := m.link.calibrated,
            world := m.link.world }
  lastFrame := do
    let (f, fault) ← onMember i MemberM.lastFrame
    return match fault with
      | some e => .error e
      | none => .ok f
  pushWorld w := onMember i (MemberM.pushWorld w)

/-- Refine the world transforms of the given sensors with the configured round and
iteration counts, never cancelled, keeping every transform pushed. -/
def refineOn (ids : List Nat) : RigM Refined := do
  let r ← get
  let refiner : Refiner RigM :=
    { align := Refiner.icp, rounds := r.config.refineRounds, iterations := r.config.icpRounds,
      store := some fun serial w => keepCalibration serial w true }
  refiner.refine (pure none) (ids.map fun i => refineDevice i (r.member i))

/-- Refine the world transforms of every usable sensor, holding the refinement flag
meanwhile. -/
def refine : RigM Refined := do
  if let some f ← requirePointcloud then return .returned none (some f)
  let ids ← match ← liveOrFail with
    | .error f => return .returned none (some f)
    | .ok ids => pure ids
  if let some f ← beginRefine then return .returned none (some f)
  let result ← refineOn ids
  endRefine
  return result

end DepthRig.Fleet
