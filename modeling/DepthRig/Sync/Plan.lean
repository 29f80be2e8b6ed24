import DepthRig.Sync.Match
import DepthRig.Wire.Lists
import DepthRig.Duration
import DepthRig.Fault
import DepthRig.Scalar

/-!
# Synchronization plans

A plan lines up the frames of a hardware-synchronized recording: the main sensor's stamps,
less its sync delay and sorted, are the reference instants, and every sensor's corrected
stamps are matched to them within a tolerance, per instant a position or a hole. A plan that
cannot be built fails with a `SyncError` naming the stage and the sensor.
-/

namespace DepthRig.Sync

/-- The stage at which synchronization failed. -/
inductive Stage where
  | noMain
  | timestamps
  | noMatch
  | reorder
  deriving BEq, DecidableEq, Repr, Inhabited

/-- The text of a stage. -/
def Stage.text : Stage → String
  | .noMain => "no main device"
  | .timestamps => "timestamps unavailable"
  | .noMatch => "no matching timestamps"
  | .reorder => "reorder failed"

/-- A synchronization failure: its stage, the sensor it concerns (empty for none) and what
caused it. -/
structure SyncError where
  stage : Stage
  device : String := ""
  cause : Option Fault := none
  deriving BEq, Inhabited, Repr

namespace SyncError

/-- The text: the stage, the sensor, then the cause. -/
def message (e : SyncError) : String :=
  e.stage.text ++ (if e.device.isEmpty then "" else " on device " ++ e.device)
    ++ (match e.cause with | some c => ": " ++ c.message | none => "")

/-- As a fault: synchronization unavailable, and whatever the cause is. -/
def toFault (e : SyncError) : Fault :=
  ⟨e.message, .syncUnavailable :: (e.cause.map Fault.kinds).getD []⟩

end SyncError

/-- One sensor's input to a plan. -/
structure DeviceTimes where
  endpoint : String
  serial : String
  main : Bool
  delay : Duration
  list : TimestampList
  deriving Inhabited, Repr

/-- A sensor's stamps less its delay in whole microseconds (stopping at zero), with their
frame numbers, sorted by stamp; equal stamps keep their order. -/
def DeviceTimes.corrected (d : DeviceTimes) : List (UInt64 × Int32) :=
  let delay := d.delay.wholeMicros.toUInt64
  let frames := d.list.timestamps.zipIdx.map fun (ts, i) =>
    (if delay ≤ ts then ts - delay else 0, d.list.frameNumber i)
  frames.mergeSort fun a b => a.1 ≤ b.1

/-- One sensor's part of a plan. -/
structure DevicePlan where
  endpoint : String
  serial : String
  main : Bool
  /-- Per reference instant, the position of the matched frame among the corrected stamps. -/
  mapping : List (Option Nat)
  /-- The corrected, sorted stamps. -/
  timestamps : List UInt64
  /-- The frame numbers, in the order of `timestamps`. -/
  frameNumbers : List Int32
  deriving Inhabited, Repr

namespace DevicePlan

/-- The number of reference instants with a matched frame. -/
def matched (p : DevicePlan) : Nat := p.mapping.countP Option.isSome

/-- Each matched instant with the position of its frame. -/
def pairs (p : DevicePlan) : List (Nat × Nat) :=
  p.mapping.zipIdx.filterMap fun (m, i) => m.map fun src => (i, src)

/-- The relabelling a sensor is sent: the frame matched to instant `i` becomes synced
frame `i`; unmatched frames are dropped. -/
def postSync (p : DevicePlan) : PostSyncList :=
  ⟨p.pairs.map (fun (_, src) => p.frameNumbers.getD src 0),
    p.pairs.map (fun (i, _) => Int32.ofNat i)⟩

/-- Per matched instant, the matched stamp less the reference stamp, each taken as a
double first. -/
def residuals (p : DevicePlan) (reference : List UInt64) : List (Nat × Double) :=
  p.pairs.map fun (i, src) =>
    (i, Double.ofNat (p.timestamps.getD src 0).toNat - Double.ofNat (reference.getD i 0).toNat)

end DevicePlan

/-- A plan: the tolerance, the reference instants and every sensor's part, in input order. -/
structure Plan where
  tolerance : Duration
  reference : List UInt64
  devices : List DevicePlan
  deriving Inhabited, Repr

/-- The number of reference instants at which some sensor has a hole. -/
def Plan.holes (p : Plan) : Nat :=
  (List.range p.reference.length).countP fun i =>
    p.devices.any fun d => (d.mapping.getD i none).isNone

/-- The main sensors, by position. -/
def mainPositions (devices : List DeviceTimes) : List Nat :=
  devices.zipIdx.filterMap fun (d, i) => if d.main then some i else none

/-- A sensor's part, given the reference instants and the tolerance in microseconds. -/
def planDevice (reference : List UInt64) (tol : UInt64) (isMain : Bool) (d : DeviceTimes) :
    DevicePlan :=
  let frames := d.corrected
  { endpoint := d.endpoint, serial := d.serial, main := d.main
    mapping :=
      if isMain then (List.range frames.length).map some
      else matchTimes reference (frames.map (·.1)) tol
    timestamps := frames.map (·.1)
    frameNumbers := frames.map (·.2) }

/-- Build the plan of a recording. -/
def buildPlan (devices : List DeviceTimes) (tolerance : Duration) : Except SyncError Plan :=
  match mainPositions devices with
  | [] => .error ⟨.noMain, "", none⟩
  | [m] =>
    let main := devices.getD m default
    let reference := main.corrected.map (·.1)
    if reference.isEmpty then
      .error ⟨.noMatch, main.endpoint, some (.plain "main device stored no frames")⟩
    else
      let tol := tolerance.wholeMicros.toUInt64
      let parts := devices.zipIdx.map fun (d, i) => planDevice reference tol (i == m) d
      match parts.find? (·.matched == 0) with
      | some p => .error ⟨.noMatch, p.endpoint, none⟩
      | none => .ok ⟨tolerance, reference, parts⟩
  | first :: second :: _ =>
    let a := (devices.getD first default).endpoint
    let b := (devices.getD second default).endpoint
    .error ⟨.noMain, "", some (.plain s!"both {a} and {b} are main")⟩

end DepthRig.Sync
