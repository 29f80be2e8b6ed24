import DepthRig.Calibration.Alignment
import DepthRig.Calibration.Icp
import DepthRig.Geometry.Affine
import DepthRig.Wire.Frame

/-!
# Refining calibrated extrinsics

Refinement registers each calibrated sensor's live cloud onto the union of the others', round
by round, folding each correction into the sensor's world transform and projecting the
rotation back onto the rotations. It needs at least two calibrated sensors, fetches every
frame first, and pushes the new transforms only when every alignment succeeded.
-/

namespace DepthRig

open Linear

/-- What the refiner knows of a sensor. -/
structure SensorView where
  endpoint : String
  serial : String
  calibrated : Bool
  world : Affine
  deriving Inhabited

/-- One sensor's part of a refinement: its transforms before and after, the RMS of its
last alignment, and the failure of pushing the new transform. -/
structure DeviceReport where
  endpoint : String
  serial : String
  before : Affine
  after : Affine
  rms : Float := 0
  fault : Option Fault := none
  deriving Inhabited

/-- The outcome of a refinement, one report per sensor. -/
structure RefineReport where
  devices : List DeviceReport
  deriving Inhabited

/-- Every push failure, prefixed with its endpoint. -/
def RefineReport.fault (r : RefineReport) : Option Fault :=
  Fault.join (r.devices.filterMap fun d => d.fault.map (Fault.wrap d.endpoint))

/-- The fault of refining fewer than two sensors. -/
def Fault.insufficientDevices (n : Nat) : Fault :=
  .ofKind .insufficientDevices ("refinement needs at least two devices: have " ++ toString n)

/-- The fault of refining a sensor that is not calibrated. -/
def Fault.notAllCalibrated (endpoint : String) : Fault :=
  .ofKind .notAllCalibrated ("not all devices are calibrated: " ++ endpoint)

/-- The preconditions, checked before any traffic. -/
def Refiner.check (sensors : List SensorView) : Option Fault :=
  if sensors.length < 2 then some (.insufficientDevices sensors.length)
  else (sensors.find? (!·.calibrated)).map fun s => .notAllCalibrated s.endpoint

/-- The rotation nearest to a 3 × 3 matrix: `U · Vᵀ` from its SVD, with the last left
vector negated when that would reflect; the matrix itself if the SVD fails. -/
def nearestRotation (m : Dense) : Dense :=
  match svd m with
  | none => m
  | some s =>
    let v := s.v
    let r := s.u.mulTransposed v
    if r.det3 < 0 then (s.u.setColSeg 0 2 ((s.u.colSeg 0 2 3).map (-·))).mulTransposed v else r

/-- The rotation nearest to a matrix given by its entries. -/
def nearestEntries (a : Fin 3 → Fin 3 → Float) : Fin 3 → Fin 3 → Float :=
  let d := nearestRotation (Dense.ofRows (List.ofFn fun i => List.ofFn (a i)))
  fun i j => d.get i j

/-- Fold a world-space correction into a world transform. -/
def compose (world : Affine) (step : Rigid) : Affine :=
  .ofParts (Transform.fold Single.toFloat Single.ofFloat nearestEntries world.rot world.t.coord
    step.rot (step.shift ·))

/-- How the rig's transforms act: stored points placed by world transforms and moved by
corrections, corrections folded into world transforms. -/
def rigidMotion : Motion Point3 Affine Rigid := ⟨Affine.apply, Rigid.apply, compose⟩

/-- The report of a refinement whose transforms were pushed with the given failures. -/
def Refiner.report (sensors : List SensorView) (solved : List (Affine × Float))
    (pushed : List (Option Fault)) : RefineReport :=
  ⟨((sensors.zip solved).zip pushed).map fun ((s, (w, rms)), f) =>
    { endpoint := s.endpoint, serial := s.serial, before := s.world, after := w, rms, fault := f }⟩

/-- A sensor as a refinement uses it. -/
structure RefineDevice (m : Type → Type) where
  view : SensorView
  /-- Fetch the sensor's latest frame: the snapshot, none when the sensor gave none, or
  why the fetch failed. -/
  lastFrame : m (Except Fault (Option Frame))
  /-- Set the sensor's world transform, then send it the calibration data: the send's
  failure. -/
  pushWorld : Affine → m (Option Fault)

/-- How a refinement aligns, how long it runs and where it records what it pushed. -/
structure Refiner (m : Type → Type) where
  /-- Align a source cloud onto a target within an iteration bound. -/
  align : List Point3 → List Point3 → Int → m (Except Fault Rigid)
  /-- Passes over every sensor. -/
  rounds : Int
  /-- The iteration bound of each alignment. -/
  iterations : Int
  /-- Record a pushed transform under the sensor's serial, when there is a store. -/
  store : Option (String → Affine → m Unit) := none

/-- How a refinement ends. -/
inductive Refined where
  /-- It returned: the report, once the transforms were computed, and the failure. -/
  | returned (report : Option RefineReport) (fault : Option Fault)
  /-- It read the vertices of a missing snapshot: a runtime fault of the program. -/
  | panicked (message : String)
  deriving Inhabited

/-- The runtime fault of reading through a missing snapshot. -/
def nilDereference : String := "runtime error: invalid memory address or nil pointer dereference"

namespace Refiner

variable {m : Type → Type} [Monad m]

/-- Alignment by iterative closest points with the default settings. -/
def icp (target source : List Point3) (iterations : Int) : m (Except Fault Rigid) :=
  pure (({} : IcpSettings).align target source iterations)

/-- The first failed fetch, prefixed with its sensor's endpoint. -/
def fetchFailure (views : List SensorView) (fetched : List (Except Fault (Option Frame))) :
    Option Fault :=
  (views.zip fetched).findSome? fun (v, r) =>
    match r with
    | .error e => some ((e.wrap v.endpoint).wrap "fetch frames")
    | .ok _ => none

/-- Every snapshot, unless one is missing. -/
def snapshots (fetched : List (Except Fault (Option Frame))) : Option (List Frame) :=
  fetched.mapM fun r => match r with
    | .ok (some f) => some f
    | _ => none

/-- Push a sensor's new transform, then record it if the push succeeded: the push's failure. -/
def pushOne (rf : Refiner m) (d : RefineDevice m) (w : Affine) : m (Option Fault) := do
  let fault ← d.pushWorld w
  if fault.isNone then
    if let some record := rf.store then record d.view.serial w
  return fault

/-- Refine the world transforms of the sensors, checking `cancelled` before every
alignment: the preconditions, every sensor's latest frame, `rounds` rounds of alignment,
then every new transform pushed. -/
def refine (rf : Refiner m) (cancelled : m (Option Fault)) (devices : List (RefineDevice m)) :
    m Refined := do
  let views := devices.map (·.view)
  if let some f := check views then return .returned none (some f)
  let fetched ← devices.mapM (·.lastFrame)
  if let some f := fetchFailure views fetched then return .returned none (some f)
  match snapshots fetched with
  | none => return .panicked nilDereference
  | some frames =>
    let start := (views.zip frames).map fun (v, f) => Fitting.start rigidMotion v.world f.vertices
    match ← alignRounds rigidMotion (fun t s => rf.align t s rf.iterations) cancelled
        (fun i => (views.getD i default).endpoint) views.length rf.rounds.toNat start with
    | .error f => return .returned none (some f)
    | .ok fs =>
      let pushed ← (devices.zip fs).mapM fun (d, f) => rf.pushOne d f.world
      let solved := fs.map fun f => (f.world, (f.last.map (·.rms)).getD 0)
      let report := Refiner.report views solved pushed
      return .returned (some report) (report.fault.map (Fault.wrap "push calibration"))

end Refiner

end DepthRig
