import DepthRig.Json.Fit
import DepthRig.Wire.Settings
import DepthRig.Wire.Calibration
import DepthRig.Duration
import DepthRig.Text.Blank
import DepthRig.Text.Path

/-!
# Session configuration

The session configuration sets up a capture session: volume, markers, compression, refinement,
exposure, export, synchronization, link timing, take name and diagnostics, every field
optional with its default. A configuration file must be named `*.json` and hold at most one
mebibyte; it is read as JSON and then checked.
-/

namespace DepthRig

/-- How a recording keeps the sensors in step. -/
inductive SyncMode where
  | off
  | network
  | hardware
  deriving BEq, DecidableEq, Repr, Inhabited

namespace SyncMode

/-- The mode's number. -/
def code : SyncMode → Nat
  | .off => 0
  | .network => 1
  | .hardware => 2

/-- The mode's name. -/
def name : SyncMode → String
  | .off => "off"
  | .network => "network"
  | .hardware => "hardware"

/-- Read a mode: `off` (or nothing), `network` or `hardware`. -/
def parse (s : String) : Except String SyncMode :=
  match Blank.keyword s with
  | "" | "off" => .ok .off
  | "network" => .ok .network
  | "hardware" => .ok .hardware
  | _ => .error ("unknown sync mode " ++ Quote.text s)

/-- Read a sync mode from bytes that may not be UTF-8: such bytes name no mode, and the
error quotes the bytes as they are. -/
def parseBytes (bs : List UInt8) : Except String SyncMode :=
  match parse (Utf8.decode bs) with
  | .ok m => .ok m
  | .error _ => .error ("unknown sync mode " ++ Quote.bytes bs)

end SyncMode

/-- The camera extrinsics written beside an export, as its 32-bit code. -/
def extrinsicsCode (s : String) : Except String Int32 :=
  match Blank.keyword s with
  | "none" => .ok 0
  | "open3d" => .ok 1
  | "openmvs" => .ok 2
  | _ => .error ("unknown extrinsics_format " ++ Quote.text s)

/-- What a recording exports. -/
def exportModeOf (s : String) : Except String ExportMode :=
  match Blank.keyword s with
  | "pointcloud" => .ok .pointcloud
  | "raw_frames" | "rawframes" => .ok .rawFrames
  | _ => .error ("unknown export_mode " ++ Quote.text s)

/-- A calibration marker's seed pose. -/
structure MarkerSeed where
  id : Int32 := 0
  rotation : Rotation := Vector.replicate 9 Single.zero
  translation : Point3 := Point3.origin
  deriving BEq, Inhabited, Repr

/-- The session configuration; `none` is a field left out. -/
structure SessionConfig where
  minBounds : Option Point3 := none
  maxBounds : Option Point3 := none
  markers : Option (List MarkerSeed) := none
  compressionLevel : Option Int := none
  refineIterations : Option Int := none
  icpIterations : Option Int := none
  mergeOnSave : Option Bool := none
  autoExposure : Option Bool := none
  exposureStep : Option Int := none
  autoWhiteBalance : Option Bool := none
  kelvin : Option Int := none
  exportMode : Option String := none
  extrinsicsFormat : Option String := none
  syncMode : Option String := none
  previewEnabled : Option Bool := none
  syncTolerance : Option String := none
  capturePollInterval : Option String := none
  previewInterval : Option String := none
  replyTimeout : Option String := none
  restartTimeout : Option String := none
  takeName : Option String := none
  diagnosticsDir : Option String := none
  deriving Inhabited, Repr

namespace SessionConfig

/-- The six identity markers with ids 0 to 5. -/
def defaultMarkers : List MarkerSeed :=
  (List.range 6).map fun i => { id := Int32.ofNat i, rotation := Rotation.identity }

/-- The configuration with every field set to its default. -/
def defaults : SessionConfig :=
  { minBounds := some ⟨Single.ofInt (-3), Single.ofInt (-3), Single.ofInt (-3)⟩
    maxBounds := some ⟨Single.ofInt 3, Single.ofInt 3, Single.ofInt 3⟩
    markers := some defaultMarkers, compressionLevel := some 2, refineIterations := some 2
    icpIterations := some 10, mergeOnSave := some true, autoExposure := some true
    exposureStep := some (-5), autoWhiteBalance := some false, kelvin := some 8
    exportMode := some "pointcloud", extrinsicsFormat := some "open3d", syncMode := some "off"
    previewEnabled := some true, syncTolerance := some "2ms", capturePollInterval := some "1ms"
    previewInterval := some "1ms", replyTimeout := some "10s", restartTimeout := some "30s"
    takeName := some "take", diagnosticsDir := some "" }

/-- The lower corner of the capture volume. -/
def minBoundsOr (c : SessionConfig) : Point3 :=
  c.minBounds.getD ⟨Single.ofInt (-3), Single.ofInt (-3), Single.ofInt (-3)⟩

/-- The upper corner of the capture volume. -/
def maxBoundsOr (c : SessionConfig) : Point3 :=
  c.maxBounds.getD ⟨Single.ofInt 3, Single.ofInt 3, Single.ofInt 3⟩

/-- The marker seeds. -/
def markerSeeds (c : SessionConfig) : List MarkerSeed := c.markers.getD defaultMarkers

/-- The compression level. -/
def compression (c : SessionConfig) : Int := c.compressionLevel.getD 2

/-- Outer refinement rounds. -/
def refineRounds (c : SessionConfig) : Int := c.refineIterations.getD 2

/-- Alignment iterations per sensor and round. -/
def icpRounds (c : SessionConfig) : Int := c.icpIterations.getD 10

/-- Whether saving merges the sensors' frames. -/
def mergesOnSave (c : SessionConfig) : Bool := c.mergeOnSave.getD true

/-- Whether exposure is automatic. -/
def autoExposureOn (c : SessionConfig) : Bool := c.autoExposure.getD true

/-- The manual exposure step. -/
def exposure (c : SessionConfig) : Int := c.exposureStep.getD (-5)

/-- Whether white balance is automatic. -/
def autoWhiteBalanceOn (c : SessionConfig) : Bool := c.autoWhiteBalance.getD false

/-- The manual white balance. -/
def kelvinOr (c : SessionConfig) : Int := c.kelvin.getD 8

/-- The export mode; an unknown name reads as point clouds. -/
def exportModeOr (c : SessionConfig) : ExportMode :=
  match c.exportMode with
  | some s => (exportModeOf s).toOption.getD .pointcloud
  | none => .pointcloud

/-- The extrinsics format's code; an unknown name reads as Open3D. -/
def extrinsicsOr (c : SessionConfig) : Int32 :=
  match c.extrinsicsFormat with
  | some s => (extrinsicsCode s).toOption.getD 1
  | none => 1

/-- The sync mode; an unknown name reads as off. -/
def syncModeOr (c : SessionConfig) : SyncMode :=
  match c.syncMode with
  | some s => (SyncMode.parse s).toOption.getD .off
  | none => .off

/-- Whether the live preview runs. -/
def previewOn (c : SessionConfig) : Bool := c.previewEnabled.getD true

/-- A duration field, or its default when missing, empty or unreadable. -/
def durationOr (v : Option String) (dflt : Duration) : Duration :=
  match v with
  | some s => if s.isEmpty then dflt else (Duration.parse s).toOption.getD dflt
  | none => dflt

/-- The widest timestamp gap matched during reconciliation. -/
def syncToleranceOr (c : SessionConfig) : Duration := durationOr c.syncTolerance (.millis 2)

/-- How often a capture is polled. -/
def capturePollOr (c : SessionConfig) : Duration := durationOr c.capturePollInterval (.millis 1)

/-- How often the preview refreshes. -/
def previewIntervalOr (c : SessionConfig) : Duration := durationOr c.previewInterval (.millis 1)

/-- How long a reply may take. -/
def replyTimeoutOr (c : SessionConfig) : Duration := durationOr c.replyTimeout (.seconds 10)

/-- How long a restart may take. -/
def restartTimeoutOr (c : SessionConfig) : Duration := durationOr c.restartTimeout (.seconds 30)

/-- The take name; missing or empty is `take`. -/
def takeNameOr (c : SessionConfig) : String :=
  match c.takeName with
  | some s => if s.isEmpty then "take" else s
  | none => "take"

/-- Where synchronization plots go; empty for nowhere. -/
def diagnosticsDirOr (c : SessionConfig) : String := c.diagnosticsDir.getD ""

/-- The settings block every sensor receives. -/
def settings (c : SessionConfig) : Settings :=
  { minBounds := c.minBoundsOr, maxBounds := c.maxBoundsOr
    markers := c.markerSeeds.map fun m => MarkerPose.ofRotationTranslation m.id m.rotation m.translation
    compressionLevel := Int32.ofInt c.compression, autoExposure := c.autoExposureOn
    exposureStep := Int32.ofInt c.exposure, autoWhiteBalance := c.autoWhiteBalanceOn
    kelvin := Int32.ofInt c.kelvinOr, exportMode := c.exportModeOr
    extrinsicsFormat := c.extrinsicsOr, previewEnabled := c.previewOn }

/-- The duration fields with their names, in the order they are checked. -/
def durationFields (c : SessionConfig) : List (String × Option String) :=
  [("sync_tolerance", c.syncTolerance), ("capture_poll_interval", c.capturePollInterval),
    ("preview_interval", c.previewInterval), ("reply_timeout", c.replyTimeout),
    ("restart_timeout", c.restartTimeout)]

/-- The first coordinate at which the lower corner exceeds the upper one. -/
def boundsError (lo hi : Point3) : Option String :=
  let pairs := (lo.toList.zip hi.toList).zipIdx
  (pairs.find? fun ((a, b), _) => b.lt a).map fun ((a, b), i) =>
    "min_bounds[" ++ toString i ++ "] " ++ a.fixed 3 ++ " exceeds max_bounds[" ++ toString i
      ++ "] " ++ b.fixed 3

/-- The first marker id that repeats an earlier one. -/
def duplicateMarker (ms : List MarkerSeed) : Option Int32 :=
  go ms []
where
  go : List MarkerSeed → List Int32 → Option Int32
    | [], _ => none
    | m :: rest, seen => if seen.contains m.id then some m.id else go rest (m.id :: seen)

/-- The first problem with a duration field. -/
def durationError : List (String × Option String) → Option String
  | [] => none
  | (name, some v) :: rest =>
    if v.isEmpty then durationError rest
    else match Duration.parse v with
      | .error e => some ("invalid " ++ name ++ " '" ++ v ++ "': " ++ e.message)
      | .ok d =>
        if d.nanos < 0 then some (name ++ " must be non-negative, got " ++ d.text)
        else durationError rest
  | (_, none) :: rest => durationError rest

/-- The error of a reading, if it failed. -/
def errorOf {α : Type} : Except String α → Option String
  | .error e => some e
  | .ok _ => none

/-- Check the configuration: the first problem found, if any. -/
def validate (c : SessionConfig) : Option String :=
  let checks : List (Unit → Option String) :=
    [fun _ => match c.minBounds, c.maxBounds with
      | some lo, some hi => boundsError lo hi
      | _, _ => none,
     fun _ => c.compressionLevel.bind fun n =>
      if n < 0 || 22 < n then some ("compression_level must be between 0 and 22, got " ++ toString n)
      else none,
     fun _ => c.refineIterations.bind fun n =>
      if n < 0 then some ("refine_iterations must be non-negative, got " ++ toString n) else none,
     fun _ => c.icpIterations.bind fun n =>
      if n < 1 then some ("icp_iterations must be positive, got " ++ toString n) else none,
     fun _ => (duplicateMarker (c.markers.getD [])).map fun id =>
      "duplicate marker id " ++ toString id.toInt,
     fun _ => c.exportMode.bind fun s => errorOf (exportModeOf s),
     fun _ => c.extrinsicsFormat.bind fun s => errorOf (extrinsicsCode s),
     fun _ => c.syncMode.bind fun s => errorOf (SyncMode.parse s),
     fun _ => durationError c.durationFields,
     fun _ => c.takeName.bind fun s =>
      if s.any (fun ch => ch == '/' || ch == '\\') then
        some ("take_name must not contain path separators, got " ++ Quote.text s)
      else none]
  checks.findSome? fun check => check ()

end SessionConfig

end DepthRig
