import DepthRig.Wire.Reader

/-!
# Session settings

The block of session-wide settings a sensor receives: the capture bounds, the poses of
the calibration markers, compression, exposure, white balance, the export mode and the
extrinsics format, and whether preview is on. The block's size follows from its marker
count: `51 + 68 * markers` bytes. On the stream it is preceded by its length as a 32-bit
count.
-/

namespace DepthRig

/-- A 4×4 row-major rigid pose. -/
abbrev Pose := Vector Single 16

/-- A calibration marker and its pose. -/
structure MarkerPose where
  id : Int32
  pose : Pose
  deriving BEq, Inhabited, Repr

/-- What a recording produces, as its 32-bit code. -/
structure ExportMode where
  code : Int32
  deriving BEq, DecidableEq, Inhabited, Repr

namespace ExportMode

/-- Point clouds downloaded from the sensors. -/
def pointcloud : ExportMode := ⟨0⟩

/-- Raw frames kept on the sensors. -/
def rawFrames : ExportMode := ⟨1⟩

/-- The name of a mode: `Pointcloud`, `RawFrames`, or `ExportMode(n)`. -/
def name (m : ExportMode) : String :=
  if m.code == 0 then "Pointcloud" else if m.code == 1 then "RawFrames"
  else s!"ExportMode({m.code.toInt})"

end ExportMode

namespace MarkerPose

/-- A marker with the identity pose. -/
def identity (id : Int32) : MarkerPose :=
  ⟨id, Vector.ofFn fun i => if i.val % 5 == 0 then Single.one else Single.zero⟩

/-- A marker pose from a row-major rotation and a translation. -/
def ofRotationTranslation (id : Int32) (r : Vector Single 9) (t : Point3) : MarkerPose :=
  ⟨id, Vector.ofFn fun i =>
    let row := i.val / 4
    let col := i.val % 4
    if row == 3 then (if col == 3 then Single.one else Single.zero)
    else if col == 3 then t.toList.getD row .zero
    else r[row * 3 + col]?.getD .zero⟩

end MarkerPose

/-- The session settings block. -/
structure Settings where
  minBounds : Point3
  maxBounds : Point3
  markers : List MarkerPose
  compressionLevel : Int32
  autoExposure : Bool
  exposureStep : Int32
  autoWhiteBalance : Bool
  kelvin : Int32
  exportMode : ExportMode
  extrinsicsFormat : Int32
  previewEnabled : Bool
  deriving BEq, Inhabited, Repr

namespace Settings

/-- The block size for a number of markers: 51 bytes and 68 per marker. -/
def blockSize (markers : Int) : Int := 6 * 4 + 4 + markers * 68 + 4 + 1 + 4 + 1 + 4 + 4 + 4 + 1

/-- The block, without its length prefix. -/
def encode (s : Settings) : List UInt8 :=
  (s.minBounds.toList ++ s.maxBounds.toList).flatMap Wire.putSingle
    ++ Wire.putCount s.markers.length
    ++ s.markers.flatMap (fun m => m.pose.toList.flatMap Wire.putSingle ++ Wire.putI32 m.id)
    ++ Wire.putI32 s.compressionLevel ++ Wire.putBool s.autoExposure
    ++ Wire.putI32 s.exposureStep ++ Wire.putBool s.autoWhiteBalance ++ Wire.putI32 s.kelvin
    ++ Wire.putI32 s.exportMode.code ++ Wire.putI32 s.extrinsicsFormat
    ++ Wire.putBool s.previewEnabled

open Wire in
/-- One marker record: sixteen singles, then the id. -/
def markerReader : Decode MarkerPose := do
  let vs ← times 16 (single field)
  let id ← i32 field
  pure ⟨id, Vector.ofFn fun i => vs.getD i.val .zero⟩

open Wire in
/-- The reader of a settings block. -/
def reader : Decode Settings := do
  let b ← times 6 (single field)
  let n ← i32 field
  let rem ← remaining
  if n.toInt < 0 || rem < n.toInt.toNat * 68 then fail (.markerOverflow n.toInt)
  else
    let markers ← times n.toInt.toNat markerReader
    let compressionLevel ← i32 field
    let autoExposure ← flag field
    let exposureStep ← i32 field
    let autoWhiteBalance ← flag field
    let kelvin ← i32 field
    let exportMode ← i32 field
    let extrinsicsFormat ← i32 field
    let previewEnabled ← flag field
    pure
      { minBounds := Point3.ofList (b.take 3)
        maxBounds := Point3.ofList (b.drop 3)
        markers, compressionLevel, autoExposure, exposureStep, autoWhiteBalance, kelvin
        exportMode := ⟨exportMode⟩
        extrinsicsFormat, previewEnabled }

/-- Decode a settings block. -/
def decode (bs : List UInt8) : Except Wire.WireError Settings :=
  match (reader.runOn (Wire.Cursor.start bs)).1 with
  | .ok s => .ok s
  | .error (.wire e) => .error e
  | .error _ => .error (.short 0 0 0)

open Wire in
/-- Read a length-prefixed settings block from a stream. -/
def streamReader : Decode Settings := do
  let n ← listCount
  let bs ← readFull n
  match decode bs with
  | .ok s => pure s
  | .error e => fail e

/-- The block with its length prefix. -/
def encodePrefixed (s : Settings) : List UInt8 :=
  let b := s.encode
  Wire.putU32 (UInt32.ofNat b.length) ++ b

end Settings

end DepthRig
