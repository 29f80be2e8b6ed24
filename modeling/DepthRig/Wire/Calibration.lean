import DepthRig.Wire.Reader

/-!
# Calibration records

After marker calibration a sensor reports the marker it used and its sensor-to-world
rotation (row-major) and translation: 52 bytes. The server pushes a world calibration
back as the rotation and translation alone: 48 bytes.
-/

namespace DepthRig

/-- A row-major 3×3 rotation. -/
abbrev Rotation := Vector Single 9

/-- The identity rotation. -/
def Rotation.identity : Rotation :=
  Vector.ofFn fun i => if i.val % 4 == 0 then Single.one else Single.zero

/-- What a sensor reports after calibration. -/
structure CalibrationRecord where
  markerId : Int32
  rotation : Rotation
  translation : Point3
  deriving BEq, Inhabited, Repr

namespace CalibrationRecord

/-- The size of a record. -/
def size : Nat := 52

/-- The record's bytes. -/
def encode (c : CalibrationRecord) : List UInt8 :=
  Wire.putI32 c.markerId ++ c.rotation.toList.flatMap Wire.putSingle
    ++ c.translation.toList.flatMap Wire.putSingle

/-- Decode a record from at least 52 bytes. -/
def decode (bs : List UInt8) : Except Wire.WireError CalibrationRecord :=
  if bs.length < size then .error (.calibrationShort bs.length)
  else
    let word (i : Nat) := (bs.drop i).take 4
    let s (i : Nat) : Single := ⟨Wire.u32OfBytes (word i)⟩
    .ok ⟨Wire.i32OfBytes (word 0), Vector.ofFn (fun i => s (4 + 4 * i.val)), ⟨s 40, s 44, s 48⟩⟩

end CalibrationRecord

/-- The size of a world calibration. -/
def worldCalibrationSize : Nat := 48

/-- The bytes of a world calibration. -/
def encodeWorldCalibration (r : Rotation) (t : Point3) : List UInt8 :=
  r.toList.flatMap Wire.putSingle ++ t.toList.flatMap Wire.putSingle

/-- Decode a world calibration from at least 48 bytes. -/
def decodeWorldCalibration (bs : List UInt8) : Except Wire.WireError (Rotation × Point3) :=
  if bs.length < worldCalibrationSize then .error (.worldCalibrationShort bs.length)
  else
    let s (i : Nat) : Single := ⟨Wire.u32OfBytes ((bs.drop i).take 4)⟩
    .ok (Vector.ofFn (fun i => s (4 * i.val)), ⟨s 36, s 40, s 44⟩)

end DepthRig
