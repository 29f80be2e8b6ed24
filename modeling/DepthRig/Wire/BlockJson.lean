import DepthRig.Wire.FrameJson
import DepthRig.Wire.Settings
import DepthRig.Wire.Device
import DepthRig.Wire.Calibration
import DepthRig.Wire.Lists

/-!
# Wire blocks as JSON

JSON forms of the settings block, the device configuration and calibration records.
Read forms take missing fields as zero; written forms carry every field, the names of
coded values beside their codes, and the serial as hex, since it need not be text.
-/

namespace DepthRig.Json

/-- A 32-bit field, zero when missing. -/
def int32Field (j : Json) (name : String) : Int32 :=
  Int32.ofInt ((integer? (j.get name)).getD 0)

/-- A byte field, zero when missing. -/
def byteField (j : Json) (name : String) : UInt8 :=
  ((integer? (j.get name)).getD 0).toNat.toUInt8

/-- A flag field, false when missing. -/
def boolField (j : Json) (name : String) : Bool := ((j.get name).bool?).getD false

/-- A list of singles as a fixed-length vector, padded with zeros. -/
def vectorOf (n : Nat) (j : Json) : Option (Vector Single n) :=
  (singles? j).map fun xs => Vector.ofFn fun i => xs.getD i.val .zero

/-- A marker from `{id, pose}`. -/
def marker? (j : Json) : Option MarkerPose :=
  (vectorOf 16 (j.get "pose")).map fun p => ⟨int32Field j "id", p⟩

/-- Settings from their object. -/
def settings? (j : Json) : Option Settings := do
  let lo ← point3? (j.get "min_bounds")
  let hi ← point3? (j.get "max_bounds")
  let markers ← (j.get "markers").items.mapM marker?
  pure
    { minBounds := lo, maxBounds := hi, markers := markers
      compressionLevel := int32Field j "compression_level"
      autoExposure := boolField j "auto_exposure"
      exposureStep := int32Field j "exposure_step"
      autoWhiteBalance := boolField j "auto_white_balance"
      kelvin := int32Field j "kelvin"
      exportMode := ⟨int32Field j "export_mode"⟩
      extrinsicsFormat := int32Field j "extrinsics_format"
      previewEnabled := boolField j "preview_enabled" }

/-- Settings as their object. -/
def ofSettings (s : Settings) : Json :=
  .object [("min_bounds", ofPoint3 s.minBounds), ("max_bounds", ofPoint3 s.maxBounds),
    ("markers", .array (s.markers.map fun m =>
      .object [("id", .ofInt m.id.toInt), ("pose", ofSingles m.pose.toList)])),
    ("compression_level", .ofInt s.compressionLevel.toInt),
    ("auto_exposure", .bool s.autoExposure),
    ("exposure_step", .ofInt s.exposureStep.toInt),
    ("auto_white_balance", .bool s.autoWhiteBalance),
    ("kelvin", .ofInt s.kelvin.toInt),
    ("export_mode", .ofInt s.exportMode.code.toInt),
    ("export_mode_name", .string s.exportMode.name),
    ("extrinsics_format", .ofInt s.extrinsicsFormat.toInt),
    ("preview_enabled", .bool s.previewEnabled)]

/-- Bytes given as text (`name`) or as hex (`name_hex`). -/
def bytesField? (j : Json) (name : String) : Option (List UInt8) :=
  match (j.get (name ++ "_hex")).str? with
  | some h => Hex.decode? h
  | none => some (Utf8.encode ((j.get name).str?.getD ""))

/-- A device configuration from its object. -/
def deviceConfig? (j : Json) : Option DeviceConfig := do
  let serial ← bytesField? j "serial"
  pure ⟨⟨byteField j "depth_mode"⟩, ⟨byteField j "software_sync"⟩, ⟨byteField j "hardware_sync"⟩,
    byteField j "sync_offset", serial, boolField j "filter_depth_map", byteField j "filter_size"⟩

/-- A device configuration as its object. -/
def ofDeviceConfig (c : DeviceConfig) : Json :=
  .object [("depth_mode", .ofNat c.depthMode.code.toNat),
    ("depth_mode_name", .string c.depthMode.name),
    ("software_sync", .ofNat c.softwareSync.code.toNat),
    ("hardware_sync", .ofNat c.hardwareSync.code.toNat),
    ("sync_names", .array [.string c.softwareSync.name, .string c.hardwareSync.name]),
    ("sync_offset", .ofNat c.syncOffset.toNat),
    ("sync_delay_ns", .ofNat c.syncDelayNs),
    ("serial_hex", .string (Hex.encode c.serial)),
    ("filter_depth_map", .bool c.filterDepthMap),
    ("filter_size", .ofNat c.filterSize.toNat)]

/-- A rotation and translation as `{r, t}`. -/
def ofRigid (r : Rotation) (t : Point3) : Json :=
  .object [("r", ofSingles r.toList), ("t", ofPoint3 t)]

end DepthRig.Json
