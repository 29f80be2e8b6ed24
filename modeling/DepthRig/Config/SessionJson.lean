import DepthRig.Config.Session
import DepthRig.Json.Scan
import DepthRig.Wire.BlockJson

/-!
# Session configuration files

The JSON form of the session configuration, how a configuration file is read, and the
configuration as answered: every field as read with its default.
-/

namespace DepthRig

open Json

namespace SessionConfig

/-- A point of three singles. -/
def fitPoint : Fit Point3 := fun j p => do
  let v ← fitVector 3 Single.zero "[3]float32" fitSingle j (Vector.ofFn fun i => p.toList.getD i.val .zero)
  return Point3.ofList v.toList

/-- A marker seed. -/
def fitMarker : Fit MarkerSeed :=
  fitRecord "MarkerConfig" "config.MarkerConfig"
    [⟨"id", fun j m => do return { m with id := Int32.ofInt (← fitInt 32 "int32" j m.id.toInt) }⟩,
     ⟨"rotation", fun j m => do
        return { m with rotation := ← fitVector 9 Single.zero "[9]float32" fitSingle j m.rotation }⟩,
     ⟨"translation", fun j m => do return { m with translation := ← fitPoint j m.translation }⟩]

/-- An optional integer field. -/
def fitIntField : Fit (Option Int) := fitOption 0 (fitInt 64 "int")

/-- An optional flag field. -/
def fitBoolField : Fit (Option Bool) := fitOption false fitBool

/-- An optional text field. -/
def fitTextField : Fit (Option String) := fitOption "" fitString

/-- A configuration being read, with the room its marker list keeps past its end: a
marker list read again reuses the markers left there, as far as its array reaches. -/
structure Draft where
  config : SessionConfig
  room : List MarkerSeed := []

/-- A field of the configuration, fitted into the draft's configuration. -/
def onConfig (name : String) (fit : Json → SessionConfig → FitM SessionConfig) : Json.Field Draft :=
  ⟨name, fun j d => do return { d with config := ← fit j d.config }⟩

/-- The bytes a marker takes in a marker array: its id and twelve singles. -/
def markerBytes : Nat := 52

/-- The configuration record, with the marker list's room. -/
def fitDraft : Fit Draft :=
  fitRecord "SessionConfig" "config.SessionConfig"
    [onConfig "min_bounds" (fun j c => do return { c with minBounds := ← fitOption Point3.origin fitPoint j c.minBounds }),
     onConfig "max_bounds" (fun j c => do return { c with maxBounds := ← fitOption Point3.origin fitPoint j c.maxBounds }),
     ⟨"markers", fun j d => do
        let (markers, room) ← fitRoomyList {} markerBytes "[]config.MarkerConfig" fitMarker j
          (d.config.markers, d.room)
        return { config := { d.config with markers }, room }⟩,
     onConfig "compression_level" (fun j c => do return { c with compressionLevel := ← fitIntField j c.compressionLevel }),
     onConfig "refine_iterations" (fun j c => do return { c with refineIterations := ← fitIntField j c.refineIterations }),
     onConfig "icp_iterations" (fun j c => do return { c with icpIterations := ← fitIntField j c.icpIterations }),
     onConfig "merge_on_save" (fun j c => do return { c with mergeOnSave := ← fitBoolField j c.mergeOnSave }),
     onConfig "auto_exposure" (fun j c => do return { c with autoExposure := ← fitBoolField j c.autoExposure }),
     onConfig "exposure_step" (fun j c => do return { c with exposureStep := ← fitIntField j c.exposureStep }),
     onConfig "auto_white_balance" (fun j c => do return { c with autoWhiteBalance := ← fitBoolField j c.autoWhiteBalance }),
     onConfig "kelvin" (fun j c => do return { c with kelvin := ← fitIntField j c.kelvin }),
     onConfig "export_mode" (fun j c => do return { c with exportMode := ← fitTextField j c.exportMode }),
     onConfig "extrinsics_format" (fun j c => do return { c with extrinsicsFormat := ← fitTextField j c.extrinsicsFormat }),
     onConfig "sync_mode" (fun j c => do return { c with syncMode := ← fitTextField j c.syncMode }),
     onConfig "preview_enabled" (fun j c => do return { c with previewEnabled := ← fitBoolField j c.previewEnabled }),
     onConfig "sync_tolerance" (fun j c => do return { c with syncTolerance := ← fitTextField j c.syncTolerance }),
     onConfig "capture_poll_interval" (fun j c => do
        return { c with capturePollInterval := ← fitTextField j c.capturePollInterval }),
     onConfig "preview_interval" (fun j c => do return { c with previewInterval := ← fitTextField j c.previewInterval }),
     onConfig "reply_timeout" (fun j c => do return { c with replyTimeout := ← fitTextField j c.replyTimeout }),
     onConfig "restart_timeout" (fun j c => do return { c with restartTimeout := ← fitTextField j c.restartTimeout }),
     onConfig "take_name" (fun j c => do return { c with takeName := ← fitTextField j c.takeName }),
     onConfig "diagnostics_dir" (fun j c => do return { c with diagnosticsDir := ← fitTextField j c.diagnosticsDir })]

/-- The configuration record. -/
def fitConfig : Fit SessionConfig := fun j c => do
  let d ← fitDraft j { config := c }
  return d.config

/-- Read a configuration from JSON text: a syntax error, a type mismatch, or the
configuration as written (not yet checked). -/
def ofJsonBytes (bytes : List UInt8) : Except Fault SessionConfig :=
  match Json.parseBytes bytes with
  | .error e => .error (.ofKind .jsonSyntax e)
  | .ok j =>
    match fitDocument fitConfig j {} with
    | .ok c => .ok c
    | .error m => .error (.ofKind .jsonType m.message)

/-- The largest configuration file, in bytes. -/
def maxFileSize : Nat := 1024 * 1024

/-- Read a configuration file at `path` holding `bytes`: it must be named `*.json` and be
at most `maxFileSize` bytes, and what it holds must read and pass the checks. -/
def load (path : String) (bytes : List UInt8) : Except Fault SessionConfig := do
  let ext := Path.ext (Path.clean path)
  if ext != ".json" then
    throw (.plain ("config file must have .json extension, got " ++ Quote.text ext))
  if maxFileSize < bytes.length then
    throw (.plain ("config file too large: " ++ toString bytes.length ++ " bytes (max "
      ++ toString maxFileSize ++ ")"))
  let c ← (ofJsonBytes bytes).mapError (Fault.wrap "failed to parse config JSON")
  match c.validate with
  | some e => throw (.plain ("invalid configuration: " ++ e))
  | none => pure c

end SessionConfig

namespace Json

/-- A marker seed as `{id, rotation, translation}`. -/
def ofMarkerSeed (m : MarkerSeed) : Json :=
  .object [("id", .ofInt m.id.toInt), ("rotation", ofSingles m.rotation.toList),
    ("translation", ofPoint3 m.translation)]

/-- A configuration as read: every field with its default. -/
def ofSessionConfig (c : SessionConfig) : Json :=
  .object [("min_bounds", ofPoint3 c.minBoundsOr), ("max_bounds", ofPoint3 c.maxBoundsOr),
    ("markers", .array (c.markerSeeds.map ofMarkerSeed)),
    ("compression_level", .ofInt c.compression), ("refine_iterations", .ofInt c.refineRounds),
    ("icp_iterations", .ofInt c.icpRounds), ("merge_on_save", .bool c.mergesOnSave),
    ("auto_exposure", .bool c.autoExposureOn), ("exposure_step", .ofInt c.exposure),
    ("auto_white_balance", .bool c.autoWhiteBalanceOn), ("kelvin", .ofInt c.kelvinOr),
    ("export_mode", .ofInt c.exportModeOr.code.toInt),
    ("extrinsics_format", .ofInt c.extrinsicsOr.toInt),
    ("sync_mode", .string c.syncModeOr.name), ("preview_enabled", .bool c.previewOn),
    ("sync_tolerance_ns", .ofInt c.syncToleranceOr.nanos.toInt),
    ("capture_poll_ns", .ofInt c.capturePollOr.nanos.toInt),
    ("preview_interval_ns", .ofInt c.previewIntervalOr.nanos.toInt),
    ("reply_timeout_ns", .ofInt c.replyTimeoutOr.nanos.toInt),
    ("restart_timeout_ns", .ofInt c.restartTimeoutOr.nanos.toInt),
    ("take_name", .string c.takeNameOr), ("diagnostics_dir", .string c.diagnosticsDirOr),
    ("settings", ofSettings c.settings)]

end Json

end DepthRig
