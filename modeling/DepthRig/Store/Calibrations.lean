import DepthRig.Store.Sessions
import DepthRig.Json.Fit
import DepthRig.Json.Scan
import DepthRig.Wire.Calibration

/-!
# Calibration history

Each recorded calibration of a device is a rotation and a translation of singles, whether it
came from refinement, and when it was recorded, stored as JSON arrays of shortest decimals;
NaN and the infinities cannot be recorded. A device's latest calibration is the last one
recorded, read back into its fixed sizes.
-/

namespace DepthRig.Store

open Time Json

/-- A recorded calibration. -/
structure Calibration where
  serial : String
  rotation : Rotation
  translation : Point3
  refined : Bool
  recordedAt : Stamp
  deriving Inhabited

/-- Singles as a JSON array, or the first that has no JSON form. -/
def singlesJson (xs : List Single) : Except Fault String :=
  match xs.find? fun x => !x.isFinite with
  | some x =>
    let name := if x.isNaN then "NaN" else if x.lt Single.zero then "-Inf" else "+Inf"
    .error (.plain ("json: unsupported value: " ++ name))
  | none => .ok ("[" ++ ",".intercalate (xs.map (Single.text FloatText.data)) ++ "]")

/-- Read stored JSON into a value with a fitting, naming the field in a failure. -/
def readStoredJson {α : Type} (field : String) (f : Fit α) (zero : α) (text : String) :
    Except Fault α :=
  let fail (m : String) : Fault := .plain ("failed to parse " ++ field ++ ": " ++ m)
  match Json.parse text with
  | .error e => .error (fail e)
  | .ok j =>
    match fitDocument f j zero with
    | .ok a => .ok a
    | .error m => .error (fail m.message)

namespace SessionStore

/-- Record a calibration of a device, at the store's clock. -/
def recordCalibration (s : SessionStore) (serial : String) (rotation : Rotation)
    (translation : Point3) (refined : Bool) : Except Fault SessionStore := do
  let rot ← singlesJson rotation.toList
  let tr ← singlesJson translation.toList
  let result : Except StoreError Database := do
    s.ensureOpen
    s.db.insert calibrationsTable.name
      ["serial", "rotation_json", "translation_json", "refined", "recorded_at"]
      [.text serial, .text rot, .text tr, .int (if refined then 1 else 0), .text s.db.clock.utc.text]
  match result with
  | .error e => throw (e.fault.wrap ("failed to record calibration for " ++ serial))
  | .ok db => pure { s with db }

/-- The last calibration recorded for a device. -/
def latestCalibration (s : SessionStore) (serial : String) : Except Fault Calibration := do
  let t ← (do s.ensureOpen; s.db.table calibrationsTable.name).mapError StoreError.fault
  let key (r : List Cell) := t.cell r "calibration_id"
  let mine := t.rows.filter fun r => (t.cell r "serial").same (.text serial)
  let latest := mine.foldl (fun best r => match best with
    | some b => if (key b).lt (key r) then some r else some b
    | none => some r) none
  match latest with
  | none => throw (.ofKind .notFound ("calibration for " ++ serial ++ ": not found"))
  | some r =>
    let scanned : Except StoreError (String × String × String × Bool × String) := do
      let se ← scanText 0 "serial" (t.cell r "serial")
      let rot ← scanText 1 "rotation_json" (t.cell r "rotation_json")
      let tr ← scanText 2 "translation_json" (t.cell r "translation_json")
      let refined ← scanBool 3 "refined" (t.cell r "refined")
      let stamp ← scanText 4 "recorded_at" (readTimeCell (t.cell r "recorded_at"))
      pure (se, rot, tr, refined, stamp)
    let (se, rot, tr, refined, recorded) ← scanned.mapError StoreError.fault
    let zero := Vector.replicate 9 Single.zero
    let rotation ← readStoredJson "rotation" (fitVector 9 Single.zero "[9]float32" fitSingle) zero rot
    let translation ← readStoredJson "translation"
      (fitVector 3 Single.zero "[3]float32" fitSingle) (Vector.replicate 3 Single.zero) tr
    let recordedAt ← readStamp "recorded_at" recorded
    pure ⟨se, rotation, Point3.ofList translation.toList, refined, recordedAt⟩

end SessionStore

end DepthRig.Store
