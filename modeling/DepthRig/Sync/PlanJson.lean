import DepthRig.Sync.Reconciler
import DepthRig.Json.Numbers
import DepthRig.Json.Fault
import DepthRig.Wire.BlockJson

/-!
# Plans as JSON

A plan is answered with its tolerance in nanoseconds, its reference instants as decimal
strings, its number of holes, and per sensor its mapping (`-1` for a hole), the number
matched, its relabelling and its residuals. A synchronization failure adds its stage and
sensor to the usual fault object.
-/

namespace DepthRig.Json

open DepthRig.Sync

/-- A mapping: positions, `-1` for a hole. -/
def ofMapping (m : List (Option Nat)) : Json :=
  .array (m.map fun e => match e with | some i => ofNat i | none => ofInt (-1))

/-- A relabelling. -/
def ofPostSync (l : PostSyncList) : Json :=
  .object [("frame_ids", ofInts (l.frameIds.map Int32.toInt)),
    ("synced_frame_ids", ofInts (l.syncedIds.map Int32.toInt))]

/-- One sensor's part of a plan. -/
def ofDevicePlan (reference : List UInt64) (d : DevicePlan) : Json :=
  let res := d.residuals reference
  .object [("endpoint", .string d.endpoint), ("serial", .string d.serial),
    ("main", .bool d.main), ("mapping", ofMapping d.mapping), ("matched", ofNat d.matched),
    ("post_sync", ofPostSync d.postSync),
    ("residual_index", .array (res.map fun r => ofNat r.1)),
    ("residuals", .array (res.map fun r => ofDouble r.2))]

/-- A plan. -/
def ofPlan (p : Plan) : Json :=
  .object [("tolerance_ns", ofInt p.tolerance.nanos.toInt),
    ("reference", ofUnsignedList p.reference), ("holes", ofNat p.holes),
    ("devices", .array (p.devices.map (ofDevicePlan p.reference)))]

/-- A plan or its absence. -/
def ofPlan? : Option Plan → Json
  | some p => ofPlan p
  | none => .null

/-- A failure whose stage and sensor are known, with its fault's kind and text. -/
def ofStagedFault (detail : SyncError) (f : Fault) : Json :=
  .object [("error", .string f.kindName), ("message", .string f.message),
    ("stage", .string detail.stage.text), ("device", .string detail.device),
    ("sync_unavailable", .bool (f.is .syncUnavailable))]

/-- A synchronization failure. -/
def ofSyncError (e : SyncError) : Json := ofStagedFault e e.toFault

/-- A run failure. -/
def ofRunError (e : RunError) : Json := ofStagedFault e.detail e.toFault

/-- A run failure or its absence. -/
def ofRunError? : Option RunError → Json
  | some e => ofRunError e
  | none => .null

/-- What a run produced, and what the reconciler remembers after it. -/
def ofRun (o : RunOutcome) (r : Reconciler) : Json :=
  .object [("plan", ofPlan? o.plan), ("error", ofRunError? o.error),
    ("sent", .array (o.sent.map fun s => match s with | some l => ofPostSync l | none => .null)),
    ("last_plan_reference", match r.last with | some p => ofUnsignedList p.reference | none => .null),
    ("last_error", match r.lastError with | some e => .string e.message | none => .null)]

/-- Signed 32-bit numbers; `null` is empty. -/
def int32List (j : Json) : List Int32 := j.items.filterMap fun x => (integer? x).map Int32.ofInt

/-- A timestamp list from `timestamps` and `frame_numbers`. -/
def timestampList? (j : Json) : Except String TimestampList := do
  let ts ← unsignedList? (j.get "timestamps")
  pure ⟨ts, int32List (j.get "frame_numbers")⟩

/-- A sensor's input to a plan. -/
def deviceTimes? (j : Json) : Except String DeviceTimes := do
  let delay ← signed? (j.get "delay_ns")
  let list ← timestampList? j
  pure { endpoint := (j.get "endpoint").str?.getD "", serial := (j.get "serial").str?.getD ""
         main := boolField j "main", delay := ⟨delay⟩, list := list }

/-- A scripted sensor for a reconciliation run: who it is, its timestamp answer and its
answer to the relabelling. -/
def scriptedPeer? (j : Json) : Except String (Peer × Except Fault TimestampList × Option Fault) := do
  let list ← timestampList? j
  let config := { DeviceConfig.default with
    softwareSync := ⟨byteField j "software_sync"⟩, syncOffset := byteField j "sync_offset" }
  let peer : Peer := ⟨(j.get "endpoint").str?.getD "", (j.get "serial").str?.getD "", config⟩
  let answer := match (j.get "timestamp_error").str? with
    | some m => .error (Fault.plain m)
    | none => .ok list
  pure (peer, answer, (j.get "post_sync_error").str?.map Fault.plain)

end DepthRig.Json
