import DepthRig.Control.Views
import DepthRig.Http.Message

/-!
# The control surface

The JSON operations of the capture server: views, session history, the sync mode, hardware
sync, settings, calibration, refinement, restarts and recordings. A fleet operation answers
`200` with every sensor's outcome, even when some failed; only an operation refused before
any sensor was asked answers an error status, chosen by the failure's kind.
-/

namespace DepthRig.Control

open Http Fleet Json StationM

/-- The status a failure is answered with. -/
def statusFor (f : Fault) : Nat :=
  if [ErrorKind.invalidState, .syncMode, .exportMode, .hardwareSyncInvalid].any f.is then 409
  else if [ErrorKind.noDevices, .notAllCalibrated, .insufficientDevices].any f.is then 412
  else if [ErrorKind.disconnected, .configurationRejected, .restartFailed, .commandFailed].any f.is then 502
  else if f.is .timeout then 504
  else 500

/-- A failure as a JSON error with its status. -/
def failure (f : Fault) : Response := Response.jsonError (statusFor f) f.message

/-- The answer of a fleet operation. -/
def outcomesResponse (a : FleetAnswer) : Response :=
  match a.outcomes, a.fault with
  | none, some f => failure f
  | os, _ =>
    let os := os.getD []
    Response.json 200 (.object [("devices", ofOutcomeList os), ("ok", .bool !(Outcomes.failed os))])

/-- Read a decimal integer with an optional sign; out-of-range values saturate. The value,
and whether the text was a valid, in-range integer. -/
def readInteger (s : String) : Int × Bool :=
  let cs := s.toList
  let (neg, digits) := match cs with
    | '-' :: r => (true, r)
    | '+' :: r => (false, r)
    | r => (false, r)
  if digits.isEmpty || !digits.all Char.isDigit then (0, false)
  else
    let v := digits.foldl (fun n c => n * 10 + (c.toNat - 48)) 0
    let limit : Nat := if neg then Nat.pow 2 63 else Nat.pow 2 63 - 1
    let clamped := min v limit
    ((if neg then -(clamped : Int) else clamped), v ≤ limit)

/-- The state view. -/
def showState : StationM Response := do
  return Response.json 200 (ofStationState (← get))

/-- The preview view. -/
def showPreview : StationM Response := do
  return Response.json 200 (ofPreviewView (← get).rig.preview)

/-- The latest sessions, newest first: twenty unless `limit` asks for another positive
number. -/
def listSessions (req : Request) : StationM Response := do
  match (← get).rig.store with
  | none => return Response.jsonError 404 "no session store configured"
  | some st =>
    let v := req.query.first "limit"
    let (n, ok) := readInteger v
    if !v.isEmpty && (!ok || n < 1) then return Response.jsonError 400 "Invalid 'limit' parameter"
    let limit := if v.isEmpty then 20 else n
    match st.sessions limit with
    | .error f => return failure f
    | .ok ss => return Response.json 200 (.array (ss.map ofStoredSession))

/-- Choose the sync mode named by the form's `mode`. -/
def chooseSyncMode (req : Request) : StationM Response := do
  match SyncMode.parseBytes (req.formValueBytes "mode") with
  | .error e => return Response.jsonError 400 e
  | .ok m =>
    match ← onRig (Fleet.setSyncMode m) with
    | some f => return failure f
    | none => return Response.json 200 (.object [("sync_mode", .string m.name)])

/-- Restart the sensors the form names by `endpoint`, or every usable one. -/
def restart (req : Request) : StationM Response := do
  let (form, problem) := req.form
  match problem with
  | some e => return Response.jsonError 400 e
  | none => return outcomesResponse (← onRig (restartSensors (form.all "endpoint")))

/-- Refine the world transforms. A refinement that faults at run time leaves no answer:
the station records the fault. -/
def refineWorld : StationM Response := do
  match ← onRig Fleet.refine with
  | .panicked message =>
    modify fun s => { s with panicked := some message }
    return Response.json 500 .null
  | .returned none fault => return failure (fault.getD (.plain ""))
  | .returned (some rep) fault =>
    return Response.json 200 (.object [("devices", .array (rep.devices.map ofRefinedDevice)),
      ("ok", .bool fault.isNone)])

/-- Start a recording. -/
def startTake : StationM Response := do
  match ← onRig Fleet.startRecording with
  | .error f => return failure f
  | .ok take => return Response.json 202 (.object [("take", .string take), ("frames", ofNat 0)])

/-- Stop the recording and answer its result. -/
def stopTake : StationM Response := do
  match ← onRig Fleet.stopRecording with
  | .error f => return failure f
  | .ok s => return Response.json 200 (ofResult s)

end DepthRig.Control
