import DepthRig.Control.Api
import DepthRig.Control.SyncPage
import DepthRig.Net.Ip
import DepthRig.Text.Blank

/-!
# Debug pages

The debug pages answer only requests from the machine itself or the operators' overlay
network, and none through a proxy: links, their event stream and removal, stored sessions, a
backup of the store and the last reconciliation's chart.
-/

namespace DepthRig.Control

open Http Fleet Json StationM

/-- Whether a request may see the debug pages: it came directly (no forwarding header)
from a loopback or overlay-network address. -/
def allowDebug (req : Request) : Bool :=
  if !(req.header "X-Forwarded-For").isEmpty then false
  else
    match Address.split req.remote with
    | .error _ => false
    | .ok (host, _) =>
      match Address.IpAddr.parse? host with
      | some a => a.isLoopback || a.isOverlay
      | none => false

/-- The denial of a debug page. -/
def debugDenied : Response := Response.error "debug access denied" 403

/-- The registry's links: summary lines, or JSON when the request accepts it or asks for
`format=json`. -/
def sensorsPage (req : Request) : StationM Response := do
  let links := (← get).links
  if ((req.header "Accept").splitOn "application/json").length > 1 || req.query.first "format" == "json" then
    return Response.json 200 (.array (links.map ofSensorStatus))
  let body := if links.isEmpty then "no sensors connected\n"
    else String.join (links.map fun l => l.summary ++ "\n")
  return { headers := [("Content-Type", "text/plain; charset=utf-8")], body := .bytes (Utf8.encode body) }

/-- The event stream's refusals: a method other than `GET`, or a connection that cannot
push. -/
def tailRefusal (req : Request) : Option Response :=
  if req.method != "GET" then some (Response.error "Method not allowed" 405)
  else if !req.canFlush then some (Response.error "Streaming unsupported" 500)
  else none

/-- Remove the link the form names by `endpoint`. -/
def removeSensor (req : Request) : StationM Response := do
  if req.method != "POST" then return Response.error "Method not allowed" 405
  let endpoint := Blank.trim (req.formValue "endpoint")
  if endpoint.isEmpty then return Response.error "Missing endpoint" 400
  match (← get).find? endpoint with
  | none => return Response.error "Unknown sensor" 404
  | some i =>
    remove i
    return Response.text ("Removed sensor " ++ endpoint ++ "\n")

/-- The stored sessions, newest first. -/
def sessionsPage (req : Request) : StationM Response := do
  match (← get).rig.store with
  | none => return Response.notFound
  | some st =>
    let (n, _) := readInteger (req.query.first "limit")
    match st.sessions n with
    | .error f => return Response.error f.message 500
    | .ok [] => return Response.json 200 .null
    | .ok ss => return Response.json 200 (.array (ss.map ofStoredSession))

/-- A backup of the store: vacuumed into a file named for the time, then sent compressed
as an attachment. -/
def backupPage : StationM Response := do
  let now ← onRig RigM.tick
  let name := "livescan-backup-" ++ toString (now.unix * 1000000000 + now.nanos) ++ ".db"
  match (← get).rig.store with
  | none => return Response.notFound
  | some st =>
    let (st, err) := st.exec "VACUUM INTO ?" ["/tmp/" ++ name]
    modify fun s => { s with rig := { s.rig with store := some st } }
    match err with
    | some f => return Response.error ("Failed to create backup: " ++ f.message) 500
    | none =>
      let headers := [("Content-Disposition", "attachment; filename=" ++ name ++ ".gz"),
        ("Content-Type", "application/gzip")]
      return { headers, body := .gzip st.image }

/-- The last plan as `{created, tolerance, reference, devices}`. -/
def ofPlanRecord (p : Sync.Plan) (created : Time.Stamp) : Json :=
  .object [("created", .string created.text), ("tolerance", ofInt p.tolerance.nanos.toInt),
    ("reference", .array (p.reference.map fun t => ofNat t.toNat)),
    ("devices", .array (p.devices.map fun d =>
      .object [("endpoint", .string d.endpoint), ("serial", .string d.serial), ("main", .bool d.main),
        ("mapping", ofMapping d.mapping), ("matched", ofNat d.matched)]))]

/-- A chart element id of twelve letters, drawn from the time. -/
def chartIdAt (t : Time.Stamp) : String :=
  let seed := (t.unix.toNat * 1000 + t.nanos / 1000000) * 2654435761
  String.ofList ((List.range 12).map fun i => Char.ofNat (97 + seed / Nat.pow 26 i % 26))

/-- The last reconciliation: JSON when `format=json`, else its chart page, or not found
when no plan was built. -/
def syncPageFor (req : Request) : StationM Response := do
  let r := (← get).rig
  let plan := r.reconciler.last
  let err := r.reconciler.lastError
  if req.query.first "format" == "json" then
    return Response.json 200 (.object ([("plan", match plan with
        | some p => ofPlanRecord p r.planBuilt
        | none => .null)] ++ (err.map fun e => [("error", .string e.message)]).getD []))
  match plan with
  | none => return Response.error ((err.map (·.message)).getD "no reconciliation has run") 404
  | some p =>
    let id := chartIdAt (← onRig RigM.tick)
    return { headers := [("Content-Type", "text/html; charset=utf-8")],
             body := .bytes (Utf8.encode (syncPage p err id)) }

end DepthRig.Control
