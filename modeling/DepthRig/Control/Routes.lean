import DepthRig.Control.Debug
import DepthRig.Http.Mux

/-!
# The server's routes

One router carries the control surface under `/api/` and the debug pages under
`/debug/`; the pages of the session store are there only when the server has a store.
Every request passes through the logging layer, which notes one line per request with
its status, method and target. That layer cannot push a response in parts, so the event
stream of link events cannot be served through it.
-/

namespace DepthRig.Control

open Http

/-- What serves a route. -/
inductive Page where
  | state
  | preview
  | sessions
  | syncMode
  | hwSyncOn
  | hwSyncOff
  | recordStart
  | recordStop
  | settings
  | calibrate
  | refine
  | restart
  /-- The debug index, which serves only `/debug/` itself. -/
  | debugIndex
  /-- A debug tool outside the rig's own pages. -/
  | debugTool
  | sensors
  | sensorsTail
  | sensorsRemove
  | syncChart
  | storeSessions
  | backup
  deriving Inhabited

/-- Whether a page is a debug page, shown only to allowed requests. -/
def Page.isDebug : Page → Bool
  | .debugIndex | .debugTool | .sensors | .sensorsTail | .sensorsRemove | .syncChart
  | .storeSessions | .backup => true
  | _ => false

/-- The routes of a server, with or without a session store. -/
def routes (withStore : Bool) : List (Route × Page) :=
  [(⟨some "GET", "/api/state"⟩, .state), (⟨some "GET", "/api/preview"⟩, .preview),
    (⟨some "GET", "/api/sessions"⟩, .sessions), (⟨some "POST", "/api/sync"⟩, .syncMode),
    (⟨some "POST", "/api/hardware-sync"⟩, .hwSyncOn), (⟨some "DELETE", "/api/hardware-sync"⟩, .hwSyncOff),
    (⟨some "POST", "/api/record/start"⟩, .recordStart), (⟨some "POST", "/api/record/stop"⟩, .recordStop),
    (⟨some "POST", "/api/settings"⟩, .settings), (⟨some "POST", "/api/calibrate"⟩, .calibrate),
    (⟨some "POST", "/api/refine"⟩, .refine), (⟨some "POST", "/api/reinitialize"⟩, .restart),
    (⟨none, "/debug/"⟩, .debugIndex), (⟨none, "/debug/vars"⟩, .debugTool),
    (⟨none, "/debug/varz"⟩, .debugTool), (⟨none, "/debug/pprof/"⟩, .debugTool),
    (⟨none, "/debug/gc"⟩, .debugTool), (⟨none, "/debug/sensors"⟩, .sensors),
    (⟨none, "/debug/sensors-tail"⟩, .sensorsTail), (⟨none, "/debug/sensors-remove"⟩, .sensorsRemove),
    (⟨none, "/debug/sync"⟩, .syncChart)]
  ++ if withStore then
      [(⟨none, "/debug/tailsql/"⟩, .debugTool), (⟨none, "/debug/sessions"⟩, .storeSessions),
        (⟨none, "/debug/backup"⟩, .backup)]
    else []

/-- Serve a request with a page. -/
def Page.serve (p : Page) (req : Request) : StationM Response :=
  if p.isDebug && !allowDebug req then pure debugDenied
  else match p with
    | .state => showState
    | .preview => showPreview
    | .sessions => listSessions req
    | .syncMode => chooseSyncMode req
    | .hwSyncOn => do return outcomesResponse (← StationM.onRig Fleet.enableHwSync)
    | .hwSyncOff => do return outcomesResponse (← StationM.onRig Fleet.disableHwSync)
    | .recordStart => startTake
    | .recordStop => stopTake
    | .settings => do return outcomesResponse (← StationM.onRig Fleet.pushSettings)
    | .calibrate => do return outcomesResponse (← StationM.onRig Fleet.calibrate)
    | .refine => refineWorld
    | .restart => Control.restart req
    | .debugIndex => pure (if req.path == "/debug/" then Response.text "debug\n" else Response.notFound)
    | .debugTool => pure (Response.text "")
    | .sensors => sensorsPage req
    | .sensorsTail => pure ((tailRefusal req).getD (Response.error "Streaming unsupported" 500))
    | .sensorsRemove => removeSensor req
    | .syncChart => syncPageFor req
    | .storeSessions => sessionsPage req
    | .backup => backupPage

/-- Route and serve a request directly. -/
def dispatch (req : Request) : StationM Response := do
  match route (routes (← get).rig.store.isSome) req with
  | .serve p => p.serve req
  | .redirect loc => pure (Response.redirect req.method loc 301)
  | .notAllowed _ => pure (Response.error "Method Not Allowed" 405)
  | .notFound => pure Response.notFound

/-- Serve a request through the logging layer: the response and the line logged. The
layer does not let handlers push partial responses. -/
def serve (req : Request) : StationM (Response × LogLine) := do
  let resp ← dispatch { req with canFlush := false }
  return (resp, ⟨resp.status, req.method, req.target⟩)

end DepthRig.Control
