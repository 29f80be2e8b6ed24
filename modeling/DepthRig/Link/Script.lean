import DepthRig.Link.Commands

/-!
# Scripted link sessions

A script drives one link against a scripted sensor, one step at a time: a request writes its
command, a wait waits for an answer already expected, and a call does both. A step may carry
the sensor's reply, after which whoever waits gives up; each step reports what it returned,
its fault, the bytes written and the events announced.
-/

namespace DepthRig

/-- A request that writes a command and returns. -/
inductive LinkRequest where
  | capture
  | configuration
  | settings (s : Settings)
  | lastFrame
  | storedFrame
  | clearStoredFrames
  | calibrate
  | calibrationData
  | restart
  | startCapture
  | stopCapture
  deriving Inhabited

/-- An answer to wait for. -/
inductive LinkWait where
  | captured
  | configuration
  | lastFrame
  | storedFrame
  | calibrated
  | reinitialized
  deriving Inhabited

/-- A request that writes a command and waits for its answer. -/
inductive LinkCall where
  | pushConfiguration (c : DeviceConfig)
  | lastFrame
  | nextStoredFrame
  | preRecord
  | postRecord
  | createDirectory (path : List UInt8)
  | timestampList
  | postSyncList (l : PostSyncList)
  deriving Inhabited

/-- One step of a script. -/
inductive ScriptStep where
  /-- The sensor sends bytes. -/
  | receive (bytes : List UInt8)
  /-- The sensor sends bytes and closes its end. -/
  | finish (bytes : List UInt8)
  /-- The server closes the link. -/
  | close
  /-- Every later write fails. -/
  | breakWrites
  | setWorld (w : Affine)
  | request (r : LinkRequest) (reply : List UInt8)
  | wait (w : LinkWait) (reply : List UInt8)
  | call (c : LinkCall) (reply : List UInt8)
  deriving Inhabited

/-- What a step returned. -/
inductive LinkAnswer where
  | nothing
  | frame (f : Option Frame)
  | stored (f : Option Frame) (more : Bool)
  | configuration (c : DeviceConfig)
  | timestamps (l : TimestampList)
  deriving Inhabited

/-- What a step did: its answer and fault, the bytes written and events announced during
it, and the connection after it. -/
structure StepReport where
  answer : LinkAnswer
  fault : Option Fault
  sent : List UInt8
  events : List LinkEvent
  after : Connection
  deriving Inhabited

namespace LinkM

/-- Send a request, then let the reply arrive. -/
def requestStep (r : LinkRequest) (reply : List UInt8) : LinkM (LinkAnswer × Option Fault) := do
  let e ← match r with
    | .capture => requestCapture
    | .configuration => requestConfiguration
    | .settings s => pushSettings s
    | .lastFrame => requestLastFrame
    | .storedFrame => requestStoredFrame
    | .clearStoredFrames => clearStoredFrames
    | .calibrate => calibrate
    | .calibrationData => sendCalibrationData
    | .restart => restart
    | .startCapture => startCapture
    | .stopCapture => stopCapture
  receive reply false
  return (.nothing, e)

/-- Settle a wait after the reply, mapping its result to an answer. -/
def settleAs {α : Type} (w : Wait α) (f : α → LinkAnswer) : LinkM (LinkAnswer × Option Fault) := do
  let (a, e) ← w.settle .canceled
  return (f a, e)

/-- Let the reply arrive, then wait. -/
def waitStep (w : LinkWait) (reply : List UInt8) : LinkM (LinkAnswer × Option Fault) := do
  receive reply false
  match w with
  | .captured => settleAs waitCaptured fun _ => .nothing
  | .configuration => settleAs waitConfiguration .configuration
  | .lastFrame => settleAs waitLastFrame .frame
  | .storedFrame => settleAs waitStoredFrame fun (f, more) => .stored f more
  | .calibrated => settleAs waitCalibrated fun _ => .nothing
  | .reinitialized => settleAs waitReinitialized fun _ => .nothing

/-- Start a call, let the reply arrive, then settle it. -/
def exchange {α : Type} (start : LinkM (Started α)) (reply : List UInt8) (f : α → LinkAnswer) :
    LinkM (LinkAnswer × Option Fault) := do
  let s ← start
  receive reply false
  let (a, e) ← s.settle .canceled
  return (f a, e)

/-- Make a call with its reply. -/
def callStep (c : LinkCall) (reply : List UInt8) : LinkM (LinkAnswer × Option Fault) :=
  match c with
  | .pushConfiguration cfg => exchange (pushConfiguration cfg) reply fun _ => .nothing
  | .lastFrame => exchange lastFrame reply .frame
  | .nextStoredFrame => exchange nextStoredFrame reply fun (f, more) => .stored f more
  | .preRecord => exchange preRecord reply fun _ => .nothing
  | .postRecord => exchange postRecord reply fun _ => .nothing
  | .createDirectory p => exchange (createDirectory p) reply fun _ => .nothing
  | .timestampList => exchange requestTimestampList reply .timestamps
  | .postSyncList l => exchange (sendPostSyncList l) reply fun _ => .nothing

/-- Run one step. -/
def step : ScriptStep → LinkM (LinkAnswer × Option Fault)
  | .receive bytes => do receive bytes false; return (.nothing, none)
  | .finish bytes => do receive bytes true; return (.nothing, none)
  | .close => do close; return (.nothing, none)
  | .breakWrites => do
    modify fun c => { c with writeFault := some "broken pipe" }
    return (.nothing, none)
  | .setWorld w => do setWorld w; return (.nothing, none)
  | .request r reply => requestStep r reply
  | .wait w reply => waitStep w reply
  | .call c reply => callStep c reply

end LinkM

/-- Run a script on a connection: one report per step. -/
def runScript (c : Connection) : List ScriptStep → List StepReport
  | [] => []
  | s :: rest =>
    let ((answer, fault), c') := (LinkM.step s).run { c with sent := #[], events := #[] }
    ⟨answer, fault, c'.sent.toList, c'.events.toList, c'⟩ :: runScript c' rest

end DepthRig
