import DepthRig.Link.Commands
import DepthRig.Simulator.Sensor

/-!
# Fleet members

A member is a simulated sensor with the server's link to it. Link operations on a member run
to completion, the sensor's answers reaching the link before the operation goes on, so a wait
still unsatisfied then ends as timed out, or disconnected if the link is down.
-/

namespace DepthRig.Fleet

open Simulator

/-- A simulated sensor and the server's link to it. -/
structure Member where
  sensor : Sensor
  conn : Connection
  /-- Whether the registry still lists the link. -/
  registered : Bool := true
  deriving Inhabited

namespace Member

/-- The server's view of the sensor. -/
def link (m : Member) : Link := m.conn.link

/-- The sensor's serial as the link knows it. -/
def serial (m : Member) : String := Utf8.decode m.link.config.serial

/-- Whether the link is up. -/
def connected (m : Member) : Bool := m.link.connected

/-- Whether the coordinator can use the member: registered and connected. -/
def live (m : Member) : Bool := m.registered && m.connected

end Member

/-- Operations on one member. -/
abbrev MemberM := StateM Member

namespace MemberM

/-- Run a link operation; its writes reach the sensor, and the sensor's answers (and the
end of its stream, if it closed the connection) reach the link. -/
def exchange {α : Type} (op : LinkM α) : MemberM α := fun m =>
  let (a, c) := op.run { m.conn with sent := #[] }
  let (sensor, replies, ended) := m.sensor.serve c.sent.toList
  let ((), c) := (LinkM.receive replies ended).run c
  (a, { m with sensor, conn := c })

/-- Settle a started request once every answer is in: an unsatisfied wait times out. -/
def settle {α : Type} (s : Started α) : MemberM (α × Option Fault) := fun m =>
  let (r, c) := (s.settle .timedOut).run m.conn
  (r, { m with conn := c })

/-- Start a request and settle it. -/
def call {α : Type} (start : LinkM (Started α)) : MemberM (α × Option Fault) := do
  settle (← exchange start)

/-- Send a request, then wait for its answer unless sending failed. -/
def requestThenWait {α : Type} (req : LinkM (Option Fault)) (w : Wait α) (failed : α) :
    MemberM (α × Option Fault) := do
  match ← exchange req with
  | some e => pure (failed, some e)
  | none => settle (.waiting w)

/-- Ask for a capture and wait for its confirmation. -/
def capture : MemberM (Option Fault) := do
  return (← requestThenWait LinkM.requestCapture LinkM.waitCaptured ()).2

/-- Ask for a calibration and wait for its record. -/
def calibrate : MemberM (Option Fault) := do
  return (← requestThenWait LinkM.calibrate LinkM.waitCalibrated ()).2

/-- Ask for a restart and wait for its confirmation. -/
def restart : MemberM (Option Fault) := do
  return (← requestThenWait LinkM.restart LinkM.waitReinitialized ()).2

/-- Ask for the configuration and wait for it. -/
def greet : MemberM (Option Fault) := do
  return (← requestThenWait LinkM.requestConfiguration LinkM.waitConfiguration default).2

/-- Push a configuration and wait for the sensor's echo or rejection. -/
def pushConfiguration (cfg : DeviceConfig) : MemberM (Option Fault) := do
  return (← call (LinkM.pushConfiguration cfg)).2

/-- Fetch the latest live frame. -/
def lastFrame : MemberM (Option Frame × Option Fault) := call LinkM.lastFrame

/-- Fetch the next stored frame: the frame (none if skipped or ended), whether more remain,
and the failure. -/
def nextStoredFrame : MemberM ((Option Frame × Bool) × Option Fault) := call LinkM.nextStoredFrame

/-- The pre-recording handshake. -/
def preRecord : MemberM (Option Fault) := do return (← call LinkM.preRecord).2

/-- The post-recording handshake. -/
def postRecord : MemberM (Option Fault) := do return (← call LinkM.postRecord).2

/-- Ask the sensor to create a take directory. -/
def createDirectory (path : List UInt8) : MemberM (Option Fault) := do
  return (← call (LinkM.createDirectory path)).2

/-- Fetch the stored frames' timestamps. -/
def timestampList : MemberM (TimestampList × Option Fault) := call LinkM.requestTimestampList

/-- Send a relabelling of the stored frames and wait for its confirmation. -/
def postSyncList (l : PostSyncList) : MemberM (Option Fault) := do
  return (← call (LinkM.sendPostSyncList l)).2

/-- Replace the world transform and push it to the sensor. -/
def pushWorld (w : Affine) : MemberM (Option Fault) := do
  exchange (do LinkM.setWorld w; LinkM.sendCalibrationData)

/-- The sensor closes the connection: the link sees its stream end and goes down, and the
registry drops it. -/
def hangUp : MemberM Unit := fun m =>
  let ((), c) := (LinkM.receive [] true).run m.conn
  ((), { m with sensor := m.sensor.stop, conn := c, registered := false })

end MemberM

/-- A new member: the sensor connects, the registry lists its link, and the link asks for
the sensor's configuration and waits for it. -/
def Member.connect (endpoint : String) (sensor : Sensor) : Member :=
  let m : Member := { sensor, conn := { link := Link.create endpoint } }
  (MemberM.greet.run m).2

end DepthRig.Fleet
