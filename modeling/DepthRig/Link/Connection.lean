import DepthRig.Link.State
import DepthRig.Wire.Message

/-!
# A link and its connection

A link works over one connection, which holds the unread bytes from the sensor, the bytes
written, whether writing still works and the events announced. Link operations run in `LinkM`,
a state over the connection; going down happens once and closes everything, and a request
that waits is settled when its caller stops waiting.
-/

namespace DepthRig

/-- A link with its connection. -/
structure Connection where
  link : Link
  /-- Bytes from the sensor not yet read. -/
  inbox : List UInt8 := []
  /-- Bytes written to the sensor. -/
  sent : Array UInt8 := #[]
  /-- When set, every write fails with this reason. -/
  writeFault : Option String := none
  /-- Events announced, oldest first. -/
  events : Array LinkEvent := #[]
  /-- How the reader stopped, once it has: cleanly (`none`) or with a fault. -/
  readerEnd : Option (Option Fault) := none
  deriving Inhabited, Repr

/-- Operations on a link and its connection. -/
abbrev LinkM := StateM Connection

namespace LinkM

/-- The link as it stands. -/
def link : LinkM Link := do return (← get).link

/-- Announce an event, unless the link has gone down. -/
def publish (e : LinkEvent) : LinkM Unit :=
  modify fun c => if c.link.connected then { c with events := c.events.push e } else c

/-- Change the link and announce the change. -/
def update (f : Link → Link) : LinkM Unit := do
  modify fun c => { c with link := f c.link }
  publish .stateChanged

/-- Take the link down for `reason`, once: it is disconnected, says so, announces nothing
more, and its reader stops. -/
def disconnect (reason : Fault) : LinkM Unit :=
  modify fun c =>
    if c.link.connected then
      { c with
        link := { c.link with connected := false, state := .disconnected, error := some reason }
        events := c.events.push .disconnected |>.push .closed
        readerEnd := c.readerEnd.orElse fun _ => some none }
    else c

end LinkM

namespace Fault

/-- The sensor is gone. -/
def disconnected (detail : String) : Fault :=
  .ofKind .disconnected ("sensor disconnected" ++ (if detail.isEmpty then "" else ": " ++ detail))

/-- The caller stopped waiting. -/
def canceled : Fault := .ofKind .canceled "context canceled"

/-- The answer did not come in time. -/
def timedOut (endpoint what : String) : Fault :=
  .ofKind .timeout ("timed out waiting for sensor: " ++ endpoint ++ " waiting for " ++ what)

end Fault

namespace LinkM

open Wire in
/-- Write a command byte and its payload as one write. A link that is down refuses; a
failing write takes the link down. -/
def send (cmd : Command) (payload : List UInt8) : LinkM (Option Fault) := do
  let c ← get
  if !c.link.connected then return some (Fault.disconnected c.link.endpoint)
  match c.writeFault with
  | some why =>
    disconnect (Fault.disconnected why)
    return some (Fault.disconnected (c.link.endpoint ++ " send " ++ cmd.name ++ ": " ++ why))
  | none =>
    set { c with sent := c.sent ++ (cmd.toByte :: payload).toArray }
    return none

end LinkM

/-- How a caller stops waiting when the condition does not hold. -/
inductive GiveUp where
  | canceled
  | timedOut
  deriving BEq, Repr, Inhabited

/-- A request waiting for the sensor: what it waits for, the condition, and how it
finishes given the outcome of the wait. -/
structure Wait (α : Type) where
  what : String
  ready : Link → Bool
  finish : Option Fault → LinkM (α × Option Fault)

/-- A request once started. -/
inductive Started (α : Type) where
  | finished (result : α × Option Fault)
  | waiting (w : Wait α)

namespace Wait

/-- The fault of an unsatisfied wait on `l`. -/
def fault (l : Link) (what : String) (how : GiveUp) : Fault :=
  if !l.connected then Fault.disconnected (l.endpoint ++ " waiting for " ++ what)
  else match how with
    | .canceled => Fault.canceled
    | .timedOut => Fault.timedOut l.endpoint what

/-- Settle a wait on the link as it stands. -/
def settle {α : Type} (w : Wait α) (how : GiveUp) : LinkM (α × Option Fault) := do
  let l ← LinkM.link
  if w.ready l then w.finish none else w.finish (some (fault l w.what how))

/-- A wait that finishes with a fixed value on failure and reads the link on success. -/
def simple {α : Type} (what : String) (ready : Link → Bool) (failed : α)
    (done : LinkM (α × Option Fault)) : Wait α :=
  ⟨what, ready, fun e => match e with | some e => pure (failed, some e) | none => done⟩

end Wait

namespace Started

/-- Settle a started request. -/
def settle {α : Type} (s : Started α) (how : GiveUp) : LinkM (α × Option Fault) :=
  match s with
  | .finished r => pure r
  | .waiting w => w.settle how

end Started

end DepthRig
