import DepthRig.Fleet.Preview

/-!
# The capture station

The station is the capture server as a whole: the rig, the registry listing the fleet's links,
and the listener sensors connect through. A coordinator that watches the fleet drops hardware
synchronization once the registry lists no link.
-/

namespace DepthRig.Control

open Fleet

/-- The capture server. -/
structure Station where
  rig : Rig
  /-- Whether the registry has been closed. -/
  registryClosed : Bool := false
  /-- Whether the listener sensors connect through has been closed. -/
  listenerClosed : Bool := false
  /-- Whether the coordinator watches the fleet for it to empty. -/
  watching : Bool := false
  /-- The runtime fault a request made the program raise, if one did. -/
  panicked : Option String := none
  deriving Inhabited

/-- Operations on the station. -/
abbrev StationM := StateM Station

namespace StationM

/-- Run a rig operation. -/
def onRig {α : Type} (op : RigM α) : StationM α := fun s =>
  let (a, r) := op.run s.rig
  (a, { s with rig := r })

end StationM

namespace Station

/-- The positions of the links the registry lists, in connection order. -/
def listed (s : Station) : List Nat :=
  (List.range s.rig.members.size).filter fun i => (s.rig.member i).registered

/-- The links the registry lists. -/
def links (s : Station) : List Link := s.listed.map fun i => (s.rig.member i).link

/-- The first listed link with an endpoint. -/
def find? (s : Station) (endpoint : String) : Option Nat :=
  s.listed.find? fun i => (s.rig.member i).link.endpoint == endpoint

end Station

/-- The registry lets go of a member: its link is closed and no longer listed, and the
sensor sees its connection end. -/
def Member.release (m : Member) : Member :=
  let ((), c) := LinkM.close.run m.conn
  { m with conn := c, sensor := m.sensor.stop, registered := false }

namespace StationM

/-- Remove the member at a position from the registry. -/
def remove (i : Nat) : StationM Unit := modify fun s =>
  { s with rig := { s.rig with members := s.rig.members.modify i Member.release } }

/-- Close the registry: every listed link is removed. -/
def closeRegistry : StationM Unit := do
  for i in (← get).listed do remove i
  modify fun s => { s with registryClosed := true }

/-- Drop from the registry every link that went down, then, if the coordinator watches
an emptied fleet, drop hardware synchronization. -/
def settleFleet : StationM Unit := do
  onRig RigM.prune
  let s ← get
  if s.watching && s.listed.isEmpty then onRig RigM.dropHardwareSync

end StationM

end DepthRig.Control
