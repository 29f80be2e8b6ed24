import DepthRig.Fleet.Threads

/-!
# Hardware synchronization beside the coordinator's threads

Setting hardware synchronization up or down runs as a thread of atomic steps beside the
coordinator's: it checks that the state machine is Idle, then configures and restarts the
sensors and records the flag under the lock, the lock free between the check and the rest.
Run one after another, the steps do what `enableHwSync` and `disableHwSync` do.
-/

namespace DepthRig.Fleet

open RigM

/-- A hardware-synchronization call in flight. -/
inductive Reconfig where
  /-- `EnableHardwareSync`, before its check. -/
  | enableCalled
  /-- Past its check: configuring the sensors, in sync order. -/
  | configuring (ordered : List Nat)
  /-- Configured: restarting the subordinates, then the main sensor. -/
  | restarting (ordered : List Nat)
  /-- Restarted: at the lock, to record hardware synchronization as on. -/
  | enabling
  /-- `DisableHardwareSync`, before its check. -/
  | disableCalled
  /-- Past its check: at the lock, to record hardware synchronization as off. -/
  | disabling
  /-- Returning the sensors to standalone operation. -/
  | unsyncing
  | returned
  deriving DecidableEq, Repr

namespace Reconfig

/-- The call's next step. -/
def step : Reconfig → RigM Reconfig
  | .enableCalled => do
    match ← enableCheck with
    | .error _ => return .returned
    | .ok ordered => return .configuring ordered
  | .configuring ordered => do
    if Outcomes.failed (← configureForSync ordered) then return .returned
    return .restarting ordered
  | .restarting ordered => do
    if Outcomes.failed (← restartMainLast ordered) then return .returned
    return .enabling
  | .enabling => do
    markHwSync
    return .returned
  | .disableCalled => do
    if (← disableCheck).isSome then return .returned
    return .disabling
  | .disabling => do
    clearHwSync
    return .unsyncing
  | .unsyncing => do
    let _ ← standaloneAll
    return .returned
  | .returned => return .returned

end Reconfig

/-- The coordinator's threads, and the hardware-synchronization calls in flight, in the order
they were made. -/
structure Reconfiguring where
  coordinator : Threads
  calls : List Reconfig := []

/-- What happens next: an event of the coordinator's threads, a hardware-synchronization
call, or the next step of one. -/
inductive ReconfigEvent where
  | coordinator (e : Event)
  | enableHwSync
  | disableHwSync
  | reconfigure (call : Nat)

namespace Reconfiguring

/-- Let hardware-synchronization call `i` take its next step. -/
def advance (s : Reconfiguring) (i : Nat) : Reconfiguring :=
  match s.calls[i]? with
  | none => s
  | some c =>
    let (c', rig) := c.step.run s.coordinator.rig
    { coordinator := { s.coordinator with rig }, calls := s.calls.set i c' }

/-- What an event does. -/
def apply (s : Reconfiguring) : ReconfigEvent → Reconfiguring
  | .coordinator e => { s with coordinator := s.coordinator.apply e }
  | .enableHwSync => { s with calls := s.calls ++ [.enableCalled] }
  | .disableHwSync => { s with calls := s.calls ++ [.disableCalled] }
  | .reconfigure i => s.advance i

/-- Run a schedule. -/
def run (s : Reconfiguring) (evs : List ReconfigEvent) : Reconfiguring := evs.foldl apply s

end Reconfiguring

end DepthRig.Fleet
