import DepthRig.Link.State

/-!
# Per-device outcomes

An operation over the fleet runs on every sensor and keeps one outcome per sensor, in
fleet order; one sensor failing never stops the others. The outcomes together fail when
any one does, and their fault joins every failure, each prefixed with its endpoint.

Hardware synchronization needs exactly one sensor whose sync jack is the main one and
every other a subordinate; the check orders the main sensor first.
-/

namespace DepthRig

/-- One sensor's result of a fleet operation. -/
structure Outcome where
  endpoint : String
  serial : String
  fault : Option Fault := none
  deriving Inhabited, Repr

namespace Outcome

/-- Whether the operation failed on this sensor. -/
def failed (o : Outcome) : Bool := o.fault.isSome

end Outcome

namespace Outcomes

/-- Whether any sensor failed. -/
def failed (os : List Outcome) : Bool := os.any Outcome.failed

/-- The endpoints of the sensors that failed, to retry only those. -/
def failedEndpoints (os : List Outcome) : List String :=
  (os.filter Outcome.failed).map (·.endpoint)

/-- Every failure, prefixed with its endpoint, as one fault; none when all succeeded. -/
def fault (os : List Outcome) : Option Fault :=
  Fault.join (os.filterMap fun o => o.fault.map (Fault.wrap o.endpoint))

/-- The outcomes as `endpoint=ok` or `endpoint=<fault>`, separated by commas. -/
def text (os : List Outcome) : String :=
  ", ".intercalate (os.map fun o =>
    o.endpoint ++ "=" ++ match o.fault with
      | some f => f.message
      | none => "ok")

/-- The items whose outcome succeeded. -/
def succeeded {α : Type} (xs : List α) (os : List Outcome) : List α :=
  ((xs.zip os).filter fun (_, o) => !o.failed).map (·.1)

end Outcomes

/-- The fault of an operation that needs at least one sensor. -/
def Fault.noDevices : Fault := .ofKind .noDevices "no devices connected"

/-- A fault of an invalid sync-jack layout. -/
def Fault.hardwareSyncInvalid (detail : String) : Fault :=
  .ofKind .hardwareSyncInvalid ("invalid hardware sync topology: " ++ detail)

/-- Order sensors for hardware synchronization by their links: the one main sensor first,
then the subordinates in fleet order. Any other sync-jack state, a second main sensor or
no main sensor at all is refused. -/
def orderForHardwareSync {α : Type} (linkOf : α → Link) (xs : List α) : Except Fault (List α) :=
  if xs.isEmpty then .error .noDevices else go xs none []
where
  go : List α → Option α → List α → Except Fault (List α)
    | [], none, _ => .error (.hardwareSyncInvalid "no device reports a main sync jack")
    | [], some m, subs => .ok (m :: subs.reverse)
    | x :: rest, main, subs =>
      let l := linkOf x
      let hw := l.config.hardwareSync
      if hw == SyncState.main then
        match main with
        | some m => .error (.hardwareSyncInvalid
            ((linkOf m).endpoint ++ " and " ++ l.endpoint ++ " both report a main sync jack"))
        | none => go rest (some x) subs
      else if hw == SyncState.subordinate then go rest main (x :: subs)
      else .error (.hardwareSyncInvalid (l.endpoint ++ " reports sync jack state " ++ hw.name))

end DepthRig
