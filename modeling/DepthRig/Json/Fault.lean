import DepthRig.Json.Value
import DepthRig.Fault

/-!
# Faults as JSON

A fault is answered as an object with its reported kind under `error` and its text under
`message`; no fault is `null`.
-/

namespace DepthRig.Json

/-- A fault as JSON. -/
def ofFault (f : Fault) : Json :=
  .object [("error", .string f.kindName), ("message", .string f.message)]

/-- A fault or its absence as JSON. -/
def ofFault? : Option Fault → Json
  | some f => ofFault f
  | none => .null

end DepthRig.Json
