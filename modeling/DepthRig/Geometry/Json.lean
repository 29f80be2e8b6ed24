import DepthRig.Geometry.Rigid
import DepthRig.Geometry.Affine
import DepthRig.Wire.FrameJson

/-!
# Transforms as JSON

A rigid motion is answered as `{r, t, rms}` in double precision, with `r` row-major. A
motion is read from `r` (nine doubles) and `t` (three); missing entries are zero.
-/

namespace DepthRig.Json

/-- A double-precision value as JSON. -/
def ofFloat (x : Float) : Json := ofDouble (Double.ofFloat x)

/-- A motion as `{r, t, rms}`. -/
def ofMotion (m : Rigid) : Json :=
  .object [("r", .array (m.rowMajor.map ofFloat)),
    ("t", .array ((List.range 3).map fun i => ofFloat (m.shift i))), ("rms", ofFloat m.rms)]

/-- Doubles from an array; `null` is empty. -/
def floats? (j : Json) : Option (List Float) :=
  j.items.mapM fun x => (double? x).map Double.toFloat

/-- A motion from `r` and `t`. -/
def motion? (j : Json) : Option Rigid := do
  let r ← floats? (j.get "r")
  let t ← floats? (j.get "t")
  pure ⟨Vector.ofFn fun i => Vector.ofFn fun k => r.getD (3 * i.val + k.val) 0,
    Vector.ofFn fun i => t.getD i.val 0, 0⟩

/-- Points of singles from an array. -/
def points? (j : Json) : Option (List Point3) := j.items.mapM point3?

/-- Points as an array. -/
def ofPoints (ps : List Point3) : Json := .array (ps.map ofPoint3)

end DepthRig.Json
