import DepthRig.Geometry.Transform
import DepthRig.Scalar

/-!
# Rigid motions in double precision

Alignment produces rigid motions `p ↦ R · p + T` with `R` and `T` in double precision,
together with the root-mean-square distance of the last alignment step. Applying one to a
stored point widens the point, sums each row from the left with the translation last, and
rounds the result back to single precision. Motions compose as "this one, then that one".
-/

namespace DepthRig

/-- A rigid motion `R · p + T` and the RMS distance it was fitted with. -/
structure Rigid where
  /-- Rows of the rotation. -/
  r : Vector (Vector Float 3) 3
  t : Vector Float 3
  rms : Float := 0
  deriving Inhabited

namespace Rigid

/-- The motion that moves nothing. -/
def identity : Rigid :=
  ⟨Vector.ofFn fun i => Vector.ofFn fun j => if i.val == j.val then 1 else 0,
    Vector.replicate 3 0, 0⟩

/-- Entry `(i, j)` of the rotation. -/
def entry (m : Rigid) (i j : Nat) : Float := (m.r[i]?.bind (·[j]?)).getD 0

/-- Coordinate `i` of the translation. -/
def shift (m : Rigid) (i : Nat) : Float := m.t[i]?.getD 0

/-- The rotation as a function of row and column. -/
def rot (m : Rigid) (i j : Fin 3) : Float := m.entry i j

/-- Move a point given in double precision. -/
def move (m : Rigid) (p : Vector Float 3) : Vector Float 3 :=
  Vector.ofFn (Transform.move m.rot (m.shift ·) p.get)

/-- Move a stored point, rounding the result to single precision. -/
def apply (m : Rigid) (p : Point3) : Point3 :=
  let q := Transform.move m.rot (m.shift ·) fun i => (p.coord i).toFloat
  .ofCoords fun i => Single.ofFloat (q i)

/-- `m`, then `n`: the rotation `n.R · m.R` and translation `n.R · m.T + n.T`, each sum
starting from zero (rotation) or from `n.T` (translation); the RMS is `n`'s. -/
def andThen (m n : Rigid) : Rigid :=
  { r := Vector.ofFn fun i => Vector.ofFn fun j =>
      (List.range 3).foldl (fun acc k => acc + n.entry i k * m.entry k j) 0
    t := Vector.ofFn fun i =>
      (List.range 3).foldl (fun acc k => acc + n.entry i k * m.shift k) (n.shift i)
    rms := n.rms }

/-- The rotation's rows, flattened. -/
def rowMajor (m : Rigid) : List Float := (List.range 9).map fun k => m.entry (k / 3) (k % 3)

end Rigid

end DepthRig
