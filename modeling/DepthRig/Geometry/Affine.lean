import DepthRig.Geometry.Transform
import DepthRig.Wire.Calibration

/-!
# Rigid transforms of sensor points

A sensor's transform into world space is a rotation `R` (row-major, single precision) and a
translation `T`, and a sensor-local point `p` goes to `R · (p + T)`. Every product and sum
is one single-precision operation, summed from the left.

The camera pose of a world transform keeps `R` and moves the translation to `R · T`: the
camera's place in world space when `R` is orthonormal (it is not an inverse in general).
-/

namespace DepthRig

/-- A rigid transform: a row-major rotation and a translation applied before it. -/
structure Affine where
  r : Rotation
  t : Point3
  deriving BEq, Inhabited, Repr

namespace Affine

/-- The identity transform. -/
def identity : Affine := ⟨Rotation.identity, Point3.origin⟩

/-- Entry `(i, j)` of the rotation. -/
def entry (a : Affine) (i j : Nat) : Single := a.r.toList.getD (i * 3 + j) .zero

/-- The rotation as a function of row and column. -/
def rot (a : Affine) (i j : Fin 3) : Single := a.entry i j

/-- A sensor-local point in world space: `R · (p + T)`. -/
def apply (a : Affine) (p : Point3) : Point3 :=
  .ofCoords (Transform.place a.rot a.t.coord p.coord)

/-- The transform with a rotation and a translation given by coordinates. -/
def ofParts (parts : (Fin 3 → Fin 3 → Single) × (Fin 3 → Single)) : Affine :=
  ⟨Vector.ofFn fun k : Fin 9 => parts.1 ⟨k / 3, by omega⟩ ⟨k % 3, by omega⟩, .ofCoords parts.2⟩

/-- The camera pose of a world transform: the same rotation, and `R · T` as translation,
each sum starting from positive zero. -/
def cameraPose (a : Affine) : Affine :=
  let coord (i : Nat) := Single.zero + a.t.x * a.entry i 0 + a.t.y * a.entry i 1 + a.t.z * a.entry i 2
  ⟨a.r, ⟨coord 0, coord 1, coord 2⟩⟩

/-- The product of two rotation rows in double precision, summed from zero. -/
def rowDot (a : Affine) (i j : Nat) : Float :=
  (List.range 3).foldl (fun acc k => acc + (a.entry i k).toFloat * (a.entry j k).toFloat) 0

/-- The determinant of the rotation in double precision, expanded along the first row. -/
def det (a : Affine) : Float :=
  let e (i j : Nat) := (a.entry i j).toFloat
  e 0 0 * (e 1 1 * e 2 2 - e 1 2 * e 2 1) - e 0 1 * (e 1 0 * e 2 2 - e 1 2 * e 2 0)
    + e 0 2 * (e 1 0 * e 2 1 - e 1 1 * e 2 0)

/-- Whether `R · Rᵀ` is the identity within `tol` and `R` keeps orientation. A row product
that is NaN is not counted as off. -/
def orthonormal (a : Affine) (tol : Float) : Bool :=
  let pairs := (List.range 3).flatMap fun i => (List.range 3).map fun j => (i, j)
  pairs.all (fun (i, j) => !((a.rowDot i j - (if i == j then 1 else 0)).abs > tol)) && a.det > 0

end Affine

end DepthRig
