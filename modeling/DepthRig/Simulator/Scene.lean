import DepthRig.Random.LaggedFibonacci
import DepthRig.Wire.Calibration

/-!
# Scenes and poses of simulated sensors

A simulated sensor looks at a fixed cloud of world points, spread through an asymmetric box so
that registering two views has a single answer, each coordinate a seeded float draw rounded to
single precision. A sensor's pose maps local points to world points, `R · (local + T)`.
-/

namespace DepthRig.Simulator

open DepthRig.Random

/-- One point of a random scene and the generator after it. -/
def randomPoint (g : Generator) : Point3 × Generator :=
  let (x, g) := g.float64
  let (y, g) := g.float64
  let (z, g) := g.float64
  (⟨Single.ofFloat (x * 2.0 - 1.0), Single.ofFloat (y * 1.2 - 0.4), Single.ofFloat (z * 0.8 + 1.0)⟩, g)

/-- `n` points drawn one after another. -/
def randomPoints : Nat → Generator → List Point3
  | 0, _ => []
  | n + 1, g =>
    let (p, g) := randomPoint g
    p :: randomPoints n g

/-- The random scene of `n` points for a seed. -/
def randomScene (n : Nat) (seed : Int) : List Point3 := randomPoints n (Generator.seeded seed)

/-- The pose turned by `yaw` radians about the vertical axis, with translation `t`; the
cosine and sine are rounded to single precision. -/
def yawPose (yaw : Float) (t : Point3) : CalibrationRecord :=
  let c := Single.ofFloat (Float.cos yaw)
  let s := Single.ofFloat (Float.sin yaw)
  ⟨0, Vector.ofFn fun i => [c, .zero, s, .zero, .one, .zero, -s, .zero, c].getD i.val .zero, t⟩

/-- The column `j` of a row-major rotation, as a dot product with a point summed from the
left in single precision. -/
def columnDot (r : Rotation) (j : Nat) (p : Point3) : Single :=
  r.toList.getD j .zero * p.x + r.toList.getD (3 + j) .zero * p.y + r.toList.getD (6 + j) .zero * p.z

/-- World points in the sensor frame of a pose: `Rᵀ · world - T`. -/
def toLocal (world : List Point3) (pose : CalibrationRecord) : List Point3 :=
  world.map fun p =>
    ⟨columnDot pose.rotation 0 p - pose.translation.x, columnDot pose.rotation 1 p - pose.translation.y,
      columnDot pose.rotation 2 p - pose.translation.z⟩

end DepthRig.Simulator
