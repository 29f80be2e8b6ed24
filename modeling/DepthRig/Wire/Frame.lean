import DepthRig.Scalar

/-!
# Frames

A frame is one capture of one sensor: a point cloud in metres with a colour per point,
and the skeletons the sensor tracked. Points and colours are parallel lists; a colour
list may be shorter than the point list, and every consumer says what a missing colour
becomes.
-/

namespace DepthRig

/-- An RGB colour. -/
structure Color where
  r : UInt8
  g : UInt8
  b : UInt8
  deriving BEq, DecidableEq, Inhabited, Repr

/-- One skeleton joint: a device-defined joint type, a tracking state, its position in
metres and its projection into the colour image. -/
structure Joint where
  kind : Int32
  state : Int32
  position : Point3
  colorSpace : Point2
  deriving BEq, DecidableEq, Inhabited, Repr

/-- One skeleton, with as many joints as the device sent. -/
structure Body where
  tracked : Bool
  joints : List Joint
  deriving BEq, DecidableEq, Inhabited, Repr

/-- One capture of one sensor. -/
structure Frame where
  vertices : List Point3 := []
  colors : List Color := []
  bodies : List Body := []
  deriving BEq, DecidableEq, Inhabited, Repr

namespace Frame

/-- The frame with nothing in it. -/
def empty : Frame := {}

/-- The number of points of a frame that may be absent. -/
def vertexCount : Option Frame → Nat
  | some f => f.vertices.length
  | none => 0

/-- Whether a frame that may be absent has neither points nor bodies. -/
def isEmpty : Option Frame → Bool
  | some f => f.vertices.isEmpty && f.bodies.isEmpty
  | none => true

/-- The frames present, concatenated in order: points, colours and bodies each. -/
def merge (frames : List (Option Frame)) : Frame :=
  let fs := frames.filterMap id
  { vertices := fs.flatMap (·.vertices)
    colors := fs.flatMap (·.colors)
    bodies := fs.flatMap (·.bodies) }

/-- The colour of point `i`, or `fallback` when the colour list is too short. -/
def colorAt (f : Frame) (i : Nat) (fallback : Color) : Color := f.colors.getD i fallback

/-- Apply a map to every point and every joint position. -/
def mapPoints (f : Frame) (g : Point3 → Point3) : Frame :=
  { f with
    vertices := f.vertices.map g
    bodies := f.bodies.map fun b => { b with joints := b.joints.map fun j => { j with position := g j.position } } }

end Frame

end DepthRig
