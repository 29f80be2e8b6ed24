import DepthRig.Wire.Frame
import DepthRig.Json.Numbers

/-!
# Frames as JSON

The JSON form of a frame: `vertices` as `[x, y, z]` triples in metres, `colors` as
`[r, g, b]` triples, and `bodies`, each `{tracked, joints}` with joints
`{type, state, position, color_space}`. When read, every field may be missing and then
takes its zero value; when written, every list is present.
-/

namespace DepthRig

namespace Json

/-- A field of an object, `null` when missing. -/
def get (j : Json) (name : String) : Json := (j.field? name).getD .null

/-- A point from `[x, y, z]`. -/
def readPoint3 (j : Json) : Except String Point3 := (readSingles j).map Point3.ofList

/-- A point from `[x, y, z]`, if it reads. -/
def point3? (j : Json) : Option Point3 := (readPoint3 j).toOption

/-- A point from `[x, y]`. -/
def readPoint2 (j : Json) : Except String Point2 :=
  (readSingles j).map fun xs => ⟨xs.getD 0 .zero, xs.getD 1 .zero⟩

/-- A colour from `[r, g, b]`. -/
def color? (j : Json) : Option Color := do
  let xs ← j.items.mapM integer?
  pure ⟨(xs.getD 0 0).toNat.toUInt8, (xs.getD 1 0).toNat.toUInt8, (xs.getD 2 0).toNat.toUInt8⟩

/-- A colour from `[r, g, b]`, or why not. -/
def readColor (j : Json) : Except String Color :=
  match color? j with
  | some c => .ok c
  | none => .error "not a colour"

/-- An integer field, or why not. -/
def readInteger (j : Json) : Except String Int :=
  match integer? j with
  | some n => .ok n
  | none => .error "not an integer"

/-- A joint from its object. -/
def readJoint (j : Json) : Except String Joint := do
  let kind ← readInteger (j.get "type")
  let state ← readInteger (j.get "state")
  let position ← readPoint3 (j.get "position")
  let colorSpace ← readPoint2 (j.get "color_space")
  pure ⟨Int32.ofInt kind, Int32.ofInt state, position, colorSpace⟩

/-- A body from its object. -/
def readBody (j : Json) : Except String Body := do
  let joints ← (j.get "joints").items.mapM readJoint
  pure ⟨(j.get "tracked").bool?.getD false, joints⟩

/-- A body from its object, if it reads. -/
def body? (j : Json) : Option Body := (readBody j).toOption

/-- A frame from its object; `null` is no frame. -/
def readFrame (j : Json) : Except String (Option Frame) :=
  if j.isNull then .ok none else do
    let vs ← (j.get "vertices").items.mapM readPoint3
    let cs ← (j.get "colors").items.mapM readColor
    let bs ← (j.get "bodies").items.mapM readBody
    pure (some { vertices := vs, colors := cs, bodies := bs })

/-- A frame from its object, if it reads; `null` is no frame. -/
def frame? (j : Json) : Option (Option Frame) := (readFrame j).toOption

/-- A point as `[x, y, z]`. -/
def ofPoint3 (p : Point3) : Json := ofSingles p.toList

/-- A joint as its object. -/
def ofJoint (j : Joint) : Json :=
  .object [("type", .ofInt j.kind.toInt), ("state", .ofInt j.state.toInt),
    ("position", ofPoint3 j.position),
    ("color_space", ofSingles [j.colorSpace.x, j.colorSpace.y])]

/-- A body as its object. -/
def ofBody (b : Body) : Json :=
  .object [("tracked", .bool b.tracked), ("joints", .array (b.joints.map ofJoint))]

/-- A frame as its object. -/
def ofFrame (f : Frame) : Json :=
  .object [("vertices", .array (f.vertices.map ofPoint3)),
    ("colors", .array (f.colors.map fun c => .array [.ofNat c.r.toNat, .ofNat c.g.toNat, .ofNat c.b.toNat])),
    ("bodies", .array (f.bodies.map ofBody))]

/-- A frame that may be absent: `null` when it is. -/
def ofFrame? (f : Option Frame) : Json := (f.map ofFrame).getD .null

end Json

end DepthRig
