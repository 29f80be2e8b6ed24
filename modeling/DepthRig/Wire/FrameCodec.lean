import DepthRig.Wire.Frame
import DepthRig.Wire.Reader

/-!
# Frame payloads

A frame is a vertex count and per point its colour and position in whole millimetres, then a
body count and per body its tracked byte and joints. A vertex count of `-1` is the end of the
stored frames and any other negative count a spurious length; every other count is checked
against the bytes left before its records are read.
-/

namespace DepthRig.Wire

/-- What a frame payload holds: a frame, or the end of the stored frames. -/
inductive Payload where
  | frame (f : Frame)
  | endOfStored
  deriving BEq, Inhabited, Repr

/-- Bytes per point record. -/
def vertexRecordSize : Nat := 9

/-- Bytes per joint record. -/
def jointRecordSize : Nat := 28

/-- A position in whole millimetres as metres: the single nearest to `mm / 1000`. -/
def metresOfMillimetres (mm : Int16) : Single :=
  Single.ofDecimal (mm.toInt < 0) ⟨mm.toInt.natAbs, -3⟩

/-- Metres as whole millimetres: the exact value times 1000 rounded half away from zero
and clamped to the 16-bit range. The product is exact in double precision, so this is
the double computation; an infinity goes to the nearer end and a NaN to zero. -/
def millimetresOfMetres (m : Single) : Int16 :=
  match BinaryFormat.single.classify m.bits.toNat with
  | .finite negative significand exponent =>
    let r : Int := roundHalfUpPow2 (significand * 1000) exponent
    let mm := if negative then -r else r
    if 32767 < mm then 32767
    else if mm < -32768 then -32768
    else Int16.ofInt mm
  | .infinite negative => if negative then -32768 else 32767
  | .nan => 0

/-- Split bytes into `n` records of `k` bytes each (the bytes are known to suffice). -/
def records (k : Nat) (bs : List UInt8) (n : Nat) : List (List UInt8) :=
  go bs n #[]
where
  go (bs : List UInt8) : Nat → Array (List UInt8) → List (List UInt8)
    | 0, acc => acc.toList
    | m + 1, acc => let (r, rest) := bs.splitAt k; go rest m (acc.push r)

/-- A point record: colour, then millimetre coordinates. -/
def vertexOfRecord (r : List UInt8) : Color × Point3 :=
  let mm (i : Nat) := metresOfMillimetres (i16OfBytes ((r.drop i).take 2))
  (⟨r.getD 0 0, r.getD 1 0, r.getD 2 0⟩, ⟨mm 3, mm 5, mm 7⟩)

/-- A joint record. -/
def jointOfRecord (r : List UInt8) : Joint :=
  let word (i : Nat) := (r.drop i).take 4
  let s (i : Nat) : Single := ⟨u32OfBytes (word i)⟩
  { kind := i32OfBytes (word 0), state := i32OfBytes (word 4)
    position := ⟨s 8, s 12, s 16⟩, colorSpace := ⟨s 20, s 24⟩ }

/-- One body: its tracked byte, joint count and joint records. -/
def decodeBody (index : Nat) : Decode Body := do
  let tracked ← flag field
  let n ← i32 field
  let rem ← remaining
  if n.toInt < 0 || rem < n.toInt.toNat * jointRecordSize then
    fail (.jointOverflow index n.toInt)
  else
    let bs ← field (n.toInt.toNat * jointRecordSize)
    pure ⟨tracked, (records jointRecordSize bs n.toInt.toNat).map jointOfRecord⟩

/-- Bodies `index, index + 1, …`, `count` of them. -/
def decodeBodies : Nat → Nat → Decode (List Body)
  | 0, _ => pure []
  | count + 1, index => do
    let b ← decodeBody index
    let bs ← decodeBodies count (index + 1)
    pure (b :: bs)

/-- The rest of a frame payload after a vertex count of `count`: the point records, then
the bodies. -/
def frameContents (count : Nat) : Decode Frame := do
  let rem ← remaining
  if rem < count * vertexRecordSize then
    fail (.vertexOverflow count (count * vertexRecordSize) rem)
  else
    let bs ← field (count * vertexRecordSize)
    let pts := (records vertexRecordSize bs count).map vertexOfRecord
    let nb ← i32 field
    if nb.toInt < 0 then fail (.negativeBodyCount nb.toInt)
    else
      let rem ← remaining
      if rem < nb.toInt.toNat * 5 then fail (.bodyOverflow nb.toInt.toNat)
      else
        let bodies ← decodeBodies nb.toInt.toNat 0
        pure { vertices := pts.map (·.2), colors := pts.map (·.1), bodies := bodies }

/-- The reader of one frame payload. -/
def payloadReader : Decode Payload := do
  let n ← i32 field
  if n.toInt == -1 then pure .endOfStored
  else if n.toInt < 0 then fail (.spuriousVertexCount n.toInt)
  else .frame <$> frameContents n.toInt.toNat

/-- Decode a whole frame payload. -/
def decodePayload (bs : List UInt8) : Except WireError Payload :=
  match (payloadReader.runOn (Cursor.start bs)).1 with
  | .ok p => .ok p
  | .error (.wire e) => .error e
  | .error _ => .error (.short 0 0 0)

/-- The bytes of one joint. -/
def encodeJoint (j : Joint) : List UInt8 :=
  putI32 j.kind ++ putI32 j.state ++ putSingle j.position.x ++ putSingle j.position.y
    ++ putSingle j.position.z ++ putSingle j.colorSpace.x ++ putSingle j.colorSpace.y

/-- The bytes of one body. -/
def encodeBody (b : Body) : List UInt8 :=
  putBool b.tracked ++ putCount b.joints.length ++ b.joints.flatMap encodeJoint

/-- The bytes of one point: its colour (black when missing) and its millimetres. -/
def encodeVertex (f : Frame) (i : Nat) (p : Point3) : List UInt8 :=
  let c := f.colorAt i ⟨0, 0, 0⟩
  [c.r, c.g, c.b] ++ putI16 (millimetresOfMetres p.x) ++ putI16 (millimetresOfMetres p.y)
    ++ putI16 (millimetresOfMetres p.z)

/-- The payload of a frame; an absent frame is written as an empty one. -/
def encodeFrame (f : Option Frame) : List UInt8 :=
  let f := f.getD Frame.empty
  putCount f.vertices.length ++ (f.vertices.zipIdx.flatMap fun (p, i) => encodeVertex f i p)
    ++ putCount f.bodies.length ++ f.bodies.flatMap encodeBody

/-- The payload that says no stored frames remain. -/
def endOfStoredPayload : List UInt8 := putI32 (-1)

end DepthRig.Wire
