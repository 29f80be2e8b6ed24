import DepthRig.Wire.Frame
import DepthRig.Wire.Bytes
import DepthRig.Text.Utf8

/-!
# PLY point clouds

A frame is written as a binary little-endian PLY, a text header and one 15-byte record per
point, grey for a point without a colour. File names made from identifiers keep only safe
bytes, squeezed, cut to 128 bytes and trimmed, `unknown` when nothing is left.
-/

namespace DepthRig.Ply

/-- The header of a PLY with `n` points. -/
def header (n : Nat) : String :=
  "ply\nformat binary_little_endian 1.0\nelement vertex " ++ toString n ++ "\n"
    ++ "property float x\nproperty float y\nproperty float z\n"
    ++ "property uchar red\nproperty uchar green\nproperty uchar blue\nend_header\n"

/-- The colour a point without one is written with. -/
def grey : Color := ⟨128, 128, 128⟩

/-- One point record. -/
def record (p : Point3) (c : Color) : List UInt8 :=
  Wire.putSingle p.x ++ Wire.putSingle p.y ++ Wire.putSingle p.z ++ [c.r, c.g, c.b]

/-- Colours padded with grey to `n` entries. -/
def paddedColors (cs : List Color) (n : Nat) : List Color :=
  (cs.take n) ++ List.replicate (n - cs.length) grey

/-- A frame as a PLY file. -/
def encode (f : Frame) : List UInt8 :=
  let n := f.vertices.length
  Utf8.encode (header n)
    ++ (f.vertices.zip (paddedColors f.colors n)).flatMap fun (p, c) => record p c

/-- Whether a byte is kept in file names. -/
def keeps (b : UInt8) : Bool :=
  (b ≥ 97 && b ≤ 122) || (b ≥ 65 && b ≤ 90) || (b ≥ 48 && b ≤ 57) || b == 46 || b == 95 || b == 45

/-- The longest file name made, in bytes. -/
def maxNameLength : Nat := 128

/-- Build a name from bytes: kept bytes as they are, each run of others as one `_`. -/
def squeeze : List UInt8 → List UInt8 → Bool → List UInt8
  | [], out, _ => out.reverse
  | b :: rest, out, lastUnderscore =>
    if maxNameLength ≤ out.length then out.reverse
    else if keeps b then squeeze rest (b :: out) (b == 95)
    else if lastUnderscore then squeeze rest out true
    else squeeze rest (95 :: out) true

/-- A safe file name from an identifier's bytes. -/
def sanitize (bs : List UInt8) : String :=
  let trimmed (xs : List UInt8) := xs.dropWhile (fun b => b == 46 || b == 95)
  let out := (trimmed (trimmed (squeeze bs [] false)).reverse).reverse
  if out.isEmpty then "unknown" else String.ofList (out.map fun b => Char.ofNat b.toNat)

/-- A frame index written with at least six characters, zero-padded after any sign. -/
def indexText (i : Int) : String :=
  let digits := toString i.natAbs
  let width := if i < 0 then 5 else 6
  (if i < 0 then "-" else "") ++ String.ofList (List.replicate (width - digits.length) '0') ++ digits

/-- The file name of a frame: its index, the device's safe name when there is one, and
the extension. -/
def frameFileName (index : Int) (device : List UInt8) (compressed : Bool) : String :=
  indexText index ++ (if device.isEmpty then "" else "_" ++ sanitize device) ++ ".ply"
    ++ (if compressed then ".zst" else "")

end DepthRig.Ply
