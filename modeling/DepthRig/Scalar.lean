import DepthRig.Decimal.Text

/-!
# Stored floats

A stored float is its bit pattern (`Single`, `Double`), so storing and reading back is the
identity on bits. Single arithmetic is IEEE 754 arithmetic on the bit patterns, rounded once
to nearest with ties to even and with the processor's NaN rules; comparisons and the other
conversions go through the machine floats of the same width.
-/

namespace DepthRig

namespace BinaryFormat

/-- The quiet bit of a NaN: the top bit of the fraction. -/
def quietBit (f : BinaryFormat) : Nat := Nat.pow 2 (f.fractionBits - 1)

/-- A NaN operand as an operation returns it: its payload kept, made quiet. -/
def quiet (f : BinaryFormat) (bits : Nat) : Nat := bits ||| f.quietBit

/-- The NaN an invalid operation produces: negative and quiet, with no further payload. -/
def defaultNaN (f : BinaryFormat) : Nat :=
  f.signBit + f.topExponent * Nat.pow 2 f.fractionBits + f.quietBit

/-- The bit pattern nearest to `± m * 2 ^ e`. -/
def roundScaled (f : BinaryFormat) (negative : Bool) (m : Nat) (e : Int) : Nat :=
  if 0 ≤ e then f.roundRatio negative (m * Nat.pow 2 e.toNat) 1
  else f.roundRatio negative m (Nat.pow 2 (-e).toNat)

/-- The rounded sum of two patterns. An exact zero sum is positive unless both addends are
negative. -/
def addBits (f : BinaryFormat) (a b : Nat) : Nat :=
  match f.classify a, f.classify b with
  | .nan, _ => f.quiet a
  | _, .nan => f.quiet b
  | .infinite na, .infinite nb => if na == nb then f.infinity na else f.defaultNaN
  | .infinite na, .finite .. => f.infinity na
  | .finite .., .infinite nb => f.infinity nb
  | .finite na ma ea, .finite nb mb eb =>
    let e := min ea eb
    let signed (neg : Bool) (m : Nat) (e' : Int) : Int :=
      if neg then -((m * Nat.pow 2 (e' - e).toNat : Nat) : Int) else ((m * Nat.pow 2 (e' - e).toNat : Nat) : Int)
    let s := signed na ma ea + signed nb mb eb
    if s == 0 then (if na && nb then f.signBit else 0)
    else f.roundScaled (s < 0) s.natAbs e

/-- The rounded difference of two patterns: the sum with the subtrahend's sign flipped,
except that a NaN subtrahend is returned as it is, made quiet. -/
def subBits (f : BinaryFormat) (a b : Nat) : Nat :=
  match f.classify a, f.classify b with
  | .nan, _ => f.quiet a
  | _, .nan => f.quiet b
  | _, _ => f.addBits a (b ^^^ f.signBit)

/-- The rounded product of two patterns. -/
def mulBits (f : BinaryFormat) (a b : Nat) : Nat :=
  match f.classify a, f.classify b with
  | .nan, _ => f.quiet a
  | _, .nan => f.quiet b
  | .finite na ma ea, .finite nb mb eb => f.roundScaled (na != nb) (ma * mb) (ea + eb)
  | .infinite na, .finite nb m _ | .finite nb m _, .infinite na =>
    if m == 0 then f.defaultNaN else f.infinity (na != nb)
  | .infinite na, .infinite nb => f.infinity (na != nb)

/-- The rounded quotient of two patterns. -/
def divBits (f : BinaryFormat) (a b : Nat) : Nat :=
  match f.classify a, f.classify b with
  | .nan, _ => f.quiet a
  | _, .nan => f.quiet b
  | .infinite _, .infinite _ => f.defaultNaN
  | .infinite na, .finite nb _ _ => f.infinity (na != nb)
  | .finite na _ _, .infinite nb => if na != nb then f.signBit else 0
  | .finite na ma ea, .finite nb mb eb =>
    if mb == 0 then (if ma == 0 then f.defaultNaN else f.infinity (na != nb))
    else
      let e := ea - eb
      if 0 ≤ e then f.roundRatio (na != nb) (ma * Nat.pow 2 e.toNat) mb
      else f.roundRatio (na != nb) ma (mb * Nat.pow 2 (-e).toNat)

end BinaryFormat

/-- A single-precision float, kept as its IEEE 754 bit pattern. -/
structure Single where
  bits : UInt32
  deriving BEq, DecidableEq, Hashable, Inhabited, Repr

/-- A double-precision float, kept as its IEEE 754 bit pattern. -/
structure Double where
  bits : UInt64
  deriving BEq, DecidableEq, Hashable, Inhabited, Repr

namespace Single

/-- The machine float with these bits. -/
def toFloat32 (x : Single) : Float32 := Float32.ofBits x.bits

/-- The bits of a machine float. -/
def ofFloat32 (f : Float32) : Single := ⟨f.toBits⟩

/-- Positive zero. -/
def zero : Single := ⟨0⟩

/-- One. -/
def one : Single := ⟨0x3F800000⟩

/-- The exact value widened to double precision. -/
def toFloat (x : Single) : Float := x.toFloat32.toFloat

/-- The nearest single to a double. -/
def ofFloat (f : Float) : Single := ofFloat32 f.toFloat32

/-- The single nearest to a signed decimal. -/
def ofDecimal (negative : Bool) (d : Decimal) : Single :=
  ⟨(BinaryFormat.single.ofDecimal negative d).toUInt32⟩

/-- The nearest single to an integer. -/
def ofInt (i : Int) : Single :=
  ofDecimal (i < 0) ⟨i.natAbs, 0⟩

/-- An operation on bit patterns applied to singles. -/
def lift (op : BinaryFormat → Nat → Nat → Nat) (a b : Single) : Single :=
  ⟨(op BinaryFormat.single a.bits.toNat b.bits.toNat).toUInt32⟩

instance : Add Single := ⟨lift BinaryFormat.addBits⟩
instance : Sub Single := ⟨lift BinaryFormat.subBits⟩
instance : Mul Single := ⟨lift BinaryFormat.mulBits⟩
instance : Div Single := ⟨lift BinaryFormat.divBits⟩
instance : Neg Single := ⟨fun a => ⟨a.bits ^^^ 0x80000000⟩⟩

/-- Numeric equality: NaN equals nothing and the two zeros are equal. -/
def eqv (a b : Single) : Bool := a.toFloat32 == b.toFloat32

/-- Numeric order. -/
def lt (a b : Single) : Bool := a.toFloat32 < b.toFloat32

/-- Whether the value is a NaN. -/
def isNaN (x : Single) : Bool := x.toFloat32.isNaN

/-- Whether the value is finite. -/
def isFinite (x : Single) : Bool := BinaryFormat.single.biased x.bits.toNat != 255

/-- Shortest text in a layout. -/
def text (t : FloatText) (x : Single) : String :=
  BinaryFormat.single.shortestText t x.bits.toNat

/-- Fixed text with `places` decimals. -/
def fixed (places : Nat) (x : Single) : String :=
  BinaryFormat.single.fixedText places x.bits.toNat

end Single

namespace Double

/-- The machine float with these bits. -/
def toFloat (x : Double) : Float := Float.ofBits x.bits

/-- The bits of a machine float. -/
def ofFloat (f : Float) : Double := ⟨f.toBits⟩

/-- The double nearest to a signed decimal. -/
def ofDecimal (negative : Bool) (d : Decimal) : Double :=
  ⟨(BinaryFormat.double.ofDecimal negative d).toUInt64⟩

/-- The double nearest to a natural number, a tie going to the even significand. -/
def ofNat (n : Nat) : Double := ⟨(BinaryFormat.double.roundRatio false n 1).toUInt64⟩

instance : Sub Double :=
  ⟨fun a b => ⟨(BinaryFormat.double.subBits a.bits.toNat b.bits.toNat).toUInt64⟩⟩

/-- Shortest text in a layout. -/
def text (t : FloatText) (x : Double) : String :=
  BinaryFormat.double.shortestText t x.bits.toNat

/-- Whether the value is finite. -/
def isFinite (x : Double) : Bool := BinaryFormat.double.biased x.bits.toNat != 2047

end Double

/-- A point in metres, or any triple of singles. -/
structure Point3 where
  x : Single
  y : Single
  z : Single
  deriving BEq, DecidableEq, Inhabited, Repr

/-- A point in the colour camera's pixel space. -/
structure Point2 where
  x : Single
  y : Single
  deriving BEq, DecidableEq, Inhabited, Repr

namespace Point3

/-- The origin. -/
def origin : Point3 := ⟨.zero, .zero, .zero⟩

/-- The coordinates as a list. -/
def toList (p : Point3) : List Single := [p.x, p.y, p.z]

/-- A point from the first three entries of a list, missing ones zero. -/
def ofList (xs : List Single) : Point3 :=
  ⟨xs.getD 0 .zero, xs.getD 1 .zero, xs.getD 2 .zero⟩

/-- The coordinate at a position: `x`, `y`, then `z`. -/
def coord (p : Point3) : Fin 3 → Single
  | 0 => p.x
  | 1 => p.y
  | 2 => p.z

/-- The point with the given coordinates. -/
def ofCoords (f : Fin 3 → Single) : Point3 := ofList (List.ofFn f)

end Point3

end DepthRig
