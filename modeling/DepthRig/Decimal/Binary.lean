/-!
# Binary floating-point formats

The single and double IEEE 754 formats, a bit pattern classifying as a signed significand
times a power of two, an infinity or a NaN. Two conversions join them to decimal text in
exact `Nat` arithmetic: `roundRatio` rounds a ratio to nearest with ties to even, and
`shortest` finds the fewest digits that read back to the same value.
-/

namespace DepthRig

/-- An IEEE 754 binary format: the width of the stored fraction and of the exponent. -/
structure BinaryFormat where
  fractionBits : Nat
  exponentBits : Nat

/-- A decimal number `digits * 10 ^ exponent`, without a sign. -/
structure Decimal where
  digits : Nat
  exponent : Int
  deriving Repr, BEq, Inhabited

namespace BinaryFormat

/-- Single precision: 23 stored fraction bits and an 8-bit exponent. -/
def single : BinaryFormat := ⟨23, 8⟩

/-- Double precision: 52 stored fraction bits and an 11-bit exponent. -/
def double : BinaryFormat := ⟨52, 11⟩

/-- The exponent bias, `2 ^ (exponentBits - 1) - 1`. -/
def bias (f : BinaryFormat) : Nat := Nat.pow 2 (f.exponentBits - 1) - 1

/-- The all-ones biased exponent that marks infinities and NaNs. -/
def topExponent (f : BinaryFormat) : Nat := Nat.pow 2 f.exponentBits - 1

/-- The bit that carries the sign. -/
def signBit (f : BinaryFormat) : Nat := Nat.pow 2 (f.fractionBits + f.exponentBits)

/-- What a bit pattern of a format denotes. -/
inductive Value where
  /-- `± significand * 2 ^ exponent`, zero included. -/
  | finite (negative : Bool) (significand : Nat) (exponent : Int)
  | infinite (negative : Bool)
  | nan
  deriving Repr, BEq

/-- The stored fraction of a bit pattern. -/
def fraction (f : BinaryFormat) (bits : Nat) : Nat := bits % Nat.pow 2 f.fractionBits

/-- The biased exponent of a bit pattern. -/
def biased (f : BinaryFormat) (bits : Nat) : Nat :=
  bits / Nat.pow 2 f.fractionBits % Nat.pow 2 f.exponentBits

/-- Whether the sign bit of a pattern is set. -/
def isNegative (f : BinaryFormat) (bits : Nat) : Bool :=
  bits / f.signBit % 2 == 1

/-- Classify a bit pattern: subnormals have the least exponent and no hidden bit. -/
def classify (f : BinaryFormat) (bits : Nat) : Value :=
  let frac := f.fraction bits
  let e := f.biased bits
  let neg := f.isNegative bits
  if e == f.topExponent then
    if frac == 0 then .infinite neg else .nan
  else if e == 0 then
    .finite neg frac (1 - (f.bias : Int) - f.fractionBits)
  else
    .finite neg (frac + Nat.pow 2 f.fractionBits) ((e : Int) - f.bias - f.fractionBits)

/-- The bit pattern of an infinity. -/
def infinity (f : BinaryFormat) (negative : Bool) : Nat :=
  (if negative then f.signBit else 0) + f.topExponent * Nat.pow 2 f.fractionBits

end BinaryFormat

/-- The quotient `num / den` rounded to the nearest integer, a tie going to the even one. -/
def roundDivEven (num den : Nat) : Nat :=
  let q := num / den
  let r := num % den
  if 2 * r < den then q
  else if den < 2 * r then q + 1
  else if q % 2 == 0 then q else q + 1

/-- `m * 2 ^ e` rounded to the nearest integer, a half going up. -/
def roundHalfUpPow2 (m : Nat) (e : Int) : Nat :=
  if 0 ≤ e then m * Nat.pow 2 e.toNat
  else (2 * m + Nat.pow 2 (-e).toNat) / (2 * Nat.pow 2 (-e).toNat)

/-- Whether `num / den < 2 ^ e`, for an integer power. -/
def ratioBelowPow2 (num den : Nat) (e : Int) : Bool :=
  if 0 ≤ e then num < den * Nat.pow 2 e.toNat else num * Nat.pow 2 (-e).toNat < den

/-- `⌊log₂ (num / den)⌋` for a positive ratio. -/
def floorLog2Ratio (num den : Nat) : Int :=
  let e : Int := (Nat.log2 num : Int) - Nat.log2 den
  if ratioBelowPow2 num den e then e - 1 else e

namespace BinaryFormat

/-- The bit pattern nearest to `± num / den`, ties to an even significand; a ratio beyond
the largest finite value becomes an infinity and one below half the least subnormal a
signed zero. -/
def roundRatio (f : BinaryFormat) (negative : Bool) (num den : Nat) : Nat :=
  let sign := if negative then f.signBit else 0
  if num == 0 || den == 0 then sign else
  let p := f.fractionBits
  let emin : Int := 1 - (f.bias : Int)
  let e := max (floorLog2Ratio num den) emin
  let q : Int := e - p
  let n := if 0 ≤ q then roundDivEven num (den * Nat.pow 2 q.toNat)
    else roundDivEven (num * Nat.pow 2 (-q).toNat) den
  let (n, q) := if n == Nat.pow 2 (p + 1) then (Nat.pow 2 p, q + 1) else (n, q)
  if (f.bias : Int) < q + p then f.infinity negative
  else if n < Nat.pow 2 p then sign + n
  else sign + (q + p + f.bias).toNat * Nat.pow 2 p + (n - Nat.pow 2 p)

/-- The bit pattern nearest to a signed decimal. -/
def ofDecimal (f : BinaryFormat) (negative : Bool) (d : Decimal) : Nat :=
  if 0 ≤ d.exponent then f.roundRatio negative (d.digits * Nat.pow 10 d.exponent.toNat) 1
  else f.roundRatio negative d.digits (Nat.pow 10 (-d.exponent).toNat)

end BinaryFormat

/-- The number of decimal digits of a natural number, one for zero. -/
def decimalWidth (n : Nat) : Nat := (Nat.toDigits 10 n).length

/-- Drop trailing zero digits, raising the exponent for each. -/
def Decimal.normalize (d : Decimal) : Decimal :=
  go d.digits d.exponent (decimalWidth d.digits)
where
  go (m : Nat) (e : Int) : Nat → Decimal
    | 0 => ⟨m, e⟩
    | fuel + 1 => if m != 0 && m % 10 == 0 then go (m / 10) (e + 1) fuel else ⟨m, e⟩

namespace BinaryFormat

/-- The interval of reals that read back to `significand * 2 ^ exponent`, scaled to whole
units: `value`, `low` and `high` are four times the value and its two bounds in units of
`10 ^ scale`, and `closed` tells whether the bounds themselves read back (an even
significand wins the tie). -/
structure Neighbourhood where
  value : Nat
  low : Nat
  high : Nat
  scale : Int
  closed : Bool

/-- The neighbourhood of a positive finite value of the format. The gap below a power of
two is half the gap above it, except at the least normal exponent. -/
def neighbourhood (f : BinaryFormat) (significand : Nat) (exponent : Int) : Neighbourhood :=
  let (d, scale, gap) :=
    if 0 ≤ exponent then (significand * Nat.pow 2 exponent.toNat, (0 : Int), Nat.pow 2 exponent.toNat)
    else (significand * Nat.pow 5 (-exponent).toNat, exponent, Nat.pow 5 (-exponent).toNat)
  let minNormalExponent : Int := 1 - (f.bias : Int) - f.fractionBits
  let narrowBelow := significand == Nat.pow 2 f.fractionBits && minNormalExponent < exponent
  { value := 4 * d
    low := 4 * d - (if narrowBelow then gap else 2 * gap)
    high := 4 * d + 2 * gap
    scale := scale
    closed := significand % 2 == 0 }

/-- Whether a candidate, in the neighbourhood's units times four, reads back. -/
def Neighbourhood.contains (n : Neighbourhood) (c : Nat) : Bool :=
  if n.closed then n.low ≤ c && c ≤ n.high else n.low < c && c < n.high

/-- The first of `k, k + 1, …, width` significant digits at which a decimal reads back to
the value: the two neighbours of the value on that digit grid are tried, the nearer first. -/
def shortestFrom (n : Neighbourhood) (width : Nat) : Nat → Nat → Decimal
  | 0, _ => ⟨n.value / 4, n.scale⟩
  | fuel + 1, k =>
    let d := n.value / 4
    let grid := Nat.pow 10 (width - k)
    let below := d / grid * grid
    let above := below + grid
    let okBelow := n.contains (4 * below)
    let okAbove := below != d && n.contains (4 * above)
    let e := n.scale + (width - k : Nat)
    if okBelow && okAbove then
      if d - below ≤ above - d then (Decimal.normalize ⟨below / grid, e⟩)
      else (Decimal.normalize ⟨above / grid, e⟩)
    else if okBelow then Decimal.normalize ⟨below / grid, e⟩
    else if okAbove then Decimal.normalize ⟨above / grid, e⟩
    else shortestFrom n width fuel (k + 1)

/-- The shortest decimal that reads back to the positive value `significand * 2 ^ exponent`
of the format, the nearer of two candidates of that length. -/
def shortest (f : BinaryFormat) (significand : Nat) (exponent : Int) : Decimal :=
  let n := f.neighbourhood significand exponent
  let width := decimalWidth (n.value / 4)
  shortestFrom n width width 1

end BinaryFormat

end DepthRig
