import DepthRig.Decimal.Binary

/-!
# Decimal text of binary floats

How the rig lays out a float's digits as text, the digits coming from
`BinaryFormat.shortest` or from rounding to fixed places: positionally (`Decimal.plain`), in
scientific form (`Decimal.scientific`), or as one kind of output decides (`FloatText`).
-/

namespace DepthRig

/-- The decimal digits of a natural number. -/
def digitText (n : Nat) : String := String.ofList (Nat.toDigits 10 n)

/-- `n` zero characters. -/
def zeros (n : Nat) : String := String.ofList (List.replicate n '0')

namespace Decimal

/-- The position of the leading digit: `⌊log₁₀ value⌋` for a nonzero value. -/
def leadExponent (d : Decimal) : Int := d.exponent + (decimalWidth d.digits : Int) - 1

/-- Positional text with no exponent and no trailing fraction zeros: `1200`, `0.0012`. -/
def plain (d : Decimal) : String :=
  let s := digitText d.digits
  if 0 ≤ d.exponent then
    if d.digits == 0 then "0" else s ++ zeros d.exponent.toNat
  else
    let k := (-d.exponent).toNat
    if k < s.length then
      String.ofList (s.toList.take (s.length - k)) ++ "." ++ String.ofList (s.toList.drop (s.length - k))
    else "0." ++ zeros (k - s.length) ++ s

/-- Scientific text `d.ddde±XX`; the exponent has at least `expDigits` digits. -/
def scientific (d : Decimal) (expDigits : Nat) : String :=
  let s := digitText d.digits
  let mant := match s.toList with
    | [] => "0"
    | [c] => String.ofList [c]
    | c :: rest => String.ofList (c :: '.' :: rest)
  let x := d.leadExponent
  let mag := digitText x.natAbs
  let mag := zeros (expDigits - mag.length) ++ mag
  mant ++ "e" ++ (if x < 0 then "-" else "+") ++ mag

end Decimal

/-- The layout of a shortest float: positional when the leading digit's exponent lies in
`[minPlain, maxPlain)`, scientific otherwise with at least `expDigits` exponent digits. -/
structure FloatText where
  minPlain : Int
  maxPlain : Int
  expDigits : Nat

namespace FloatText

/-- Numbers in structured data: positional from `1e-6` up to below `1e21`, then an exponent
of at least one digit. -/
def data : FloatText := ⟨-6, 21, 1⟩

/-- Numbers in messages: positional from `1e-4` up to below `1e6`, then an exponent of at
least two digits, as in `1e+06`. -/
def message : FloatText := ⟨-4, 6, 2⟩

/-- Lay out a signed shortest decimal. Zero is `0`. -/
def render (t : FloatText) (negative : Bool) (d : Decimal) : String :=
  let body :=
    if d.digits == 0 then "0"
    else
      let x := d.leadExponent
      if t.minPlain ≤ x && x < t.maxPlain then d.plain else d.scientific t.expDigits
  (if negative then "-" else "") ++ body

end FloatText

namespace BinaryFormat

/-- The shortest text of a bit pattern in a layout; non-finite values are `NaN`, `+Inf`
and `-Inf`. -/
def shortestText (f : BinaryFormat) (t : FloatText) (bits : Nat) : String :=
  match f.classify bits with
  | .nan => "NaN"
  | .infinite neg => if neg then "-Inf" else "+Inf"
  | .finite neg m e =>
    if m == 0 then (if neg then "-0" else "0") else t.render neg (f.shortest m e)

/-- The value of a finite pattern rounded to `places` decimals, a tie going to the even
last digit, written positionally with exactly that many decimals; the sign of a negative
value is kept even when it rounds to zero. -/
def fixedText (f : BinaryFormat) (places : Nat) (bits : Nat) : String :=
  match f.classify bits with
  | .nan => "NaN"
  | .infinite neg => if neg then "-Inf" else "+Inf"
  | .finite neg m e =>
    let scaled :=
      if 0 ≤ e then m * Nat.pow 2 e.toNat * Nat.pow 10 places
      else roundDivEven (m * Nat.pow 10 places) (Nat.pow 2 (-e).toNat)
    let s := digitText scaled
    let s := zeros (places + 1 - s.length) ++ s
    let intPart := String.ofList (s.toList.take (s.length - places))
    let fracPart := String.ofList (s.toList.drop (s.length - places))
    (if neg then "-" else "") ++ intPart ++ (if places == 0 then "" else "." ++ fracPart)

end BinaryFormat

end DepthRig
