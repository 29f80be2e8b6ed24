import DepthRig.Decimal.Binary

/-!
# Numbers written as text

A text written into a numeric column is stored as a number when all of it, blanks at the ends
apart, spells one: a sign, digits with at most one point and an optional exponent. Here the
text is read and its value rounded once to a double, to nearest with ties to even.
-/

namespace DepthRig.Store

/-- The blanks a number may stand between: space, tab, line feed, vertical tab, form feed
and carriage return. -/
def isNumberBlank (c : Char) : Bool := c == ' ' || (9 ≤ c.toNat && c.toNat ≤ 13)

/-- A number spelled in text: its sign, its digits as one integer, the power of ten they
are scaled by, and whether it was written without point and exponent. -/
structure NumberText where
  negative : Bool
  digits : Nat
  exponent : Int
  integral : Bool
  deriving Repr, BEq

namespace NumberText

/-- Decimal digits at the start: their value, their count and the rest. -/
def readDigits : List Char → Nat → Nat → Nat × Nat × List Char
  | [], v, n => (v, n, [])
  | c :: rest, v, n =>
    if c.isDigit then readDigits rest (v * 10 + (c.toNat - 48)) (n + 1) else (v, n, c :: rest)

/-- Exponent digits at the start: their value, which stops growing once past ten thousand,
whether there was one, and the rest. -/
def readExponent : List Char → Nat → Bool → Nat × Bool × List Char
  | [], e, seen => (e, seen, [])
  | c :: rest, e, seen =>
    if c.isDigit then readExponent rest (if e < 10000 then e * 10 + (c.toNat - 48) else 10000) true
    else (e, seen, c :: rest)

/-- An optional exponent part: its signed value and the rest, or none when `e` is not
followed by a digit after its sign. -/
def readExponentPart : List Char → Option (Int × Bool × List Char)
  | [] => some (0, false, [])
  | c :: after =>
    if c == 'e' || c == 'E' then
      let (neg, body) := match after with
        | '-' :: d => (true, d)
        | '+' :: d => (false, d)
        | d => (false, d)
      let (e, seen, rest) := readExponent body 0 false
      if seen then some (if neg then -(e : Int) else e, true, rest) else none
    else some (0, false, c :: after)

/-- Read a number filling the whole text, blanks at either end apart. -/
def read? (s : String) : Option NumberText := do
  let cs := ((s.toList.dropWhile isNumberBlank).reverse.dropWhile isNumberBlank).reverse
  let (neg, body) := match cs with
    | '-' :: b => (true, b)
    | '+' :: b => (false, b)
    | b => (false, b)
  let (whole, wholeCount, rest) := readDigits body 0 0
  let (frac, fracCount, point, rest) := match rest with
    | '.' :: after =>
      let (f, n, r) := readDigits after 0 0
      (f, n, true, r)
    | r => (0, 0, false, r)
  if wholeCount + fracCount == 0 then none
  let (exp, marked, rest) ← readExponentPart rest
  if !rest.isEmpty then none
  pure ⟨neg, whole * Nat.pow 10 fracCount + frac, exp - fracCount, !point && !marked⟩

/-- The exact value of an integral number. -/
def integerValue (t : NumberText) : Int := if t.negative then -(t.digits : Int) else t.digits

/-- The double nearest to the number, as a bit pattern. A number of ten to the 309 or
more is an infinity and one below ten to the minus 325 a signed zero, as rounding would
make them; these are settled without computing their powers of ten. -/
def toDouble (t : NumberText) : Nat :=
  let width : Int := decimalWidth t.digits
  if t.digits == 0 then BinaryFormat.double.ofDecimal t.negative ⟨0, 0⟩
  else if 310 ≤ width + t.exponent then BinaryFormat.double.infinity t.negative
  else if width + t.exponent ≤ -325 then BinaryFormat.double.ofDecimal t.negative ⟨0, 0⟩
  else BinaryFormat.double.ofDecimal t.negative ⟨t.digits, t.exponent⟩

end NumberText

end DepthRig.Store
