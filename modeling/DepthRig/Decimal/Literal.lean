import DepthRig.Decimal.Binary
import DepthRig.Text.Numeral

/-!
# Float literals

Text that names a float is an infinity, `nan`, or a decimal or hexadecimal literal with an
optional sign and exponent, underscores allowed between digits. A literal is read exactly and
rounded once to the format, to the nearest value with ties to even; a finite literal that
rounds to an infinity is out of range, and one that rounds to zero is not.
-/

namespace DepthRig

/-- The value a float literal names, exactly. -/
inductive FloatLiteral where
  | infinity (negative : Bool)
  | nan
  /-- `± digits * 10 ^ exponent`. -/
  | decimal (negative : Bool) (digits : Nat) (exponent : Int)
  /-- `± digits * 2 ^ exponent`. -/
  | binary (negative : Bool) (digits : Nat) (exponent : Int)
  deriving Repr, BEq

/-- Why float text does not read. -/
inductive FloatReadError where
  | malformed
  | outOfRange
  deriving Repr, BEq, Inhabited

namespace FloatLiteral

/-- How many leading characters of `cs` spell the start of `word`, in any case. -/
def matchedPrefix : List Char → List Char → Nat
  | c :: cs, w :: ws => if c.toLower == w then matchedPrefix cs ws + 1 else 0
  | _, _ => 0

/-- An infinity or NaN spelled out, with the characters it takes. -/
def special (cs : List Char) : Option (FloatLiteral × Nat) :=
  let inf (neg : Bool) (body : List Char) (sign : Nat) : Option (FloatLiteral × Nat) :=
    let n := matchedPrefix body "infinity".toList
    if n == 8 then some (.infinity neg, sign + 8)
    else if 3 ≤ n then some (.infinity neg, sign + 3)
    else none
  match cs with
  | '+' :: body => inf false body 1
  | '-' :: body => inf true body 1
  | c :: _ =>
    if c.toLower == 'i' then inf false cs 0
    else if c.toLower == 'n' && matchedPrefix cs "nan".toList == 3 then some (.nan, 3)
    else none
  | [] => none

/-- The digits of a mantissa read so far: whether a point and a digit were seen, the
significant digits (leading zeros dropped) and their count, and the place of the point. -/
structure Mantissa where
  sawPoint : Bool := false
  sawDigit : Bool := false
  digits : Nat := 0
  count : Nat := 0
  point : Int := 0

/-- Read mantissa digits of `base` until a character that is none, a second point or the
end: the mantissa and the rest. -/
def readMantissa (base : Nat) : List Char → Mantissa → Mantissa × List Char
  | [], m => (m, [])
  | c :: rest, m =>
    if c == '_' then readMantissa base rest m
    else if c == '.' then
      if m.sawPoint then (m, c :: rest)
      else readMantissa base rest { m with sawPoint := true, point := m.count }
    else match Numeral.digitValue c with
      | some d =>
        if d < base && (c.isDigit || base == 16) then
          if d == 0 && m.count == 0 then
            readMantissa base rest { m with sawDigit := true, point := m.point - 1 }
          else
            readMantissa base rest
              { m with sawDigit := true, digits := m.digits * base + d, count := m.count + 1 }
        else (m, c :: rest)
      | none => (m, c :: rest)

/-- Read exponent digits and underscores; digits past a value of ten thousand are not
counted. -/
def readExponent : List Char → Nat → Nat × List Char
  | [], e => (e, [])
  | c :: rest, e =>
    if c == '_' then readExponent rest e
    else if c.isDigit then readExponent rest (if e < 10000 then e * 10 + (c.toNat - 48) else e)
    else (e, c :: rest)

/-- Read an optional exponent introduced by `mark`: its signed value and the rest, or none
when the mark is there but no digit follows its sign. -/
def readExponentPart (mark : Char) : List Char → Option (Option Int × List Char)
  | c :: rest =>
    if c.toLower != mark then some (none, c :: rest)
    else
      let (neg, body) := match rest with
        | '+' :: b => (false, b)
        | '-' :: b => (true, b)
        | b => (false, b)
      match body with
      | d :: _ =>
        if d.isDigit then
          let (e, after) := readExponent body 0
          some (some (if neg then -(e : Int) else e), after)
        else none
      | [] => none
  | [] => some (none, [])

/-- Read a decimal or hexadecimal literal filling all of `cs`. -/
def readNumber (cs : List Char) : Option FloatLiteral := do
  let (neg, body) := match cs with
    | '+' :: b => (false, b)
    | '-' :: b => (true, b)
    | b => (false, b)
  let (hex, digits) := match body with
    | '0' :: x :: rest@(_ :: _) => if x.toLower == 'x' then (true, rest) else (false, body)
    | _ => (false, body)
  let base := if hex then 16 else 10
  let (m, rest) := readMantissa base digits {}
  if !m.sawDigit then none
  let point : Int := if m.sawPoint then m.point else m.count
  let (e, rest) ← readExponentPart (if hex then 'p' else 'e') rest
  if hex && e.isNone then none
  if !rest.isEmpty then none
  if cs.contains '_' && !Numeral.separatorsFit cs then none
  let shift : Int := point - m.count
  if hex then pure (.binary neg m.digits (4 * shift + e.getD 0))
  else pure (.decimal neg m.digits (shift + e.getD 0))

/-- Read float text. -/
def read? (s : String) : Option FloatLiteral :=
  let cs := s.toList
  match special cs with
  | some (v, n) => if n == cs.length then some v else none
  | none => readNumber cs

end FloatLiteral

namespace BinaryFormat

/-- The bit pattern nearest to `± digits * base ^ exponent`. -/
def ofPower (f : BinaryFormat) (negative : Bool) (digits base : Nat) (exponent : Int) : Nat :=
  if 0 ≤ exponent then f.roundRatio negative (digits * Nat.pow base exponent.toNat) 1
  else f.roundRatio negative digits (Nat.pow base (-exponent).toNat)

/-- Read float text to a format; `nanBits` is the pattern NaN reads as. -/
def readText (f : BinaryFormat) (nanBits : Nat) (s : String) : Except FloatReadError Nat :=
  match FloatLiteral.read? s with
  | none => .error .malformed
  | some .nan => .ok nanBits
  | some (.infinity neg) => .ok (f.infinity neg)
  | some (.decimal neg d e) => finiteOrRange f (f.ofPower neg d 10 e)
  | some (.binary neg d e) => finiteOrRange f (f.ofPower neg d 2 e)
where
  /-- A finite literal that rounds to an infinity is out of range. -/
  finiteOrRange (f : BinaryFormat) (bits : Nat) : Except FloatReadError Nat :=
    match f.classify bits with
    | .infinite _ => .error .outOfRange
    | _ => .ok bits

end BinaryFormat

end DepthRig
