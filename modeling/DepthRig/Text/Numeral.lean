/-!
# Integer numerals

Numeric option values are written as integer literals: decimal digits, or a base prefix and
digits of that base, with an optional sign and underscores between digits. The text is out
of range as soon as the value read so far passes its width's largest value, and malformed at
a character that is no digit of the base; misplaced underscores count only once every digit
is read.
-/

namespace DepthRig.Numeral

/-- Why a numeral does not read. -/
inductive ReadError where
  /-- A character that is not a digit of the base, no digits, or misplaced underscores. -/
  | malformed
  /-- A value beyond the width. -/
  | outOfRange
  deriving BEq, Repr, Inhabited

/-- The value of a digit in bases up to 36: `0`–`9`, then the letters in either case. -/
def digitValue (c : Char) : Option Nat :=
  if c.isDigit then some (c.toNat - 48)
  else if 'a' ≤ c && c ≤ 'z' then some (c.toNat - 87)
  else if 'A' ≤ c && c ≤ 'Z' then some (c.toNat - 55)
  else none

/-- The base a numeral's prefix chooses, and the digits after the prefix. A lone `0`, or a
`0` before anything but a base letter and at least one more character, starts octal. -/
def baseAndDigits : List Char → Nat × List Char
  | '0' :: c :: rest@(_ :: _) =>
    if c.toLower == 'b' then (2, rest)
    else if c.toLower == 'o' then (8, rest)
    else if c.toLower == 'x' then (16, rest)
    else (8, c :: rest)
  | '0' :: rest => (8, rest)
  | cs => (10, cs)

/-- Read digits of `base` onto the value `n`, skipping underscores; out of range once the
value passes `max`. -/
def readDigits (base max : Nat) : List Char → Nat → Except ReadError Nat
  | [], n => .ok n
  | c :: rest, n =>
    if c == '_' then readDigits base max rest n
    else
      match digitValue c with
      | none => .error .malformed
      | some d =>
        if base ≤ d then .error .malformed
        else if max < n * base + d then .error .outOfRange
        else readDigits base max rest (n * base + d)

/-- What the last character of a numeral was, for placing underscores. -/
inductive Seen where
  | start
  | digit
  | separator
  | other
  deriving BEq

/-- Whether the underscores of the rest of a numeral are well placed, given what came
before; `hex` admits the letters `a`–`f` as digits. -/
def separatorsFitFrom (hex : Bool) : Seen → List Char → Bool
  | seen, [] => seen != .separator
  | seen, c :: rest =>
    if c.isDigit || (hex && 'a' ≤ c.toLower && c.toLower ≤ 'f') then separatorsFitFrom hex .digit rest
    else if c == '_' then seen == .digit && separatorsFitFrom hex .separator rest
    else seen != .separator && separatorsFitFrom hex .other rest

/-- Whether the underscores of a numeral stand only between digits, or between a base
prefix and a digit. -/
def separatorsFit (cs : List Char) : Bool :=
  let body := match cs with
    | '+' :: rest => rest
    | '-' :: rest => rest
    | _ => cs
  match body with
  | '0' :: c :: rest =>
    if c.toLower == 'b' || c.toLower == 'o' || c.toLower == 'x' then
      separatorsFitFrom (c.toLower == 'x') .digit rest
    else separatorsFitFrom false .start body
  | _ => separatorsFitFrom false .start body

/-- Read an unsigned numeral of `bits` bits. -/
def readUnsigned (bits : Nat) (s : String) : Except ReadError Nat :=
  let cs := s.toList
  if cs.isEmpty then .error .malformed
  else
    let (base, digits) := baseAndDigits cs
    match readDigits base (Nat.pow 2 bits - 1) digits 0 with
    | .error e => .error e
    | .ok n => if digits.contains '_' && !separatorsFit cs then .error .malformed else .ok n

/-- Read digits of `base` onto the value `n`, where an underscore is no digit either; out
of range once the value passes `max`. -/
def readPlainDigits (base max : Nat) : List Char → Nat → Except ReadError Nat
  | [], n => .ok n
  | c :: rest, n =>
    match digitValue c with
    | none => .error .malformed
    | some d =>
      if base ≤ d then .error .malformed
      else if max < n * base + d then .error .outOfRange
      else readPlainDigits base max rest (n * base + d)

/-- Read an unsigned numeral of `bits` bits in a fixed base: digits only, no prefix and
no underscores. -/
def readInBase (base bits : Nat) (s : String) : Except ReadError Nat :=
  if s.isEmpty then .error .malformed
  else readPlainDigits base (Nat.pow 2 bits - 1) s.toList 0

/-- Read a signed numeral of `bits` bits: a sign, then an unsigned numeral whose magnitude
must fit the width on that side of zero. -/
def readSigned (bits : Nat) (s : String) : Except ReadError Int :=
  let (neg, body) := match s.toList with
    | '+' :: rest => (false, rest)
    | '-' :: rest => (true, rest)
    | cs => (false, cs)
  let magnitude := match readUnsigned bits (String.ofList body) with
    | .ok n => some n
    | .error .outOfRange => some (Nat.pow 2 bits - 1)
    | .error .malformed => none
  match magnitude with
  | none => .error .malformed
  | some m =>
    let cutoff := Nat.pow 2 (bits - 1)
    if !neg && cutoff ≤ m then .error .outOfRange
    else if neg && cutoff < m then .error .outOfRange
    else .ok (if neg then -(m : Int) else m)

end DepthRig.Numeral
