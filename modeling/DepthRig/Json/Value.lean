import DepthRig.Decimal.Binary

/-!
# JSON values

A JSON document as read: numbers keep their literal text, so that each reader rounds
them once, straight to the width it needs, and objects keep every member in the order
written, duplicates included. Which of two members with one name counts is a question of
lookup (`Json.field?` for an exact name, `Json.member?` for the last name that matches
without regard to case).
-/

namespace DepthRig

/-- A JSON value. -/
inductive Json where
  | null
  | bool (b : Bool)
  /-- A number, as its literal text. -/
  | number (text : String)
  | string (s : String)
  | array (items : List Json)
  | object (members : List (String × Json))
  deriving Inhabited, Repr, BEq

/-- A number literal split into sign, digits and a power of ten: `-12.5e3` is
`(true, 125, 2)`. -/
structure NumberLiteral where
  negative : Bool
  decimal : Decimal

namespace NumberLiteral

/-- Read the digits of a literal, the point and exponent apart. -/
private def digitsOf (cs : List Char) : Nat × Nat :=
  cs.foldl (fun (v, n) c => (10 * v + (c.toNat - '0'.toNat), n + 1)) (0, 0)

/-- Parse number text of the grammar `-? int frac? exp?`; other text gives `none`. -/
def parse? (text : String) : Option NumberLiteral :=
  let cs := text.toList
  let (neg, cs) := match cs with
    | '-' :: r => (true, r)
    | '+' :: r => (false, r)
    | r => (false, r)
  let intPart := cs.takeWhile Char.isDigit
  let cs := cs.dropWhile Char.isDigit
  let (fracPart, cs) := match cs with
    | '.' :: r => (r.takeWhile Char.isDigit, r.dropWhile Char.isDigit)
    | r => ([], r)
  let expo : Option Int := match cs with
    | [] => some 0
    | c :: r =>
      if c == 'e' || c == 'E' then
        let (eneg, r) := match r with
          | '-' :: r' => (true, r')
          | '+' :: r' => (false, r')
          | r' => (false, r')
        if r.isEmpty || !r.all Char.isDigit then none
        else
          let v := (digitsOf r).1
          some (if eneg then -(v : Int) else v)
      else none
  if intPart.isEmpty && fracPart.isEmpty then none else
  match expo with
  | none => none
  | some e =>
    let (m, _) := digitsOf (intPart ++ fracPart)
    some ⟨neg, ⟨m, e - fracPart.length⟩⟩

/-- The integer value of a literal, if it has no fractional part. -/
def toInt? (n : NumberLiteral) : Option Int :=
  let d := n.decimal
  let v? : Option Nat :=
    if 0 ≤ d.exponent then some (d.digits * Nat.pow 10 d.exponent.toNat)
    else
      let p := Nat.pow 10 (-d.exponent).toNat
      if d.digits % p == 0 then some (d.digits / p) else none
  v?.map fun v => if n.negative then -(v : Int) else v

end NumberLiteral

namespace Json

/-- The value of the first member with exactly this name. -/
def field? (j : Json) (name : String) : Option Json :=
  match j with
  | .object ms => (ms.find? (·.1 == name)).map (·.2)
  | _ => none

/-- The members of an object, or none. -/
def members (j : Json) : List (String × Json) :=
  match j with
  | .object ms => ms
  | _ => []

/-- The items of an array, or none. -/
def items (j : Json) : List Json :=
  match j with
  | .array xs => xs
  | _ => []

/-- The text of a string value. -/
def str? (j : Json) : Option String :=
  match j with
  | .string s => some s
  | _ => none

/-- A boolean value. -/
def bool? (j : Json) : Option Bool :=
  match j with
  | .bool b => some b
  | _ => none

/-- The literal of a number value. -/
def num? (j : Json) : Option NumberLiteral :=
  match j with
  | .number t => NumberLiteral.parse? t
  | _ => none

/-- An integral number value. -/
def int? (j : Json) : Option Int := j.num? >>= NumberLiteral.toInt?

/-- A number value from an integer. -/
def ofInt (i : Int) : Json := .number (toString i)

/-- A number value from a natural number. -/
def ofNat (n : Nat) : Json := .number (toString n)

/-- Whether the value is `null`. -/
def isNull (j : Json) : Bool :=
  match j with
  | .null => true
  | _ => false

end Json

end DepthRig
