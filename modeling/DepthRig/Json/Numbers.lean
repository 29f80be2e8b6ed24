import DepthRig.Json.Write
import DepthRig.Scalar
import DepthRig.Text.Hex
import DepthRig.Text.Quote
import DepthRig.Decimal.Literal

/-!
# Numbers in JSON

A float is read from its decimal literal straight to its stored width, so it is rounded once;
values JSON cannot hold as numbers travel as strings (`"NaN"`, `"+Inf"`, raw `"bits:"` or
any float text), and large words and durations may come as decimal strings.
-/

namespace DepthRig.Json

/-- A signed decimal from number text. -/
def decimal? (text : String) : Option NumberLiteral := NumberLiteral.parse? text

/-- The width of a format's bit patterns. -/
def patternBits (f : BinaryFormat) : Nat := f.fractionBits + f.exponentBits + 1

/-- The report of text that a reader of the given name could not read. -/
def readingMessage (reader text : String) (outOfRange : Bool) : String :=
  "strconv." ++ reader ++ ": parsing " ++ Quote.text text ++ ": " ++
    (if outOfRange then "value out of range" else "invalid syntax")

/-- A float of a format from a number or one of the string forms: the bit pattern, or the
report of the text that does not read. `nanBits` is the pattern that `"NaN"` stands for;
`bits:` is followed by the pattern in hex, which must fit the format's width. -/
def floatBits (f : BinaryFormat) (nanBits : Nat) (j : Json) : Except String Nat :=
  match j with
  | .number t =>
    match FloatLiteral.read? t with
    | some (.decimal neg d e) => .ok (f.ofPower neg d 10 e)
    | _ => .error ("not a number: " ++ t)
  | .string s =>
    if s == "NaN" then .ok nanBits
    else if s == "Inf" || s == "+Inf" then .ok (f.infinity false)
    else if s == "-Inf" then .ok (f.infinity true)
    else if s.startsWith "bits:" then
      let hex := String.ofList (s.toList.drop 5)
      match Numeral.readInBase 16 (patternBits f) hex with
      | .ok b => .ok b
      | .error e => .error (readingMessage "ParseUint" hex (e == .outOfRange))
    else
      match f.readText nanBits s with
      | .ok b => .ok b
      | .error e => .error (readingMessage "ParseFloat" s (e == .outOfRange))
  | .null => .ok 0
  | _ => .error "not a number"

/-- A single from JSON; `null` is zero. -/
def readSingle (j : Json) : Except String Single :=
  (floatBits .single 0x7FC00000 j).map fun b => ⟨b.toUInt32⟩

/-- A double from JSON; `null` is zero. -/
def readDouble (j : Json) : Except String Double :=
  (floatBits .double 0x7FF8000000000001 j).map fun b => ⟨b.toUInt64⟩

/-- A single from JSON, if it reads. -/
def single? (j : Json) : Option Single := (readSingle j).toOption

/-- A double from JSON, if it reads. -/
def double? (j : Json) : Option Double := (readDouble j).toOption

/-- A float as JSON: when finite, a number in the layout of messages (an exponent from
`1e6` up and below `1e-4`), otherwise `"NaN"`, `"Inf"` or `"-Inf"`. -/
def ofBits (f : BinaryFormat) (bits : Nat) : Json :=
  match f.classify bits with
  | .finite .. => .number (f.shortestText FloatText.message bits)
  | .infinite neg => .string (if neg then "-Inf" else "Inf")
  | .nan => .string "NaN"

/-- A single as JSON. -/
def ofSingle (x : Single) : Json := ofBits .single x.bits.toNat

/-- A double as JSON. -/
def ofDouble (x : Double) : Json := ofBits .double x.bits.toNat

/-- An integer from a number, or from decimal text; `null` is zero. -/
def integer? (j : Json) : Option Int :=
  match j with
  | .number _ => j.int?
  | .string s => (decimal? s) >>= NumberLiteral.toInt?
  | .null => some 0
  | _ => none

/-- Why decimal text is not a word: a character that is not a digit, or a value beyond the
word's range, whichever comes first from the left. -/
inductive WordError where
  | notDigit
  | range
  deriving BEq, Repr

/-- Decimal digits read from the left, up to `limit`. -/
def readDigits (limit : Nat) : List Char → Nat → Except WordError Nat
  | [], n => .ok n
  | c :: cs, n =>
    if !c.isDigit then .error .notDigit
    else
      let n := n * 10 + (c.toNat - '0'.toNat)
      if limit < n then .error .range else readDigits limit cs n

/-- Unsigned decimal text of `bits` bits: one or more digits. -/
def readUnsigned (bits : Nat) (s : String) : Except WordError Nat :=
  if s.isEmpty then .error .notDigit else readDigits (Nat.pow 2 bits - 1) s.toList 0

/-- Signed decimal text of `bits` bits: an optional sign, then one or more digits. -/
def readSigned (bits : Nat) (s : String) : Except WordError Int :=
  let (neg, digits) := match s.toList with
    | '-' :: rest => (true, rest)
    | '+' :: rest => (false, rest)
    | cs => (false, cs)
  if digits.isEmpty then .error .notDigit
  else
    match readDigits (Nat.pow 2 64 - 1) digits 0 with
    | .error .notDigit => .error .notDigit
    | .error .range => .error .range
    | .ok n =>
      if neg then (if Nat.pow 2 (bits - 1) < n then .error .range else .ok (-(n : Int)))
      else if Nat.pow 2 (bits - 1) ≤ n then .error .range else .ok n

/-- The text of a word error, naming the reader and quoting the text. -/
def WordError.message (reader text : String) : WordError → String
  | .notDigit => "strconv." ++ reader ++ ": parsing " ++ Quote.text text ++ ": invalid syntax"
  | .range => "strconv." ++ reader ++ ": parsing " ++ Quote.text text ++ ": value out of range"

/-- The text a word is read from: a number's literal, a string's content, the written
form of anything else; `null` is zero. -/
def wordText (j : Json) : String :=
  match j with
  | .number t => t
  | .string s => s
  | .null => "0"
  | _ => render j

/-- An unsigned 64-bit word from a number or decimal text. -/
def unsigned? (j : Json) : Except String UInt64 :=
  let t := wordText j
  match readUnsigned 64 t with
  | .ok n => .ok n.toUInt64
  | .error e => .error (e.message "ParseUint" t)

/-- A signed 64-bit word from a number or decimal text. -/
def signed? (j : Json) : Except String Int64 :=
  let t := wordText j
  match readSigned 64 t with
  | .ok n => .ok (Int64.ofInt n)
  | .error e => .error (e.message "ParseInt" t)

/-- A list of unsigned 64-bit words; `null` is empty. -/
def unsignedList? (j : Json) : Except String (List UInt64) := j.items.mapM unsigned?

/-- A list of words as decimal strings. -/
def ofUnsignedList (xs : List UInt64) : Json := .array (xs.map fun x => .string (toString x.toNat))

/-- A list of singles; `null` is the empty list. -/
def readSingles (j : Json) : Except String (List Single) :=
  match j with
  | .null => .ok []
  | .array xs => xs.mapM readSingle
  | _ => .error "not a list"

/-- A list of singles, if it reads. -/
def singles? (j : Json) : Option (List Single) := (readSingles j).toOption

/-- A JSON array of singles. -/
def ofSingles (xs : List Single) : Json := .array (xs.map ofSingle)

/-- A list of numbers as JSON. -/
def ofInts (xs : List Int) : Json := .array (xs.map Json.ofInt)

end DepthRig.Json
