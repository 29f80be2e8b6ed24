import DepthRig.Text.Quote
import DepthRig.Text.Utf8

/-!
# Form values

Queries and urlencoded bodies carry `&`-separated pairs of a name and a value, with `+` for a
blank and `%XX` for a byte; reading goes on past a bad pair, keeping the first problem met.
Writing a form sorts the names and escapes every byte but the unreserved ones.
-/

namespace DepthRig.Http

/-- Named values in the order they were read; a name may repeat. -/
abbrev Values := List (List UInt8 × List UInt8)

namespace Values

/-- The first value of a name as bytes, or none. -/
def firstBytes (vs : Values) (name : String) : List UInt8 :=
  ((vs.find? (·.1 == Utf8.encode name)).map (·.2)).getD []

/-- The first value of a name, or empty text. -/
def first (vs : Values) (name : String) : String := Utf8.decode (vs.firstBytes name)

/-- Every value of a name, in order. -/
def all (vs : Values) (name : String) : List String :=
  (vs.filter (·.1 == Utf8.encode name)).map fun (_, v) => Utf8.decode v

end Values

/-- The value of a hexadecimal digit byte. -/
def hexValue? (b : UInt8) : Option Nat :=
  if 48 ≤ b && b ≤ 57 then some (b.toNat - 48)
  else if 97 ≤ b && b ≤ 102 then some (b.toNat - 87)
  else if 65 ≤ b && b ≤ 70 then some (b.toNat - 55)
  else none

/-- Decode escapes, and `+` as a blank when `plusIsBlank`: the bytes, or the malformed
escape (at most three bytes of it). -/
def unescapeBytes (plusIsBlank : Bool) : List UInt8 → Except (List UInt8) (List UInt8)
  | [] => .ok []
  | 37 :: rest =>
    match rest with
    | h :: l :: more =>
      match hexValue? h, hexValue? l with
      | some a, some b => do return UInt8.ofNat (16 * a + b) :: (← unescapeBytes plusIsBlank more)
      | _, _ => .error (37 :: [h, l])
    | _ => .error (37 :: rest)
  | b :: rest => do
    return (if b == 43 && plusIsBlank then 32 else b) :: (← unescapeBytes plusIsBlank rest)

/-- The text of a malformed escape. -/
def escapeMessage (bad : List UInt8) : String := "invalid URL escape " ++ Quote.bytes bad

/-- Decode one part of a pair. -/
def unescape (s : List UInt8) : Except String (List UInt8) :=
  (unescapeBytes true s).mapError escapeMessage

/-- The text of a pair that uses a semicolon as a separator. -/
def semicolonMessage : String := "invalid semicolon separator in query"

/-- Read one pair into the values read so far, with the problem kept so far. -/
def readPair (acc : Values × Option String) (pair : List UInt8) : Values × Option String :=
  let (vs, err) := acc
  if pair.contains 59 then (vs, some semicolonMessage)
  else if pair.isEmpty then acc
  else
    let name := pair.takeWhile (· != 61)
    let value := (pair.dropWhile (· != 61)).drop 1
    match unescape name, unescape value with
    | .ok n, .ok v => (vs ++ [(n, v)], err)
    | .error e, _ => (vs, err.orElse fun _ => some e)
    | _, .error e => (vs, err.orElse fun _ => some e)

/-- Split bytes at every occurrence of a separator, keeping empty parts. -/
def splitBytes (sep : UInt8) : List UInt8 → List (List UInt8)
  | [] => [[]]
  | b :: bs =>
    let rest := splitBytes sep bs
    if b == sep then [] :: rest
    else match rest with
      | [] => [[b]]
      | head :: tail => (b :: head) :: tail

/-- Read a query or form body: the values, and the problem kept. -/
def parseQuery (q : List UInt8) : Values × Option String :=
  (splitBytes 38 q).foldl readPair ([], none)

/-- Whether a byte is unreserved: an ASCII letter or digit, or one of `-_.~`. -/
def isUnreserved (b : UInt8) : Bool :=
  (65 ≤ b && b ≤ 90) || (97 ≤ b && b ≤ 122) || (48 ≤ b && b ≤ 57) || b == 45 || b == 95 || b == 46
    || b == 126

/-- The hexadecimal digit of a value below 16, in upper case. -/
def upperHex (n : Nat) : Char := if n < 10 then Char.ofNat (48 + n) else Char.ofNat (55 + n)

/-- Escape one part of a pair for a form body: a blank as `+`, bytes other than the
unreserved ones as `%XX`. -/
def escape (s : String) : String :=
  String.ofList ((Utf8.encode s).flatMap fun b =>
    if isUnreserved b then [Char.ofNat b.toNat]
    else if b == 32 then ['+']
    else ['%', upperHex (b.toNat / 16), upperHex (b.toNat % 16)])

/-- Write named texts as a form body: names in sorted order, each name's values in order. -/
def encode (vs : List (String × String)) : String :=
  let sorted := vs.mergeSort fun a b => decide (a.1 ≤ b.1)
  "&".intercalate (sorted.map fun (n, v) => escape n ++ "=" ++ escape v)

/-- Whether a byte stands for itself in a path. -/
def isPathByte (b : UInt8) : Bool :=
  isUnreserved b || "$&+,/:;=@".toList.contains (Char.ofNat b.toNat)

/-- Escape a path. -/
def escapePath (s : String) : String :=
  String.ofList ((Utf8.encode s).flatMap fun b =>
    if isPathByte b then [Char.ofNat b.toNat]
    else ['%', upperHex (b.toNat / 16), upperHex (b.toNat % 16)])

end DepthRig.Http
