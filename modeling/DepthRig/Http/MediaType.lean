import DepthRig.Text.Blank
import DepthRig.Text.Utf8

/-!
# Media types

A media type is `type/subtype` followed by `; name=value` parameters, names and types being
tokens and values tokens or quoted strings; starred names carry extended values, joined in
order and replacing plain ones. A malformed parameter still leaves the type; a malformed type
or a name given twice with different values leaves none.
-/

namespace DepthRig.Http

/-- Why a media type does not read. -/
inductive MediaTypeError where
  | noType
  | noSlash
  | noSubtype
  | trailing
  | badParameter
  | duplicate
  deriving Repr, BEq, Inhabited

/-- The text of a media type error. -/
def MediaTypeError.message : MediaTypeError → String
  | .noType => "mime: no media type"
  | .noSlash => "mime: expected slash after first token"
  | .noSubtype => "mime: expected token after slash"
  | .trailing => "mime: unexpected content after media subtype"
  | .badParameter => "mime: invalid media parameter"
  | .duplicate => "mime: duplicate parameter name"

/-- A media type: its type in lower case and its parameters by lower-case name. -/
structure MediaType where
  name : String
  params : List (String × String)
  deriving Repr, Inhabited

namespace MediaType

/-- Whether a character is special in media types. -/
def isSpecial (c : Char) : Bool := "()<>@,;:\\\"/[]?=".toList.contains c

/-- Whether a character may stand in a token. -/
def isTokenChar (c : Char) : Bool := 0x20 < c.toNat && c.toNat < 0x7f && !isSpecial c

/-- A token at the start, and the rest. -/
def token (cs : List Char) : List Char × List Char :=
  (cs.takeWhile isTokenChar, cs.dropWhile isTokenChar)

/-- Check a type: a token, then optionally `/` and a second token, and nothing more. -/
def checkType (s : List Char) : Except MediaTypeError Unit := do
  let (typ, rest) := token s
  if typ.isEmpty then throw .noType
  match rest with
  | [] => pure ()
  | '/' :: after =>
    let (sub, rest) := token after
    if sub.isEmpty then throw .noSubtype
    if !rest.isEmpty then throw .trailing
  | _ => throw .noSlash

/-- The text of a quoted string after its opening quote, and what follows its closing
quote; none at a line break or when it does not close. -/
def quoted : List Char → List Char → Option (List Char × List Char)
  | [], _ => none
  | '"' :: rest, acc => some (acc.reverse, rest)
  | '\\' :: c :: rest, acc =>
    if isSpecial c then quoted rest (c :: acc) else quoted (c :: rest) ('\\' :: acc)
  | c :: rest, acc => if c == '\r' || c == '\n' then none else quoted rest (c :: acc)

/-- A parameter value at the start: a token or a quoted string, and the rest; empty with
the text unchanged when there is none. -/
def value (cs : List Char) : List Char × List Char :=
  match cs with
  | '"' :: rest =>
    match quoted rest [] with
    | some r => r
    | none => ([], cs)
  | _ => token cs

/-- Drop white space at the start. -/
def skipBlanks (cs : List Char) : List Char := cs.dropWhile Blank.isBlank

/-- One parameter `; name=value` at the start: its lower-case name, its value and the
rest; none when it is malformed. -/
def parameter (cs : List Char) : Option (String × String × List Char) := do
  let rest ← match skipBlanks cs with
    | ';' :: r => some r
    | _ => none
  let (name, rest) := token (skipBlanks rest)
  if name.isEmpty then none
  let rest ← match skipBlanks rest with
    | '=' :: r => some (skipBlanks r)
    | _ => none
  let (v, after) := value rest
  if v.isEmpty && after == rest then none
  pure ((String.ofList name).toLower, String.ofList v, after)

/-- Whether what is left is only a semicolon with white space around it. -/
def isLoneSemicolon (cs : List Char) : Bool :=
  (Blank.trim (String.ofList cs)) == ";"

/-- Read the parameters in order. -/
def parameters : Nat → List Char → List (String × String) → Except MediaTypeError (List (String × String))
  | 0, _, acc => .ok acc
  | fuel + 1, cs, acc =>
    let cs := skipBlanks cs
    if cs.isEmpty then .ok acc
    else match parameter cs with
      | none => if isLoneSemicolon cs then .ok acc else .error .badParameter
      | some (k, v, rest) =>
        match acc.find? (·.1 == k) with
        | some (_, w) => if w == v then parameters fuel rest acc else .error .duplicate
        | none => parameters fuel rest (acc ++ [(k, v)])

/-- Decode `%XX` escapes into bytes; none at a `%` without two hexadecimal digits. -/
def percentBytes : List UInt8 → Option (List UInt8)
  | [] => some []
  | 37 :: h :: l :: rest => do
    let a ← hexDigit h
    let b ← hexDigit l
    return UInt8.ofNat (16 * a + b) :: (← percentBytes rest)
  | 37 :: _ => none
  | b :: rest => (percentBytes rest).map (b :: ·)
where
  /-- The value of a hexadecimal digit. -/
  hexDigit (b : UInt8) : Option Nat :=
    if 48 ≤ b && b ≤ 57 then some (b.toNat - 48)
    else if 97 ≤ b && b ≤ 102 then some (b.toNat - 87)
    else if 65 ≤ b && b ≤ 70 then some (b.toNat - 55)
    else none

/-- Decode `%XX` escapes in a text. -/
def percentText (s : String) : Option String := (percentBytes (Utf8.encode s)).map Utf8.decode

/-- An extended value `charset'language'text` in US-ASCII or UTF-8. -/
def extendedValue (v : String) : Option String :=
  match v.splitOn "'" with
  | charset :: _ :: rest@(_ :: _) =>
    let cs := charset.toLower
    if cs == "us-ascii" || cs == "utf-8" then percentText ("'".intercalate rest) else none
  | _ => none

/-- The value the pieces of an extended parameter give, if any. -/
def joinPieces (pieces : List (String × String)) (base : String) : Option String :=
  match pieces.find? (·.1 == base ++ "*") with
  | some (_, v) => extendedValue v
  | none => go pieces.length 0 ""
where
  go : Nat → Nat → String → Option String
    | 0, n, acc => if n == 0 then none else some acc
    | fuel + 1, n, acc =>
      let simple := base ++ "*" ++ toString n
      match pieces.find? (·.1 == simple) with
      | some (_, v) => go fuel (n + 1) (acc ++ v)
      | none =>
        match pieces.find? (·.1 == simple ++ "*") with
        | none => if n == 0 then none else some acc
        | some (_, v) =>
          let piece := if n == 0 then (extendedValue v).getD "" else (percentText v).getD ""
          go fuel (n + 1) (acc ++ piece)

/-- The parameters with the extended ones joined: plain names keep their value unless an
extended value of the same name replaces it. -/
def joinExtended (params : List (String × String)) : List (String × String) :=
  let pieces := params.filter fun (k, _) => k.contains '*'
  let bases := pieces.foldl (fun acc (k, _) =>
    let b := (k.splitOn "*").headD ""
    if acc.contains b then acc else acc ++ [b]) []
  let joined := bases.filterMap fun b => (joinPieces pieces b).map (b, ·)
  joined ++ (params.filter fun (k, _) => !k.contains '*' && !joined.any (·.1 == k))

/-- The type before the parameters, in lower case and trimmed. -/
def base (v : String) : String :=
  Blank.trim (Blank.lower (String.ofList (v.toList.takeWhile (· != ';'))))

/-- Read a media type. -/
def read (v : String) : Except MediaTypeError MediaType := do
  let name := base v
  checkType name.toList
  let rest := v.toList.dropWhile (· != ';')
  let params ← parameters (rest.length + 1) rest []
  pure ⟨name, joinExtended params⟩

/-- The type as a reader of bodies sees it, with the problem: the type is kept when only a
parameter is malformed, and is empty on any other failure. -/
def nameOf (v : String) : String × Option MediaTypeError :=
  match read v with
  | .ok m => (m.name, none)
  | .error .badParameter => (base v, some .badParameter)
  | .error e => ("", some e)

/-- A parameter's value, if given. -/
def param? (m : MediaType) (name : String) : Option String :=
  (m.params.find? (·.1 == name)).map (·.2)

end MediaType

end DepthRig.Http
