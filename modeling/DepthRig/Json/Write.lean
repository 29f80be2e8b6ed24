import DepthRig.Json.Scan
import DepthRig.Decimal.Text

/-!
# Writing JSON text

Compact JSON with no blanks between tokens. Members are written in the order the value
holds them. In strings the quote and the backslash are escaped, control characters use
their short escapes where JSON has one and `\u00XX` otherwise, and `<`, `>`, `&`,
`U+2028` and `U+2029` are written as `\u` escapes so that the text can sit inside HTML
and script.
-/

namespace DepthRig.Json

/-- The escaped form of one character inside a string. -/
def escapeChar (c : Char) : String :=
  let n := c.toNat
  if c == '"' then "\\\"" else if c == '\\' then "\\\\"
  else if c == '\n' then "\\n" else if c == '\r' then "\\r" else if c == '\t' then "\\t"
  else if n == 8 then "\\b" else if n == 12 then "\\f"
  else if n < 0x20 || c == '<' || c == '>' || c == '&' || n == 0x2028 || n == 0x2029 then
    "\\u" ++ hexPad 4 n
  else String.singleton c

/-- A string as a JSON string literal. -/
def quote (s : String) : String :=
  "\"" ++ String.join (s.toList.map escapeChar) ++ "\""

mutual

/-- The text of a value. -/
def render : Json → String
  | .null => "null"
  | .bool b => if b then "true" else "false"
  | .number t => t
  | .string s => quote s
  | .array xs => "[" ++ renderItems xs ++ "]"
  | .object ms => "\x7b" ++ renderMembers ms ++ "\x7d"

/-- Array items separated by commas. -/
def renderItems : List Json → String
  | [] => ""
  | [x] => render x
  | x :: xs => render x ++ "," ++ renderItems xs

/-- Object members separated by commas. -/
def renderMembers : List (String × Json) → String
  | [] => ""
  | [(k, v)] => quote k ++ ":" ++ render v
  | (k, v) :: ms => quote k ++ ":" ++ render v ++ "," ++ renderMembers ms

end

/-- A finite float as a number in the layout of messages; `none` for NaN and the infinities. -/
def ofFloatBits? (f : BinaryFormat) (bits : Nat) : Option Json :=
  match f.classify bits with
  | .finite .. => some (.number (f.shortestText FloatText.message bits))
  | _ => none

end DepthRig.Json
