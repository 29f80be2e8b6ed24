import DepthRig.Text.Utf8
import DepthRig.Text.Hex
import DepthRig.Text.Printable

/-!
# Quoted text

Text in messages is quoted so that a reader can paste it back: printable characters stand for
themselves inside double quotes, and the quote, the backslash, controls, non-printable
characters and bytes that are not well-formed UTF-8 are escaped.
-/

namespace DepthRig.Quote

/-- Hex digits of a number, lowercase, padded to `width`. -/
def hexWidth (width n : Nat) : String :=
  let s := Nat.toDigits 16 n
  String.ofList (List.replicate (width - s.length) '0' ++ s)

/-- The quoted form of one character. -/
def escapeRune (c : Nat) : String :=
  if c == 34 then "\\\"" else if c == 92 then "\\\\"
  else if Printable.isPrintable c then String.singleton (Char.ofNat c)
  else if c == 7 then "\\a" else if c == 8 then "\\b" else if c == 12 then "\\f"
  else if c == 10 then "\\n" else if c == 13 then "\\r" else if c == 9 then "\\t"
  else if c == 11 then "\\v"
  else if c < 0x20 || c == 0x7F then "\\x" ++ hexWidth 2 c
  else if c < 0x10000 then "\\u" ++ hexWidth 4 c
  else "\\U" ++ hexWidth 8 c

/-- Quote a byte string. -/
def bytes (bs : List UInt8) : String :=
  "\"" ++ go bs bs.length ++ "\""
where
  go (bs : List UInt8) : Nat → String
    | 0 => ""
    | fuel + 1 =>
      match bs with
      | [] => ""
      | b :: rest =>
        match Utf8.decodeOne bs with
        | some (c, n) => escapeRune c ++ go (bs.drop n) fuel
        | none => "\\x" ++ hexWidth 2 b.toNat ++ go rest fuel

/-- Quote a text. -/
def text (s : String) : String := bytes (Utf8.encode s)

end DepthRig.Quote
