/-!
# Blank characters and case for keywords

Blank characters are the Unicode white space, and trimming removes them at both ends. Keywords
are compared after lowering case, where only the Kelvin sign and the capital I with dot above
lower to ASCII letters besides the ASCII capitals.
-/

namespace DepthRig.Blank

/-- Whether a character is white space. -/
def isBlank (c : Char) : Bool :=
  let n := c.toNat
  n == 0x20 || (0x09 ≤ n && n ≤ 0x0D) || n == 0x85 || n == 0xA0 || n == 0x1680
    || (0x2000 ≤ n && n ≤ 0x200A) || n == 0x2028 || n == 0x2029 || n == 0x202F
    || n == 0x205F || n == 0x3000

/-- A text without white space at either end. -/
def trim (s : String) : String :=
  String.ofList ((s.toList.dropWhile isBlank).reverse.dropWhile isBlank).reverse

/-- A character in lower case, as far as a comparison with ASCII letters can tell. -/
def lowerChar (c : Char) : Char :=
  if c.toNat == 0x212A then 'k' else if c.toNat == 0x130 then 'i' else c.toLower

/-- A text in lower case, as far as a comparison with ASCII keywords can tell. -/
def lower (s : String) : String := String.ofList (s.toList.map lowerChar)

/-- A keyword as typed: trimmed and in lower case. -/
def keyword (s : String) : String := lower (trim s)

end DepthRig.Blank
