/-!
# Hexadecimal text of bytes

Bytes are written as two lowercase hex digits each. Reading accepts either case and skips
blanks between digits; an odd number of digits or any other character is refused.
-/

namespace DepthRig.Hex

/-- The hex digit of a value below sixteen. -/
def digit (n : Nat) : Char :=
  if n < 10 then Char.ofNat (48 + n) else Char.ofNat (87 + n)

/-- Two lowercase hex digits for one byte. -/
def ofByte (b : UInt8) : List Char := [digit (b.toNat / 16), digit (b.toNat % 16)]

/-- The lowercase hex text of a byte list. -/
def encode (bs : List UInt8) : String := String.ofList (bs.flatMap ofByte)

/-- The value of one hex digit of either case. -/
def value? (c : Char) : Option Nat :=
  if '0' ≤ c && c ≤ '9' then some (c.toNat - 48)
  else if 'a' ≤ c && c ≤ 'f' then some (c.toNat - 87)
  else if 'A' ≤ c && c ≤ 'F' then some (c.toNat - 55)
  else none

/-- Pair up hex digits into bytes. -/
def pairs : List Nat → Option (List UInt8)
  | [] => some []
  | [_] => none
  | a :: b :: rest => (pairs rest).map ((a * 16 + b).toUInt8 :: ·)

/-- The bytes of hex text, blanks skipped. -/
def decode? (s : String) : Option (List UInt8) :=
  let cs := s.toList.filter (fun c => c != ' ')
  match cs.mapM value? with
  | some ds => pairs ds
  | none => none

end DepthRig.Hex
