/-!
# UTF-8 with replacement

Bytes that come off the wire are read as text one code point at a time. A byte that does
not start a well-formed sequence (a stray continuation byte, an overlong form, a
surrogate, a code point above `U+10FFFF`, or a sequence cut short) reads as one
`U+FFFD` and the reading goes on at the next byte, so every byte is accounted for.
-/

namespace DepthRig.Utf8

/-- Whether a byte is a continuation byte `10xxxxxx`. -/
def isTail (b : UInt8) : Bool := b &&& 0xC0 == 0x80

/-- The code point that starts a byte list and the number of bytes it takes, or `none`
when the first byte does not begin a well-formed sequence. -/
def decodeOne : List UInt8 → Option (Nat × Nat)
  | [] => none
  | b0 :: rest =>
    let c0 := b0.toNat
    if c0 < 0x80 then some (c0, 1)
    else if c0 < 0xC2 then none
    else if c0 < 0xE0 then
      match rest with
      | b1 :: _ => if isTail b1 then some ((c0 - 0xC0) * 64 + (b1.toNat - 0x80), 2) else none
      | _ => none
    else if c0 < 0xF0 then
      match rest with
      | b1 :: b2 :: _ =>
        let lo := if c0 == 0xE0 then 0xA0 else 0x80
        let hi := if c0 == 0xED then 0x9F else 0xBF
        if lo ≤ b1.toNat && b1.toNat ≤ hi && isTail b2 then
          some ((c0 - 0xE0) * 4096 + (b1.toNat - 0x80) * 64 + (b2.toNat - 0x80), 3)
        else none
      | _ => none
    else if c0 < 0xF5 then
      match rest with
      | b1 :: b2 :: b3 :: _ =>
        let lo := if c0 == 0xF0 then 0x90 else 0x80
        let hi := if c0 == 0xF4 then 0x8F else 0xBF
        if lo ≤ b1.toNat && b1.toNat ≤ hi && isTail b2 && isTail b3 then
          some ((c0 - 0xF0) * 262144 + (b1.toNat - 0x80) * 4096 + (b2.toNat - 0x80) * 64
            + (b3.toNat - 0x80), 4)
        else none
      | _ => none
    else none

/-- The characters of a byte list, each malformed byte read as `U+FFFD`. -/
def chars (bs : List UInt8) : List Char :=
  go bs bs.length
where
  go (bs : List UInt8) : Nat → List Char
    | 0 => []
    | fuel + 1 =>
      match bs with
      | [] => []
      | _ :: tl =>
        match decodeOne bs with
        | some (c, n) => Char.ofNat c :: go (bs.drop n) fuel
        | none => '�' :: go tl fuel

/-- The text of a byte list, each malformed byte read as `U+FFFD`. -/
def decode (bs : List UInt8) : String := String.ofList (chars bs)

/-- The UTF-8 bytes of a text. -/
def encode (s : String) : List UInt8 := s.toUTF8.toList

/-- Whether a byte list is well-formed UTF-8. -/
def isValid (bs : List UInt8) : Bool := encode (decode bs) == bs

end DepthRig.Utf8
