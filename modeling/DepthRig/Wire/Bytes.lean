import DepthRig.Scalar

/-!
# Little-endian fields

Every number on the sensor wire is little-endian: the low byte first. Writers give the
bytes of a field; the reader is a cursor over the bytes still to come that also counts
how many it has consumed, so that a short read can say where it happened.
-/

namespace DepthRig.Wire

/-- The `n` low bytes of a number, low byte first. -/
def putLE : Nat → Nat → List UInt8
  | 0, _ => []
  | n + 1, v => (v % 256).toUInt8 :: putLE n (v / 256)

/-- The number whose low bytes, low first, are these. -/
def getLE : List UInt8 → Nat
  | [] => 0
  | b :: bs => b.toNat + 256 * getLE bs

/-- One byte. -/
def putU8 (v : UInt8) : List UInt8 := [v]

/-- A boolean as the byte 1 or 0. -/
def putBool (v : Bool) : List UInt8 := [if v then 1 else 0]

/-- Two bytes of a 16-bit word. -/
def putU16 (v : UInt16) : List UInt8 := putLE 2 v.toNat

/-- Two bytes of a signed 16-bit integer, two's complement. -/
def putI16 (v : Int16) : List UInt8 := putU16 v.toUInt16

/-- Four bytes of a 32-bit word. -/
def putU32 (v : UInt32) : List UInt8 := putLE 4 v.toNat

/-- Four bytes of a signed 32-bit integer, two's complement. -/
def putI32 (v : Int32) : List UInt8 := putU32 v.toUInt32

/-- Eight bytes of a 64-bit word. -/
def putU64 (v : UInt64) : List UInt8 := putLE 8 v.toNat

/-- Four bytes of a single's bit pattern. -/
def putSingle (v : Single) : List UInt8 := putU32 v.bits

/-- The length of a list as a signed 32-bit count. -/
def putCount (n : Nat) : List UInt8 := putI32 (Int32.ofInt n)

/-- A read position: the bytes still to come, how many were consumed before them, and
whether the stream has ended (a buffer always has). -/
structure Cursor where
  rest : List UInt8
  offset : Nat := 0
  closed : Bool := true
  deriving Inhabited

namespace Cursor

/-- A cursor at the start of a buffer. -/
def start (bs : List UInt8) : Cursor := ⟨bs, 0, true⟩

/-- The number of bytes left. -/
def remaining (c : Cursor) : Nat := c.rest.length

/-- Take `n` bytes, or `none` when fewer remain. -/
def take? (c : Cursor) (n : Nat) : Option (List UInt8 × Cursor) :=
  let (bs, rest) := c.rest.splitAt n
  if bs.length == n then some (bs, { c with rest := rest, offset := c.offset + n }) else none

end Cursor

/-- A byte as a signed 32-bit value read from four little-endian bytes. -/
def i32OfBytes (bs : List UInt8) : Int32 := (UInt32.ofNat (getLE bs)).toInt32

/-- A 16-bit signed value from two little-endian bytes. -/
def i16OfBytes (bs : List UInt8) : Int16 := (UInt16.ofNat (getLE bs)).toInt16

/-- A 32-bit word from four little-endian bytes. -/
def u32OfBytes (bs : List UInt8) : UInt32 := UInt32.ofNat (getLE bs)

/-- A 64-bit word from eight little-endian bytes. -/
def u64OfBytes (bs : List UInt8) : UInt64 := UInt64.ofNat (getLE bs)

end DepthRig.Wire
