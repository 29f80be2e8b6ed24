/-!
# Bit streams

Compressed data is read as bits forward, low bit first from the first byte, or backward,
from the marker bit in the last byte down through a 64-bit register. A backward read past
the bottom of the stream is not refused: the register yields bits from its low end and the
readers check the count afterwards. `BackBits` is that stream seen as a position that goes
negative once a reader has asked for more than there is.
-/

namespace DepthRig.Compression

/-- Byte `i` of a buffer, zero past its end. -/
def byteAt (data : ByteArray) (i : Nat) : Nat :=
  if h : i < data.size then data[i].toNat else 0

/-- The little-endian number of the `n` bytes at `i`. -/
def leAt (data : ByteArray) (i n : Nat) : Nat :=
  (List.range n).foldr (fun k acc => acc * 256 + byteAt data (i + k)) 0

/-- The `n` bits (at most 32) of a buffer from absolute bit `pos` upwards. -/
def bitsAt (data : ByteArray) (pos n : Nat) : Nat :=
  let b := pos / 8
  let w := byteAt data b + byteAt data (b + 1) * 0x100 + byteAt data (b + 2) * 0x10000
    + byteAt data (b + 3) * 0x1000000 + byteAt data (b + 4) * 0x100000000
  (w / Nat.pow 2 (pos % 8)) % Nat.pow 2 n

/-- Why a backward bit stream could not be read. -/
inductive StreamError where
  /-- The stream has no bytes. -/
  | tooShort
  /-- The last byte is zero, so it holds no marker. -/
  | noEndMark
  /-- Bits were left unread at the end. -/
  | extraBits (count : Nat)
  /-- More bits were read than the stream has. -/
  | overread
  deriving Repr, BEq, Inhabited

/-- The text of a stream error. -/
def StreamError.message : StreamError → String
  | .tooShort => "corrupt stream: too short"
  | .noEndMark => "corrupt stream, did not find end of stream"
  | .extraBits n => toString n ++ " extra bits on block, should be 0"
  | .overread => "unexpected EOF"

/-- A backward bit stream read through a 64-bit register: `data[0, cursor)` is not yet
loaded, and `bitsRead` of the register's 64 bits have been read. -/
structure BitRegister where
  data : ByteArray
  cursor : Nat
  value : UInt64
  bitsRead : UInt8

namespace BitRegister

/-- Load more bits once at least 32 have been read: the four bytes below the cursor, or
all that are left one at a time. -/
def fill (r : BitRegister) : BitRegister :=
  if r.bitsRead < 32 then r
  else if 4 ≤ r.cursor then
    let c := r.cursor - 4
    { r with cursor := c, value := (r.value <<< 32) ||| (leAt r.data c 4).toUInt64
             bitsRead := r.bitsRead - 32 }
  else
    let value := (List.range r.cursor).foldr
      (fun (i : Nat) (v : UInt64) => (v <<< 8) ||| (byteAt r.data i).toUInt64) r.value
    { r with cursor := 0, value := value, bitsRead := r.bitsRead - (8 * r.cursor).toUInt8 }

/-- Open a stream; its last byte must hold the marker, and the bits above it are skipped. -/
def start (data : ByteArray) : Except StreamError BitRegister :=
  if data.size == 0 then .error .tooShort
  else
    let last := byteAt data (data.size - 1)
    if last == 0 then .error .noEndMark
    else
      let r : BitRegister :=
        if 8 ≤ data.size then ⟨data, data.size - 8, (leAt data (data.size - 8) 8).toUInt64, 0⟩
        else fill (fill ⟨data, data.size, 0, 64⟩)
      .ok { r with bitsRead := r.bitsRead + (8 - Nat.log2 last).toUInt8 }

/-- Read `n ≥ 1` bits (at most 32) from the register as it stands. -/
def take (r : BitRegister) (n : Nat) : Nat × BitRegister :=
  let v := (r.value <<< (r.bitsRead.toUInt64 &&& 63)) >>> ((64 - n.toUInt64) &&& 63)
  (v.toUInt32.toNat, { r with bitsRead := r.bitsRead + n.toUInt8 })

/-- Read `n` bits; no bits read nothing. -/
def read (r : BitRegister) (n : Nat) : Nat × BitRegister :=
  if n == 0 then (0, r) else r.take n

/-- Read `n` bits, or zero without moving once every bit has been read. -/
def readOrZero (r : BitRegister) (n : Nat) : Nat × BitRegister :=
  if n == 0 || 64 ≤ r.bitsRead then (0, r) else r.take n

/-- Whether every bit has been loaded and read. -/
def finished (r : BitRegister) : Bool := r.cursor == 0 && 64 ≤ r.bitsRead

/-- Whether more bits were read than the stream has. -/
def overread (r : BitRegister) : Bool := 64 < r.bitsRead

/-- The bits not yet read. -/
def remaining (r : BitRegister) : Nat := 8 * r.cursor + 64 - r.bitsRead.toNat

/-- End a stream that must have been read exactly. -/
def close (r : BitRegister) : Except StreamError Unit :=
  if !r.finished then .error (.extraBits r.remaining)
  else if r.overread then .error .overread
  else .ok ()

end BitRegister

/-- A backward bit stream over `data[start, start + len)`: `pos` counts the data bits
still unread above the stream's first bit, and goes negative once the reader has asked
for more bits than there were. -/
structure BackBits where
  data : ByteArray
  start : Nat
  pos : Int

namespace BackBits

/-- Open a backward stream; its last byte must hold the marker. -/
def init (data : ByteArray) (start len : Nat) : Except StreamError BackBits :=
  if len == 0 then .error .tooShort else
  let last := byteAt data (start + len - 1)
  if last == 0 then .error .noEndMark
  else .ok ⟨data, start, ((8 * (len - 1) + Nat.log2 last : Nat) : Int)⟩

/-- The next `n` bits, without moving; zero bits past the bottom. -/
def peek (s : BackBits) (n : Nat) : Nat :=
  if (n : Int) ≤ s.pos then bitsAt s.data (8 * s.start + (s.pos - n).toNat) n
  else if 0 < s.pos then bitsAt s.data (8 * s.start) s.pos.toNat * Nat.pow 2 (n - s.pos.toNat)
  else 0

/-- Move down by `n` bits. -/
def skip (s : BackBits) (n : Nat) : BackBits := { s with pos := s.pos - n }

end BackBits

end DepthRig.Compression
