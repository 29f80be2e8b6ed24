import DepthRig.Wire.Bytes
import DepthRig.Wire.Error

/-!
# Reading fields

`Decode` reads fields from a cursor and may stop, the cursor it leaves saying how many bytes
were consumed. `field` reads from a buffer, where a shortage is a malformed message naming
the field; `readFull` reads from a stream, where a shortage on an open stream is `waiting`
and on an ended one `ended` or `cut`.
-/

namespace DepthRig.Wire

/-- A reader of fields that may stop, and leaves the cursor where it stopped. -/
abbrev Decode := ExceptT ReadStop (StateM Cursor)

/-- `n` bytes of a buffer. -/
def field (n : Nat) : Decode (List UInt8) :=
  ExceptT.mk fun c =>
    match c.take? n with
    | some (bs, c') => (.ok bs, c')
    | none => (.error (.wire (.short n c.offset c.rest.length)), c)

/-- `n` bytes of a stream. -/
def readFull (n : Nat) : Decode (List UInt8) :=
  ExceptT.mk fun c =>
    match c.take? n with
    | some (bs, c') => (.ok bs, c')
    | none =>
      if !c.closed then (.error .waiting, c)
      else if c.rest.isEmpty then (.error .ended, c)
      else (.error .cut, { c with rest := [], offset := c.offset + c.rest.length })

/-- Stop with a wire error. -/
def fail {α : Type} (e : WireError) : Decode α := throw (.wire e)

/-- The number of bytes left in the cursor. -/
def remaining : Decode Nat := ExceptT.mk fun c => (.ok c.rest.length, c)

/-- Run a reader over a buffer: its result and the cursor it left. -/
def Decode.runOn {α : Type} (d : Decode α) (c : Cursor) : Except ReadStop α × Cursor :=
  (ExceptT.run d).run c

/-- How a reader takes its bytes. -/
abbrev Take := Nat → Decode (List UInt8)

/-- One byte. -/
def u8 (take : Take) : Decode UInt8 := do
  let bs ← take 1
  pure (bs.headD 0)

/-- A 16-bit signed integer. -/
def i16 (take : Take) : Decode Int16 := do pure (i16OfBytes (← take 2))

/-- A 32-bit signed integer. -/
def i32 (take : Take) : Decode Int32 := do pure (i32OfBytes (← take 4))

/-- A 32-bit word. -/
def u32 (take : Take) : Decode UInt32 := do pure (u32OfBytes (← take 4))

/-- A 64-bit word. -/
def u64 (take : Take) : Decode UInt64 := do pure (u64OfBytes (← take 8))

/-- A single-precision float. -/
def single (take : Take) : Decode Single := do pure ⟨u32OfBytes (← take 4)⟩

/-- A byte read as a flag: anything but zero is set. -/
def flag (take : Take) : Decode Bool := do pure ((← u8 take) != 0)

/-- `n` values read one after another. -/
def times {α : Type} : Nat → Decode α → Decode (List α)
  | 0, _ => pure []
  | n + 1, d => do
    let x ← d
    let xs ← times n d
    pure (x :: xs)

/-- Largest count a list on the wire may announce. -/
def maxListEntries : Nat := Nat.pow 2 20

/-- A list count from a stream: a 32-bit signed integer from zero to the list limit. -/
def listCount : Decode Nat := do
  let n ← i32 readFull
  if n.toInt < 0 || maxListEntries < n.toInt then fail (.listLength n.toInt)
  else pure n.toInt.toNat

end DepthRig.Wire
