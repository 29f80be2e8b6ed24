import DepthRig.Fault

/-!
# Wire format errors

Everything that can be wrong with bytes of the sensor wire format, each error knowing its text
and whether it is a spurious length, after which the connection is still usable, or a
malformed frame. `ReadStop` adds the stops for want of bytes: `ended`, `cut`, and `waiting` on
an open stream.
-/

namespace DepthRig.Wire

/-- A fault in wire-format bytes. -/
inductive WireError where
  /-- A field needs `need` bytes at `offset` and only `avail` remain. -/
  | short (need offset avail : Nat)
  /-- A frame payload starts with a negative vertex count other than the end sentinel. -/
  | spuriousVertexCount (count : Int)
  /-- The vertex records do not fit in the payload. -/
  | vertexOverflow (count need avail : Nat)
  /-- A negative body count. -/
  | negativeBodyCount (count : Int)
  /-- The body headers alone do not fit in the payload. -/
  | bodyOverflow (count : Nat)
  /-- A body's joint count is negative or its joint records do not fit. -/
  | jointOverflow (body : Nat) (count : Int)
  /-- Fewer than eight bytes for a frame header. -/
  | headerShort (avail : Nat)
  /-- A frame header with a length of zero or below, other than the end sentinel. -/
  | spuriousFrameLength (length : Int)
  /-- A frame header announcing more than the payload limit. -/
  | frameTooLong (length : Int)
  /-- A compressed payload and no way to decompress it. -/
  | noDecompressor
  /-- The payload did not decompress. -/
  | decompress (reason : String)
  /-- A settings block whose marker records are negative in number or do not fit. -/
  | markerOverflow (count : Int)
  /-- A list count that is negative or above the list limit. -/
  | listLength (count : Int)
  /-- Fewer bytes than a calibration record needs. -/
  | calibrationShort (avail : Nat)
  /-- Fewer bytes than a world calibration needs. -/
  | worldCalibrationShort (avail : Nat)
  /-- Fewer bytes than a configuration block needs. -/
  | configurationShort (avail : Nat)
  /-- A message byte outside the message set: the stream cannot be followed further. -/
  | unknownMessage (byte : UInt8)
  deriving Repr, BEq, Inhabited

namespace WireError

/-- Whether the error is a spurious length, which leaves the connection usable. -/
def isSpurious : WireError → Bool
  | .spuriousVertexCount _ | .spuriousFrameLength _ => true
  | _ => false

/-- Whether the error is a malformed frame. -/
def isMalformed : WireError → Bool
  | .spuriousVertexCount _ | .spuriousFrameLength _ | .configurationShort _
  | .unknownMessage _ => false
  | _ => true

/-- The text of an error. -/
def message : WireError → String
  | .short need offset avail =>
    s!"malformed frame: need {need} bytes at offset {offset}, have {avail}"
  | .spuriousVertexCount n => s!"spurious frame length: vertex count {n}"
  | .vertexOverflow n need avail => s!"malformed frame: {n} vertices need {need} bytes, have {avail}"
  | .negativeBodyCount n => s!"malformed frame: body count {n}"
  | .bodyOverflow n => s!"malformed frame: {n} bodies exceed buffer"
  | .jointOverflow b n => s!"malformed frame: body {b} declares {n} joints"
  | .headerShort avail => s!"malformed frame: frame header needs 8 bytes, have {avail}"
  | .spuriousFrameLength n => s!"spurious frame length: framing length {n}"
  | .frameTooLong n => s!"malformed frame: framing length {n} exceeds limit"
  | .noDecompressor => "malformed frame: compressed frame without decompressor"
  | .decompress reason => "malformed frame: decompress: " ++ reason
  | .markerOverflow n => s!"malformed frame: settings declare {n} markers"
  | .listLength n => s!"malformed frame: list length {n}"
  | .calibrationShort avail => s!"malformed frame: calibration record needs 52 bytes, have {avail}"
  | .worldCalibrationShort avail =>
    s!"malformed frame: world calibration needs 48 bytes, have {avail}"
  | .configurationShort avail => s!"configuration block needs 22 bytes, have {avail}"
  | .unknownMessage b => s!"unknown message byte {b.toNat}"

/-- As a fault: a spurious length or a malformed frame where it is one. -/
def toFault (e : WireError) : Fault :=
  ⟨e.message, if e.isSpurious then [.spuriousLength] else if e.isMalformed then [.malformedFrame] else []⟩

end WireError

/-- Why a read from a stream stopped. -/
inductive ReadStop where
  /-- The stream ended before the first byte of a field. -/
  | ended
  /-- The stream ended inside a field. -/
  | cut
  /-- The stream is open and the bytes avail not arrived yet. -/
  | waiting
  /-- The bytes that did arrive are at fault. -/
  | wire (e : WireError)
  deriving Repr, BEq, Inhabited

namespace ReadStop

/-- The text of a stop. -/
def message : ReadStop → String
  | .ended => "EOF"
  | .cut => "unexpected EOF"
  | .waiting => "waiting for data"
  | .wire e => e.message

/-- As a fault: the end of the stream, an end inside a field, or the wire error. -/
def toFault : ReadStop → Fault
  | .ended => .ofKind .ended "EOF"
  | .cut => .ofKind .unexpectedEnd "unexpected EOF"
  | .waiting => .plain "waiting for data"
  | .wire e => e.toFault

end ReadStop

end DepthRig.Wire
