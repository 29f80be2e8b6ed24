import DepthRig.Wire.FrameCodec
import DepthRig.Compression.Zstd

/-!
# Framed payloads on a stream

Every frame payload is preceded by an 8-byte header, a signed length and a compression flag.
A length of `-1` ends the stored frames, any other length of zero or below is spurious, and a
length beyond the limit is drained and refused; after a positive length the reader consumes
exactly the header and the announced bytes.
-/

namespace DepthRig.Wire

/-- A frame header. -/
structure FrameHeader where
  length : Int32
  compressed : Bool
  deriving BEq, Repr

namespace FrameHeader

/-- Whether the header is the end-of-stored-frames sentinel. -/
def isEndOfStream (h : FrameHeader) : Bool := h.length.toInt == -1

/-- Whether the length is zero or negative and not the sentinel. -/
def isSpurious (h : FrameHeader) : Bool := h.length.toInt ≤ 0 && !h.isEndOfStream

/-- The header's bytes. -/
def encode (h : FrameHeader) : List UInt8 :=
  putI32 h.length ++ putU32 (if h.compressed then 1 else 0)

/-- Parse a header from the first eight bytes. -/
def parse (bs : List UInt8) : Except WireError FrameHeader :=
  if bs.length < 8 then .error (.headerShort bs.length)
  else .ok ⟨i32OfBytes (bs.take 4), u32OfBytes ((bs.drop 4).take 4) == 1⟩

end FrameHeader

/-- The most payload bytes a header may announce. -/
def maxFramePayload : Nat := 256 * Nat.pow 2 20

/-- Consume `n` bytes or, on an ended stream, all that is left and stop at its end. -/
def discard (n : Nat) : Decode Unit :=
  ExceptT.mk fun c =>
    match c.take? n with
    | some (_, c') => (.ok (), c')
    | none =>
      if !c.closed then (.error .waiting, c)
      else (.error .ended, { c with rest := [], offset := c.offset + c.rest.length })

/-- Read one framed payload from a stream and decode it; `zstd` says whether compressed
payloads can be expanded. -/
def readFramed (zstd : Bool) : Decode Payload := do
  let hdr ← readFull 8
  let h : FrameHeader := ⟨i32OfBytes (hdr.take 4), u32OfBytes (hdr.drop 4) == 1⟩
  if h.isEndOfStream then pure .endOfStored
  else if h.isSpurious then fail (.spuriousFrameLength h.length.toInt)
  else
    let n := h.length.toInt.toNat
    if maxFramePayload < n then do
      discard n
      fail (.frameTooLong h.length.toInt)
    else do
      let payload ← readFull n
      let payload ←
        if h.compressed then
          if !zstd then fail .noDecompressor
          else match Compression.decompress (ByteArray.mk payload.toArray) with
            | .ok p => pure p.toList
            | .error e => fail (.decompress e.message)
        else pure payload
      match decodePayload payload with
      | .ok p => pure p
      | .error e => fail e

/-- Append a framed payload: the header with the payload's length, then the payload,
compressed first when asked. -/
def appendFramed (dst : List UInt8) (f : Option Frame) (compress : Bool) : List UInt8 :=
  let payload := encodeFrame f
  let payload :=
    if compress then (Compression.compress (ByteArray.mk payload.toArray)).toList else payload
  dst ++ FrameHeader.encode ⟨Int32.ofInt payload.length, compress⟩ ++ payload

/-- Append the framing that says no stored frames remain. -/
def appendEndOfStored (dst : List UInt8) : List UInt8 :=
  dst ++ FrameHeader.encode ⟨-1, false⟩

end DepthRig.Wire
