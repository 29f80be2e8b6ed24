import DepthRig.Compression.Zstd.Literals
import DepthRig.Compression.Zstd.Sequences
import DepthRig.Compression.Checksum

/-!
# Zstandard frames

Decoding of the Zstandard format (RFC 8878): a payload is one or more frames, each a header,
a run of stored, repeated or compressed blocks and an optional checksum, skippable frames
passed over. Headers and blocks are checked in the order they are read, against the window
and the output limit. The encoder writes the simplest valid frame: stored blocks and the
content checksum.
-/

namespace DepthRig.Compression

/-- The most output a payload may decompress to: 64 GiB. -/
def maxDecodedSize : Nat := 64 * Nat.pow 2 30

/-- The least window a frame may declare. -/
def minWindow : Nat := 1024

/-- The largest window accepted. -/
def maxWindow : Nat := Nat.pow 2 29

/-- A frame header: whether the frame is one segment, its window, dictionary, declared
content size and whether a checksum follows its blocks. -/
structure FrameHeader where
  single : Bool
  window : Nat
  dictionary : Nat
  contentSize : Option Nat
  checksum : Bool

/-- Read and check a frame header at `pos`, after the magic number: the header and the
position after it. -/
def readFrameHeader (data : ByteArray) (pos : Nat) : Except ZstdError (FrameHeader × Nat) := do
  if data.size < pos + 1 then throw .truncated
  let fhd := byteAt data pos
  let single := (fhd / 32) % 2 == 1
  if (fhd / 8) % 2 == 1 then throw .reservedHeaderBit
  let pos := pos + 1
  let (window, pos) ←
    if single then pure (0, pos)
    else do
      if data.size < pos + 1 then throw .truncated
      let wd := byteAt data pos
      let base := Nat.pow 2 (10 + wd / 8)
      pure (base + base / 8 * (wd % 8), pos + 1)
  let dictBytes := match fhd % 4 with | 0 => 0 | 1 => 1 | 2 => 2 | _ => 4
  if data.size < pos + dictBytes then throw .truncated
  let dictionary := leAt data pos dictBytes
  let pos := pos + dictBytes
  let fcsBytes := match fhd / 64 with | 0 => (if single then 1 else 0) | 1 => 2 | 2 => 4 | _ => 8
  if data.size < pos + fcsBytes then throw .truncated
  let contentSize : Option Nat :=
    if fcsBytes == 0 then none
    else if fcsBytes == 2 then some (leAt data pos 2 + 256)
    else some (leAt data pos fcsBytes)
  let pos := pos + fcsBytes
  if maxWindow < window then throw .windowExceeded
  let window ←
    if window == 0 && single then do
      let w := max (contentSize.getD 0) minWindow
      if maxDecodedSize < w then throw .sizeLimit
      pure w
    else pure window
  if window < minWindow then throw .windowTooSmall
  pure (⟨single, window, dictionary, contentSize, (fhd / 4) % 2 == 1⟩, pos)

/-- What carries over between the blocks of one frame. -/
structure FrameState where
  /-- The payload's output so far, earlier frames included. -/
  out : ByteArray
  frameStart : Nat
  window : Nat
  huffman : Option HuffTable := none
  tables : SeqTables := {}
  recent : Recent := (1, 4, 8)

/-- The frame's output so far. -/
def FrameState.produced (st : FrameState) : Nat := st.out.size - st.frameStart

/-- Decode one compressed block. -/
def decodeCompressed (block : ByteArray) (st : FrameState) : Except ZstdError FrameState := do
  let (lits, used, huffman) ← readLiterals block st.window st.huffman
  let rest := block.extract used block.size
  let (count, tables, streamStart) ← readSequencesHeader rest st.tables
  let st := { st with huffman, tables }
  if count == 0 then pure { st with out := st.out ++ lits }
  else
    let target : Target := ⟨st.out, st.frameStart, st.out.size, st.window⟩
    let stream := rest.extract streamStart rest.size
    let (t, recent) ← runSequences stream count tables lits st.recent target
    pure { st with out := t.out, recent }

/-- Decode the blocks of a frame from `pos`; returns the state and the position after the
last block. -/
def decodeBlocks (data : ByteArray) (contentSize : Option Nat) :
    Nat → Nat → FrameState → Except ZstdError (FrameState × Nat)
  | 0, _, _ => .error .truncated
  | fuel + 1, pos, st => do
    if data.size < pos + 3 then throw .truncated
    let bh := leAt data pos 3
    let last := bh % 2 == 1
    let kind := (bh / 2) % 4
    let size := bh / 8
    let pos := pos + 3
    let tooBig := maxBlockSize < size || st.window < size
    let (st, pos) ← match kind with
      | 0 =>
        if tooBig then throw .windowExceeded
        if data.size < pos + size then throw .truncated
        pure ({ st with out := st.out ++ data.extract pos (pos + size) }, pos + size)
      | 1 =>
        if tooBig then throw .windowExceeded
        if data.size < pos + 1 then throw .truncated
        let b := (byteAt data pos).toUInt8
        pure ({ st with out := st.out ++ ByteArray.mk (Array.replicate size b) }, pos + 1)
      | 2 =>
        if tooBig then throw .compressedTooBig
        if size < 2 then throw .blockTooSmall
        if data.size < pos + size then throw .truncated
        let st ← decodeCompressed (data.extract pos (pos + size)) st
        pure (st, pos + size)
      | _ => throw .reservedBlock
    if maxDecodedSize < st.produced then throw .sizeLimit
    if let some n := contentSize then
      if n < st.produced then throw .frameSizeExceeded
    if last then pure (st, pos) else decodeBlocks data contentSize fuel pos st

/-- Decode one frame at `pos` (its magic already checked), appending to `out`. -/
def decodeFrame (data : ByteArray) (pos : Nat) (out : ByteArray) :
    Except ZstdError (ByteArray × Nat) := do
  let (h, pos) ← readFrameHeader data pos
  if h.dictionary != 0 then throw .dictionary
  if maxWindow < h.window then throw .windowExceeded
  if let some n := h.contentSize then
    if maxDecodedSize < n + out.size then throw .sizeLimit
  let st : FrameState := { out := out, frameStart := out.size, window := h.window }
  let (st, pos) ← decodeBlocks data h.contentSize (data.size + 1) pos st
  if let some n := h.contentSize then
    if n != st.produced then throw .sizeMismatch
  if h.checksum then
    if data.size < pos + 4 then throw .truncated
    let want := leAt data pos 4
    let got := (xxh64 (st.out.extract st.frameStart st.out.size)).toNat % Nat.pow 2 32
    if want != got then throw .checksum
    pure (st.out, pos + 4)
  else pure (st.out, pos)

/-- Decode a whole payload: every frame in turn, skippable frames passed over. -/
def decompress (data : ByteArray) : Except ZstdError ByteArray :=
  go (data.size + 1) 0 ByteArray.empty
where
  go : Nat → Nat → ByteArray → Except ZstdError ByteArray
    | 0, _, out => .ok out
    | fuel + 1, pos, out =>
      if data.size ≤ pos then .ok out
      else if data.size < pos + 4 then .error .truncated
      else
        let magic := leAt data pos 4
        if magic / 16 == 0x184D2A5 then
          if data.size < pos + 8 then .error .truncated
          else
            let n := leAt data (pos + 4) 4
            if data.size < pos + 8 + n then .error .truncated
            else go fuel (pos + 8 + n) out
        else if magic != 0xFD2FB528 then .error .magic
        else match decodeFrame data (pos + 4) out with
          | .ok (out, pos') =>
            if maxDecodedSize < out.size then .error .sizeLimit else go fuel pos' out
          | .error e => .error e

/-- Little-endian bytes of a number. -/
def leBytes (n width : Nat) : List UInt8 :=
  (List.range width).map fun k => ((n / Nat.pow 256 k) % 256).toUInt8

/-- Stored blocks of at most 128 KiB, the last one marked. -/
def storedBlocks (data : ByteArray) : List UInt8 :=
  let n := data.size
  let count := max 1 ((n + maxBlockSize - 1) / maxBlockSize)
  (List.range count).flatMap fun k =>
    let a := k * maxBlockSize
    let b := min n (a + maxBlockSize)
    let last := if k + 1 == count then 1 else 0
    leBytes ((b - a) * 8 + last) 3 ++ (data.extract a b).toList

/-- A single-segment frame with the content size, stored blocks and the checksum. -/
def compress (data : ByteArray) : ByteArray :=
  let n := data.size
  let header : List UInt8 :=
    if n < 256 then [0x24, n.toUInt8]
    else if n < 65536 + 256 then 0x64 :: leBytes (n - 256) 2
    else 0xA4 :: leBytes n 4
  ByteArray.mk (leBytes 0xFD2FB528 4 ++ header ++ storedBlocks data
    ++ leBytes ((xxh64 data).toNat % Nat.pow 2 32) 4).toArray

end DepthRig.Compression
