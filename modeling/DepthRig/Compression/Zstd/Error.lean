import DepthRig.Compression.Huffman

/-!
# Why a Zstandard payload does not decode

Each way a payload can fail is a cause of its own, with the fields its report names; the
reports of table and stream failures are those of the table or stream.
-/

namespace DepthRig.Compression

/-- Why a payload did not decompress. -/
inductive ZstdError where
  /-- The payload ended inside a header, a block or a checksum. -/
  | truncated
  | magic
  | reservedHeaderBit
  | windowTooSmall
  /-- A window, or a block or literals section, larger than a window may be. -/
  | windowExceeded
  /-- More output than a payload may decompress to. -/
  | sizeLimit
  | dictionary
  | reservedBlock
  | compressedTooBig
  | blockTooSmall
  /-- Bytes after a sequences header that declares no sequences. -/
  | blockSizeUnexpected
  /-- A frame's blocks produced more than its declared content size. -/
  | frameSizeExceeded
  | sizeMismatch
  | checksum
  /-- A literals section that reuses a Huffman table when there is none. -/
  | treeless
  | literalCount (want got : Nat)
  | huffman (e : HuffError)
  | table (e : TableError)
  | stream (e : StreamError)
  | reservedModes
  | rleSymbol (symbol limit : Nat)
  /-- A sequence table that repeats the previous block's when there is none. -/
  | undefinedTable (name : String)
  | literalShortage (want available : Nat)
  | blockOutput (limit : Nat)
  | matchTooLong (length : Nat)
  | zeroOffset (length : Nat)
  | offsetBeyond (offset history : Nat)
  deriving Repr, BEq, Inhabited

namespace ZstdError

/-- The text of an error. -/
def message : ZstdError → String
  | .truncated => "unexpected EOF"
  | .magic => "invalid input: magic number mismatch"
  | .reservedHeaderBit => "reserved bit set on frame header"
  | .windowTooSmall => "invalid input: window size was too small"
  | .windowExceeded => "window size exceeded"
  | .sizeLimit => "decompressed size exceeds configured limit"
  | .dictionary => "unknown dictionary"
  | .reservedBlock => "invalid input: reserved block type encountered"
  | .compressedTooBig => "invalid input: compressed size too big"
  | .blockTooSmall => "block too small"
  | .blockSizeUnexpected => "unexpected block size"
  | .frameSizeExceeded => "frame size exceeded"
  | .sizeMismatch => "frame size does not match size on stream"
  | .checksum => "CRC check failed"
  | .treeless => "literal block was treeless, but no history was defined"
  | .literalCount w g =>
    "literal output size mismatch want " ++ toString w ++ ", got " ++ toString g
  | .huffman e => e.message
  | .table e => e.message
  | .stream e => e.message
  | .reservedModes => "corrupt block: reserved bits not zero"
  | .rleSymbol s m => "rle symbol " ++ toString s ++ " >= max " ++ toString m
  | .undefinedTable name => name ++ ":sequence decoder not defined"
  | .literalShortage w h =>
    "unexpected literal count, want " ++ toString w ++ " bytes, but only " ++ toString h ++
      " is available"
  | .blockOutput m => "output bigger than max block size (" ++ toString m ++ ")"
  | .matchTooLong l => "match len (" ++ toString l ++ ") bigger than max allowed length"
  | .zeroOffset l => "zero matchoff and matchlen (" ++ toString l ++ ") > 0"
  | .offsetBeyond o h =>
    "match offset (" ++ toString o ++ ") bigger than current history (" ++ toString h ++ ")"

end ZstdError

/-- The largest block, and the most a block may decode to. -/
def maxBlockSize : Nat := 131072

end DepthRig.Compression
