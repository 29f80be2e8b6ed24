import DepthRig.Compression.Zstd.Error

/-!
# The literals section of a compressed block

A literals section is stored, one repeated byte, or Huffman-coded with a new or the previous
table, its header giving the sizes. It is checked as it is read: the header must be there, the
size within the window and the block, and the literals decoded exactly as many as announced.
-/

namespace DepthRig.Compression

/-- The kinds of literals section. -/
inductive LiteralsKind where
  | stored
  | repeated
  | coded
  | recoded
  deriving Repr, BEq, Inhabited

/-- The header of a literals section: its kind, how many literals it decodes to, the bytes
it takes after the header, whether it is in four streams, and the header's length. -/
structure LiteralsHeader where
  kind : LiteralsKind
  size : Nat
  compressed : Nat
  four : Bool
  length : Nat

/-- Read the header of a literals section at the start of a block. -/
def readLiteralsHeader (block : ByteArray) : Except ZstdError LiteralsHeader := do
  if block.size < 2 then throw .blockTooSmall
  let b0 := byteAt block 0
  let at1 := byteAt block 1 * 16
  let at2 := byteAt block 2 * 4096
  let form := (b0 / 4) % 4
  match b0 % 4 with
  | 0 | 1 =>
    let kind := if b0 % 4 == 0 then LiteralsKind.stored else .repeated
    if form % 2 == 0 then pure ⟨kind, b0 / 8, 0, false, 1⟩
    else if form == 1 then pure ⟨kind, b0 / 16 + at1, 0, false, 2⟩
    else do
      if block.size < 3 then throw .blockTooSmall
      pure ⟨kind, b0 / 16 + at1 + at2, 0, false, 3⟩
  | k =>
    let kind := if k == 2 then LiteralsKind.coded else .recoded
    let len := if form < 2 then 3 else form + 2
    if block.size < len then throw .blockTooSmall
    let n := b0 / 16 + at1 + at2 + byteAt block 3 * Nat.pow 2 20 * (if 4 ≤ len then 1 else 0)
      + byteAt block 4 * Nat.pow 2 28 * (if 5 ≤ len then 1 else 0)
    let bits := if form < 2 then 10 else if form == 2 then 14 else 18
    let unit := Nat.pow 2 bits
    pure ⟨kind, n % unit, n / unit, form != 0, len⟩

/-- Decode Huffman-coded literals with a table. -/
def decodeCoded (t : HuffTable) (four : Bool) (stream : ByteArray) (size : Nat) :
    Except ZstdError ByteArray := do
  let lits ← (if four then decodeFour t stream size else decodeSingle t stream size).mapError .huffman
  if lits.size != size then throw (.literalCount size lits.size)
  pure lits

/-- Read the literals section at the start of a block: the literals, the bytes the
section took and the Huffman table the next block may reuse. -/
def readLiterals (block : ByteArray) (window : Nat) (prev : Option HuffTable) :
    Except ZstdError (ByteArray × Nat × Option HuffTable) := do
  let h ← readLiteralsHeader block
  if window < h.size || maxBlockSize < h.size then throw .windowExceeded
  let rest := block.size - h.length
  match h.kind with
  | .stored =>
    if rest < h.size then throw .blockTooSmall
    pure (block.extract h.length (h.length + h.size), h.length + h.size, prev)
  | .repeated =>
    if rest < 1 then throw .blockTooSmall
    let b := (byteAt block h.length).toUInt8
    pure (ByteArray.mk (Array.replicate h.size b), h.length + 1, prev)
  | .recoded =>
    if rest < h.compressed then throw .blockTooSmall
    let stream := block.extract h.length (h.length + h.compressed)
    match prev with
    | none => throw .treeless
    | some t =>
      let lits ← decodeCoded t h.four stream h.size
      pure (lits, h.length + h.compressed, prev)
  | .coded =>
    if rest < h.compressed then throw .blockTooSmall
    let body := block.extract h.length (h.length + h.compressed)
    let (t, used) ← (readHuffTable body).mapError .huffman
    let lits ← decodeCoded t h.four (body.extract used body.size) h.size
    pure (lits, h.length + h.compressed, some t)

end DepthRig.Compression
