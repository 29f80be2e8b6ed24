import DepthRig.Compression.Zstd.Error

/-!
# The sequences section of a compressed block

A sequence copies so many literals, then so many bytes from so far back; its three fields
are coded through three FSE tables and read from one backward bit stream, the offsets
through the three most recent. Each sequence is carried out as it is read, with its checks
in the order the decoder makes them, and the stream must be read exactly.
-/

namespace DepthRig.Compression

/-- Baseline and extra bits of each literal-length code. -/
def litLengthCodes : Array (Nat × Nat) :=
  (List.range 16).toArray.map (fun c => (c, 0)) ++
  #[(16, 1), (18, 1), (20, 1), (22, 1), (24, 2), (28, 2), (32, 3), (40, 3), (48, 4), (64, 6),
    (128, 7), (256, 8), (512, 9), (1024, 10), (2048, 11), (4096, 12), (8192, 13), (16384, 14),
    (32768, 15), (65536, 16)]

/-- Baseline and extra bits of each match-length code. -/
def matchLengthCodes : Array (Nat × Nat) :=
  (List.range 32).toArray.map (fun c => (c + 3, 0)) ++
  #[(35, 1), (37, 1), (39, 1), (41, 1), (43, 2), (47, 2), (51, 3), (59, 3), (67, 4), (83, 4),
    (99, 5), (131, 7), (259, 8), (515, 9), (1027, 10), (2051, 11), (4099, 12), (8195, 13),
    (16387, 14), (32771, 15), (65539, 16)]

/-- Baseline and extra bits of each offset code. Codes `0` and `1` choose among the recent
offsets (the value less one); a code `c ≥ 2` is the offset `2 ^ c - 3` plus `c` bits. -/
def offsetCodes : Array (Nat × Nat) :=
  #[(0, 0), (1, 1)] ++ (List.range 29).toArray.map (fun i => (Nat.pow 2 (i + 2) - 3, i + 2))

/-- The default literal-length distribution, accuracy log 6. -/
def litLengthDefault : Array Int :=
  #[4, 3, 2, 2, 2, 2, 2, 2, 2, 2, 2, 2, 2, 1, 1, 1, 2, 2, 2, 2, 2, 2, 2, 2, 2, 3, 2, 1, 1, 1, 1, 1,
    -1, -1, -1, -1]

/-- The default match-length distribution, accuracy log 6. -/
def matchLengthDefault : Array Int :=
  #[1, 4, 3, 2, 2, 2, 2, 2, 2, 1, 1, 1, 1, 1, 1, 1, 1, 1, 1, 1, 1, 1, 1, 1, 1, 1, 1, 1, 1, 1, 1, 1,
    1, 1, 1, 1, 1, 1, 1, 1, 1, 1, 1, 1, 1, 1, -1, -1, -1, -1, -1, -1, -1]

/-- The default offset distribution, accuracy log 5. -/
def offsetDefault : Array Int :=
  #[1, 1, 1, 1, 1, 1, 2, 2, 2, 1, 1, 1, 1, 1, 1, 1, 1, 1, 1, 1, 1, 1, 1, 1, -1, -1, -1, -1, -1]

/-- The three fields of a sequence. -/
inductive Field where
  | litLength
  | offset
  | matchLength
  deriving Repr, BEq, Inhabited

namespace Field

/-- The fields in the order their tables are written. -/
def all : List Field := [.litLength, .offset, .matchLength]

/-- The name a field's table is reported by. -/
def name : Field → String
  | .litLength => "litLengths"
  | .offset => "offsets"
  | .matchLength => "matchLengths"

/-- The codes of a field. -/
def codes : Field → Array (Nat × Nat)
  | .litLength => litLengthCodes
  | .offset => offsetCodes
  | .matchLength => matchLengthCodes

/-- The last symbol a written distribution of a field may name. -/
def lastSymbol : Field → Nat
  | .litLength => 35
  | .offset => 30
  | .matchLength => 52

/-- The default distribution of a field and its accuracy log. -/
def defaults : Field → Array Int × Nat
  | .litLength => (litLengthDefault, 6)
  | .offset => (offsetDefault, 5)
  | .matchLength => (matchLengthDefault, 6)

/-- Where a field's mode sits in the modes byte. -/
def modeShift : Field → Nat
  | .litLength => 64
  | .offset => 16
  | .matchLength => 4

end Field

/-- One state of a sequence table: the next state's base and bits, and the field value's
baseline and extra bits. -/
structure SeqCell where
  next : Nat
  bits : Nat
  baseline : Nat
  extra : Nat
  deriving Inhabited

/-- A sequence table: `2 ^ log` states, and the most extra bits any of them reads. -/
structure SeqTable where
  log : Nat
  cells : Array SeqCell
  maxExtra : Nat
  deriving Inhabited

namespace SeqTable

/-- The state `s` of a table. -/
def cell (t : SeqTable) (s : Nat) : SeqCell := t.cells[s]?.getD default

/-- A table from an FSE table, each symbol taken as a code of the field. -/
def ofFse (f : Field) (t : FseTable) : SeqTable :=
  let cells := t.cells.map fun c =>
    let (b, e) := f.codes.getD c.symbol (0, 0)
    (⟨c.base, c.bits, b, e⟩ : SeqCell)
  ⟨t.log, cells, cells.foldl (fun m c => max m c.extra) 0⟩

/-- The table of one repeated code. -/
def repeated (f : Field) (code : Nat) : Except ZstdError SeqTable :=
  match f.codes[code]? with
  | none => .error (.rleSymbol code f.codes.size)
  | some (b, e) => .ok ⟨0, #[⟨0, 0, b, e⟩], e⟩

/-- The default table of a field. -/
def ofDefault (f : Field) : SeqTable :=
  let (counts, log) := f.defaults
  match buildTable log counts with
  | .ok t => ofFse f t
  | .error _ => default

end SeqTable

/-- The three tables a block leaves for the next, each none until a block defines it. -/
structure SeqTables where
  litLength : Option SeqTable := none
  offset : Option SeqTable := none
  matchLength : Option SeqTable := none
  deriving Inhabited

namespace SeqTables

/-- The table of a field. -/
def get (ts : SeqTables) : Field → Option SeqTable
  | .litLength => ts.litLength
  | .offset => ts.offset
  | .matchLength => ts.matchLength

/-- Set the table of a field. -/
def set (ts : SeqTables) (t : Option SeqTable) : Field → SeqTables
  | .litLength => { ts with litLength := t }
  | .offset => { ts with offset := t }
  | .matchLength => { ts with matchLength := t }

end SeqTables

/-- The distributions of sequence tables: accuracy logs up to 9, symbols up to the
field's last. -/
def seqRules (f : Field) : DistRules := ⟨9, some f.lastSymbol⟩

/-- Read the table of one field by its mode from `data` at `pos`: the tables and the
position after it. -/
def readSeqTable (data : ByteArray) (modes : Nat) (acc : SeqTables × Nat) (f : Field) :
    Except ZstdError (SeqTables × Nat) := do
  let (ts, pos) := acc
  let (ts, pos) ← match (modes / f.modeShift) % 4 with
    | 0 => pure (ts.set (some (SeqTable.ofDefault f)) f, pos)
    | 1 =>
      if data.size < pos + 1 then throw .blockTooSmall
      let t ← SeqTable.repeated f (byteAt data pos)
      pure (ts.set (some t) f, pos + 1)
    | 2 => do
      let d ← (readDistribution (seqRules f) data pos).mapError .table
      let t ← (buildTable d.log d.counts).mapError .table
      pure (ts.set (some (SeqTable.ofFse f t)) f, d.next)
    | _ => pure (ts, pos)
  if data.size < pos then throw .truncated
  pure (ts, pos)

/-- The sequences header of a block after its literals: the number of sequences, the
tables, and where the bit stream starts. -/
def readSequencesHeader (data : ByteArray) (prev : SeqTables) :
    Except ZstdError (Nat × SeqTables × Nat) := do
  if data.size < 1 then throw .blockTooSmall
  let b0 := byteAt data 0
  let (count, len) ←
    if b0 < 128 then pure (b0, 1)
    else if b0 < 255 then do
      if data.size < 2 then throw .blockTooSmall
      pure ((b0 - 128) * 256 + byteAt data 1, 2)
    else do
      if data.size < 3 then throw .blockTooSmall
      pure (0x7F00 + byteAt data 1 + byteAt data 2 * 256, 3)
  if count == 0 then
    if data.size != len then throw .blockSizeUnexpected
    pure (0, prev, len)
  else
    if data.size < len + 1 then throw .blockTooSmall
    let modes := byteAt data len
    if modes % 4 != 0 then throw .reservedModes
    let body := data.extract len data.size
    let (ts, pos) ← Field.all.foldlM (readSeqTable body modes) (prev, 1)
    pure (count, ts, len + pos)

/-- Where a block's sequences are carried out: the payload's output so far, where the
frame's and the block's output start, and the frame's window. -/
structure Target where
  out : ByteArray
  frameStart : Nat
  blockStart : Nat
  window : Nat

namespace Target

/-- The frame's output so far. -/
def history (t : Target) : Nat := t.out.size - t.frameStart

/-- The block's output so far. -/
def produced (t : Target) : Nat := t.out.size - t.blockStart

/-- The most a block may decode to. -/
def blockLimit (t : Target) : Nat := min maxBlockSize t.window

/-- The history a failed offset reports. -/
def reported (t : Target) : Nat := if t.frameStart == 0 then t.produced else t.history

/-- Copy `n` bytes that start `offset` bytes back, one at a time, so a match may overlap
what it writes. -/
def copyMatch (offset : Nat) : Nat → ByteArray → ByteArray
  | 0, out => out
  | n + 1, out => copyMatch offset n (out.push (out[out.size - offset]?.getD 0))

end Target

/-- The most recent three offsets. -/
abbrev Recent := Nat × Nat × Nat

/-- The offset an offset value stands for, and the recent offsets after it. -/
def resolveOffset (value extra litLen : Nat) (recent : Recent) : Nat × Recent :=
  let (r1, r2, r3) := recent
  if 1 < extra then (value, (value, r1, r2))
  else
    let v := if litLen == 0 then value + 1 else value
    if v == 0 then (r1, recent)
    else
      let chosen := if v == 3 then r1 - 1 else if v == 1 then r2 else r3
      let chosen := if chosen == 0 then 1 else chosen
      (chosen, (chosen, r1, if v == 1 then r3 else r2))

/-- The longest match. -/
def maxMatchLength : Nat := 131074

/-- The decoding state of a block's sequences. -/
structure SeqRun where
  reg : BitRegister
  litLength : Nat
  offset : Nat
  matchLength : Nat
  recent : Recent
  lits : ByteArray
  litPos : Nat
  target : Target

/-- The three tables a block's sequences are decoded with. -/
structure SeqCoders where
  litLength : SeqTable
  offset : SeqTable
  matchLength : SeqTable

/-- Read one sequence and carry it out; `last` sequences do not move the states. -/
def SeqRun.step (c : SeqCoders) (last : Bool) (s : SeqRun) : Except ZstdError SeqRun := do
  if s.reg.overread then throw .truncated
  let ll := c.litLength.cell s.litLength
  let ml := c.matchLength.cell s.matchLength
  let of := c.offset.cell s.offset
  let reg := s.reg.fill
  let (ox, reg) := reg.read of.extra
  let reg := if 32 < c.litLength.maxExtra + c.offset.maxExtra + c.matchLength.maxExtra then reg.fill else reg
  let (mx, reg) := reg.read ml.extra
  let (lx, reg) := reg.read ll.extra
  let litLen := ll.baseline + lx
  let matchLen := ml.baseline + mx
  let (offset, recent) := resolveOffset (of.baseline + ox) of.extra litLen s.recent
  let reg := reg.fill
  let left := s.lits.size - s.litPos
  if left < litLen then throw (.literalShortage litLen left)
  let t := s.target
  if t.blockLimit < t.produced + litLen + matchLen then throw (.blockOutput t.blockLimit)
  if maxMatchLength < matchLen then throw (.matchTooLong matchLen)
  let t := { t with out := t.out ++ s.lits.extract s.litPos (s.litPos + litLen) }
  if offset == 0 && 0 < matchLen then throw (.zeroOffset matchLen)
  if t.history < offset || t.window < offset then throw (.offsetBeyond offset t.reported)
  let t := { t with out := Target.copyMatch offset matchLen t.out }
  let s := { s with target := t, recent, litPos := s.litPos + litLen, reg }
  if last then pure s
  else
    let n := ll.bits + ml.bits + of.bits
    let (bits, reg) := if n == 0 then (0, reg) else reg.take n
    pure { s with
      reg
      litLength := ll.next + (bits / Nat.pow 2 (of.bits + ml.bits)) % Nat.pow 2 ll.bits
      matchLength := ml.next + (bits / Nat.pow 2 of.bits) % Nat.pow 2 ml.bits
      offset := of.next + bits % Nat.pow 2 of.bits }

/-- Carry out `n` more sequences. -/
def SeqRun.steps (c : SeqCoders) : Nat → SeqRun → Except ZstdError SeqRun
  | 0, s => .ok s
  | n + 1, s => do
    let s ← s.step c (n == 0)
    SeqRun.steps c n s

/-- The table of a field for this block's sequences. -/
def coderOf (ts : SeqTables) (f : Field) : Except ZstdError SeqTable :=
  match ts.get f with
  | some t => .ok t
  | none => .error (.undefinedTable f.name)

/-- Decode and carry out `count` sequences from the stream `data` over the literals:
the target after them and the recent offsets. -/
def runSequences (data : ByteArray) (count : Nat) (ts : SeqTables) (lits : ByteArray)
    (recent : Recent) (target : Target) : Except ZstdError (Target × Recent) := do
  let reg ← (BitRegister.start data).mapError .stream
  let ll ← coderOf ts .litLength
  let of ← coderOf ts .offset
  let ml ← coderOf ts .matchLength
  let (a, reg) := reg.fill.read ll.log
  let (b, reg) := reg.fill.read of.log
  let (c, reg) := reg.fill.read ml.log
  let s : SeqRun := ⟨reg, a, b, c, recent, lits, 0, target⟩
  let s ← SeqRun.steps ⟨ll, of, ml⟩ count s
  let t := s.target
  let left := lits.size - s.litPos
  if t.blockLimit < left + t.produced then throw (.blockOutput t.blockLimit)
  let t := { t with out := t.out ++ lits.extract s.litPos lits.size }
  (s.reg.close).mapError .stream
  pure (t, s.recent)

end DepthRig.Compression
