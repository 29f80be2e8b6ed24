import DepthRig.Compression.Fse

/-!
# Huffman-coded literals

A literal table is given by a weight per byte value, written as nibbles or FSE-compressed,
the last weight implied so that the weights fill the table exactly. Literals are decoded from
one backward stream, or from four whose sizes a six-byte jump table gives.
-/

namespace DepthRig.Compression

/-- Why FSE-compressed weights did not decode. -/
inductive WeightsError where
  | table (e : TableError)
  | stream (e : StreamError)
  | tooMany (count : Nat)
  deriving Repr, BEq, Inhabited

/-- The text of a weights error. -/
def WeightsError.message : WeightsError → String
  | .table e => e.message
  | .stream e => e.message
  | .tooMany n => "output size (" ++ toString n ++ ") > DecompressLimit (255)"

/-- Why a literal table or stream did not decode. -/
inductive HuffError where
  | tableInputTooSmall
  | tableInputShort (want available : Nat)
  | weights (e : WeightsError)
  | tableTooLarge
  | weightTooLarge
  | weightsZero
  | logTooBig
  | lastNotPowerOfTwo
  | oddRankOne
  | stream (e : StreamError)
  | sizeExceeded
  | inputTooSmall
  | badJump
  | overrun
  | shortStream (index offset ends : Nat)
  | shortOutput
  deriving Repr, BEq, Inhabited

/-- The text of a literal error. -/
def HuffError.message : HuffError → String
  | .tableInputTooSmall => "input too small for table"
  | .tableInputShort w h =>
    "input too small for table, want " ++ toString w ++ " bytes, have " ++ toString h
  | .weights e => "fse decompress returned: " ++ e.message
  | .tableTooLarge => "corrupt input: output table too large"
  | .weightTooLarge => "corrupt input: weight too large"
  | .weightsZero => "corrupt input: weights zero"
  | .logTooBig => "corrupt input: tableLog too big"
  | .lastNotPowerOfTwo => "corrupt input: last value not power of two"
  | .oddRankOne => "corrupt input: min elt size, even check failed "
  | .stream e => e.message
  | .sizeExceeded => "maximum output size exceeded"
  | .inputTooSmall => "input too small"
  | .badJump => "truncated input (or invalid offset)"
  | .overrun => "corruption detected: stream overrun 4"
  | .shortStream i o e =>
    "corruption detected: short output block " ++ toString i ++ ", end " ++ toString o ++
      " != " ++ toString e
  | .shortOutput => "corruption detected: short output block"

/-- A literal decoding table: each slot's byte and code length. -/
structure HuffTable where
  log : Nat
  slots : Array (UInt8 × Nat)
  deriving Inhabited

/-- The weights' distributions: accuracy logs up to 15, any symbol. -/
def weightRules : DistRules := ⟨15, none⟩

/-- Take the next symbol of a state, reading the bits of its next state. -/
def FseTable.advance (t : FseTable) (state : Nat) (r : BitRegister) : Nat × Nat × BitRegister :=
  let c := t.cell state
  let (b, r) := r.readOrZero c.bits
  (c.symbol, c.base + b, r)

/-- Whether a state has nothing left to read its next state from. -/
def FseTable.spent (t : FseTable) (state : Nat) (r : BitRegister) : Bool :=
  r.finished && 0 < (t.cell state).bits

/-- Decode weights with two states while eight bytes or more are still to load, four at
a time; 256 of them are too many. -/
def weightsBulk (t : FseTable) : Nat → Nat → Nat → BitRegister → Array Nat →
    Except WeightsError (Nat × Nat × BitRegister × Array Nat)
  | 0, s1, s2, r, out => .ok (s1, s2, r, out)
  | fuel + 1, s1, s2, r, out =>
    if r.cursor < 8 then .ok (s1, s2, r, out)
    else
      let (a, s1, r) := t.advance s1 r.fill
      let (b, s2, r) := t.advance s2 r
      let (c, s1, r) := t.advance s1 r.fill
      let (d, s2, r) := t.advance s2 r
      let out := out ++ #[a, b, c, d]
      if out.size % 256 == 0 then .error (.tooMany out.size)
      else weightsBulk t fuel s1 s2 r out

/-- Decode the last weights, one state after the other, until one finds the stream used
up; both then give their symbols. -/
def weightsTail (t : FseTable) : Nat → Nat → Nat → BitRegister → Array Nat →
    Except WeightsError (BitRegister × Array Nat)
  | 0, _, _, r, out => .ok (r, out)
  | fuel + 1, s1, s2, r, out =>
    if t.spent s1 r then .ok (r, out ++ #[(t.cell s1).symbol, (t.cell s2).symbol])
    else
      let (a, s1, r) := t.advance s1 r.fill
      let out := out.push a
      if t.spent s2 r then .ok (r, out ++ #[(t.cell s2).symbol, (t.cell s1).symbol])
      else
        let (b, s2, r) := t.advance s2 r
        let out := out.push b
        if 255 ≤ out.size then .error (.tooMany out.size)
        else weightsTail t fuel s1 s2 r out

/-- Decode FSE-compressed weights: a distribution, then the stream after it. -/
def decodeWeights (data : ByteArray) : Except WeightsError (Array Nat) := do
  let d ← (readDistribution weightRules data 0).mapError .table
  let t ← (buildTable d.log d.counts).mapError .table
  let r ← (BitRegister.start (data.extract d.next data.size)).mapError .stream
  let (s1, r) := r.readOrZero t.log
  let (s2, r) := r.readOrZero t.log
  let (s1, s2, r, out) ← weightsBulk t 70 s1 s2 r #[]
  let (r, out) ← weightsTail t 300 s1 s2 r out
  if r.overread then throw (.stream .overread)
  pure out

/-- Complete the weights with the implied last one and build the decoding table. -/
def buildHuffTable (weights : Array Nat) : Except HuffError HuffTable := do
  if weights.any (11 < ·) then throw .weightTooLarge
  let total := weights.foldl (fun acc w => acc + Nat.pow 2 w / 2) 0
  if total == 0 then throw .weightsZero
  let log := Nat.log2 total + 1
  if 11 < log then throw .logTooBig
  let rest := Nat.pow 2 log - total
  if rest != Nat.pow 2 (Nat.log2 rest) then throw .lastNotPowerOfTwo
  let weights := weights.push (Nat.log2 rest + 1)
  let ones := weights.foldl (fun c w => if w == 1 then c + 1 else c) 0
  if ones < 2 || ones % 2 == 1 then throw .oddRankOne
  -- where the slots of each weight begin
  let starts := (List.range (log + 1)).foldl
    (fun (acc : Array Nat × Nat) w =>
      let count := weights.foldl (fun c x => if x == w && w != 0 then c + 1 else c) 0
      (acc.1.push acc.2, acc.2 + (if w == 0 then 0 else count * Nat.pow 2 (w - 1))))
    (#[], 0)
  let (slots, _) := weights.toList.zipIdx.foldl
    (fun (acc : Array (UInt8 × Nat) × Array Nat) (w, s) =>
      if w == 0 then acc else
      let start := acc.2.getD w 0
      let len := Nat.pow 2 (w - 1)
      let filled := (List.range len).foldl
        (fun a i => a.setIfInBounds (start + i) (s.toUInt8, log + 1 - w)) acc.1
      (filled, acc.2.setIfInBounds w (start + len)))
    (Array.replicate (Nat.pow 2 log) (0, 0), starts.1)
  pure ⟨log, slots⟩

/-- Read a literal table from the start of `data`: the table and the bytes it took. -/
def readHuffTable (data : ByteArray) : Except HuffError (HuffTable × Nat) := do
  if data.size ≤ 1 then throw .tableInputTooSmall
  let h := byteAt data 0
  let (weights, used) ←
    if 128 ≤ h then do
      let n := h - 127
      let bytes := (n + 1) / 2
      if data.size - 1 < bytes then throw .tableInputTooSmall
      let ws := (List.range n).toArray.map fun i =>
        let b := byteAt data (1 + i / 2)
        if i % 2 == 0 then b / 16 else b % 16
      pure (ws, 1 + bytes)
    else do
      if data.size - 1 < h then throw (.tableInputShort h (data.size - 1))
      let ws ← (decodeWeights (data.extract 1 (1 + h))).mapError .weights
      if 255 < ws.size then throw .tableTooLarge
      pure (ws, 1 + h)
  let t ← buildHuffTable weights
  pure (t, used)

/-- Decode one literal through the table. -/
def HuffTable.decodeOne (t : HuffTable) (s : BackBits) : UInt8 × BackBits :=
  let (b, bits) := t.slots.getD (s.peek t.log) (0, 0)
  (b, s.skip bits)

/-- Decode one stream of at most `limit` literals: until the bits are used up, or, once
overrun, until the bits read are a multiple of 256 past the end. -/
def decodeSingle (t : HuffTable) (data : ByteArray) (limit : Nat) : Except HuffError ByteArray := do
  let s ← (BackBits.init data 0 data.size).mapError .stream
  go (limit + 2) s ByteArray.empty
where
  go : Nat → BackBits → ByteArray → Except HuffError ByteArray
    | 0, _, out => .ok out
    | fuel + 1, s, out =>
      if s.pos ≤ 0 && s.pos % 256 == 0 then .ok out
      else if limit ≤ out.size then .error .sizeExceeded
      else
        let (b, s) := t.decodeOne s
        go fuel s (out.push b)

/-- Decode one of four streams into `out` from `offset` up to `ends`; `strict` refuses an
overrun stream at once, otherwise decoding goes on until the quarter is full. -/
def decodeQuarter (t : HuffTable) (strict : Bool) (ends : Nat) :
    Nat → BackBits → Nat → ByteArray → Except HuffError (Nat × ByteArray)
  | 0, _, offset, out => .ok (offset, out)
  | fuel + 1, s, offset, out =>
    if s.pos == 0 then .ok (offset, out)
    else if strict && s.pos < 0 then .error (.stream .overread)
    else if ends ≤ offset then .error .overrun
    else
      let (b, s) := t.decodeOne s
      decodeQuarter t strict ends fuel s (offset + 1) (out.push b)

/-- Open the four streams after the jump table. -/
def openQuarters (data : ByteArray) : Except HuffError (List BackBits) := do
  if data.size < 10 then throw .inputTooSmall
  let lens := [leAt data 0 2, leAt data 2 2, leAt data 4 2]
  let (firsts, start) ← lens.foldlM
    (fun (acc : List BackBits × Nat) len => do
      if data.size ≤ acc.2 + len then throw .badJump
      let s ← (BackBits.init data acc.2 len).mapError .stream
      pure (acc.1 ++ [s], acc.2 + len))
    ([], 6)
  let last ← (BackBits.init data start (data.size - start)).mapError .stream
  pure (firsts ++ [last])

/-- Decode `size` literals from four streams. -/
def decodeFour (t : HuffTable) (data : ByteArray) (size : Nat) : Except HuffError ByteArray := do
  let streams ← openQuarters data
  let every := (size + 3) / 4
  let strict := t.log ≤ 8 && size < 800
  let (out, decoded) ← streams.zipIdx.foldlM
    (fun (acc : ByteArray × Nat) (s, i) => do
      let offset := every * i
      let ends := min (offset + every) size
      let (offset', out) ← decodeQuarter t strict ends (ends + 2) s offset acc.1
      if offset' != ends then throw (.shortStream i offset' ends)
      pure (out, acc.2 + (offset' - offset)))
    (ByteArray.empty, 0)
  if size != decoded then throw .shortOutput
  pure out

end DepthRig.Compression
