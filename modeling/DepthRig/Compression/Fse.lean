import DepthRig.Compression.Bits

/-!
# Finite state entropy tables

An FSE table is described by a distribution, the number of states each symbol owns, read
from a forward bit stream through a 32-bit window; the description must account for every
state exactly. The decoding table spreads each symbol over the states with a fixed step and
gives each state its bit count and the base of the next state.
-/

namespace DepthRig.Compression

/-- Why an FSE table could not be read or built. -/
inductive TableError where
  | inputTooSmall
  | logTooLarge
  | symbolTooLarge
  | fewSymbols (count : Nat)
  | manySymbols (count : Nat)
  | unbalanced (remaining : Int)
  | overlong (bits : Nat)
  | total (got want : Int)
  | spread
  | stuck (state : Nat)
  deriving Repr, BEq, Inhabited

/-- The text of a table error. -/
def TableError.message : TableError → String
  | .inputTooSmall => "input too small"
  | .logTooLarge => "tableLog too large"
  | .symbolTooLarge => "maxSymbolValue too small"
  | .fewSymbols n => "symbolLen (" ++ toString n ++ ") too small"
  | .manySymbols n => "symbolLen (" ++ toString n ++ ") too big"
  | .unbalanced r => "corruption detected (remaining " ++ toString r ++ " != 1)"
  | .overlong b => "corruption detected (bitCount " ++ toString b ++ " > 32)"
  | .total got want => "corruption detected (total " ++ toString got ++ " != " ++ toString want ++ ")"
  | .spread => "corrupted input (position != 0)"
  | .stuck s => "newState (" ++ toString s ++ ") == oldState (" ++ toString s ++ ") and no bits"

/-- What a distribution may hold: its largest accuracy log, and the last symbol it may
name, if it is bounded. -/
structure DistRules where
  maxLog : Nat
  lastSymbol : Option Nat

/-- A distribution: its accuracy log, the count of each symbol from zero, and where the
description ends. -/
structure Distribution where
  log : Nat
  counts : Array Int
  next : Nat

/-- The reading state of a distribution description: the byte the window starts at, the
window and how many of its bits are read, the states not yet given out, the width of the
next count, the counts so far and their sum. -/
structure CountReader where
  off : Nat
  window : Nat
  used : Nat
  remaining : Int
  threshold : Nat
  width : Nat
  counts : Array Int
  prevZero : Bool
  total : Int

/-- Skip the sixteen-bit runs of ones, each standing for twenty-four absent symbols:
the window, its bits read, the byte it starts at and the symbols skipped. -/
def skipLongRuns (data : ByteArray) : Nat → Nat → Nat → Nat → Nat → Nat × Nat × Nat × Nat
  | 0, off, w, u, n => (off, w, u, n)
  | fuel + 1, off, w, u, n =>
    if w % 65536 != 65535 then (off, w, u, n)
    else if off + 5 < data.size then
      skipLongRuns data fuel (off + 2) (leAt data (off + 2) 4 / Nat.pow 2 u) u (n + 24)
    else skipLongRuns data fuel off (w / 65536) (u + 16) (n + 24)

/-- Skip the two-bit codes `3`, each standing for three absent symbols. -/
def skipShortRuns : Nat → Nat → Nat → Nat → Nat × Nat × Nat
  | 0, w, u, n => (w, u, n)
  | fuel + 1, w, u, n =>
    if w % 4 == 3 then skipShortRuns fuel (w / 4) (u + 2) (n + 3) else (w, u, n)

/-- Whether the window may move forward by the bytes read: four bytes stay in view. -/
def canMove (data : ByteArray) (off used : Nat) : Bool :=
  off + 7 ≤ data.size || off + used / 8 + 4 ≤ data.size

namespace CountReader

/-- Read the absent symbols after a zero count. -/
def skipZeros (data : ByteArray) (r : CountReader) : Except TableError CountReader :=
  let (off, w, u, n) := skipLongRuns data (data.size + 4) r.off r.window r.used r.counts.size
  let (w, u, n) := skipShortRuns 16 w u n
  let n := n + w % 4
  let u := u + 2
  if 255 < n then .error .symbolTooLarge
  else
    let counts := r.counts ++ Array.replicate (n - r.counts.size) 0
    if canMove data off u then
      let off := off + u / 8
      let u := u % 8
      .ok { r with off := off, window := leAt data off 4 / Nat.pow 2 u, used := u, counts := counts }
    else .ok { r with off := off, window := w / 4, used := u, counts := counts }

/-- Read one count. -/
def step (data : ByteArray) (r : CountReader) : CountReader :=
  let t := r.threshold
  let most : Int := ((2 * t - 1 : Nat) : Int) - r.remaining
  let low := r.window % t
  let (count, used) : Int × Nat :=
    if (low : Int) < most then (low, r.used + r.width - 1)
    else
      let c := r.window % (2 * t)
      ((if t ≤ c then (c : Int) - most else c), r.used + r.width)
  let count := count - 1
  let remaining := if count < 0 then r.remaining + count else r.remaining - count
  let total := if count < 0 then r.total - count else r.total + count
  let (width, threshold) := narrow remaining r.width t 16
  let (off, used, window) :=
    if canMove data r.off used then
      let off := r.off + used / 8
      (off, used % 8, leAt data off 4 / Nat.pow 2 (used % 8))
    else
      let off := data.size - 4
      let used := used + 8 * r.off - 8 * off
      (off, used, leAt data off 4 / Nat.pow 2 (used % 32))
  { off, window, used, remaining, threshold, width, counts := r.counts.push count
    prevZero := count == 0, total }
where
  /-- Halve the threshold, and narrow the counts, until it is at most what remains. -/
  narrow (remaining : Int) : Nat → Nat → Nat → Nat × Nat
    | w, t, 0 => (w, t)
    | w, t, fuel + 1 => if remaining < t then narrow remaining (w - 1) (t / 2) fuel else (w, t)

end CountReader

/-- Read counts until every state is given out, or the last symbol allowed is read. -/
def readCounts (rules : DistRules) (data : ByteArray) : Nat → CountReader → Except TableError CountReader
  | 0, r => .ok r
  | fuel + 1, r =>
    let inRange := match rules.lastSymbol with
      | some m => r.counts.size ≤ m
      | none => true
    if r.remaining ≤ 1 || !inRange then .ok r
    else do
      let r ← if r.prevZero then r.skipZeros data else pure r
      readCounts rules data fuel (r.step data)

/-- Read a distribution whose description starts at byte `start` of `data`. -/
def readDistribution (rules : DistRules) (data : ByteArray) (start : Nat) :
    Except TableError Distribution := do
  if data.size < start + 4 then throw .inputTooSmall
  let w := leAt data start 4
  let log := w % 16 + 5
  if rules.maxLog < log then throw .logTooLarge
  let size := Nat.pow 2 log
  let r0 : CountReader := ⟨start, w / 16, 4, (size + 1 : Nat), size, log + 1, #[], false, 0⟩
  let r ← readCounts rules data (size + 300) r0
  let n := r.counts.size
  if n ≤ 1 then throw (.fewSymbols n)
  if 256 < n then throw (.manySymbols n)
  if r.remaining != 1 then throw (.unbalanced r.remaining)
  if 32 < r.used then throw (.overlong r.used)
  if r.total != (size : Int) then throw (.total r.total size)
  pure ⟨log, r.counts, r.off + (r.used + 7) / 8⟩

/-- One decoding state: the symbol it emits, the bits to read and the base of the next state. -/
structure FseCell where
  symbol : Nat
  bits : Nat
  base : Nat
  deriving Inhabited

/-- A decoding table of `2 ^ log` cells. -/
structure FseTable where
  log : Nat
  cells : Array FseCell
  deriving Inhabited

/-- The cell of a state. -/
def FseTable.cell (t : FseTable) (state : Nat) : FseCell := t.cells[state]?.getD default

/-- Build the decoding table of a distribution. -/
def buildTable (log : Nat) (counts : Array Int) : Except TableError FseTable := do
  let size := Nat.pow 2 log
  let mask := size - 1
  -- symbols rarer than one state take the top states
  let (symbols, high, next) := counts.toList.zipIdx.foldl
    (fun (acc : Array Nat × Int × Array Nat) (c, s) =>
      let (syms, high, next) := acc
      if c == -1 then (syms.setIfInBounds high.toNat s, high - 1, next.push 1)
      else (syms, high, next.push c.toNat))
    (Array.replicate size 0, (size : Int) - 1, #[])
  let step := size / 2 + size / 8 + 3
  let advance (p : Nat) : Nat :=
    let rec go : Nat → Nat → Nat
      | 0, q => q
      | fuel + 1, q => let q' := (q + step) % (mask + 1)
        if high < q' then go fuel q' else q'
    go size p
  let (symbols, pos) := counts.toList.zipIdx.foldl
    (fun (acc : Array Nat × Nat) (c, s) =>
      if 0 < c then
        (List.range c.toNat).foldl (fun (acc : Array Nat × Nat) _ =>
          (acc.1.setIfInBounds acc.2 s, advance acc.2)) acc
      else acc)
    (symbols, 0)
  if pos != 0 then throw .spread
  let (cells, _) ← (List.range size).foldlM
    (fun (acc : Array FseCell × Array Nat) u => do
      let s := symbols.getD u 0
      let x := acc.2.getD s 0
      let nb := log - Nat.log2 x
      let base := x * Nat.pow 2 nb - size
      if nb == 0 && base == u then throw (TableError.stuck u)
      pure (acc.1.push ⟨s, nb, base⟩, acc.2.setIfInBounds s (x + 1)))
    (#[], next)
  pure ⟨log, cells⟩

end DepthRig.Compression
