/-!
# An additive lagged Fibonacci generator

The generator keeps 607 words of 64 bits and steps by `z k = z (k - 273) + z (k - 607)`
modulo `2 ^ 64`, from a seed spread by the Park–Miller generator and mixed with the cooked
words. The cooked words are the state `7.8e12` steps on from seed 1, which `advance` reaches
by taking `x ^ n` modulo the characteristic polynomial instead of stepping.
-/

namespace DepthRig.Random

/-- The number of words kept. -/
def size : Nat := 607

/-- How far behind the replaced word the second summand lies. -/
def lag : Nat := 273

/-- The Park–Miller step: multiplication by 48271 modulo the prime `2 ^ 31 - 1`. -/
def parkMiller (x : Nat) : Nat := x * 48271 % 2147483647

/-- The words spread from a seed: twenty Park–Miller steps are discarded, then each word
joins the next three steps, the first shifted left by `hi`, the second by `mid`. -/
def spread (seed hi mid : Nat) : Array UInt64 := Id.run do
  let mut x := seed
  for _ in [0:20] do
    x := parkMiller x
  let mut words : Array UInt64 := Array.mkEmpty size
  for _ in [0:size] do
    let a := parkMiller x
    let b := parkMiller a
    let c := parkMiller b
    x := c
    words := words.push
      ((a.toUInt64 <<< hi.toUInt64) ^^^ (b.toUInt64 <<< mid.toUInt64) ^^^ c.toUInt64)
  return words

/-- A coefficient of a polynomial, zero beyond its end. -/
def coeff (p : Array UInt64) (i : Nat) : UInt64 := p.getD i 0

/-- The product of two polynomials modulo `x ^ 607 - x ^ 334 - 1`: the full product, then
each power from the top down replaced by `x ^ 334 + 1` times the power 607 below it. -/
def mulReduce (a b : Array UInt64) : Array UInt64 := Id.run do
  let mut r : Array UInt64 := Array.replicate (2 * size - 1) 0
  for i in [0:size] do
    let ai := coeff a i
    if ai != 0 then
      for j in [0:size] do
        r := r.modify (i + j) (· + ai * coeff b j)
  for k in [0:size - 1] do
    let d := 2 * size - 2 - k
    let c := coeff r d
    r := r.modify (d - lag) (· + c)
    r := r.modify (d - size) (· + c)
  return r.extract 0 size

/-- `x` times a polynomial, modulo `x ^ 607 - x ^ 334 - 1`. -/
def mulX (p : Array UInt64) : Array UInt64 :=
  let top := coeff p (size - 1)
  let q := #[(0 : UInt64)] ++ p.extract 0 (size - 1)
  (q.modify (size - lag) (· + top)).modify 0 (· + top)

/-- `x ^ n` modulo `x ^ 607 - x ^ 334 - 1`, by squaring. -/
def powX (n : Nat) : Array UInt64 := Id.run do
  let mut result : Array UInt64 := (Array.replicate size 0).set! 0 1
  let mut base : Array UInt64 := (Array.replicate size 0).set! 1 1
  for k in [0:n.log2 + 1] do
    if n.testBit k then
      result := mulReduce result base
    base := mulReduce base base
  return result

/-- The sum of the products of two coefficient lists. -/
def dot (p z : Array UInt64) : UInt64 := Id.run do
  let mut s : UInt64 := 0
  for i in [0:size] do
    s := s + coeff p i * coeff z i
  return s

/-- Where the word of step `k` lies: each step moves the write position one place back
from 334. -/
def slot (k : Int) : Nat := ((334 - k) % (size : Int)).toNat

/-- The words after `n` steps from `words` (with the positions they start from). Word
`z k` for `k` from `-606` to `0` is the starting word at `slot k`; the word of step `k` is
the combination of those with the coefficients of `x ^ (k + 606)`. -/
def advance (words : Array UInt64) (n : Nat) : Array UInt64 := Id.run do
  let start : Array UInt64 := (Array.range size).map fun (i : Nat) => coeff words (slot ((i : Int) - 606))
  let mut p := powX n
  let mut out : Array UInt64 := Array.replicate size 0
  for t in [0:size] do
    let k : Int := (n : Int) - 606 + t
    out := out.set! (slot k) (dot p start)
    p := mulX p
  return out

/-- The cooked words: seed 1 spread with shifts 20 and 10, advanced `7.8e12` steps. -/
def cooked : Array UInt64 := advance (spread 1 20 10) 7800000000000

/-- The generator: its words and the positions of the next summand and the next write. -/
structure Generator where
  words : Array UInt64
  tap : Nat
  feed : Nat
  deriving Inhabited

namespace Generator

/-- The generator for a seed: the seed is taken modulo `2 ^ 31 - 1` (with 0 replaced by
89482311), spread with shifts 40 and 20, and mixed with the cooked words. -/
def seeded (seed : Int) : Generator :=
  let s := (seed % 2147483647).toNat
  let s := if s == 0 then 89482311 else s
  let words := (spread s 40 20).zipWith (· ^^^ ·) cooked
  ⟨words, 0, size - lag⟩

/-- One step: both positions move one place back, and the word at the write position
becomes its sum with the word at the summand position. -/
def next (g : Generator) : UInt64 × Generator :=
  let tap := (g.tap + size - 1) % size
  let feed := (g.feed + size - 1) % size
  let x := coeff g.words feed + coeff g.words tap
  (x, ⟨g.words.setIfInBounds feed x, tap, feed⟩)

/-- A draw of 63 bits: a step with its top bit cleared. -/
def int63 (g : Generator) : UInt64 × Generator :=
  let (x, g) := g.next
  (x &&& 0x7FFFFFFFFFFFFFFF, g)

/-- A float in `[0, 1)`: a 63-bit draw over `2 ^ 63`, drawn again when it rounds to 1.
Each draw rounds to 1 with chance `2 ^ -54`, so `fuel` redraws are plenty. -/
def float64Within (fuel : Nat) (g : Generator) : Float × Generator :=
  let (x, g) := g.int63
  let f := x.toFloat / 9223372036854775808.0
  match fuel with
  | 0 => (f, g)
  | fuel + 1 => if f == 1.0 then float64Within fuel g else (f, g)

/-- A float in `[0, 1)`. -/
def float64 (g : Generator) : Float × Generator := float64Within 64 g

/-- An integer below `n > 0` from 63-bit draws: the low bits for a power of two, else the
remainder of a draw below the largest multiple of `n`, drawing again above it. -/
def int63BelowWithin (fuel : Nat) (n : UInt64) (g : Generator) : UInt64 × Generator :=
  if n &&& (n - 1) == 0 then
    let (x, g) := g.int63
    (x &&& (n - 1), g)
  else
    let bound := 0x7FFFFFFFFFFFFFFF - (0x8000000000000000 % n)
    let (x, g) := g.int63
    match fuel with
    | 0 => (x % n, g)
    | fuel + 1 => if x > bound then int63BelowWithin fuel n g else (x % n, g)

/-- An integer below `n > 0`. -/
def int63Below (n : UInt64) (g : Generator) : UInt64 × Generator := int63BelowWithin 64 n g

end Generator

end DepthRig.Random
