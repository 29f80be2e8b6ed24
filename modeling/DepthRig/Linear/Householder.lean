import DepthRig.Linear.Dense

/-!
# Householder reflections and bidiagonalization

An elementary reflector `H = I − τ · v · vᵀ` maps `(α, x)` onto `(β, 0)`. Reduction to
bidiagonal form alternates reflectors from the left and from the right, and their products are
then formed as the orthogonal factors `Q` and `Pᵀ`.
-/

namespace DepthRig.Linear

/-- The smallest double whose reciprocal does not overflow, divided by the unit
roundoff. -/
def safeMinimum : Float := Float.ofBits 0x0010000000000000 / Float.ofBits 0x3CA0000000000000

/-- Scale up a reflector whose `β` is below `safeMinimum`, at most twenty times:
`α`, `β`, `x` and the number of scalings. -/
def rescale (alpha beta : Float) (xs : List Float) : Nat → Nat → Float × Float × List Float × Nat
  | 0, knt => (alpha, beta, xs, knt)
  | fuel + 1, knt =>
    let r := 1 / safeMinimum
    let xs := xs.map (· * r)
    let beta := beta * r
    let alpha := alpha * r
    if safeMinimum ≤ beta.abs || 20 ≤ knt + 1 then (alpha, beta, xs, knt + 1)
    else rescale alpha beta xs fuel (knt + 1)

/-- The reflector mapping `(α, x)` onto `(β, 0)`: `β`, `τ` and `x` scaled into the
reflector's vector. With nothing to clear, `τ` is zero and `β` is `α`. -/
def reflector (alpha : Float) (xs : List Float) : Float × Float × List Float :=
  if xs.isEmpty then (alpha, 0, xs)
  else
    let xnorm := norm2 xs
    if xnorm == 0 then (alpha, 0, xs)
    else
      let beta := -copySign (hypot alpha xnorm) alpha
      let (alpha, beta, xs, knt) :=
        if beta.abs < safeMinimum then
          let (alpha, beta, xs, knt) := rescale alpha beta xs 20 0
          (alpha, -copySign (hypot alpha (norm2 xs)) alpha, xs, knt)
        else (alpha, beta, xs, 0)
      let tau := (beta - alpha) / beta
      let scale := 1 / (alpha - beta)
      let xs := xs.map (· * scale)
      let beta := (List.range knt).foldl (fun b _ => b * safeMinimum) beta
      (beta, tau, xs)

/-- The length of `v` without its trailing zeros. -/
def activeLength (v : List Float) : Nat := (v.reverse.dropWhile (· == 0)).length

/-- Apply `H = I − τ v vᵀ` from the left to the `m × n` block of `a` at `(r0, c0)`. -/
def applyLeft (a : Dense) (r0 c0 m n : Nat) (v : List Float) (tau : Float) : Dense :=
  if tau == 0 then a
  else
    let lastv := activeLength (v.take m)
    let live (j : Nat) := (List.range lastv).any fun i => a.get (r0 + i) (c0 + j) != 0
    let lastc := ((List.range n).reverse.find? live).map (· + 1) |>.getD 0
    if lastv == 0 || lastc == 0 then a
    else
      let w := (List.range lastc).map fun j =>
        (List.range lastv).foldl (fun acc i => acc + v.getD i 0 * a.get (r0 + i) (c0 + j)) 0
      (List.range lastv).foldl (fun a i =>
        let t := -tau * v.getD i 0
        (List.range lastc).foldl (fun a j =>
          a.set (r0 + i) (c0 + j) (a.get (r0 + i) (c0 + j) + t * w.getD j 0)) a) a

/-- Apply `H = I − τ v vᵀ` from the right to the `m × n` block of `a` at `(r0, c0)`. -/
def applyRight (a : Dense) (r0 c0 m n : Nat) (v : List Float) (tau : Float) : Dense :=
  if tau == 0 then a
  else
    let lastv := activeLength (v.take n)
    let live (i : Nat) := (List.range lastv).any fun j => a.get (r0 + i) (c0 + j) != 0
    let lastc := ((List.range m).reverse.find? live).map (· + 1) |>.getD 0
    if lastv == 0 || lastc == 0 then a
    else
      let w := (List.range lastc).map fun i => dot (a.rowSeg (r0 + i) c0 lastv) (v.take lastv)
      (List.range lastc).foldl (fun a i =>
        let t := -tau * w.getD i 0
        (List.range lastv).foldl (fun a j =>
          a.set (r0 + i) (c0 + j) (a.get (r0 + i) (c0 + j) + t * v.getD j 0)) a) a

/-- A matrix reduced to upper bidiagonal form: the diagonal `d`, the superdiagonal `e`,
the reflectors' scalars from the left and from the right, and the matrix holding the
reflectors' vectors below the diagonal and right of the superdiagonal. -/
structure Bidiagonal where
  packed : Dense
  d : Array Float
  e : Array Float
  tauQ : Array Float
  tauP : Array Float
  deriving Inhabited

/-- Step `i` of the reduction of an `m × n` matrix (`m ≥ n`). -/
def bidiagonalStep (b : Bidiagonal) (i : Nat) : Bidiagonal :=
  let a := b.packed
  let m := a.rows
  let n := a.cols
  let (di, tq, xs) := reflector (a.get i i) (a.colSeg (i + 1) i (m - i - 1))
  let a := (a.setColSeg (i + 1) i xs).set i i 1
  let a := if i + 1 < n then applyLeft a i (i + 1) (m - i) (n - i - 1) (a.colSeg i i (m - i)) tq else a
  let a := a.set i i di
  if i + 1 < n then
    let (ei, tp, xs) := reflector (a.get i (i + 1)) (a.rowSeg i (i + 2) (n - i - 2))
    let a := (a.setRowSeg i (i + 2) xs).set i (i + 1) 1
    let a := applyRight a (i + 1) (i + 1) (m - i - 1) (n - i - 1) (a.rowSeg i (i + 1) (n - i - 1)) tp
    let a := a.set i (i + 1) ei
    ⟨a, b.d.push di, b.e.push ei, b.tauQ.push tq, b.tauP.push tp⟩
  else ⟨a, b.d.push di, b.e, b.tauQ.push tq, b.tauP.push 0⟩

/-- Reduce an `m × n` matrix with `m ≥ n` to upper bidiagonal form. -/
def bidiagonalize (a : Dense) : Bidiagonal :=
  (List.range a.cols).foldl bidiagonalStep ⟨a, #[], #[], #[], #[]⟩

/-- Form the `m × n` matrix with orthonormal columns whose first `k` columns' reflectors
(from the left) are stored below the diagonal of `a`. -/
def formQ (a : Dense) (k : Nat) (tau : Array Float) : Dense :=
  let m := a.rows
  let n := a.cols
  let a := (List.range m).foldl (fun a l =>
    (List.range (n - k)).foldl (fun a j => a.set l (k + j) 0) a) a
  let a := (List.range (n - k)).foldl (fun a j => a.set (k + j) (k + j) 1) a
  (List.range k).reverse.foldl (fun a i =>
    let t := tau.getD i 0
    let a := if i + 1 < n then
        let a := a.set i i 1
        applyLeft a i (i + 1) (m - i) (n - i - 1) (a.colSeg i i (m - i)) t
      else a
    let a := if i + 1 < m then a.setColSeg (i + 1) i ((a.colSeg (i + 1) i (m - i - 1)).map (· * -t)) else a
    let a := a.set i i (1 - t)
    (List.range i).foldl (fun a l => a.set l i 0) a) a

/-- Form, in the `m × n` block of `a` at `(r0, c0)`, the matrix with orthonormal rows
whose first `k` rows' reflectors (from the right) are stored right of the diagonal. -/
def formRows (a : Dense) (r0 c0 m n k : Nat) (tau : Array Float) : Dense :=
  let a := if k < m then
      (List.range (m - k)).foldl (fun a l' =>
        let l := k + l'
        let a := (List.range n).foldl (fun a j => a.set (r0 + l) (c0 + j) 0) a
        if l < n then a.set (r0 + l) (c0 + l) 1 else a) a
    else a
  (List.range k).reverse.foldl (fun a i =>
    let t := tau.getD i 0
    let a := if i + 1 < n then
        let a := if i + 1 < m then
            let a := a.set (r0 + i) (c0 + i) 1
            applyRight a (r0 + i + 1) (c0 + i) (m - i - 1) (n - i) (a.rowSeg (r0 + i) (c0 + i) (n - i)) t
          else a
        a.setRowSeg (r0 + i) (c0 + i + 1) ((a.rowSeg (r0 + i) (c0 + i + 1) (n - i - 1)).map (· * -t))
      else a
    let a := a.set (r0 + i) (c0 + i) (1 - t)
    (List.range i).foldl (fun a l => a.set (r0 + i) (c0 + l) 0) a) a

/-- The left factor `Q` (`m × m`) of a bidiagonal reduction. -/
def Bidiagonal.leftFactor (b : Bidiagonal) : Dense :=
  let m := b.packed.rows
  let n := b.packed.cols
  let u := (List.range m).foldl (fun u i =>
    (List.range (min (i + 1) n)).foldl (fun u j => u.set i j (b.packed.get i j)) u) (Dense.zeros m m)
  formQ u n b.tauQ

/-- The right factor `Pᵀ` (`n × n`) of a bidiagonal reduction: the stored reflectors move
down a row, the first row and column become those of the identity, and the rest is formed
from the reflectors. -/
def Bidiagonal.rightFactor (b : Bidiagonal) : Dense :=
  let n := b.packed.cols
  let vt := (List.range n).foldl (fun vt i =>
    (List.range (n - i)).foldl (fun vt j => vt.set i (i + j) (b.packed.get i (i + j))) vt) (Dense.zeros n n)
  let vt := (List.range n).foldl (fun vt i => vt.set i 0 (if i == 0 then 1 else 0)) vt
  let vt := (List.range n).foldl (fun vt j =>
    if j == 0 then vt
    else
      let vt := (List.range (j - 1)).foldl (fun vt k =>
        let i := j - 1 - k
        vt.set i j (vt.get (i - 1) j)) vt
      vt.set 0 j 0) vt
  if 1 < n then formRows vt 1 1 (n - 1) (n - 1) (n - 1) b.tauP else vt

end DepthRig.Linear
