/-!
# Dense matrices of doubles

A dense matrix is stored row by row. Besides entries it offers the segments of a row or a
column that the orthogonal factorizations work on, and the few floating-point primitives
they need with exactly specified rounding: the sign transfer, the two-term Euclidean norm
`max · √(1 + (min/max)²)`, the scaled sum-of-squares norm of a vector, and the dot
product summed from the left.
-/

namespace DepthRig.Linear

/-- Positive infinity. -/
def posInf : Float := 1 / 0

/-- Whether the sign bit of a double is set (true for `-0` too). -/
def signBit (x : Float) : Bool := x.toBits >>> 63 == 1

/-- `|x|` with the sign of `y`. -/
def copySign (x y : Float) : Float := if signBit y then -x.abs else x.abs

/-- The larger of two doubles; infinity wins over NaN, NaN over numbers, and `+0` over
`-0`. -/
def maxOf (x y : Float) : Float :=
  if x == posInf || y == posInf then posInf
  else if x.isNaN || y.isNaN then x + y
  else if x == 0 && y == 0 then (if signBit x then y else x)
  else if x > y then x else y

/-- The smaller of two doubles; minus infinity wins over NaN, NaN over numbers, and `-0`
over `+0`. -/
def minOf (x y : Float) : Float :=
  if x == -posInf || y == -posInf then -posInf
  else if x.isNaN || y.isNaN then x + y
  else if x == 0 && y == 0 then (if signBit x then x else y)
  else if x < y then x else y

/-- `√(p² + q²)` as `max · √(1 + (min/max)²)`, which neither overflows nor underflows
needlessly. -/
def hypot (p q : Float) : Float :=
  let p := p.abs
  let q := q.abs
  if p == posInf || q == posInf then posInf
  else if p.isNaN || q.isNaN then p + q
  else
    let (p, q) := if p < q then (q, p) else (p, q)
    if p == 0 then 0
    else
      let q := q / p
      p * (1 + q * q).sqrt

/-- The scaled sum of squares behind the Euclidean norm: a running scale (the largest
magnitude so far) and the sum of squares relative to it. Zeros are skipped; a NaN is the
result at once. -/
def scaledSquares : List Float → Float → Float → Float
  | [], scale, sum => if scale == posInf then posInf else scale * sum.sqrt
  | v :: rest, scale, sum =>
    if v == 0 then scaledSquares rest scale sum
    else
      let a := v.abs
      if a.isNaN then a
      else if scale < a then
        let s := scale / a
        scaledSquares rest a (1 + sum * s * s)
      else
        let s := a / scale
        scaledSquares rest scale (sum + s * s)

/-- The Euclidean norm of a vector: the magnitude of a single entry, else the scaled sum
of squares. -/
def norm2 : List Float → Float
  | [] => 0
  | [x] => x.abs
  | xs => scaledSquares xs 0 1

/-- The dot product, summed from the left starting at zero. -/
def dot (xs ys : List Float) : Float :=
  (xs.zip ys).foldl (fun acc (x, y) => acc + x * y) 0

/-- A matrix of doubles stored row by row. -/
structure Dense where
  rows : Nat
  cols : Nat
  data : Array Float
  deriving Inhabited

namespace Dense

/-- The zero matrix. -/
def zeros (r c : Nat) : Dense := ⟨r, c, Array.replicate (r * c) 0⟩

/-- A matrix from its rows (each padded or cut to the first row's length). -/
def ofRows (rs : List (List Float)) : Dense :=
  let c := (rs.headD []).length
  ⟨rs.length, c, (rs.flatMap fun r => (List.range c).map fun j => r.getD j 0).toArray⟩

/-- Entry `(i, j)`, zero outside the matrix. -/
def get (a : Dense) (i j : Nat) : Float :=
  if j < a.cols then a.data.getD (i * a.cols + j) 0 else 0

/-- Replace entry `(i, j)`; nothing changes outside the matrix. -/
def set (a : Dense) (i j : Nat) (v : Float) : Dense :=
  if j < a.cols then { a with data := a.data.set! (i * a.cols + j) v } else a

/-- Row `i` as a list. -/
def row (a : Dense) (i : Nat) : List Float := (List.range a.cols).map (a.get i)

/-- The rows as lists. -/
def toRows (a : Dense) : List (List Float) := (List.range a.rows).map a.row

/-- The transpose. -/
def transpose (a : Dense) : Dense :=
  ofRows ((List.range a.cols).map fun j => (List.range a.rows).map fun i => a.get i j)

/-- `len` entries of row `i` from column `c`. -/
def rowSeg (a : Dense) (i c len : Nat) : List Float := (List.range len).map fun k => a.get i (c + k)

/-- `len` entries of column `j` from row `r`. -/
def colSeg (a : Dense) (r j len : Nat) : List Float := (List.range len).map fun k => a.get (r + k) j

/-- Write entries into row `i` from column `c`. -/
def setRowSeg (a : Dense) (i c : Nat) (xs : List Float) : Dense :=
  xs.zipIdx.foldl (fun a (x, k) => a.set i (c + k) x) a

/-- Write entries into column `j` from row `r`. -/
def setColSeg (a : Dense) (r j : Nat) (xs : List Float) : Dense :=
  xs.zipIdx.foldl (fun a (x, k) => a.set (r + k) j x) a

/-- Rotate rows `i` and `k` by `(c, s)`: row `i` becomes `c·x + s·y` and row `k`
becomes `c·y − s·x`. -/
def rotateRows (a : Dense) (i k : Nat) (c s : Float) : Dense :=
  (List.range a.cols).foldl (fun a j =>
    let x := a.get i j
    let y := a.get k j
    (a.set i j (c * x + s * y)).set k j (c * y - s * x)) a

/-- Rotate columns `j` and `k` by `(c, s)`, as `rotateRows` does for rows. -/
def rotateCols (a : Dense) (j k : Nat) (c s : Float) : Dense :=
  (List.range a.rows).foldl (fun a i =>
    let x := a.get i j
    let y := a.get i k
    (a.set i j (c * x + s * y)).set i k (c * y - s * x)) a

/-- Swap rows `i` and `k`. -/
def swapRows (a : Dense) (i k : Nat) : Dense :=
  (List.range a.cols).foldl (fun a j =>
    let x := a.get i j
    (a.set i j (a.get k j)).set k j x) a

/-- Swap columns `j` and `k`. -/
def swapCols (a : Dense) (j k : Nat) : Dense :=
  (List.range a.rows).foldl (fun a i =>
    let x := a.get i j
    (a.set i j (a.get i k)).set i k x) a

/-- `a · bᵀ`, each entry the dot product of a row of `a` and a row of `b`. -/
def mulTransposed (a b : Dense) : Dense :=
  ofRows ((List.range a.rows).map fun i => (List.range b.rows).map fun j => dot (a.row i) (b.row j))

/-- The determinant of a 3 × 3 matrix, by cofactors along the first row. -/
def det3 (a : Dense) : Float :=
  a.get 0 0 * (a.get 1 1 * a.get 2 2 - a.get 1 2 * a.get 2 1)
    - a.get 0 1 * (a.get 1 0 * a.get 2 2 - a.get 1 2 * a.get 2 0)
    + a.get 0 2 * (a.get 1 0 * a.get 2 1 - a.get 1 1 * a.get 2 0)

end Dense

end DepthRig.Linear
