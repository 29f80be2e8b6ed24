/-!
# Transform formulas in any arithmetic

A world transform `(R, T)` takes a local point `p` to `R · (p + T)`, a correction `(A, b)`
takes `w` to `A · w + b`, and folding a correction into a transform gives
`(A · R, T + Rᵀ · Aᵀ · b)`. The formulas are written once over any arithmetic, every sum from
the left in the order the rig computes it, so the floating-point instances round as the rig
does and the real one is exact.
-/

namespace DepthRig.Transform

variable {α σ δ : Type}

/-- Three terms summed from the left, starting from `z`. -/
def sum3 [Add α] (z : α) (f : Fin 3 → α) : α := z + f 0 + f 1 + f 2

/-- Row `i` of `R` against `v`, summed from the left. -/
def rowDot [Add α] [Mul α] (R : Fin 3 → Fin 3 → α) (v : Fin 3 → α) (i : Fin 3) : α :=
  R i 0 * v 0 + R i 1 * v 1 + R i 2 * v 2

/-- `R · (p + T)`: a sensor-local point in world space. -/
def place [Add α] [Mul α] (R : Fin 3 → Fin 3 → α) (T p : Fin 3 → α) : Fin 3 → α :=
  rowDot R (fun j => p j + T j)

/-- `A · w + b`, the translation added last. -/
def move [Add α] [Mul α] (A : Fin 3 → Fin 3 → α) (b w : Fin 3 → α) : Fin 3 → α :=
  fun i => rowDot A w i + b i

/-- The motion `(R, T)`, then the motion `(A, b)`: `(A · R, A · T + b)`, the rotation's sums
starting from zero and the translation's from `b`. -/
def andThen [Add α] [Mul α] [OfNat α 0] (R : Fin 3 → Fin 3 → α) (T : Fin 3 → α)
    (A : Fin 3 → Fin 3 → α) (b : Fin 3 → α) : (Fin 3 → Fin 3 → α) × (Fin 3 → α) :=
  (fun i j => sum3 0 fun k => A i k * R k j, fun i => sum3 (b i) fun k => A i k * T k)

/-- Fold a correction `(A, b)` into a world transform `(R, T)` stored in a narrower
arithmetic: `A · R` projected by `nearest`, and `T + Rᵀ · Aᵀ · b`, both computed in the
wider one from `R` widened and rounded back; each sum starts from zero. -/
def fold [Add σ] [Add δ] [Mul δ] [OfNat δ 0] (widen : σ → δ) (narrow : δ → σ)
    (nearest : (Fin 3 → Fin 3 → δ) → Fin 3 → Fin 3 → δ)
    (R : Fin 3 → Fin 3 → σ) (T : Fin 3 → σ) (A : Fin 3 → Fin 3 → δ) (b : Fin 3 → δ) :
    (Fin 3 → Fin 3 → σ) × (Fin 3 → σ) :=
  let r (i j : Fin 3) := widen (R i j)
  let dt (i : Fin 3) := sum3 0 fun k => A k i * b k
  let rot := nearest fun i j => sum3 0 fun k => A i k * r k j
  (fun i j => narrow (rot i j), fun i => T i + narrow (sum3 0 fun j => r j i * dt j))

end DepthRig.Transform
