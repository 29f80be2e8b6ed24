import DepthRig.Linear.Bidiagonal

/-!
# Singular value decomposition

The full singular value decomposition `A = U · Σ · Vᵀ` of an `m × n` matrix with
`m ≥ n`: reduce `A` to bidiagonal form with Householder reflections, form the two
orthogonal factors of the reduction, and diagonalize the bidiagonal matrix with QR sweeps
that carry the factors along.
-/

namespace DepthRig.Linear

/-- A singular value decomposition: `u` (`m × m`), the singular values in decreasing
order, and `vt` (`n × n`). -/
structure Svd where
  u : Dense
  values : Array Float
  vt : Dense
  deriving Inhabited

/-- The singular value decomposition of a matrix with at least as many rows as columns,
or none if the iteration did not converge. -/
def svd (a : Dense) : Option Svd :=
  let b := bidiagonalize a
  let u := b.leftFactor
  let vt := b.rightFactor
  (bidiagonalSvd b.d b.e vt u).map fun (s, vt, u) => ⟨u, s, vt⟩

/-- The right singular vectors as columns: `V = (Vᵀ)ᵀ`. -/
def Svd.v (s : Svd) : Dense := s.vt.transpose

end DepthRig.Linear
