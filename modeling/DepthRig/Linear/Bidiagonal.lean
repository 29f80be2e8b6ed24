import DepthRig.Linear.Householder

/-!
# Singular values of a bidiagonal matrix

The singular value decomposition of an upper bidiagonal matrix by implicit QR sweeps, each
chasing a bulge across an unreduced block with plane rotations, shifted or not as accuracy
allows, and splitting at negligible off-diagonal entries. At the end the singular values are
made non-negative and sorted decreasing, the vectors following them.
-/

namespace DepthRig.Linear

/-- The unit roundoff `2⁻⁵³`. -/
def unitRoundoff : Float := Float.ofBits 0x3CA0000000000000

/-- The smallest normal double `2⁻¹⁰²²`. -/
def smallestNormal : Float := Float.ofBits 0x0010000000000000

/-- The plane rotation `(c, s)` with `c ≥ 0` taking `(f, g)` to `(r, 0)`: `c`, `s` and
`r`, scaling the computation when `f` or `g` is very small or very large. -/
def rotation (f g : Float) : Float × Float × Float :=
  if g == 0 then (1, 0, f)
  else
    let g1 := g.abs
    if f == 0 then (0, copySign 1 g, g1)
    else
      let safmax := 1 / smallestNormal
      let rtmin := smallestNormal.sqrt
      let rtmax := (safmax / 2).sqrt
      let f1 := f.abs
      if rtmin < f1 && f1 < rtmax && rtmin < g1 && g1 < rtmax then
        let d := (f * f + g * g).sqrt
        let r := copySign d f
        (f1 / d, g / r, r)
      else
        let u := minOf (maxOf smallestNormal (maxOf f1 g1)) safmax
        let fs := f / u
        let gs := g / u
        let d := (fs * fs + gs * gs).sqrt
        let r := copySign d f
        (fs.abs / d, gs / r, r * u)

/-- The singular values `(σmin, σmax)` of the triangle `[[f, g], [0, h]]`. -/
def pairValues (f g h : Float) : Float × Float :=
  let fa := f.abs
  let ga := g.abs
  let ha := h.abs
  let fhmn := minOf fa ha
  let fhmx := maxOf fa ha
  if fhmn == 0 then
    if fhmx == 0 then (0, ga)
    else
      let v := minOf fhmx ga / maxOf fhmx ga
      (0, maxOf fhmx ga * (1 + v * v).sqrt)
  else if ga < fhmx then
    let sa := 1 + fhmn / fhmx
    let ta := (fhmx - fhmn) / fhmx
    let au := (ga / fhmx) * (ga / fhmx)
    let c := 2 / ((sa * sa + au).sqrt + (ta * ta + au).sqrt)
    (fhmn * c, fhmx / c)
  else
    let au := fhmx / ga
    if au == 0 then ((fhmn * fhmx) / ga, ga)
    else
      let sa := 1 + fhmn / fhmx
      let ta := (fhmx - fhmn) / fhmx
      let c := 1 / ((1 + (sa * au) * (sa * au)).sqrt + (1 + (ta * au) * (ta * au)).sqrt)
      (2 * (fhmn * c) * au, ga / (c + c))

/-- The singular value decomposition of the triangle `[[f, g], [0, h]]`:
`(σmin, σmax, sin r, cos r, sin l, cos l)`, with signed singular values such that
`[[cl, sl], [−sl, cl]] · [[f, g], [0, h]] · [[cr, −sr], [sr, cr]] = diag(σmax, σmin)`. -/
def pairDecomposition (f g h : Float) : Float × Float × Float × Float × Float × Float :=
  let swap := h.abs > f.abs
  let (ft, fa, ht, ha) := if swap then (h, h.abs, f, f.abs) else (f, f.abs, h, h.abs)
  let pmax0 : Nat := if swap then 3 else 1
  let gt := g
  let ga := g.abs
  let (pmax, ssmin, ssmax, clt, crt, slt, srt) :
      Nat × Float × Float × Float × Float × Float × Float :=
    if ga == 0 then (pmax0, ha, fa, 1, 1, 0, 0)
    else
      let (pmax, huge) := if ga > fa then (2, decide (fa / ga < unitRoundoff)) else (pmax0, false)
      if huge then
        let ssmin := if ha > 1 then fa / (ga / ha) else (fa / ga) * ha
        (pmax, ssmin, ga, 1, ft / gt, ht / gt, 1)
      else
        let d := fa - ha
        let l := if d == fa then 1 else d / fa
        let m := gt / ft
        let t := 2 - l
        let s := hypot t m
        let r := if l == 0 then m.abs else hypot l m
        let a := 0.5 * (s + r)
        let t := if m == 0 then
            (if l == 0 then copySign 2 ft * copySign 1 gt else gt / copySign d ft + m / t)
          else (m / (s + t) + m / (r + l)) * (1 + a)
        let l := hypot t 2
        let crt := 2 / l
        let srt := t / l
        (pmax, ha / a, fa * a, (crt + srt * m) / a, crt, (ht / ft) * srt / a, srt)
  let (csl, snl, csr, snr) := if swap then (srt, crt, slt, clt) else (clt, slt, crt, srt)
  let tsign :=
    if pmax == 1 then copySign 1 csr * copySign 1 csl * copySign 1 f
    else if pmax == 2 then copySign 1 snr * copySign 1 csl * copySign 1 g
    else copySign 1 snr * copySign 1 snl * copySign 1 h
  (copySign ssmin (tsign * copySign 1 f * copySign 1 h), copySign ssmax tsign, snr, csr, snl, csl)

/-- The state of the QR iteration: the diagonal and off-diagonal (numbered from one), the
right and left vectors, the end of the unreduced part, the work done, the last block
worked on, and the direction sweeps go in. -/
structure Sweep where
  d : Array Float
  e : Array Float
  vt : Dense
  u : Dense
  m : Nat
  iter : Nat := 0
  oldll : Nat := 0
  oldm : Nat := 0
  down : Bool := true
  deriving Inhabited

namespace Sweep

/-- Diagonal entry `k`. -/
def dAt (s : Sweep) (k : Nat) : Float := s.d.getD k 0

/-- Off-diagonal entry `k`. -/
def eAt (s : Sweep) (k : Nat) : Float := s.e.getD k 0

/-- Replace diagonal entry `k`. -/
def setD (s : Sweep) (k : Nat) (v : Float) : Sweep := { s with d := s.d.set! k v }

/-- Replace off-diagonal entry `k`. -/
def setE (s : Sweep) (k : Nat) (v : Float) : Sweep := { s with e := s.e.set! k v }

/-- Rotate rows `p` and `p + 1` of `Pᵀ` (numbered from one) by each rotation in turn,
skipping identities. -/
def rotateRight (s : Sweep) (rots : List (Nat × Float × Float)) : Sweep :=
  { s with vt := rots.foldl (fun vt (p, c, sn) =>
      if c != 1 || sn != 0 then vt.rotateRows (p - 1) p c sn else vt) s.vt }

/-- Rotate columns `p` and `p + 1` of `Q` (numbered from one) by each rotation in turn,
skipping identities. -/
def rotateLeft (s : Sweep) (rots : List (Nat × Float × Float)) : Sweep :=
  { s with u := rots.foldl (fun u (p, c, sn) =>
      if c != 1 || sn != 0 then u.rotateCols (p - 1) p c sn else u) s.u }

/-- The last negligible off-diagonal entry in `1 .. m − 1`, scanning up from `m − 1`,
and the largest magnitude met above it. -/
def split (s : Sweep) (thresh : Float) : Option Nat × Float :=
  (List.range (s.m - 1)).foldl (fun (found, smax) k =>
    match found with
    | some _ => (found, smax)
    | none =>
      let ll := s.m - 1 - k
      let abss := (s.dAt ll).abs
      let abse := (s.eAt ll).abs
      if abse ≤ thresh then (some ll, smax) else (none, maxOf smax (maxOf abss abse)))
    (none, (s.dAt s.m).abs)

/-- The relative convergence test from the top of block `ll .. m`: the first
negligible off-diagonal entry, and the estimate of the smallest singular value. -/
def testDown (s : Sweep) (tol : Float) (ll m : Nat) : Option Nat × Float :=
  let mu0 := (s.dAt ll).abs
  let r := (List.range (m - ll)).foldl (fun (acc : Option Nat × Float × Float) k =>
    match acc with
    | (some z, mu, smin) => (some z, mu, smin)
    | (none, mu, smin) =>
      let lll := ll + k
      if (s.eAt lll).abs ≤ tol * mu then (some lll, mu, smin)
      else
        let mu := (s.dAt (lll + 1)).abs * (mu / (mu + (s.eAt lll).abs))
        (none, mu, minOf smin mu)) (none, mu0, mu0)
  (r.1, r.2.2)

/-- The relative convergence test from the bottom of block `ll .. m`. -/
def testUp (s : Sweep) (tol : Float) (ll m : Nat) : Option Nat × Float :=
  let mu0 := (s.dAt m).abs
  let r := (List.range (m - ll)).foldl (fun (acc : Option Nat × Float × Float) k =>
    match acc with
    | (some z, mu, smin) => (some z, mu, smin)
    | (none, mu, smin) =>
      let lll := m - 1 - k
      if (s.eAt lll).abs ≤ tol * mu then (some lll, mu, smin)
      else
        let mu := (s.dAt lll).abs * (mu / (mu + (s.eAt lll).abs))
        (none, mu, minOf smin mu)) (none, mu0, mu0)
  (r.1, r.2.2)

/-- An unshifted sweep down block `ll .. m`. -/
def zeroShiftDown (s : Sweep) (ll m : Nat) : Sweep :=
  let (s, cs, oldcs, oldsn, rr, rl) := (List.range (m - ll)).foldl
    (fun (acc : Sweep × Float × Float × Float × Array (Nat × Float × Float) × Array (Nat × Float × Float)) k =>
      let (s, cs, oldcs, oldsn, rr, rl) := acc
      let i := ll + k
      let (cs, sn, r) := rotation (s.dAt i * cs) (s.eAt i)
      let s := if i > ll then s.setE (i - 1) (oldsn * r) else s
      let (oldcs, oldsn, di) := rotation (oldcs * r) (s.dAt (i + 1) * sn)
      (s.setD i di, cs, oldcs, oldsn, rr.push (i, cs, sn), rl.push (i, oldcs, oldsn)))
    (s, 1, 1, 0, #[], #[])
  let h := s.dAt m * cs
  let s := (s.setD m (h * oldcs)).setE (m - 1) (h * oldsn)
  (s.rotateRight rr.toList).rotateLeft rl.toList

/-- An unshifted sweep up block `ll .. m`. -/
def zeroShiftUp (s : Sweep) (ll m : Nat) : Sweep :=
  let (s, cs, oldcs, oldsn, rr, rl) := (List.range (m - ll)).foldl
    (fun (acc : Sweep × Float × Float × Float × Array (Nat × Float × Float) × Array (Nat × Float × Float)) k =>
      let (s, cs, oldcs, oldsn, rr, rl) := acc
      let i := m - k
      let (cs, sn, r) := rotation (s.dAt i * cs) (s.eAt (i - 1))
      let s := if i < m then s.setE i (oldsn * r) else s
      let (oldcs, oldsn, di) := rotation (oldcs * r) (s.dAt (i - 1) * sn)
      (s.setD i di, cs, oldcs, oldsn, rr.push (i - 1, oldcs, -oldsn), rl.push (i - 1, cs, -sn)))
    (s, 1, 1, 0, #[], #[])
  let h := s.dAt ll * cs
  let s := (s.setD ll (h * oldcs)).setE ll (h * oldsn)
  (s.rotateRight rr.toList).rotateLeft rl.toList

/-- A sweep down block `ll .. m` with shift `shift`. -/
def shiftedDown (s : Sweep) (ll m : Nat) (shift : Float) : Sweep :=
  let dll := s.dAt ll
  let f := (dll.abs - shift) * (copySign 1 dll + shift / dll)
  let (s, f, _, rr, rl) := (List.range (m - ll)).foldl
    (fun (acc : Sweep × Float × Float × Array (Nat × Float × Float) × Array (Nat × Float × Float)) k =>
      let (s, f, g, rr, rl) := acc
      let i := ll + k
      let (cosr, sinr, r) := rotation f g
      let s := if i > ll then s.setE (i - 1) r else s
      let f := cosr * s.dAt i + sinr * s.eAt i
      let s := s.setE i (cosr * s.eAt i - sinr * s.dAt i)
      let g := sinr * s.dAt (i + 1)
      let s := s.setD (i + 1) (cosr * s.dAt (i + 1))
      let (cosl, sinl, r) := rotation f g
      let s := s.setD i r
      let f := cosl * s.eAt i + sinl * s.dAt (i + 1)
      let s := s.setD (i + 1) (cosl * s.dAt (i + 1) - sinl * s.eAt i)
      let (s, g) := if i < m - 1 then
          let g := sinl * s.eAt (i + 1)
          (s.setE (i + 1) (cosl * s.eAt (i + 1)), g)
        else (s, g)
      (s, f, g, rr.push (i, cosr, sinr), rl.push (i, cosl, sinl)))
    (s, f, s.eAt ll, #[], #[])
  let s := s.setE (m - 1) f
  (s.rotateRight rr.toList).rotateLeft rl.toList

/-- A sweep up block `ll .. m` with shift `shift`. -/
def shiftedUp (s : Sweep) (ll m : Nat) (shift : Float) : Sweep :=
  let dm := s.dAt m
  let f := (dm.abs - shift) * (copySign 1 dm + shift / dm)
  let (s, f, _, rr, rl) := (List.range (m - ll)).foldl
    (fun (acc : Sweep × Float × Float × Array (Nat × Float × Float) × Array (Nat × Float × Float)) k =>
      let (s, f, g, rr, rl) := acc
      let i := m - k
      let (cosr, sinr, r) := rotation f g
      let s := if i < m then s.setE i r else s
      let f := cosr * s.dAt i + sinr * s.eAt (i - 1)
      let s := s.setE (i - 1) (cosr * s.eAt (i - 1) - sinr * s.dAt i)
      let g := sinr * s.dAt (i - 1)
      let s := s.setD (i - 1) (cosr * s.dAt (i - 1))
      let (cosl, sinl, r) := rotation f g
      let s := s.setD i r
      let f := cosl * s.eAt (i - 1) + sinl * s.dAt (i - 1)
      let s := s.setD (i - 1) (cosl * s.dAt (i - 1) - sinl * s.eAt (i - 1))
      let (s, g) := if i > ll + 1 then
          let g := sinl * s.eAt (i - 2)
          (s.setE (i - 2) (cosl * s.eAt (i - 2)), g)
        else (s, g)
      (s, f, g, rr.push (i - 1, cosl, -sinl), rl.push (i - 1, cosr, -sinr)))
    (s, f, s.eAt (m - 1), #[], #[])
  let s := s.setE ll f
  (s.rotateRight rr.toList).rotateLeft rl.toList

end Sweep

/-- The fixed quantities of an iteration: the order, the relative tolerance, the
absolute threshold below which off-diagonal entries are dropped, and the work limit. -/
structure SweepLimits where
  n : Nat
  tol : Float
  thresh : Float
  maxIt : Nat

/-- What one step of the iteration leads to. -/
inductive SweepStep where
  | next (s : Sweep)
  | done (s : Sweep)
  | failed

/-- Work on the block `ll .. m` (more than two rows): choose the direction, test for
convergence, and otherwise sweep. -/
def Sweep.work (p : SweepLimits) (s : Sweep) (ll : Nat) (smax : Float) : SweepStep :=
  let m := s.m
  let s := if ll > s.oldm || m < s.oldll then { s with down := (s.dAt ll).abs ≥ (s.dAt m).abs } else s
  let tol := p.tol
  if s.down && (s.eAt (m - 1)).abs ≤ tol.abs * (s.dAt m).abs then .next (s.setE (m - 1) 0)
  else if !s.down && (s.eAt ll).abs ≤ tol.abs * (s.dAt ll).abs then .next (s.setE ll 0)
  else
    let (zero, smin) := if s.down then s.testDown tol ll m else s.testUp tol ll m
    match zero with
    | some z => .next (s.setE z 0)
    | none =>
      let s := { s with oldll := ll, oldm := m }
      let shift : Float :=
        if Float.ofNat p.n * tol * (smin / smax) ≤ maxOf unitRoundoff (0.01 * tol) then 0
        else
          let (sll, shift) :=
            if s.down then ((s.dAt ll).abs, (pairValues (s.dAt (m - 1)) (s.eAt (m - 1)) (s.dAt m)).1)
            else ((s.dAt m).abs, (pairValues (s.dAt ll) (s.eAt ll) (s.dAt (ll + 1))).1)
          if sll > 0 && (shift / sll) * (shift / sll) < unitRoundoff then 0 else shift
      let s := { s with iter := s.iter + (m - ll) }
      let s :=
        if shift == 0 then
          if s.down then
            let s := s.zeroShiftDown ll m
            if (s.eAt (m - 1)).abs ≤ p.thresh then s.setE (m - 1) 0 else s
          else
            let s := s.zeroShiftUp ll m
            if (s.eAt ll).abs ≤ p.thresh then s.setE ll 0 else s
        else
          if s.down then
            let s := s.shiftedDown ll m shift
            if (s.eAt (m - 1)).abs ≤ p.thresh then s.setE (m - 1) 0 else s
          else
            let s := s.shiftedUp ll m shift
            if (s.eAt ll).abs ≤ p.thresh then s.setE ll 0 else s
      .next s

/-- One step of the iteration: finish when one row is left, give up past the work limit,
split off a converged value, finish a 2 × 2 block, or work on the bottom block. -/
def Sweep.step (p : SweepLimits) (s : Sweep) : SweepStep :=
  if s.m ≤ 1 then .done s
  else if p.maxIt < s.iter then .failed
  else
    let m := s.m
    let (found, smax) := s.split p.thresh
    let next := match found with
      | some ll =>
        let s := s.setE ll 0
        if ll == m - 1 then Sum.inl { s with m := m - 1 } else Sum.inr (s, ll + 1)
      | none => Sum.inr (s, 1)
    match next with
    | .inl s => .next s
    | .inr (s, ll) =>
      if ll == m - 1 then
        let (sigmn, sigmx, sinr, cosr, sinl, cosl) := pairDecomposition (s.dAt (m - 1)) (s.eAt (m - 1)) (s.dAt m)
        let s := ((s.setD (m - 1) sigmx).setE (m - 1) 0).setD m sigmn
        let s := { s with vt := s.vt.rotateRows (m - 2) (m - 1) cosr sinr
                          u := s.u.rotateCols (m - 2) (m - 1) cosl sinl }
        .next { s with m := m - 2 }
      else s.work p ll smax

/-- Run the iteration for at most `fuel` steps. -/
def Sweep.run (p : SweepLimits) : Nat → Sweep → Option Sweep
  | 0, _ => none
  | fuel + 1, s =>
    match s.step p with
    | .done s => some s
    | .failed => none
    | .next s => Sweep.run p fuel s

/-- Make the singular values non-negative (negating rows of `Pᵀ`) and sort them into
decreasing order, moving one pair of vectors per place. -/
def Sweep.finish (s : Sweep) (n : Nat) : Sweep :=
  let s := (List.range n).foldl (fun s k =>
    let i := k + 1
    if s.dAt i < 0 then
      let s := s.setD i (-s.dAt i)
      { s with vt := s.vt.setRowSeg k 0 ((s.vt.row k).map (· * -1)) }
    else s) s
  (List.range (n - 1)).foldl (fun s k =>
    let i := k + 1
    let last := n + 1 - i
    let (isub, smin) := (List.range (last - 1)).foldl (fun (isub, smin) j =>
      let j := j + 2
      if s.dAt j ≤ smin then (j, s.dAt j) else (isub, smin)) (1, s.dAt 1)
    if isub != last then
      let s := (s.setD isub (s.dAt last)).setD last smin
      { s with vt := s.vt.swapRows (isub - 1) (last - 1), u := s.u.swapCols (isub - 1) (last - 1) }
    else s) s

/-- The singular value decomposition of the `n × n` upper bidiagonal matrix with
diagonal `d` and superdiagonal `e`, applied to the right vectors `vt` (rows) and the left
vectors `u` (columns): the singular values in decreasing order and the updated vectors,
or none if the iteration did not converge. -/
def bidiagonalSvd (d e : Array Float) (vt u : Dense) : Option (Array Float × Dense × Dense) :=
  let n := d.size
  if n == 0 then some (d, vt, u)
  else
    let tolmul := maxOf 10 (minOf 100 (Float.pow unitRoundoff (-1 / 8)))
    let tol := tolmul * unitRoundoff
    let d1 := #[0] ++ d
    let e1 := #[0] ++ e ++ #[0]
    let sminoa : Float := if d1.getD 1 0 == 0 then 0
      else
        ((List.range (n - 1)).foldl (fun (acc : Float × Float × Bool) k =>
          let (sminoa, mu, stop) := acc
          if stop then acc
          else
            let i := k + 2
            let mu := (d1.getD i 0).abs * (mu / (mu + (e1.getD (i - 1) 0).abs))
            let sminoa := minOf sminoa mu
            (sminoa, mu, sminoa == 0)) ((d1.getD 1 0).abs, (d1.getD 1 0).abs, false)).1
    let sminoa := sminoa / (Float.ofNat n).sqrt
    let unfl := smallestNormal
    let thresh := maxOf (tol * sminoa) (Float.ofNat 6 * (Float.ofNat n * (Float.ofNat n * unfl)))
    let maxIt := 6 * n * n
    let limits : SweepLimits := ⟨n, tol, thresh, maxIt⟩
    match Sweep.run limits (4 * (maxIt + n + 2)) { d := d1, e := e1, vt, u, m := n } with
    | none => none
    | some s =>
      let s := s.finish n
      some (s.d.extract 1 (n + 1), s.vt, s.u)

end DepthRig.Linear
