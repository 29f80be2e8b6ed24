import DepthRig.Geometry.Rigid
import DepthRig.Linear.Svd
import DepthRig.Fault

/-!
# Point-to-point iterative closest point

Alignment thins both clouds, then pairs each moved source point with its nearest target,
fits the best rigid motion to the pairs (Kabsch), moves the source by it and composes it onto
the motion so far, until the RMS stops improving. The loop is written once over any
arithmetic, with the search, the fit and the motions' algebra given as an `Icp.Kit`.
-/

namespace DepthRig

open Linear

/-- How an alignment samples, pairs and stops. -/
structure IcpSettings where
  /-- The most points kept of each cloud; zero or less means 4000. -/
  maxPoints : Int := 0
  /-- The farthest a pair may be apart; zero or less keeps every pair. -/
  maxDistance : Float := 0
  /-- The least RMS improvement that continues the iteration. -/
  minImprovement : Float := 0
  deriving Inhabited

/-- The fault of clouds too small to fix a rigid motion. -/
def Fault.tooFewPoints : Fault := .ofKind .tooFewPoints "too few points to align"

/-- The fault of an SVD that did not converge. -/
def Fault.fitDiverged : Fault := .plain "kabsch: SVD did not converge"

/-- Keep every `k`-th point, with `k` the smallest stride leaving at most `most`. -/
def thinOut {β : Type} (pts : List β) (most : Nat) : List β :=
  if pts.length ≤ most then pts
  else
    let stride := (pts.length + most - 1) / most
    pts.zipIdx.filterMap fun (p, i) => if i % stride == 0 then some p else none

namespace Icp

/-- What an alignment computes with: squared distances in `α`, working points `V` and
motions `M`. -/
structure Kit (α V M : Type) where
  /-- The nearest of the targets to a point, with their squared distance; none without
  targets. -/
  nearest : List V → V → Option (V × α)
  /-- The motion carrying the first points of the pairs best onto the second. -/
  fit : List V → List V → Except Fault M
  /-- A working point moved by a motion. -/
  move : M → V → V
  /-- `m`, then `n`. -/
  andThen : M → M → M
  /-- A motion made to carry an RMS distance. -/
  withRms : M → α → M
  identity : M
  sqrt : α → α
  ofNat : Nat → α
  /-- The arithmetic's `+∞`, where it has one: the bound that is not set. -/
  infinity : Option α

/-- The points kept of each cloud: `maxPoints`, or 4000 when that is not positive. -/
def budget (maxPoints : Int) : Nat := if maxPoints ≤ 0 then 4000 else maxPoints.toNat

/-- The correspondences of one iteration: the working points kept, their nearest targets and
the sum of their squared distances. -/
structure Pairs (α V : Type) where
  src : List V
  dst : List V
  sumSq : α

/-- What one iteration produces: the step fitted, the RMS distance of its pairs, and the
working points moved by the step. -/
structure Step (α V M : Type) where
  motion : M
  rms : α
  moved : List V

variable {α V M : Type} [Add α] [Sub α] [Mul α] [Div α] [LT α] [DecidableLT α] [OfNat α 0]

/-- The bound on squared pair distances: `maxDistance²` when `maxDistance` is positive, else
the arithmetic's `+∞`. -/
def Kit.squaredBound (kit : Kit α V M) (maxDistance : α) : Option α :=
  if maxDistance > 0 then some (maxDistance * maxDistance) else kit.infinity

/-- A squared distance lies beyond a bound; nothing lies beyond a bound that is absent. -/
def beyond (bound : Option α) (d : α) : Bool := bound.any fun b => decide (d > b)

/-- Pair each working point with its nearest target, dropping pairs beyond `maxSq`; the
squared distances are summed in order from zero. -/
def pairUp (near : V → Option (V × α)) (maxSq : Option α) (cur : List V) : Pairs α V :=
  let kept := cur.filterMap fun p =>
    (near p).bind fun (q, d) => if beyond maxSq d then none else some (p, q, d)
  ⟨kept.map (·.1), kept.map (·.2.1), kept.foldl (fun sum x => sum + x.2.2) 0⟩

/-- An RMS distance improved on the previous one by less than `minImprovement`; with no
previous one it did not. -/
def stalls (minImprovement : α) (prev : Option α) (rms : α) : Bool :=
  prev.any fun p => decide (p - rms < minImprovement)

/-- One iteration from the working points `cur`: fewer than three pairs are too few. -/
def iteration (kit : Kit α V M) (targets : List V) (maxSq : Option α) (cur : List V) :
    Except Fault (Step α V M) := do
  let pairs := pairUp (kit.nearest targets) maxSq cur
  if pairs.src.length < 3 then throw Fault.tooFewPoints
  let rms := kit.sqrt (pairs.sumSq / kit.ofNat pairs.src.length)
  let step ← kit.fit pairs.src pairs.dst
  return ⟨step, rms, cur.map (kit.move step)⟩

/-- Iterate at most `fuel` more times from the working points `cur` and the motion `total`,
`prev` the RMS of the iteration before. -/
def iterate (kit : Kit α V M) (targets : List V) (maxSq : Option α) (minImprovement : α) :
    Nat → List V → M → Option α → Except Fault M
  | 0, _, total, _ => pure total
  | fuel + 1, cur, total, prev => do
    let s ← iteration kit targets maxSq cur
    let total := kit.withRms (kit.andThen total s.motion) s.rms
    if stalls minImprovement prev s.rms then pure total
    else iterate kit targets maxSq minImprovement fuel s.moved total (some s.rms)

/-- Align `source` onto `target` in at most `iterations` iterations, the points widened to
working points after thinning. -/
def align {P : Type} (kit : Kit α V M) (widen : P → V) (maxPoints : Int)
    (maxDistance minImprovement : α) (target source : List P) (iterations : Int) :
    Except Fault M := do
  let target := thinOut target (budget maxPoints)
  let source := thinOut source (budget maxPoints)
  if target.length < 3 || source.length < 3 then throw Fault.tooFewPoints
  iterate kit (target.map widen) (kit.squaredBound maxDistance) minImprovement iterations.toNat
    (source.map widen) kit.identity kit.infinity

end Icp

/-- A stored point in double precision. -/
def widen (p : Point3) : Vector Float 3 := #v[p.x.toFloat, p.y.toFloat, p.z.toFloat]

/-- The squared distance of two points, summed over the axes from zero. -/
def squaredDistance (p q : Vector Float 3) : Float :=
  (List.range 3).foldl (fun acc k => let d := p[k]! - q[k]!; acc + d * d) 0

/-- The nearest target point and its squared distance (the first of equals). -/
def nearest (targets : List (Vector Float 3)) (p : Vector Float 3) : Option (Vector Float 3 × Float) :=
  targets.foldl (fun best q =>
    let d := squaredDistance q p
    match best with
    | some (_, bd) => if d < bd then some (q, d) else best
    | none => some (q, d)) none

/-- The mean of points, summed from zero per axis. -/
def centroid (pts : List (Vector Float 3)) : Vector Float 3 :=
  let n := Float.ofNat pts.length
  Vector.ofFn fun k => (pts.foldl (fun acc p => acc + p[k]!) 0) / n

/-- A 3 × 3 matrix as the rotation of a rigid motion. -/
def rotationOf (r : Dense) : Vector (Vector Float 3) 3 :=
  Vector.ofFn fun i => Vector.ofFn fun j => r.get i j

/-- The rigid motion minimising `Σ |R · src + T − dst|²` over paired points. -/
def kabsch (src dst : List (Vector Float 3)) : Except Fault Rigid := do
  let cs := centroid src
  let cd := centroid dst
  let h := Dense.ofRows ((List.range 3).map fun r => (List.range 3).map fun c =>
    (src.zip dst).foldl (fun acc (p, q) => acc + (p[r]! - cs[r]!) * (q[c]! - cd[c]!)) 0)
  let some s := svd h | throw Fault.fitDiverged
  let v := s.v
  let r := v.mulTransposed s.u
  let r := if r.det3 < 0 then
      (v.setColSeg 0 2 ((v.colSeg 0 2 3).map (-·))).mulTransposed s.u
    else r
  let rot := rotationOf r
  let t := Vector.ofFn fun i =>
    cd[i] - (rot[i][0]! * cs[0]! + rot[i][1]! * cs[1]! + rot[i][2]! * cs[2]!)
  return { r := rot, t }

/-- The rig's alignment: double precision, brute-force nearest targets, Kabsch fits, and
`+∞` for the bounds that are not set. -/
def Icp.doubleKit : Icp.Kit Float (Vector Float 3) Rigid where
  nearest := nearest
  fit := kabsch
  move := Rigid.move
  andThen := Rigid.andThen
  withRms m rms := { m with rms }
  identity := Rigid.identity
  sqrt := Float.sqrt
  ofNat := Float.ofNat
  infinity := some Linear.posInf

/-- Align `source` onto `target` in at most `iterations` iterations. -/
def IcpSettings.align (a : IcpSettings) (target source : List Point3) (iterations : Int) :
    Except Fault Rigid :=
  Icp.align Icp.doubleKit widen a.maxPoints a.maxDistance a.minImprovement target source iterations

end DepthRig
