import DepthRig.Proofs.Calibration.Exact
import Mathlib.Analysis.Real.Sqrt

/-!
# The alignment loop composes the steps it applies

An alignment keeps the working points, moved by each step as it is fitted, and the motion so
far, onto which each step is composed. In any arithmetic the loop follows an unbounded run
(`Icp.Run`) one iteration at a time; over the reals the returned motion moves every thinned
source point exactly where the iterations moved it.
-/

namespace DepthRig

open Matrix

/-! ## Composing motions -/

namespace Transform

variable (R A : Matrix (Fin 3) (Fin 3) ℝ) (T b p : Fin 3 → ℝ)

/-- Over the reals, composing is `(A * R, A *ᵥ T + b)`. -/
theorem andThen_eq : andThen R T A b = (A * R, A *ᵥ T + b) := by
  refine Prod.ext ?_ ?_
  · funext i j
    simp [andThen, sum3_zero_eq_sum, mul_apply]
  · funext i
    simp [andThen, sum3, mulVec, dotProduct, Fin.sum_univ_three]
    ring

/-- Over the reals, the composed motion moves a point where the two motions in turn would. -/
theorem move_andThen :
    move (andThen R T A b).1 (andThen R T A b).2 p = move A b (move R T p) := by
  rw [andThen_eq, move_eq_mulVec, move_eq_mulVec, move_eq_mulVec, mulVec_add, mulVec_mulVec,
    add_assoc]

/-- The identity motion moves nothing. -/
theorem move_one_zero : move (1 : Matrix (Fin 3) (Fin 3) ℝ) 0 p = p := by
  rw [move_eq_mulVec, one_mulVec, add_zero]

end Transform

namespace Rigid

/-- The rig composes motions in double precision by the formula `(n.R · m.R, n.R · m.T + n.T)`,
summed in the order `Transform.andThen` gives. -/
theorem rot_andThen (m n : Rigid) :
    (m.andThen n).rot = (Transform.andThen m.rot (m.shift ·) n.rot (n.shift ·)).1 := by
  funext i j
  simp [rot, entry, andThen, Transform.andThen, Transform.sum3, List.range_succ]

theorem shift_andThen (m n : Rigid) (i : Fin 3) :
    (m.andThen n).shift i = (Transform.andThen m.rot (m.shift ·) n.rot (n.shift ·)).2 i := by
  simp [rot, shift, entry, andThen, Transform.andThen, Transform.sum3, List.range_succ]

end Rigid

namespace Icp

section Pairs

variable {α V : Type} [Add α] [LT α] [DecidableLT α] [OfNat α 0]

/-- The pairs kept are the working points whose nearest target lies within the bound. -/
theorem length_pairUp_src (near : V → Option (V × α)) (maxSq : Option α) (cur : List V) :
    (pairUp near maxSq cur).src.length =
      (cur.filter fun p => (near p).any fun x => !beyond maxSq x.2).length := by
  simp only [pairUp, List.length_map, List.length_filterMap_eq_countP, List.countP_eq_length_filter]
  congr 1
  refine List.filter_congr fun p _ => ?_
  cases near p with
  | none => rfl
  | some x => by_cases h : beyond maxSq x.2 <;> simp [h]

end Pairs

/-- An alignment followed without an iteration limit, every fit answered by `fit`: the kit,
the targets, the bound on squared pair distances, the least improvement and the working points
it starts from. -/
structure Run (α V M : Type) where
  kit : Kit α V M
  fit : List V → List V → M
  targets : List V
  maxSq : Option α
  minImprovement : α
  start : List V

namespace Run

section Follow

variable {α V M : Type} [Add α] [LT α] [DecidableLT α] [OfNat α 0] (r : Run α V M)

/-- The correspondences of working points. -/
def pairsOf (cur : List V) : Pairs α V := pairUp (r.kit.nearest r.targets) r.maxSq cur

/-- The working points after `j` iterations. -/
def cloud : Nat → List V
  | 0 => r.start
  | j + 1 => (cloud j).map (r.kit.move (r.fit (r.pairsOf (cloud j)).src (r.pairsOf (cloud j)).dst))

/-- The correspondences of iteration `j`. -/
def pairs (j : Nat) : Pairs α V := r.pairsOf (r.cloud j)

/-- The number of pairs iteration `j` keeps. -/
def kept (j : Nat) : Nat := (r.pairs j).src.length

/-- The step fitted in iteration `j`. -/
def step (j : Nat) : M := r.fit (r.pairs j).src (r.pairs j).dst

/-- The first `k` steps composed in order. -/
def composite (k : Nat) : M := ((List.range k).map r.step).foldl r.kit.andThen r.kit.identity

theorem cloud_succ (j : Nat) : r.cloud (j + 1) = (r.cloud j).map (r.kit.move (r.step j)) := rfl

theorem composite_succ (k : Nat) :
    r.composite (k + 1) = r.kit.andThen (r.composite k) (r.step k) := by
  simp [composite, List.range_succ]

/-- When a composed motion moves points as its two motions in turn, the first `k` steps composed
move the starting points to where the first `k` iterations moved them. -/
theorem cloud_eq_map_composite
    (hmove : ∀ m n p, r.kit.move (r.kit.andThen m n) p = r.kit.move n (r.kit.move m p))
    (hid : ∀ p, r.kit.move r.kit.identity p = p) (k : Nat) :
    r.cloud k = r.start.map (r.kit.move (r.composite k)) := by
  induction k with
  | zero =>
    have hmap : r.start.map (r.kit.move r.kit.identity) = r.start.map id :=
      List.map_congr_left fun p _ => hid p
    rw [List.map_id] at hmap
    exact hmap.symm
  | succ k ih =>
    rw [cloud_succ, ih, composite_succ, List.map_map]
    refine List.map_congr_left fun p _ => ?_
    rw [Function.comp_apply, hmove]

end Follow

section Measure

variable {α V M : Type} [Add α] [Div α] [LT α] [DecidableLT α] [OfNat α 0] (r : Run α V M)

/-- The RMS distance of the pairs of iteration `j`. -/
def rms (j : Nat) : α := r.kit.sqrt ((r.pairs j).sumSq / r.kit.ofNat (r.kept j))

/-- What the loop returns after `k` iterations: the steps composed, carrying the RMS of the
last; the identity when none ran. -/
def result : Nat → M
  | 0 => r.kit.identity
  | k + 1 => r.kit.withRms (r.composite (k + 1)) (r.rms k)

variable {r}

/-- Iteration `j` of the loop is iteration `j` of the run, when the fit answers as `r.fit`. -/
theorem iteration_cloud (hfit : ∀ src dst, r.kit.fit src dst = .ok (r.fit src dst)) (j : Nat) :
    iteration r.kit r.targets r.maxSq (r.cloud j) =
      if r.kept j < 3 then .error Fault.tooFewPoints
      else .ok ⟨r.step j, r.rms j, r.cloud (j + 1)⟩ := by
  have hpairs : pairUp (r.kit.nearest r.targets) r.maxSq (r.cloud j) = r.pairs j := rfl
  have hkept : (r.pairs j).src.length = r.kept j := rfl
  simp only [iteration, hpairs, hkept]
  by_cases h : r.kept j < 3
  · rw [if_pos h, if_pos h]
    rfl
  · rw [if_neg h, if_neg h]
    simp only [hfit]
    rfl

/-- Composing step `j` onto what the loop holds after `j` iterations, with the RMS of
iteration `j`, gives what it holds after `j + 1`, when composing reads no RMS. -/
theorem result_succ (hrms : ∀ m x n, r.kit.andThen (r.kit.withRms m x) n = r.kit.andThen m n)
    (j : Nat) : r.kit.withRms (r.kit.andThen (r.result j) (r.step j)) (r.rms j) = r.result (j + 1) := by
  cases j with
  | zero => rw [result, result, composite_succ]; rfl
  | succ j => rw [result, hrms, ← composite_succ, result]

/-- What the loop returns moves points as the composite does, when carrying an RMS moves
nothing. -/
theorem move_result (hwith : ∀ m x, r.kit.move (r.kit.withRms m x) = r.kit.move m) (k : Nat) :
    r.kit.move (r.result k) = r.kit.move (r.composite k) := by
  cases k with
  | zero => rfl
  | succ k => exact hwith _ _

end Measure

section Loop

variable {α V M : Type} [Add α] [Sub α] [Div α] [LT α] [DecidableLT α] [OfNat α 0]
  (r : Run α V M)

/-- The RMS iteration `j` is measured against: the one before, or the arithmetic's `+∞`. -/
def prev : Nat → Option α
  | 0 => r.kit.infinity
  | j + 1 => some (r.rms j)

/-- Iteration `j` ends the loop: its RMS improved by less than the least improvement. -/
def Stops (j : Nat) : Prop := stalls r.minImprovement (r.prev j) (r.rms j) = true

instance (j : Nat) : Decidable (r.Stops j) :=
  inferInstanceAs (Decidable (stalls r.minImprovement (r.prev j) (r.rms j) = true))

/-- Iteration `j` is reached: every one before it kept three pairs or more and did not end the
loop. -/
def Reaches (j : Nat) : Prop := ∀ i < j, 3 ≤ r.kept i ∧ ¬ r.Stops i

/-- The loop runs exactly `k` of at most `n` iterations: each keeps three pairs or more, none
but the last ends the loop, and it ends before `n` only because the last ended it. -/
def Runs (n k : Nat) : Prop :=
  k ≤ n ∧ (∀ j < k, 3 ≤ r.kept j) ∧ (∀ j, j + 1 < k → ¬ r.Stops j) ∧
    (k < n → 0 < k ∧ r.Stops (k - 1))

theorem reaches_succ {j : Nat} :
    r.Reaches (j + 1) ↔ r.Reaches j ∧ 3 ≤ r.kept j ∧ ¬ r.Stops j := by
  constructor
  · intro h
    exact ⟨fun i hi => h i (by omega), h j (by omega)⟩
  · rintro ⟨h, hj⟩ i hi
    rcases Nat.lt_succ_iff_lt_or_eq.1 hi with hi | rfl
    · exact h i hi
    · exact hj

variable {r}

section Reached

variable {n : Nat} (hno : ¬ ∃ j < n, r.Reaches j ∧ r.kept j < 3)
include hno

/-- Where no iteration reached before `n` keeps too few pairs, each one reached keeps three or
more. -/
theorem three_le_kept_of_reaches {j : Nat} (hj : j < n) (hr : r.Reaches j) : 3 ≤ r.kept j :=
  not_lt.1 fun h => hno ⟨j, hj, hr, h⟩

/-- Where no iteration reached before `n` keeps too few pairs, an iteration up to `n` is reached
when none before it ends the loop. -/
theorem reaches_of_not_stops {k : Nat} (hk : k ≤ n) (hgo : ∀ j < k, ¬ r.Stops j) :
    r.Reaches k := by
  induction k with
  | zero => exact fun j hj => absurd hj (Nat.not_lt_zero j)
  | succ k ih =>
    have hr := ih (by omega) fun j hj => hgo j (by omega)
    exact r.reaches_succ.2 ⟨hr, three_le_kept_of_reaches hno (by omega) hr, hgo k (by omega)⟩

end Reached

variable (hfit : ∀ src dst, r.kit.fit src dst = .ok (r.fit src dst))
  (hrms : ∀ m x n, r.kit.andThen (r.kit.withRms m x) n = r.kit.andThen m n)
include hfit

/-- An iteration keeping fewer than three pairs fails the loop. -/
theorem iterate_succ_cloud_of_lt (f j : Nat) (total : M) (prev : Option α) (hk : r.kept j < 3) :
    iterate r.kit r.targets r.maxSq r.minImprovement (f + 1) (r.cloud j) total prev =
      .error Fault.tooFewPoints := by
  rw [iterate, iteration_cloud hfit, if_pos hk]
  rfl

include hrms

/-- One iteration of the loop from iteration `j` of the run, keeping three pairs or more: the
loop returns what it holds after `j + 1` iterations if iteration `j` ends it, and goes on from
iteration `j + 1` otherwise. -/
theorem iterate_succ_cloud (f j : Nat) (hk : 3 ≤ r.kept j) :
    iterate r.kit r.targets r.maxSq r.minImprovement (f + 1) (r.cloud j) (r.result j) (r.prev j) =
      if r.Stops j then .ok (r.result (j + 1))
      else iterate r.kit r.targets r.maxSq r.minImprovement f (r.cloud (j + 1)) (r.result (j + 1))
        (r.prev (j + 1)) := by
  rw [iterate, iteration_cloud hfit, if_neg (by omega)]
  show (if r.Stops j then pure (r.kit.withRms (r.kit.andThen (r.result j) (r.step j)) (r.rms j))
    else iterate r.kit r.targets r.maxSq r.minImprovement f (r.cloud (j + 1))
      (r.kit.withRms (r.kit.andThen (r.result j) (r.step j)) (r.rms j)) (some (r.rms j))) = _
  rw [result_succ hrms]
  rfl

/-- Having reached iteration `i` of at most `n`, the loop from the start is the loop from
iteration `i` with the iterations left. -/
theorem iterate_eq_of_reaches {n i : Nat} (hi : i ≤ n) (hr : r.Reaches i) :
    iterate r.kit r.targets r.maxSq r.minImprovement n (r.cloud 0) (r.result 0) (r.prev 0) =
      iterate r.kit r.targets r.maxSq r.minImprovement (n - i) (r.cloud i) (r.result i)
        (r.prev i) := by
  induction i with
  | zero => rfl
  | succ i ih =>
    obtain ⟨hr, hk, hs⟩ := r.reaches_succ.1 hr
    rw [ih (by omega) hr, show n - i = n - (i + 1) + 1 by omega,
      iterate_succ_cloud hfit hrms _ _ hk, if_neg hs]

/-- When no iteration it reaches keeps too few pairs, the loop runs some `k` of its `n`
iterations and returns the composite of their steps. -/
theorem iterate_runs (n : Nat) (hno : ¬ ∃ j < n, r.Reaches j ∧ r.kept j < 3) :
    ∃ k, r.Runs n k ∧
      iterate r.kit r.targets r.maxSq r.minImprovement n (r.cloud 0) (r.result 0) (r.prev 0) =
        .ok (r.result k) := by
  classical
  -- the first iteration that ends the loop, or `n` when none before `n` does
  have hex : ∃ j, j = n ∨ (j < n ∧ r.Stops j) := ⟨n, .inl rfl⟩
  obtain ⟨k₀, hk₀, hmin⟩ : ∃ k₀, (k₀ = n ∨ (k₀ < n ∧ r.Stops k₀)) ∧
      ∀ j < k₀, ¬ (j = n ∨ (j < n ∧ r.Stops j)) :=
    ⟨Nat.find hex, Nat.find_spec hex, fun j hj => Nat.find_min hex hj⟩
  have hle : k₀ ≤ n := by rcases hk₀ with h | h <;> omega
  have hgo : ∀ j < k₀, ¬ r.Stops j := fun j hj hs => hmin j hj (.inr ⟨by omega, hs⟩)
  have hreach : r.Reaches k₀ := reaches_of_not_stops hno hle hgo
  rw [iterate_eq_of_reaches hfit hrms hle hreach]
  rcases hk₀ with rfl | ⟨hlt, hstop⟩
  · -- no iteration ended the loop: all `n` ran
    refine ⟨k₀, ⟨le_rfl, fun j hj => (hreach j hj).1, fun j hj => hgo j (by omega),
      fun h => absurd h (lt_irrefl k₀)⟩, ?_⟩
    rw [Nat.sub_self]
    rfl
  · -- iteration `k₀` ended the loop
    have hk : 3 ≤ r.kept k₀ := three_le_kept_of_reaches hno hlt hreach
    refine ⟨k₀ + 1, ⟨hlt, fun j hj => ?_, fun j hj => hgo j (by omega), fun _ => ⟨by omega, hstop⟩⟩,
      ?_⟩
    · rcases Nat.lt_succ_iff_lt_or_eq.1 hj with hj | rfl
      · exact (hreach j hj).1
      · exact hk
    · rw [show n - k₀ = n - k₀ - 1 + 1 by omega, iterate_succ_cloud hfit hrms _ _ hk, if_pos hstop]

/-- The loop fails with too few points exactly when an iteration it reaches keeps fewer than
three pairs. -/
theorem iterate_eq_error_iff (n : Nat) :
    iterate r.kit r.targets r.maxSq r.minImprovement n (r.cloud 0) (r.result 0) (r.prev 0) =
        .error Fault.tooFewPoints ↔ ∃ j < n, r.Reaches j ∧ r.kept j < 3 := by
  constructor
  · intro h
    by_contra hno
    obtain ⟨k, -, hk⟩ := iterate_runs hfit hrms n hno
    rw [hk] at h
    cases h
  · rintro ⟨j, hj, hr, hk⟩
    rw [iterate_eq_of_reaches hfit hrms hj.le hr, show n - j = n - j - 1 + 1 by omega]
    exact iterate_succ_cloud_of_lt hfit _ j _ _ hk

end Loop

end Run

section Align

variable {α V M : Type} [Add α] [Sub α] [Mul α] [Div α] [LT α] [DecidableLT α] [OfNat α 0]
  {P : Type}

/-- The run an alignment follows: both clouds thinned and widened, pairs bounded by
`maxDistance`, fits answered by `fit`. -/
def Run.ofAlign (kit : Kit α V M) (fit : List V → List V → M) (widen : P → V) (maxPoints : Int)
    (maxDistance minImprovement : α) (target source : List P) : Run α V M :=
  ⟨kit, fit, (thinOut target (budget maxPoints)).map widen, kit.squaredBound maxDistance,
    minImprovement, (thinOut source (budget maxPoints)).map widen⟩

variable (kit : Kit α V M) (fit : List V → List V → M) (widen : P → V) (maxPoints : Int)
  (maxDistance minImprovement : α) (target source : List P)

/-- An alignment refuses clouds thinned below three points, and otherwise runs the loop from
the start of its run. -/
theorem align_eq (iterations : Int) :
    align kit widen maxPoints maxDistance minImprovement target source iterations =
      let r := Run.ofAlign kit fit widen maxPoints maxDistance minImprovement target source
      if (thinOut target (budget maxPoints)).length < 3 ∨
          (thinOut source (budget maxPoints)).length < 3 then .error Fault.tooFewPoints
      else iterate r.kit r.targets r.maxSq r.minImprovement iterations.toNat (r.cloud 0)
        (r.result 0) (r.prev 0) := by
  simp only [align]
  split
  · next h =>
    simp only [Bool.or_eq_true, decide_eq_true_eq] at h
    rw [if_pos h]
    rfl
  · next h =>
    simp only [Bool.or_eq_true, decide_eq_true_eq] at h
    rw [if_neg h]
    rfl

/-- What an alignment does, whatever its arithmetic, when every fit answers as `fit` and
composing reads no RMS: it fails with too few points exactly when a thinned cloud has fewer
than three points or an iteration it reaches keeps fewer than three pairs, and otherwise runs
some `k` of its `n` iterations and returns their steps composed. -/
theorem align_outcome (hfit : ∀ src dst, kit.fit src dst = .ok (fit src dst))
    (hrms : ∀ m x n, kit.andThen (kit.withRms m x) n = kit.andThen m n) (n : Nat) :
    let r := Run.ofAlign kit fit widen maxPoints maxDistance minImprovement target source
    let few := (thinOut target (budget maxPoints)).length < 3 ∨
      (thinOut source (budget maxPoints)).length < 3
    (align kit widen maxPoints maxDistance minImprovement target source n =
        .error Fault.tooFewPoints ↔ few ∨ ∃ j < n, r.Reaches j ∧ r.kept j < 3) ∧
    (¬ (few ∨ ∃ j < n, r.Reaches j ∧ r.kept j < 3) →
      ∃ k, r.Runs n k ∧
        align kit widen maxPoints maxDistance minImprovement target source n = .ok (r.result k)) := by
  intro r few
  rw [align_eq kit fit, Int.toNat_natCast]
  by_cases hfew : few
  · refine ⟨iff_of_true (if_pos hfew) (.inl hfew), fun h => absurd (.inl hfew) h⟩
  · rw [if_neg hfew]
    refine ⟨?_, fun h => Run.iterate_runs (r := r) hfit hrms n fun hj => h (.inr hj)⟩
    rw [Run.iterate_eq_error_iff (r := r) hfit hrms n, or_iff_right hfew]

end Align


/-! ## Over the reals -/

/-- Alignment over the reals: any nearest-target search and any fit, motions applied and
composed by the rig's formulas read over the reals, and no `+∞`, so that a bound that is not
set is absent. A motion is a pose and the RMS it carries. -/
noncomputable def realKit (near : List (Fin 3 → ℝ) → (Fin 3 → ℝ) → Option ((Fin 3 → ℝ) × ℝ))
    (fit : List (Fin 3 → ℝ) → List (Fin 3 → ℝ) → RealPose) :
    Kit ℝ (Fin 3 → ℝ) (RealPose × ℝ) where
  nearest := near
  fit src dst := .ok (fit src dst, 0)
  move m := Transform.move m.1.1 m.1.2
  andThen m n := (Transform.andThen m.1.1 m.1.2 n.1.1 n.1.2, n.2)
  withRms m rms := (m.1, rms)
  identity := ((1, 0), 0)
  sqrt := Real.sqrt
  ofNat n := n
  infinity := none

/-- Alignment over the reals composes exactly the steps it applied. Whatever the nearest-target
search and the fit answer, an alignment of at most `n` iterations fails with too few points
exactly when a thinned cloud has fewer than three points or an iteration it reaches keeps fewer
than three pairs. An iteration ends the loop exactly when its RMS improved on the one before by
less than the least improvement, which the first never does. Unless it fails, the alignment
runs `k ≤ n` iterations, each keeping three pairs or more and ending early only at an
iteration that ends the loop; it returns the `k` steps composed in order, carrying the RMS of
the last iteration (the identity with RMS zero when `k = 0`), and that motion moves every
thinned source point exactly where the iterations moved it. -/
theorem align_composes_applied_steps {P : Type} (widen : P → Fin 3 → ℝ)
    (near : List (Fin 3 → ℝ) → (Fin 3 → ℝ) → Option ((Fin 3 → ℝ) × ℝ))
    (fit : List (Fin 3 → ℝ) → List (Fin 3 → ℝ) → RealPose) (maxPoints : Int)
    (maxDistance minImprovement : ℝ) (target source : List P) (n : Nat) :
    let r := Run.ofAlign (realKit near fit) (fun src dst => (fit src dst, 0)) widen maxPoints
      maxDistance minImprovement target source
    let few := (thinOut target (budget maxPoints)).length < 3 ∨
      (thinOut source (budget maxPoints)).length < 3
    (∀ j, r.Stops j ↔ 0 < j ∧ r.rms (j - 1) - r.rms j < minImprovement) ∧
    (align (realKit near fit) widen maxPoints maxDistance minImprovement target source n =
        .error Fault.tooFewPoints ↔ few ∨ ∃ j < n, r.Reaches j ∧ r.kept j < 3) ∧
    (¬ (few ∨ ∃ j < n, r.Reaches j ∧ r.kept j < 3) →
      ∃ k, r.Runs n k ∧
        align (realKit near fit) widen maxPoints maxDistance minImprovement target source n =
          .ok (r.result k) ∧
        r.cloud k = (thinOut source (budget maxPoints)).map fun p =>
          Transform.move (r.result k).1.1 (r.result k).1.2 (widen p)) := by
  intro r few
  obtain ⟨herr, hok⟩ := align_outcome (realKit near fit) (fun src dst => (fit src dst, 0)) widen
    maxPoints maxDistance minImprovement target source (fun _ _ => rfl) (fun _ _ _ => rfl) n
  -- with no `+∞`, the first iteration has no RMS before it to improve on
  have hstops : ∀ j, r.Stops j ↔ 0 < j ∧ r.rms (j - 1) - r.rms j < minImprovement := by
    intro j
    cases j with
    | zero => simp [Run.Stops, Run.prev, stalls, r, Run.ofAlign, realKit]
    | succ j => simp [Run.Stops, Run.prev, stalls, r, Run.ofAlign]
  refine ⟨hstops, herr, fun h => ?_⟩
  obtain ⟨k, hk, halign⟩ := hok h
  refine ⟨k, hk, halign, ?_⟩
  have hpos := Run.cloud_eq_map_composite (r := r)
    (fun m s p => Transform.move_andThen m.1.1 s.1.1 m.1.2 s.1.2 p) Transform.move_one_zero k
  rw [hpos, ← Run.move_result (r := r) (fun _ _ => rfl) k]
  exact List.map_map

end Icp

end DepthRig
