import DepthRig.Proofs.Calibration.Alignment
import Mathlib.Data.Real.Basic
import Mathlib.LinearAlgebra.UnitaryGroup

/-!
# Refinement in exact arithmetic

Over the reals the rig's transform formulas are matrix algebra, and for rotations folding a
correction into a world transform is exact: the folded transform places every point where the
transform, then the correction, would, and its rotation is a rotation. So a refinement pushes
transforms that put every frame exactly where its alignments moved it.
-/

namespace DepthRig

open Matrix

/-- The rotations of space. -/
abbrev SO3 : Submonoid (Matrix (Fin 3) (Fin 3) ℝ) := specialOrthogonalGroup (Fin 3) ℝ

theorem mul_transpose_of_mem_SO3 {R : Matrix (Fin 3) (Fin 3) ℝ} (hR : R ∈ SO3) : R * Rᵀ = 1 :=
  (mem_orthogonalGroup_iff (Fin 3) ℝ).1 (mem_specialOrthogonalGroup_iff.1 hR).1

theorem mem_SO3_of_mul_transpose {R : Matrix (Fin 3) (Fin 3) ℝ} (h : R * Rᵀ = 1) (hdet : R.det = 1) :
    R ∈ SO3 :=
  mem_specialOrthogonalGroup_iff.2 ⟨(mem_orthogonalGroup_iff (Fin 3) ℝ).2 h, hdet⟩

namespace Transform

variable (R A : Matrix (Fin 3) (Fin 3) ℝ) (T b p w : Fin 3 → ℝ)

theorem sum3_zero_eq_sum (f : Fin 3 → ℝ) : sum3 0 f = ∑ i, f i := by
  simp [sum3, Fin.sum_univ_three]

theorem rowDot_eq_mulVec (v : Fin 3 → ℝ) : rowDot R v = R *ᵥ v := by
  funext i
  simp [rowDot, mulVec, dotProduct, Fin.sum_univ_three]

theorem place_eq_mulVec : place R T p = R *ᵥ (p + T) :=
  rowDot_eq_mulVec R _

theorem move_eq_mulVec : move A b w = A *ᵥ w + b := by
  funext i
  simp [move, rowDot_eq_mulVec]

/-- Over the reals, folding is `(A * R, T + Rᵀ *ᵥ (Aᵀ *ᵥ b))`, the rotation projected. -/
theorem fold_eq (nearest : Matrix (Fin 3) (Fin 3) ℝ → Matrix (Fin 3) (Fin 3) ℝ) :
    fold id id nearest R T A b = (nearest (A * R), T + Rᵀ *ᵥ (Aᵀ *ᵥ b)) := by
  have hAR : (fun i j => sum3 0 fun k => A i k * id (R k j)) = A * R := by
    funext i j
    simp [sum3_zero_eq_sum, mul_apply]
  refine Prod.ext ?_ ?_
  · simp only [fold, id_eq]
    rw [← hAR]
    rfl
  · funext i
    simp only [fold, sum3_zero_eq_sum, id_eq, Pi.add_apply, mulVec, dotProduct, transpose_apply]

variable {nearest : Matrix (Fin 3) (Fin 3) ℝ → Matrix (Fin 3) (Fin 3) ℝ}
  (hnear : ∀ M ∈ SO3, nearest M = M) {R A} (hR : R ∈ SO3) (hA : A ∈ SO3)
include hnear hR hA

/-- For rotations the projection does nothing: folding is `(A * R, T + Rᵀ *ᵥ (Aᵀ *ᵥ b))`. -/
theorem fold_of_mem_SO3 :
    fold id id nearest R T A b = (A * R, T + Rᵀ *ᵥ (Aᵀ *ᵥ b)) := by
  rw [fold_eq, hnear _ (mul_mem hA hR)]

/-- Folding keeps a rotation a rotation. -/
theorem fold_rotation : (fold id id nearest R T A b).1 ∈ SO3 := by
  rw [fold_of_mem_SO3 T b hnear hR hA]
  exact mul_mem hA hR

/-- Folding is exact: the folded transform places `p` where the transform, then the
correction, would, because `R * Rᵀ = 1` and `A * Aᵀ = 1`. -/
theorem place_fold :
    place (fold id id nearest R T A b).1 (fold id id nearest R T A b).2 p =
      move A b (place R T p) := by
  rw [fold_of_mem_SO3 T b hnear hR hA, place_eq_mulVec, place_eq_mulVec, move_eq_mulVec]
  calc (A * R) *ᵥ (p + (T + Rᵀ *ᵥ (Aᵀ *ᵥ b)))
      = A *ᵥ (R *ᵥ (p + T)) + (A * (R * Rᵀ) * Aᵀ) *ᵥ b := by
        simp only [← add_assoc, mulVec_add, mulVec_mulVec, Matrix.mul_assoc]
    _ = A *ᵥ (R *ᵥ (p + T)) + b := by
        rw [mul_transpose_of_mem_SO3 hR, Matrix.mul_one, mul_transpose_of_mem_SO3 hA, one_mulVec]

end Transform

/-! ## The loop over the reals -/

/-- A rotation and a translation over the reals. -/
abbrev RealPose := Matrix (Fin 3) (Fin 3) ℝ × (Fin 3 → ℝ)

/-- The rig's transform formulas over the reals, rotations projected by `nearest`. -/
def exactMotion (nearest : Matrix (Fin 3) (Fin 3) ℝ → Matrix (Fin 3) (Fin 3) ℝ) :
    Motion (Fin 3 → ℝ) RealPose RealPose where
  place w := Transform.place w.1 w.2
  move s := Transform.move s.1 s.2
  fold w s := Transform.fold id id nearest w.1 w.2 s.1 s.2

/-- Sensor `i`'s cloud is its frame placed by its world transform, a rotation then a
translation. -/
def Placed (nearest : Matrix (Fin 3) (Fin 3) ℝ → Matrix (Fin 3) (Fin 3) ℝ)
    (frames : List (List (Fin 3 → ℝ))) (i : Nat) (f : Fitting (Fin 3 → ℝ) RealPose RealPose) : Prop :=
  f.cloud = (frames.getD i []).map ((exactMotion nearest).place f.world) ∧ f.world.1 ∈ SO3

section Loop

variable {nearest : Matrix (Fin 3) (Fin 3) ℝ → Matrix (Fin 3) (Fin 3) ℝ}
  (hnear : ∀ M ∈ SO3, nearest M = M) (frames : List (List (Fin 3 → ℝ)))
include hnear

/-- A correction by a rotation keeps a sensor placed. -/
theorem Placed.correct {i : Nat} {f : Fitting (Fin 3 → ℝ) RealPose RealPose} (hf : Placed nearest frames i f)
    {s : RealPose} (hs : s.1 ∈ SO3) : Placed nearest frames i (f.correct (exactMotion nearest) s) := by
  obtain ⟨hcloud, hrot⟩ := hf
  refine ⟨?_, Transform.fold_rotation _ _ hnear hrot hs⟩
  simp only [Fitting.correct, hcloud, List.map_map]
  congr 1
  funext p
  exact (Transform.place_fold _ _ p hnear hrot hs).symm

omit hnear in
/-- Every sensor starts placed. -/
theorem holds_placed_start {worlds : List RealPose} (hworlds : ∀ w ∈ worlds, w.1 ∈ SO3) :
    Holds (Placed nearest frames)
      ((worlds.zip frames).map fun (w, vs) => Fitting.start (exactMotion nearest) w vs) := by
  intro i f hf
  simp only [List.getElem?_map, List.getElem?_zip_eq_some, Option.map_eq_some_iff] at hf
  obtain ⟨⟨w, vs⟩, ⟨hw, hvs⟩, rfl⟩ := hf
  refine ⟨?_, hworlds w (List.mem_of_getElem? hw)⟩
  simp [Fitting.start, List.getD_eq_getElem?_getD, hvs]

/-- Refinement over the reals is exact. Folding a correction by a rotation into a world
transform with a rotation gives a transform with a rotation, and it places every point where
the transform, then the correction, would. Hence, whatever rotations the aligner answers, each
alignment keeps every sensor's cloud equal to its frame placed by its world transform, with a
rotation in it, and so does every run of the rounds from the sensors' frames. -/
theorem refinement_exact :
    (∀ (R A : Matrix (Fin 3) (Fin 3) ℝ) (T b p : Fin 3 → ℝ), R ∈ SO3 → A ∈ SO3 →
      (Transform.fold id id nearest R T A b).1 ∈ SO3 ∧
      Transform.place (Transform.fold id id nearest R T A b).1
          (Transform.fold id id nearest R T A b).2 p =
        Transform.move A b (Transform.place R T p)) ∧
    ∀ {τ : Type} (align : List (Fin 3 → ℝ) → List (Fin 3 → ℝ) → StateM τ (Except Fault RealPose))
      (cancelled : StateM τ (Option Fault)) (name : Nat → String),
      (∀ t s, Always (align t s) fun r => ∀ c, r = .ok c → c.1 ∈ SO3) →
      (∀ (fs : List (Fitting (Fin 3 → ℝ) RealPose RealPose)) (i : Nat), Holds (Placed nearest frames) fs →
        Always (alignSensor (exactMotion nearest) align cancelled name fs i)
          fun r => ∀ fs', r = .ok fs' → Holds (Placed nearest frames) fs') ∧
      ∀ worlds : List RealPose, (∀ w ∈ worlds, w.1 ∈ SO3) → ∀ n rounds : Nat,
        Always (alignRounds (exactMotion nearest) align cancelled name n rounds
            ((worlds.zip frames).map fun (w, vs) => Fitting.start (exactMotion nearest) w vs))
          fun r => ∀ fs', r = .ok fs' → Holds (Placed nearest frames) fs' := by
  refine ⟨fun R A T b p hR hA =>
    ⟨Transform.fold_rotation T b hnear hR hA, Transform.place_fold T b p hnear hR hA⟩, ?_⟩
  intro τ align cancelled name ha
  have hI : ∀ i f s, Placed nearest frames i f → s.1 ∈ SO3 →
      Placed nearest frames i (f.correct (exactMotion nearest) s) :=
    fun _ _ _ hf hs => Placed.correct hnear frames hf hs
  refine ⟨fun fs i hfs => alignSensor_holds _ name align cancelled hI ha hfs i, ?_⟩
  intro worlds hworlds n rounds
  exact alignRounds_holds _ name align cancelled hI ha n rounds (holds_placed_start frames hworlds)

end Loop

/-- A quarter turn about the third axis with a shift, corrected by a quarter turn about the
first axis with another shift. The fold moves the translation by the transform's transposed
rotation applied to the correction's transposed rotation times its shift, to `(6, 2, 3)`
where adding the shifts would give `(1, 2, 8)`; the folded transform is a rotation and places
a point where the two in turn would. An aligner that always answers that correction meets the
hypothesis, and every run of rounds over two sensors, placed by the quarter turn and by the
identity, keeps both placed. -/
theorem quarter_turns_fold_exact :
    let R : Matrix (Fin 3) (Fin 3) ℝ := !![0, -1, 0; 1, 0, 0; 0, 0, 1]
    let A : Matrix (Fin 3) (Fin 3) ℝ := !![1, 0, 0; 0, 0, -1; 0, 1, 0]
    let T : Fin 3 → ℝ := ![1, 2, 3]
    let b : Fin 3 → ℝ := ![0, 0, 5]
    let p : Fin 3 → ℝ := ![2, 0, 1]
    let frames : List (List (Fin 3 → ℝ)) := [[p], [![0, 1, 0]]]
    let align : List (Fin 3 → ℝ) → List (Fin 3 → ℝ) → StateM Unit (Except Fault RealPose) :=
      fun _ _ => pure (.ok (A, b))
    R ∈ SO3 ∧ A ∈ SO3 ∧ (∀ t s, Always (align t s) fun r => ∀ c, r = .ok c → c.1 ∈ SO3) ∧
      (Transform.fold id id id R T A b).2 = ![6, 2, 3] ∧
      (Transform.fold id id id R T A b).1 ∈ SO3 ∧
      Transform.place (Transform.fold id id id R T A b).1 (Transform.fold id id id R T A b).2 p =
        Transform.move A b (Transform.place R T p) ∧
      ∀ n rounds : Nat, Always (alignRounds (exactMotion id) align (pure none) (fun _ => "") n rounds
          (([(R, T), (1, 0)].zip frames).map fun (w, vs) => Fitting.start (exactMotion id) w vs))
        fun r => ∀ fs', r = .ok fs' → Holds (Placed id frames) fs' := by
  intro R A T b p frames align
  have hR : R ∈ SO3 := mem_SO3_of_mul_transpose
    (by ext i j; fin_cases i <;> fin_cases j <;> simp [R, Matrix.mul_apply, Fin.sum_univ_three])
    (by simp [R, Matrix.det_fin_three])
  have hA : A ∈ SO3 := mem_SO3_of_mul_transpose
    (by ext i j; fin_cases i <;> fin_cases j <;> simp [A, Matrix.mul_apply, Fin.sum_univ_three])
    (by simp [A, Matrix.det_fin_three])
  -- the aligner answers the one correction, whose rotation is a rotation
  have halign : ∀ t s, Always (align t s) fun r => ∀ c, r = .ok c → c.1 ∈ SO3 :=
    fun _ _ => Always.pure fun c hc => by
      cases hc
      exact hA
  have hexact := @refinement_exact id (fun _ _ => rfl) frames
  obtain ⟨hrot, hplace⟩ := hexact.1 R A T b p hR hA
  have hworlds : ∀ w ∈ [(R, T), ((1 : Matrix (Fin 3) (Fin 3) ℝ), (0 : Fin 3 → ℝ))], w.1 ∈ SO3 := by
    intro w hw
    rcases List.mem_pair.1 hw with rfl | rfl
    exacts [hR, one_mem _]
  refine ⟨hR, hA, halign, ?_, hrot, hplace, fun n rounds =>
    (hexact.2 align (pure none) (fun _ => "") halign).2 _ hworlds n rounds⟩
  funext i
  fin_cases i <;> simp [Transform.fold, Transform.sum3, R, A, T, b]
  norm_num

end DepthRig
