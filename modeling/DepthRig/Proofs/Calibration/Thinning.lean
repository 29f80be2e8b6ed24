import DepthRig.Calibration.Icp
import Mathlib.Data.Rat.Floor

/-!
# Thinning a cloud by a stride

A cloud of `n` points above the budget `most` keeps the points at `0, s, 2s, …` with the
stride `s = ⌈n / most⌉`. The count kept is at most `most` and more than `most / 2`, and the
lower bound is tight.
-/

namespace DepthRig

variable {β : Type}

/-! ## Ceiling division -/

/-- `k` lies below `⌈n / s⌉` exactly when `k` strides of `s` stay below `n`. -/
theorem lt_ceil_div_iff {n s : Nat} (hs : 0 < s) (k : Nat) :
    k < ⌈(n : ℚ) / s⌉₊ ↔ k * s < n := by
  rw [Nat.lt_ceil, lt_div_iff₀ (by exact_mod_cast hs)]
  exact_mod_cast Iff.rfl

/-- The stride as the code computes it, `(n + s - 1) / s`, is `⌈n / s⌉`. -/
theorem add_sub_one_div_eq_ceil {n s : Nat} (hs : 0 < s) :
    (n + s - 1) / s = ⌈(n : ℚ) / s⌉₊ := by
  refine eq_of_forall_lt_iff fun k => ?_
  rw [lt_ceil_div_iff hs, ← Nat.add_one_le_iff, Nat.le_div_iff_mul_le hs, Nat.succ_mul]
  omega

/-! ## Every `s`-th element -/

/-- The elements of `l` whose index, counted from `o`, is a multiple of `s`. -/
def multiplesFrom (s o : Nat) (l : List β) : List β :=
  (l.zipIdx o).filterMap fun x => if x.2 % s == 0 then some x.1 else none

theorem multiplesFrom_append (s o : Nat) (l₁ l₂ : List β) :
    multiplesFrom s o (l₁ ++ l₂) = multiplesFrom s o l₁ ++ multiplesFrom s (o + l₁.length) l₂ := by
  simp only [multiplesFrom, List.zipIdx_append, List.filterMap_append]

@[simp] theorem multiplesFrom_nil (s o : Nat) : multiplesFrom s o ([] : List β) = [] := rfl

/-- Where no index is a multiple of `s`, nothing is kept. -/
theorem multiplesFrom_eq_nil {s o : Nat} {l : List β}
    (h : ∀ i, o ≤ i → i < o + l.length → i % s ≠ 0) : multiplesFrom s o l = [] := by
  refine List.filterMap_eq_nil_iff.2 fun x hx => ?_
  obtain ⟨hlo, hhi, -⟩ := List.mem_zipIdx hx
  simp [h x.2 hlo hhi]

/-- From a multiple of `s`, the first element is kept and the next `s - 1` are skipped. -/
theorem multiplesFrom_cons {s o : Nat} (hs : 0 < s) (ho : s ∣ o) (p : β) (l : List β) :
    multiplesFrom s o (p :: l) = p :: multiplesFrom s (o + s) (l.drop (s - 1)) := by
  obtain ⟨q, rfl⟩ := ho
  have hhead : multiplesFrom s (s * q) (p :: l) = p :: multiplesFrom s (s * q + 1) l := by
    simp [multiplesFrom, List.zipIdx_cons]
  -- the indices strictly between two multiples of `s` are skipped
  have hskip : multiplesFrom s (s * q + 1) (l.take (s - 1)) = [] := by
    refine multiplesFrom_eq_nil fun i hlo hhi => ?_
    have hlen := List.length_take_le (s - 1) l
    rw [show i = (i - s * q) + s * q by omega, Nat.add_mul_mod_self_left,
      Nat.mod_eq_of_lt (by omega)]
    omega
  have hrest : multiplesFrom s (s * q + 1 + (l.take (s - 1)).length) (l.drop (s - 1)) =
      multiplesFrom s (s * q + s) (l.drop (s - 1)) := by
    rcases Nat.lt_or_ge l.length (s - 1) with h | h
    · rw [List.drop_eq_nil_of_le h.le, multiplesFrom_nil, multiplesFrom_nil]
    · rw [List.length_take_of_le h, show s * q + 1 + (s - 1) = s * q + s by omega]
  rw [hhead]
  conv_lhs => rw [← List.take_append_drop (s - 1) l]
  rw [multiplesFrom_append, hskip, hrest, List.nil_append]

/-- Element `k` of the multiples of `s`, counted from a multiple of `s`, is element `k · s`. -/
theorem getElem?_multiplesFrom {s : Nat} (hs : 0 < s) (k : Nat) :
    ∀ {o : Nat} (l : List β), s ∣ o → (multiplesFrom s o l)[k]? = l[k * s]? := by
  induction k with
  | zero =>
    intro o l ho
    cases l with
    | nil => rfl
    | cons p l => simp [multiplesFrom_cons hs ho]
  | succ k ih =>
    intro o l ho
    cases l with
    | nil => rfl
    | cons p l =>
      rw [multiplesFrom_cons hs ho, List.getElem?_cons_succ,
        ih (l.drop (s - 1)) (Nat.dvd_add ho (Nat.dvd_refl s)), List.getElem?_drop,
        show (k + 1) * s = s - 1 + k * s + 1 by rw [Nat.succ_mul]; omega,
        List.getElem?_cons_succ]

/-- A list whose element `k` is element `k · s` of `l`, for every `k`, has `⌈n / s⌉` elements,
`n` the length of `l`. -/
theorem length_eq_ceil_of_getElem? {s : Nat} (hs : 0 < s) {l' l : List β}
    (h : ∀ k, l'[k]? = l[k * s]?) : l'.length = ⌈(l.length : ℚ) / s⌉₊ := by
  refine eq_of_forall_lt_iff fun k => ?_
  rw [lt_ceil_div_iff hs, ← not_le, ← not_le, ← List.getElem?_eq_none_iff,
    ← List.getElem?_eq_none_iff, h]

/-- The stride `s = ⌈n / most⌉` of more than `most` points keeps `⌈n / s⌉` of them: at most
`most`, and more than `most / 2`. -/
theorem ceil_div_stride_bounds {n most : Nat} (hmost : 0 < most) (hn : most < n) :
    most / 2 < ⌈(n : ℚ) / ⌈(n : ℚ) / most⌉₊⌉₊ ∧ ⌈(n : ℚ) / ⌈(n : ℚ) / most⌉₊⌉₊ ≤ most := by
  set s := ⌈(n : ℚ) / most⌉₊
  have hs : ∀ k, k < s ↔ k * most < n := lt_ceil_div_iff hmost
  have htwo : 2 ≤ s := (hs 1).2 (by omega)
  have hcover : n ≤ s * most := not_lt.1 fun h => lt_irrefl s ((hs s).2 h)
  have hshort : (s - 1) * most < n := (hs (s - 1)).1 (by omega)
  have hc : ∀ k, k < ⌈(n : ℚ) / s⌉₊ ↔ k * s < n := lt_ceil_div_iff (by omega)
  constructor
  · rw [hc]
    -- half the budget in strides of `s ≥ 2` stays within `s - 1` budgets
    have hhalf : most / 2 * s ≤ (s - 1) * most := by
      obtain ⟨t, ht⟩ : ∃ t, s = t + 2 := ⟨s - 2, by omega⟩
      have h2 : 2 * (most / 2) ≤ most := Nat.mul_div_le most 2
      rw [ht, show t + 2 - 1 = t + 1 by omega]
      nlinarith
    omega
  · refine not_lt.1 fun h => ?_
    have := (hc most).1 h
    rw [Nat.mul_comm] at this
    omega

/-! ## Thinning -/

/-- Thinning keeps a strided prefix of bounded size. A cloud of `n ≤ most` points is kept
whole; a larger one keeps exactly the points at indices `0, s, 2s, …` below `n`, with the
stride `s = ⌈n / most⌉`, and their number `⌈n / s⌉` is at most `most` and more than
`most / 2`. -/
theorem thinOut_keeps_strided_prefix (pts : List β) {most : Nat} (hmost : 0 < most) :
    (pts.length ≤ most → thinOut pts most = pts) ∧
    (most < pts.length →
      let s := ⌈(pts.length : ℚ) / most⌉₊
      (∀ k, (thinOut pts most)[k]? = pts[k * s]?) ∧
      (thinOut pts most).length = ⌈(pts.length : ℚ) / s⌉₊ ∧
      most / 2 < (thinOut pts most).length ∧ (thinOut pts most).length ≤ most) := by
  refine ⟨fun h => if_pos h, fun h => ?_⟩
  intro s
  have hs : 0 < s := (lt_ceil_div_iff hmost 0).2 (by omega)
  have hthin : thinOut pts most = multiplesFrom s 0 pts := by
    rw [thinOut, if_neg (by omega), add_sub_one_div_eq_ceil hmost]
    rfl
  have hget : ∀ k, (thinOut pts most)[k]? = pts[k * s]? := fun k => by
    rw [hthin]
    exact getElem?_multiplesFrom hs k pts (Nat.dvd_zero s)
  have hlen := length_eq_ceil_of_getElem? hs hget
  obtain ⟨hlo, hhi⟩ := ceil_div_stride_bounds hmost h
  exact ⟨hget, hlen, hlen ▸ hlo, hlen ▸ hhi⟩

/-- Seven points thinned to six: the stride is two, and points 0, 2, 4 and 6 are kept. -/
theorem thinOut_seven_to_six :
    0 < 6 ∧ ((List.range 7).length ≤ 6 → thinOut (List.range 7) 6 = List.range 7) ∧
    (6 < (List.range 7).length →
      let s := ⌈((List.range 7).length : ℚ) / ((6 : ℕ) : ℚ)⌉₊
      (∀ k, (thinOut (List.range 7) 6)[k]? = (List.range 7)[k * s]?) ∧
      (thinOut (List.range 7) 6).length = ⌈((List.range 7).length : ℚ) / s⌉₊ ∧
      6 / 2 < (thinOut (List.range 7) 6).length ∧ (thinOut (List.range 7) 6).length ≤ 6) :=
  ⟨by decide, thinOut_keeps_strided_prefix (List.range 7) (by decide)⟩

end DepthRig
