import Mathlib
import DepthRig.Decimal.Binary

/-!
# Rounding a ratio into a binary format

`BinaryFormat.roundRatio` is how decimal text becomes a float. Its quotient, binade and
rounding on the binade's grid are each proved against the exact ratio in `ℚ`, so below the
overflow threshold the result is finite and within half a unit in the last place
(`classify_roundRatio`).
-/

namespace DepthRig

section RoundDivEven

variable {num den : Nat}

/-- The rounded quotient, times the divisor, is within half the divisor of the dividend. -/
theorem roundDivEven_mul_bounds (hden : 0 < den) :
    2 * (roundDivEven num den * den) ≤ 2 * num + den ∧
      2 * num ≤ 2 * (roundDivEven num den * den) + den := by
  have hdiv := Nat.div_add_mod num den
  have hmod := Nat.mod_lt num hden
  unfold roundDivEven
  dsimp only
  -- each branch is the quotient or its successor; the remainder decides which is nearer
  split_ifs with hlow hhigh <;>
    simp only [Nat.succ_mul, Nat.mul_comm den] at hdiv ⊢ <;> omega

/-- The rounded quotient is within one half of the exact one. -/
theorem abs_roundDivEven_sub_le (hden : 0 < den) :
    |(roundDivEven num den : ℚ) - num / den| ≤ 1 / 2 := by
  obtain ⟨hup, hdown⟩ := @roundDivEven_mul_bounds num den hden
  have hden' : (0 : ℚ) < den := by exact_mod_cast hden
  have hup' : 2 * ((roundDivEven num den : ℚ) * den) ≤ 2 * num + den := by exact_mod_cast hup
  have hdown' : 2 * (num : ℚ) ≤ 2 * ((roundDivEven num den : ℚ) * den) + den := by
    exact_mod_cast hdown
  have hsub : (roundDivEven num den : ℚ) - num / den =
      ((roundDivEven num den : ℚ) * den - num) / den := by
    field_simp
  rw [hsub, abs_div, abs_of_pos hden', div_le_iff₀ hden', abs_sub_le_iff]
  constructor <;> linarith

end RoundDivEven

section Log2

variable {num den : Nat}

/-- `ratioBelowPow2` compares the exact ratio with the power. -/
theorem ratioBelowPow2_iff (hden : 0 < den) (e : Int) :
    ratioBelowPow2 num den e = true ↔ (num : ℚ) / den < 2 ^ e := by
  have hden' : (0 : ℚ) < den := by exact_mod_cast hden
  unfold ratioBelowPow2
  split_ifs with he
  · obtain ⟨k, rfl⟩ := Int.eq_ofNat_of_zero_le he
    rw [decide_eq_true_iff, div_lt_iff₀ hden', zpow_natCast, Int.toNat_natCast, Nat.pow_eq,
      mul_comm]
    exact_mod_cast Iff.rfl
  · obtain ⟨k, hk⟩ := Int.exists_eq_neg_ofNat (Int.le_of_lt (Int.not_le.mp he))
    subst hk
    rw [decide_eq_true_iff, zpow_neg, zpow_natCast, neg_neg, Int.toNat_natCast, Nat.pow_eq,
      div_lt_iff₀ hden', inv_mul_eq_div, lt_div_iff₀ (by positivity)]
    exact_mod_cast Iff.rfl

/-- The ratio of two positive numbers lies between the powers of two that their
logarithms give, up to one either way. -/
theorem ratio_between_log2 (hnum : 0 < num) (hden : 0 < den) :
    (2 : ℚ) ^ ((num.log2 : Int) - den.log2 - 1) < num / den ∧
      (num : ℚ) / den < 2 ^ ((num.log2 : Int) - den.log2 + 1) := by
  have hden' : (0 : ℚ) < den := by exact_mod_cast hden
  have hn1 : (2 : ℚ) ^ num.log2 ≤ num := by exact_mod_cast Nat.log2_self_le hnum.ne'
  have hn2 : (num : ℚ) < 2 ^ (num.log2 + 1) := by exact_mod_cast Nat.lt_log2_self
  have hd1 : (2 : ℚ) ^ den.log2 ≤ den := by exact_mod_cast Nat.log2_self_le hden.ne'
  have hd2 : (den : ℚ) < 2 ^ (den.log2 + 1) := by exact_mod_cast Nat.lt_log2_self
  have hlow : (2 : ℚ) ^ ((num.log2 : Int) - den.log2 - 1) =
      2 ^ num.log2 / 2 ^ (den.log2 + 1) := by
    rw [show (num.log2 : Int) - den.log2 - 1 = (num.log2 : Int) - ((den.log2 + 1 : Nat) : Int) by
      push_cast; ring, zpow_sub₀ two_ne_zero, zpow_natCast, zpow_natCast]
  have hhigh : (2 : ℚ) ^ ((num.log2 : Int) - den.log2 + 1) =
      2 ^ (num.log2 + 1) / 2 ^ den.log2 := by
    rw [show (num.log2 : Int) - den.log2 + 1 = ((num.log2 + 1 : Nat) : Int) - den.log2 by
      push_cast; ring, zpow_sub₀ two_ne_zero, zpow_natCast, zpow_natCast]
  constructor
  · rw [hlow, div_lt_div_iff₀ (by positivity) hden']
    calc (2 : ℚ) ^ num.log2 * den < 2 ^ num.log2 * 2 ^ (den.log2 + 1) := by gcongr
      _ ≤ num * 2 ^ (den.log2 + 1) := by gcongr
  · rw [hhigh, div_lt_div_iff₀ hden' (by positivity)]
    calc (num : ℚ) * 2 ^ den.log2 < 2 ^ (num.log2 + 1) * 2 ^ den.log2 := by gcongr
      _ ≤ 2 ^ (num.log2 + 1) * den := by gcongr

/-- `floorLog2Ratio` is the binade of the ratio: `2 ^ e ≤ num / den < 2 ^ (e + 1)`. -/
theorem floorLog2Ratio_spec (hnum : 0 < num) (hden : 0 < den) :
    (2 : ℚ) ^ floorLog2Ratio num den ≤ num / den ∧
      (num : ℚ) / den < 2 ^ (floorLog2Ratio num den + 1) := by
  obtain ⟨hlow, hhigh⟩ := ratio_between_log2 hnum hden
  unfold floorLog2Ratio
  simp only
  split_ifs with hbelow
  · rw [ratioBelowPow2_iff hden] at hbelow
    exact ⟨hlow.le, by simpa using hbelow⟩
  · rw [ratioBelowPow2_iff hden, not_lt] at hbelow
    exact ⟨hbelow, hhigh⟩

end Log2

namespace BinaryFormat

variable (f : BinaryFormat)

theorem signBit_eq : f.signBit = 2 ^ f.fractionBits * 2 ^ f.exponentBits := by
  rw [signBit, Nat.pow_eq, Nat.pow_add]

/-- The biased exponent and the stored fraction sit below the sign bit. -/
theorem lowBits_lt_signBit {E m : Nat} (hE : E < 2 ^ f.exponentBits)
    (hm : m < 2 ^ f.fractionBits) : E * 2 ^ f.fractionBits + m < f.signBit := by
  rw [signBit_eq]
  nlinarith

/-- The sign, the biased exponent and the stored fraction of a pattern built from them read
back as given. -/
theorem fields_pack (negative : Bool) {E m : Nat} (hE : E < 2 ^ f.exponentBits)
    (hm : m < 2 ^ f.fractionBits) :
    f.fraction ((if negative then f.signBit else 0) + E * 2 ^ f.fractionBits + m) = m ∧
      f.biased ((if negative then f.signBit else 0) + E * 2 ^ f.fractionBits + m) = E ∧
      f.isNegative ((if negative then f.signBit else 0) + E * 2 ^ f.fractionBits + m) =
        negative := by
  -- the pattern is `2 ^ p * (sign * 2 ^ w + E) + m`, and `E * 2 ^ p + m` is below the sign
  have hpos : 0 < 2 ^ f.fractionBits := Nat.two_pow_pos _
  have hlow := f.lowBits_lt_signBit hE hm
  have hpack : (if negative then f.signBit else 0) + E * 2 ^ f.fractionBits + m =
      2 ^ f.fractionBits * ((if negative then 2 ^ f.exponentBits else 0) + E) + m := by
    rw [signBit_eq]; split_ifs <;> ring
  refine ⟨?_, ?_, ?_⟩
  · rw [fraction, Nat.pow_eq, hpack, Nat.mul_add_mod, Nat.mod_eq_of_lt hm]
  · rw [biased, Nat.pow_eq, Nat.pow_eq, hpack, Nat.mul_add_div hpos, Nat.div_eq_of_lt hm,
      Nat.add_zero]
    split_ifs
    · rw [Nat.add_mod_left, Nat.mod_eq_of_lt hE]
    · rw [Nat.zero_add, Nat.mod_eq_of_lt hE]
  · rw [isNegative, Nat.add_assoc]
    have hsign : 0 < f.signBit := Nat.lt_of_le_of_lt (Nat.zero_le _) hlow
    cases negative
    · simp [Nat.div_eq_of_lt hlow]
    · simp [Nat.add_div_left _ hsign, Nat.div_eq_of_lt hlow]

theorem topExponent_eq (hw : 0 < f.exponentBits) : f.topExponent = 2 * f.bias + 1 := by
  obtain ⟨w, hw⟩ := Nat.exists_eq_add_of_lt hw
  have hpow : 1 ≤ 2 ^ w := Nat.one_le_two_pow
  simp only [topExponent, bias, Nat.pow_eq, hw, Nat.zero_add, Nat.add_sub_cancel, Nat.pow_succ]
  omega

theorem topExponent_lt : f.topExponent < 2 ^ f.exponentBits := by
  rw [topExponent, Nat.pow_eq]; exact Nat.sub_lt (Nat.two_pow_pos _) one_pos

theorem bias_pos (hw : 1 < f.exponentBits) : 0 < f.bias := by
  have hpow : 2 ^ 1 ≤ 2 ^ (f.exponentBits - 1) := Nat.pow_le_pow_right (by decide) (by omega)
  simp only [bias, Nat.pow_eq]
  omega

/-- A pattern packed from a sign, a biased exponent and a fraction fits the format's width. -/
theorem pack_lt (negative : Bool) {E m : Nat} (hE : E < 2 ^ f.exponentBits)
    (hm : m < 2 ^ f.fractionBits) :
    (if negative then f.signBit else 0) + E * 2 ^ f.fractionBits + m < 2 * f.signBit := by
  have hlow := f.lowBits_lt_signBit hE hm
  have hsign : (if negative then f.signBit else 0) ≤ f.signBit := by split_ifs <;> omega
  omega

/-- A normal pattern: a biased exponent strictly between zero and the top, the hidden bit
restored. -/
theorem classify_normal (negative : Bool) {E m : Nat}
    (hE0 : 0 < E) (hE : E < f.topExponent) (hm : m < 2 ^ f.fractionBits) :
    f.classify ((if negative then f.signBit else 0) + E * 2 ^ f.fractionBits + m) =
      .finite negative (m + 2 ^ f.fractionBits) ((E : Int) - f.bias - f.fractionBits) := by
  obtain ⟨hfrac, hbiased, hneg⟩ := f.fields_pack negative (hE.trans f.topExponent_lt) hm
  simp only [classify, hfrac, hbiased, hneg, beq_iff_eq, hE.ne, hE0.ne', if_false, Nat.pow_eq]

/-- A subnormal pattern: biased exponent zero, the least exponent and no hidden bit. -/
theorem classify_subnormal (hw : 0 < f.exponentBits) (negative : Bool) {m : Nat}
    (hm : m < 2 ^ f.fractionBits) :
    f.classify ((if negative then f.signBit else 0) + m) =
      .finite negative m (1 - (f.bias : Int) - f.fractionBits) := by
  obtain ⟨hfrac, hbiased, hneg⟩ := @fields_pack f negative 0 m (Nat.two_pow_pos _) hm
  have htop : f.topExponent ≠ 0 := by rw [f.topExponent_eq hw]; omega
  simp only [Nat.zero_mul, Nat.add_zero] at hfrac hbiased hneg
  simp only [classify, hfrac, hbiased, hneg, beq_iff_eq, htop.symm, if_false, if_true]

end BinaryFormat

section Grid

variable {num den : Nat}

/-- The significand `roundRatio` takes on the grid of `2 ^ q` is within one half of the
ratio measured in units of `2 ^ q`. -/
theorem abs_gridQuotient_sub_le (hden : 0 < den) (q : Int) :
    |((if 0 ≤ q then roundDivEven num (den * Nat.pow 2 q.toNat)
        else roundDivEven (num * Nat.pow 2 (-q).toNat) den : Nat) : ℚ) -
        num / den * 2 ^ (-q)| ≤ 1 / 2 := by
  have hden' : (0 : ℚ) < den := by exact_mod_cast hden
  split_ifs with hq
  · obtain ⟨k, rfl⟩ := Int.eq_ofNat_of_zero_le hq
    have h := @abs_roundDivEven_sub_le num (den * 2 ^ k) (Nat.mul_pos hden (Nat.two_pow_pos k))
    rw [Int.toNat_natCast, Nat.pow_eq, zpow_neg, zpow_natCast]
    convert h using 3
    push_cast
    field_simp
  · obtain ⟨k, hk⟩ := Int.exists_eq_neg_ofNat (Int.le_of_lt (Int.not_le.mp hq))
    subst hk
    have h := @abs_roundDivEven_sub_le (num * 2 ^ k) den hden
    rw [neg_neg, Int.toNat_natCast, Nat.pow_eq, zpow_natCast]
    convert h using 3
    push_cast
    ring

end Grid

namespace BinaryFormat

variable (f : BinaryFormat)

/-- `n * 2 ^ q` is a finite value of the format within half a unit in the last place of
`x`: the significand fits, the exponent is at least the least one and equals it whenever
the hidden bit is missing, and the unit is no coarser than the binade of `x` asks. -/
structure Rounding (x : ℚ) (n : Nat) (q : Int) : Prop where
  error : |(n : ℚ) * 2 ^ q - x| ≤ 2 ^ q / 2
  significand_lt : n < 2 ^ (f.fractionBits + 1)
  least_le : 1 - (f.bias : Int) ≤ q + f.fractionBits
  subnormal : n < 2 ^ f.fractionBits → q + f.fractionBits = 1 - (f.bias : Int)
  scale_le : (2 : ℚ) ^ (q + f.fractionBits) ≤ max (2 * x) (2 ^ (1 - (f.bias : Int)))

variable {f} {x : ℚ} {e : Int} {n0 : Nat}

/-- A whole number within one half of `y` is at most any whole number above `y`. -/
private theorem le_of_abs_sub_le_half {n k : Nat} {y : ℚ} (h : |(n : ℚ) - y| ≤ 1 / 2)
    (hy : y < k) : n ≤ k := by
  have hlt : (n : ℚ) < k + 1 := by linarith [(abs_sub_le_iff.mp h).1]
  have hlt' : n < k + 1 := by exact_mod_cast hlt
  omega

/-- A whole number within one half of `y` is at least any whole number below `y`. -/
private theorem ge_of_abs_sub_le_half {n k : Nat} {y : ℚ} (h : |(n : ℚ) - y| ≤ 1 / 2)
    (hy : (k : ℚ) ≤ y) : k ≤ n := by
  have hlt : (k : ℚ) < n + 1 := by linarith [(abs_sub_le_iff.mp h).2]
  have hlt' : k < n + 1 := by exact_mod_cast hlt
  omega

/-- In units of `2 ^ (e - p)`, the binade `[2 ^ e, 2 ^ (e + 1))` is `[2 ^ p, 2 ^ (p + 1))`. -/
private theorem scaled_eq (x : ℚ) (e : Int) (p : Nat) :
    x * 2 ^ (-(e - p)) = x / 2 ^ e * 2 ^ p := by
  rw [neg_sub, zpow_sub₀ two_ne_zero, zpow_natCast]
  ring

private theorem scaled_lt_iff (e : Int) (p : Nat) :
    x * 2 ^ (-(e - p)) < 2 ^ (p + 1) ↔ x < 2 ^ (e + 1) := by
  rw [scaled_eq, pow_succ, mul_comm ((2 : ℚ) ^ p) 2, mul_lt_mul_iff_of_pos_right (by positivity),
    div_lt_iff₀ (zpow_pos two_pos e), zpow_add_one₀ two_ne_zero, mul_comm (2 : ℚ) (2 ^ e)]

private theorem le_scaled_iff (e : Int) (p : Nat) :
    (2 : ℚ) ^ p ≤ x * 2 ^ (-(e - p)) ↔ 2 ^ e ≤ x := by
  rw [scaled_eq, ← one_mul ((2 : ℚ) ^ p), ← mul_assoc, mul_one,
    mul_le_mul_iff_of_pos_right (by positivity), le_div_iff₀ (zpow_pos two_pos e), one_mul]

/-- Within one half of the scaled ratio is within half a unit of the ratio. -/
private theorem error_of_scaled (q : Int) (h : |(n0 : ℚ) - x * 2 ^ (-q)| ≤ 1 / 2) :
    |(n0 : ℚ) * 2 ^ q - x| ≤ 2 ^ q / 2 := by
  have hq : (0 : ℚ) < 2 ^ q := zpow_pos two_pos q
  have hmul : (n0 : ℚ) * 2 ^ q - x = ((n0 : ℚ) - x * 2 ^ (-q)) * 2 ^ q := by
    rw [sub_mul, mul_assoc, ← zpow_add₀ two_ne_zero, neg_add_cancel, zpow_zero, mul_one]
  rw [hmul, abs_mul, abs_of_pos hq]
  nlinarith

/-- The significand rounded on the grid of the binade, when it does not carry into the
next binade. -/
theorem rounding_of_grid (hxe : x < 2 ^ (e + 1))
    (hbinade : 2 ^ e ≤ x ∨ e = 1 - (f.bias : Int)) (hleast : 1 - (f.bias : Int) ≤ e)
    (hn0 : |(n0 : ℚ) - x * 2 ^ (-(e - f.fractionBits))| ≤ 1 / 2)
    (hcarry : n0 ≠ 2 ^ (f.fractionBits + 1)) :
    f.Rounding x n0 (e - f.fractionBits) where
  error := error_of_scaled _ hn0
  significand_lt := by
    have hy := (scaled_lt_iff e f.fractionBits).mpr hxe
    exact lt_of_le_of_ne (le_of_abs_sub_le_half hn0 (by exact_mod_cast hy)) hcarry
  least_le := by omega
  subnormal := by
    intro hsub
    rw [sub_add_cancel]
    -- a ratio inside its own binade rounds to a significand with the hidden bit
    refine hbinade.resolve_left fun hx => absurd hsub (not_lt.mpr ?_)
    exact ge_of_abs_sub_le_half hn0 (by exact_mod_cast (le_scaled_iff e f.fractionBits).mpr hx)
  scale_le := by
    rw [sub_add_cancel]
    rcases hbinade with hx | he
    · have hx0 : 0 < x := lt_of_lt_of_le (zpow_pos two_pos e) hx
      exact le_max_of_le_left (by linarith)
    · exact le_max_of_le_right (by rw [he])

/-- The significand rounded on the grid of the binade, when it carries into the next one:
`2 ^ (p + 1)` units of `2 ^ (e - p)` are `2 ^ p` units of `2 ^ (e - p + 1)`. -/
theorem rounding_of_carry (hleast : 1 - (f.bias : Int) ≤ e)
    (hn0 : |(n0 : ℚ) - x * 2 ^ (-(e - f.fractionBits))| ≤ 1 / 2)
    (hcarry : n0 = 2 ^ (f.fractionBits + 1)) :
    f.Rounding x (2 ^ f.fractionBits) (e - f.fractionBits + 1) where
  error := by
    have hval : ((2 ^ f.fractionBits : Nat) : ℚ) * 2 ^ (e - f.fractionBits + 1) =
        (n0 : ℚ) * 2 ^ (e - f.fractionBits) := by
      rw [hcarry, zpow_add_one₀ two_ne_zero]; push_cast; ring
    have hq : (0 : ℚ) < 2 ^ (e - f.fractionBits) := zpow_pos two_pos _
    rw [hval, zpow_add_one₀ two_ne_zero]
    linarith [error_of_scaled _ hn0]
  significand_lt := Nat.pow_lt_pow_right (by decide) (Nat.lt_succ_self _)
  least_le := by omega
  subnormal := fun h => absurd h (lt_irrefl _)
  scale_le := by
    -- the carry happens only above the binade's lower end, so `2 ^ (e + 1) ≤ 2 * x`
    have hy : (2 : ℚ) ^ f.fractionBits ≤ x * 2 ^ (-(e - f.fractionBits)) := by
      have hlow := (abs_sub_le_iff.mp hn0).1
      have hone : (1 : ℚ) ≤ 2 ^ f.fractionBits := one_le_pow₀ one_le_two
      rw [hcarry] at hlow
      push_cast at hlow
      rw [pow_succ] at hlow
      linarith
    have hx := (le_scaled_iff e f.fractionBits).mp hy
    rw [show e - f.fractionBits + 1 + f.fractionBits = e + 1 by ring, zpow_add_one₀ two_ne_zero]
    exact le_max_of_le_left (by linarith)

/-- A rounding of a ratio below `2 ^ bias` does not overflow: its exponent leaves room for
the biased exponent below the top. -/
theorem Rounding.exponent_le {n : Nat} {q : Int} (hr : f.Rounding x n q) (hbias : 0 < f.bias)
    (hx : x < 2 ^ f.bias) : q + f.fractionBits ≤ f.bias := by
  have hbound : (2 : ℚ) ^ (q + f.fractionBits) < 2 ^ ((f.bias : Int) + 1) := by
    refine lt_of_le_of_lt hr.scale_le (max_lt ?_ ?_)
    · rw [zpow_add_one₀ two_ne_zero, zpow_natCast]; linarith
    · exact zpow_lt_zpow_right₀ one_lt_two (by omega)
  have := (zpow_lt_zpow_iff_right₀ one_lt_two).mp hbound
  omega

end BinaryFormat

namespace BinaryFormat

variable {f : BinaryFormat}

/-- The pattern `roundRatio` packs from a rounding that does not overflow, the significand
alone when it lacks the hidden bit and else the biased exponent over the fraction,
classifies back as that rounding and fits the format's width. -/
theorem classify_pack (hw : 0 < f.exponentBits) (negative : Bool) {x : ℚ} {n : Nat} {q : Int}
    (hr : f.Rounding x n q) (hq : q + f.fractionBits ≤ f.bias) :
    let bits := if (f.bias : Int) < q + f.fractionBits then f.infinity negative
      else if n < 2 ^ f.fractionBits then (if negative then f.signBit else 0) + n
      else (if negative then f.signBit else 0) +
        (q + f.fractionBits + f.bias).toNat * 2 ^ f.fractionBits + (n - 2 ^ f.fractionBits)
    f.classify bits = .finite negative n q ∧ bits < 2 * f.signBit := by
  intro bits
  simp only [bits, if_neg (not_lt.mpr hq)]
  by_cases hsub : n < 2 ^ f.fractionBits
  · rw [if_pos hsub]
    have hexp := hr.subnormal hsub
    have hlt := @pack_lt f negative 0 n (Nat.two_pow_pos _) hsub
    simp only [Nat.zero_mul, Nat.add_zero] at hlt
    refine ⟨?_, hlt⟩
    rw [f.classify_subnormal hw negative hsub]
    congr 1
    omega
  · rw [if_neg hsub]
    have hm : n - 2 ^ f.fractionBits < 2 ^ f.fractionBits := by
      have := hr.significand_lt
      rw [Nat.pow_succ] at this
      omega
    have hleast := hr.least_le
    have htop := f.topExponent_eq hw
    have hE0 : 0 < (q + f.fractionBits + f.bias).toNat := by omega
    have hE : (q + f.fractionBits + f.bias).toNat < f.topExponent := by omega
    refine ⟨?_, f.pack_lt negative (hE.trans f.topExponent_lt) hm⟩
    rw [f.classify_normal negative hE0 hE hm, Nat.sub_add_cancel (not_lt.mp hsub)]
    congr 1
    omega

/-- Reading a ratio: below `2 ^ bias`, a positive ratio reads as a finite pattern of the
format's width, which classifies as a rounding of the ratio within half a unit in the last
place. -/
theorem classify_roundRatio (hw : 1 < f.exponentBits) (negative : Bool) {num den : Nat}
    (hnum : 0 < num) (hden : 0 < den) (hx : (num : ℚ) / den < 2 ^ f.bias) :
    ∃ n q, f.classify (f.roundRatio negative num den) = .finite negative n q ∧
      f.roundRatio negative num den < 2 * f.signBit ∧ f.Rounding (num / den) n q := by
  have h0 : (num == 0 || den == 0) = false := by simp; omega
  obtain ⟨hl1, hl2⟩ := floorLog2Ratio_spec hnum hden
  have hn0 := @abs_gridQuotient_sub_le num den hden
    (max (floorLog2Ratio num den) (1 - (f.bias : Int)) - f.fractionBits)
  unfold roundRatio
  simp only [h0, Bool.false_eq_true, if_false]
  generalize (if 0 ≤ max (floorLog2Ratio num den) (1 - (f.bias : Int)) - f.fractionBits then
      roundDivEven num (den * Nat.pow 2
        (max (floorLog2Ratio num den) (1 - (f.bias : Int)) - f.fractionBits).toNat)
    else roundDivEven (num * Nat.pow 2
      (-(max (floorLog2Ratio num den) (1 - (f.bias : Int)) - f.fractionBits)).toNat) den) = n0
    at hn0 ⊢
  set e := max (floorLog2Ratio num den) (1 - (f.bias : Int)) with he
  have hleast : 1 - (f.bias : Int) ≤ e := le_max_right _ _
  have hxe : (num : ℚ) / den < 2 ^ (e + 1) :=
    hl2.trans_le (zpow_le_zpow_right₀ one_le_two (by omega))
  have hbinade : 2 ^ e ≤ (num : ℚ) / den ∨ e = 1 - (f.bias : Int) := by
    rcases max_choice (floorLog2Ratio num den) (1 - (f.bias : Int)) with h | h
    · exact .inl (by rw [he, h]; exact hl1)
    · exact .inr h
  -- the carry into the next binade is the only way the grid's exponent moves
  obtain ⟨n, q, hnq, hr⟩ : ∃ n q, (if (n0 == Nat.pow 2 (f.fractionBits + 1)) = true then
      (Nat.pow 2 f.fractionBits, e - f.fractionBits + 1) else (n0, e - f.fractionBits)) = (n, q) ∧
      f.Rounding (num / den) n q := by
    split_ifs with hcarry
    · exact ⟨_, _, rfl, rounding_of_carry hleast hn0 (by simpa using hcarry)⟩
    · exact ⟨_, _, rfl, rounding_of_grid hxe hbinade hleast hn0 (by simpa using hcarry)⟩
  rw [hnq]
  simp only [Nat.pow_eq]
  have hpack := classify_pack (by omega) negative hr (hr.exponent_le (f.bias_pos hw) hx)
  dsimp only at hpack
  exact ⟨n, q, hpack.1, hpack.2, hr⟩

end BinaryFormat

section HalfUp

/-- A whole number within one half of another is that number. -/
private theorem eq_of_abs_sub_lt_half {a k : Nat} (h : |(a : ℚ) - k| < 1 / 2) : a = k := by
  have hlo : (k : ℚ) < a + 1 := by linarith [(abs_sub_lt_iff.mp h).2]
  have hhi : (a : ℚ) < k + 1 := by linarith [(abs_sub_lt_iff.mp h).1]
  have hlo' : k < a + 1 := by exact_mod_cast hlo
  have hhi' : a < k + 1 := by exact_mod_cast hhi
  omega

/-- `roundHalfUpPow2` finds the whole number nearest to `m * 2 ^ e`, whenever one is nearer
than one half. -/
theorem roundHalfUpPow2_eq {m k : Nat} {e : Int} (h : |(m : ℚ) * 2 ^ e - k| < 1 / 2) :
    roundHalfUpPow2 m e = k := by
  unfold roundHalfUpPow2
  split_ifs with he
  · obtain ⟨j, rfl⟩ := Int.eq_ofNat_of_zero_le he
    rw [Int.toNat_natCast, Nat.pow_eq]
    exact eq_of_abs_sub_lt_half (by push_cast; rwa [← zpow_natCast])
  · obtain ⟨j, rfl⟩ := Int.exists_eq_neg_ofNat (Int.le_of_lt (Int.not_le.mp he))
    rw [neg_neg, Int.toNat_natCast, Nat.pow_eq]
    have hP : (0 : ℚ) < 2 ^ j := by positivity
    -- `|m / 2 ^ j - k| < 1 / 2` is `2 k 2 ^ j - 2 ^ j < 2 m < 2 k 2 ^ j + 2 ^ j`
    have hdiv : (m : ℚ) * 2 ^ (-(j : Int)) = m / 2 ^ j := by
      rw [zpow_neg, zpow_natCast, div_eq_mul_inv]
    rw [hdiv, abs_sub_lt_iff] at h
    obtain ⟨hhi, hlo⟩ := h
    have hm : (m : ℚ) = m / 2 ^ j * 2 ^ j := by field_simp
    have hlo' : (k * (2 * 2 ^ j) : ℚ) < 2 * m + 2 ^ j + 1 := by nlinarith
    have hhi' : (2 * m + 2 ^ j : ℚ) < (k + 1) * (2 * 2 ^ j) := by nlinarith
    apply Nat.div_eq_of_lt_le
    · exact Nat.le_of_lt_succ (by exact_mod_cast hlo')
    · exact_mod_cast hhi'

end HalfUp

end DepthRig
