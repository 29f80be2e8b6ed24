import DepthRig.Proofs.Decimal.Rounding
import DepthRig.Wire.FrameCodec

/-!
# Millimetres and metres

Points travel as whole millimetres and are kept as single-precision metres. Reading
`mm / 1000` lands within half a unit in the last place, and for a 16-bit count that unit is
at most `2 ^ -17`; writing rounds a thousand times the single back to a whole number. The
error, scaled by a thousand, stays below one half, so every 16-bit millimetre count comes
back unchanged and no point moves on a round trip through metres.
-/

namespace DepthRig.Wire

theorem single_fractionBits : BinaryFormat.single.fractionBits = 23 := rfl

theorem single_bias : BinaryFormat.single.bias = 127 := by decide

/-- The magnitude of a 16-bit count is at most `2 ^ 15`. -/
theorem natAbs_toInt_le (mm : Int16) : mm.toInt.natAbs ≤ 32768 := by
  have hlo := mm.le_toInt
  have hhi := mm.toInt_lt
  omega

/-- A millimetre count in metres is a rounding of its magnitude over a thousand, with the
count's sign, and its bits are exactly the pattern that rounding packs. -/
theorem classify_metresOfMillimetres {mm : Int16} (h : mm ≠ 0) :
    ∃ n q, BinaryFormat.single.classify (metresOfMillimetres mm).bits.toNat =
        .finite (decide (mm.toInt < 0)) n q ∧
      BinaryFormat.single.Rounding ((mm.toInt.natAbs : ℚ) / 1000) n q := by
  have hk : 0 < mm.toInt.natAbs := by
    have : mm.toInt ≠ 0 := fun h0 => h (by rw [← Int16.ofInt_toInt mm, h0]; rfl)
    omega
  have hx : (mm.toInt.natAbs : ℚ) / ((1000 : Nat) : ℚ) < 2 ^ BinaryFormat.single.bias := by
    have hle : (mm.toInt.natAbs : ℚ) ≤ 32768 := by exact_mod_cast natAbs_toInt_le mm
    rw [single_bias]
    push_cast
    linarith
  obtain ⟨n, q, hclass, hlt, hr⟩ :=
    @BinaryFormat.classify_roundRatio BinaryFormat.single (by decide) (decide (mm.toInt < 0))
      mm.toInt.natAbs 1000 hk (by decide) hx
  -- the pattern fits in 32 bits, so storing it as a `UInt32` keeps it
  have hbits : (metresOfMillimetres mm).bits.toNat =
      BinaryFormat.single.roundRatio (decide (mm.toInt < 0)) mm.toInt.natAbs 1000 := by
    have hwidth : 2 * BinaryFormat.single.signBit = UInt32.size := by decide
    have hthousand : Nat.pow 10 (- -3 : Int).toNat = 1000 := by decide
    simp only [metresOfMillimetres, Single.ofDecimal, BinaryFormat.ofDecimal, Nat.toUInt32_eq]
    rw [if_neg (by decide), hthousand, UInt32.toNat_ofNat_of_lt' (hwidth ▸ hlt)]
  exact ⟨n, q, hbits ▸ hclass, by exact_mod_cast hr⟩

/-- A thousand times a rounding of `k / 1000` is within one half of `k`, for `k` up to
`2 ^ 15`: such a ratio is below `2 ^ 6`, so its unit in the last place is at most
`2 ^ -17`. -/
theorem abs_thousand_mul_sub_lt {k n : Nat} {q : Int}
    (hr : BinaryFormat.single.Rounding ((k : ℚ) / 1000) n q) (hk : k ≤ 32768) :
    |((n * 1000 : Nat) : ℚ) * 2 ^ q - k| < 1 / 2 := by
  have hk' : (k : ℚ) ≤ 32768 := by exact_mod_cast hk
  have hscale := hr.scale_le
  rw [single_fractionBits, single_bias] at hscale
  have hq : q ≤ -17 := by
    have hmax : max (2 * ((k : ℚ) / 1000)) (2 ^ (1 - ((127 : Nat) : Int))) < 2 ^ (7 : Int) :=
      max_lt (by norm_num; linarith) (zpow_lt_zpow_right₀ one_lt_two (by norm_num))
    have hexp := (zpow_lt_zpow_iff_right₀ one_lt_two).mp (hscale.trans_lt hmax)
    omega
  have hunit : (2 : ℚ) ^ q ≤ 2 ^ (-17 : Int) := zpow_le_zpow_right₀ one_le_two hq
  calc |((n * 1000 : Nat) : ℚ) * 2 ^ q - k|
      = 1000 * |(n : ℚ) * 2 ^ q - k / 1000| := by
        rw [← abs_of_pos (by norm_num : (0 : ℚ) < 1000), ← abs_mul]
        congr 1
        push_cast
        ring
    _ ≤ 1000 * (2 ^ q / 2) := by gcongr; exact hr.error
    _ ≤ 1000 * (2 ^ (-17 : Int) / 2) := by gcongr
    _ < 1 / 2 := by norm_num

/-- Every 16-bit millimetre count survives the trip through single-precision metres. -/
theorem millimetresOfMetres_metresOfMillimetres (mm : Int16) :
    millimetresOfMetres (metresOfMillimetres mm) = mm := by
  by_cases h0 : mm = 0
  · subst h0
    decide
  · obtain ⟨n, q, hclass, hr⟩ := classify_metresOfMillimetres h0
    have hround : roundHalfUpPow2 (n * 1000) q = mm.toInt.natAbs :=
      roundHalfUpPow2_eq (abs_thousand_mul_sub_lt hr (natAbs_toInt_le mm))
    have hlo := mm.le_toInt
    have hhi := mm.toInt_lt
    -- the sign and the magnitude give back the count, inside the 16-bit range
    have hsigned : (if decide (mm.toInt < 0) = true then -(mm.toInt.natAbs : Int)
        else (mm.toInt.natAbs : Int)) = mm.toInt := by
      split_ifs with hneg <;> simp at hneg <;> omega
    unfold millimetresOfMetres
    rw [hclass]
    simp only [hround, hsigned]
    rw [if_neg (by omega), if_neg (by omega), Int16.ofInt_toInt]

end DepthRig.Wire
