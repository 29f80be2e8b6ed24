import DepthRig.Time.Stamp

/-!
# The civil calendar

`civilFromDays` splits a day count into 400-year eras of 146097 days, counted from
0000-03-01, and each era into years that start on 1 March, so that the leap day ends its
year. Its estimate of the year within an era is exact: every day of an era falls inside the
year it is given (`yearOfEra_bounds`). From that, the date it returns is a valid one, it is
the date `daysFromCivil` maps back to the same day count, and later days have later dates.
-/

namespace DepthRig.Time

/-- The day of its era, counted from 1 March of the era's first year, on which year `k` of
the era starts. -/
def yearStart (k : Int) : Int := 365 * k + k / 4 - k / 100 + k / 400

/-- The days of an era up to `doe`, less the leap days among them: what `civilFromDays`
divides by 365 to find the year. -/
def eraCount (doe : Int) : Int := doe - doe / 1460 + doe / 36524 - doe / 146096

/-- The year of its era `civilFromDays` gives a day of the era. -/
def yearOfEra (doe : Int) : Int := eraCount doe / 365

theorem eraCount_le_succ {d : Int} (h0 : 0 ≤ d) (h1 : d + 1 ≤ 146096) :
    eraCount d ≤ eraCount (d + 1) := by
  unfold eraCount
  omega

theorem eraCount_mono {a : Int} (ha : 0 ≤ a) :
    ∀ n : Nat, a + n ≤ 146096 → eraCount a ≤ eraCount (a + n)
  | 0, _ => by simp
  | n + 1, h => by
    have hrest := eraCount_mono ha n (by omega)
    have hstep := @eraCount_le_succ (a + n) (by omega) (by omega)
    rw [show a + ((n + 1 : Nat) : Int) = a + n + 1 by omega]
    omega

theorem yearOfEra_mono {a b : Int} (ha : 0 ≤ a) (hab : a ≤ b) (hb : b ≤ 146096) :
    yearOfEra a ≤ yearOfEra b := by
  have h := eraCount_mono ha (b - a).toNat (by omega)
  rw [show a + ((b - a).toNat : Int) = b by omega] at h
  exact Int.ediv_le_ediv (by decide) h

/-- The estimate is exact on the first and the last day of every year of an era. -/
theorem yearOfEra_yearStart : ∀ k : Nat, k < 400 →
    yearOfEra (yearStart k) = k ∧ yearOfEra (yearStart (k + 1) - 1) = k := by
  decide +kernel

/-- Every day of an era lies in the year of the era its estimate gives. -/
theorem yearOfEra_bounds {doe : Int} (h0 : 0 ≤ doe) (h1 : doe ≤ 146096) :
    0 ≤ yearOfEra doe ∧ yearOfEra doe ≤ 399 ∧ yearStart (yearOfEra doe) ≤ doe ∧
      doe < yearStart (yearOfEra doe + 1) := by
  have hfirst : yearOfEra 0 = 0 := by
    simpa [yearStart] using (yearOfEra_yearStart 0 (by decide)).1
  have hlast : yearOfEra 146096 = 399 := by
    simpa [yearStart] using (yearOfEra_yearStart 399 (by decide)).2
  have hlow : 0 ≤ yearOfEra doe := by
    have := @yearOfEra_mono 0 doe (Int.le_refl _) h0 h1
    simp_all
  have hhigh : yearOfEra doe ≤ 399 := by
    have := @yearOfEra_mono doe 146096 h0 h1 (Int.le_refl _)
    simp_all
  refine ⟨hlow, hhigh, ?_, ?_⟩
  · -- a day before the year's start would lie in the year before
    refine Int.not_lt.mp fun hlt => ?_
    obtain ⟨j, hj⟩ : ∃ j : Nat, (j : Int) + 1 = yearOfEra doe := by
      refine ⟨(yearOfEra doe - 1).toNat, ?_⟩
      have : yearOfEra doe ≠ 0 := fun he => by simp [he, yearStart] at hlt; omega
      omega
    have hend := (yearOfEra_yearStart j (by omega)).2
    have := @yearOfEra_mono doe (yearStart ((j : Int) + 1) - 1) h0 (by rw [hj]; omega)
      (by simp only [yearStart] at hlt ⊢; omega)
    omega
  · -- a day past the year's end would lie in the year after
    refine Int.not_le.mp fun hge => ?_
    have hk : yearOfEra doe + 1 ≤ 399 := by
      refine Int.not_lt.mp fun hk => ?_
      have : yearOfEra doe = 399 := by omega
      simp only [this, yearStart] at hge
      omega
    have hstart := (yearOfEra_yearStart (yearOfEra doe + 1).toNat (by omega)).1
    rw [Int.toNat_of_nonneg (by omega)] at hstart
    have := @yearOfEra_mono (yearStart (yearOfEra doe + 1)) doe
      (by simp only [yearStart]; omega) (by omega) h1
    omega

/-- The month of a year that starts on 1 March, counted from 0 for March, of a day of it. -/
def monthOfYear (doy : Int) : Int := (5 * doy + 2) / 153

/-- The calendar year, month and day of day `doy` of year `yoe` of era `era`, the year and
the day counted from 1 March: January and February belong to the next calendar year. -/
def civilOf (era yoe doy : Int) : Int × Nat × Nat :=
  let mp := monthOfYear doy
  ((if mp < 10 then 0 else 1) + yoe + era * 400, (if mp < 10 then mp + 3 else mp - 9).toNat,
    (doy - (153 * mp + 2) / 5 + 1).toNat)

/-- How `civilFromDays` reads a day count: an era, a year of the era and a day of that year
counted from 1 March, from which the month and the day of the month follow. -/
theorem civilFromDays_eq (z : Int) :
    ∃ era yoe doy : Int, z + 719468 = era * 146097 + yearStart yoe + doy ∧
      0 ≤ yoe ∧ yoe ≤ 399 ∧ 0 ≤ doy ∧ yearStart yoe + doy < yearStart (yoe + 1) ∧
      civilFromDays z = civilOf era yoe doy := by
  obtain ⟨doe, hdoe⟩ : ∃ doe, doe = z + 719468 - (z + 719468) / 146097 * 146097 := ⟨_, rfl⟩
  have h0 : 0 ≤ doe := by omega
  have h1 : doe ≤ 146096 := by omega
  obtain ⟨hy0, hy1, hys, hye⟩ := yearOfEra_bounds h0 h1
  refine ⟨(z + 719468) / 146097, yearOfEra doe, doe - yearStart (yearOfEra doe), by omega, hy0,
    hy1, by omega, by omega, ?_⟩
  have hlen : yearStart (yearOfEra doe + 1) - yearStart (yearOfEra doe) ≤ 366 := by
    unfold yearStart
    omega
  -- below the era's 400th year the 400-year rule adds nothing to the year's start
  have hdoy : doe - (365 * yearOfEra doe + yearOfEra doe / 4 - yearOfEra doe / 100) =
      doe - yearStart (yearOfEra doe) := by
    unfold yearStart
    omega
  simp only [civilFromDays, civilOf, ← hdoe]
  rw [show (doe - doe / 1460 + doe / 36524 - doe / 146096) / 365 = yearOfEra doe from rfl, hdoy,
    show (5 * (doe - yearStart (yearOfEra doe)) + 2) / 153 =
      monthOfYear (doe - yearStart (yearOfEra doe)) from rfl]
  have hmp0 : 0 ≤ monthOfYear (doe - yearStart (yearOfEra doe)) := by
    unfold monthOfYear
    omega
  have hmp1 : monthOfYear (doe - yearStart (yearOfEra doe)) ≤ 11 := by
    unfold monthOfYear
    omega
  by_cases hm : monthOfYear (doe - yearStart (yearOfEra doe)) < 10
  · have hm' : ¬monthOfYear (doe - yearStart (yearOfEra doe)) + 3 ≤ 2 := by omega
    simp only [hm, if_true, hm', if_false]
    refine Prod.ext ?_ rfl
    show yearOfEra doe + (z + 719468) / 146097 * 400 =
      0 + yearOfEra doe + (z + 719468) / 146097 * 400
    omega
  · have hm' : monthOfYear (doe - yearStart (yearOfEra doe)) - 9 ≤ 2 := by omega
    simp only [hm, if_false, hm', if_true]
    refine Prod.ext ?_ rfl
    show yearOfEra doe + (z + 719468) / 146097 * 400 + 1 =
      1 + yearOfEra doe + (z + 719468) / 146097 * 400
    omega

theorem isLeap_iff {y : Int} : isLeap y = true ↔ y % 4 = 0 ∧ (y % 100 ≠ 0 ∨ y % 400 = 0) := by
  simp [isLeap]

/-- A year of an era runs for 366 days exactly when the calendar year its January falls in is
a leap year. -/
theorem yearStart_succ_sub {yoe : Int} (era : Int) (h0 : 0 ≤ yoe) (h1 : yoe ≤ 399) :
    yearStart (yoe + 1) - yearStart yoe = if isLeap (1 + yoe + era * 400) then 366 else 365 := by
  by_cases hl : isLeap (1 + yoe + era * 400) = true
  · have hleap := isLeap_iff.mp hl
    rw [if_pos hl]
    unfold yearStart
    omega
  · have hleap := mt isLeap_iff.mpr hl
    rw [if_neg hl]
    unfold yearStart
    omega

/-- The date of every day count is a valid date. -/
theorem civilFromDays_valid (z : Int) :
    1 ≤ (civilFromDays z).2.1 ∧ (civilFromDays z).2.1 ≤ 12 ∧ 1 ≤ (civilFromDays z).2.2 ∧
      (civilFromDays z).2.2 ≤ daysIn (civilFromDays z).2.1 (civilFromDays z).1 := by
  obtain ⟨era, yoe, doy, -, hy0, hy1, hd0, hdlen, he⟩ := civilFromDays_eq z
  have hlen := yearStart_succ_sub era hy0 hy1
  have hmp : monthOfYear doy = (5 * doy + 2) / 153 := rfl
  rw [he, civilOf]
  generalize monthOfYear doy = mp at hmp ⊢
  -- each month of the March-based year, February last with the year's leap day
  have hcases : mp = 0 ∨ mp = 1 ∨ mp = 2 ∨ mp = 3 ∨ mp = 4 ∨ mp = 5 ∨ mp = 6 ∨ mp = 7 ∨
      mp = 8 ∨ mp = 9 ∨ mp = 10 ∨ mp = 11 := by
    split at hlen <;> omega
  rcases hcases with rfl | rfl | rfl | rfl | rfl | rfl | rfl | rfl | rfl | rfl | rfl | rfl
  all_goals
    simp only [daysIn]
    simp
  -- February: the year's length is decided by the same leap rule as the month's
  all_goals split at hlen <;> (try split) <;> omega

/-- `daysFromCivil` undoes `civilFromDays`. -/
theorem daysFromCivil_civilFromDays (z : Int) :
    daysFromCivil (civilFromDays z).1 (civilFromDays z).2.1 (civilFromDays z).2.2 = z := by
  obtain ⟨era, yoe, doy, hz, hy0, hy1, hd0, hdlen, he⟩ := civilFromDays_eq z
  have hlen := yearStart_succ_sub era hy0 hy1
  have hmp : monthOfYear doy = (5 * doy + 2) / 153 := rfl
  rw [he, civilOf]
  generalize monthOfYear doy = mp at hmp ⊢
  have hmp1 : mp ≤ 11 := by split at hlen <;> omega
  unfold yearStart at hz
  have hd : ((doy - (153 * mp + 2) / 5 + 1).toNat : Int) = doy - (153 * mp + 2) / 5 + 1 := by
    omega
  -- the March-based year and month come back from the calendar year and month
  by_cases hm : mp < 10
  · have hM : ¬(mp + 3).toNat ≤ 2 := by omega
    have hmonth : (((mp + 3).toNat : Nat) + 9 : Int) % 12 = mp := by omega
    have hera : (0 + yoe + era * 400) / 400 = era := by omega
    simp only [daysFromCivil, hm, if_true, hM, if_false, hmonth, hd, hera]
    omega
  · have hM : (mp - 9).toNat ≤ 2 := by omega
    have hmonth : (((mp - 9).toNat : Nat) + 9 : Int) % 12 = mp := by omega
    have hera : (1 + yoe + era * 400 - 1) / 400 = era := by omega
    simp only [daysFromCivil, hm, if_false, hM, if_true, hmonth, hd, hera]
    omega

theorem yearStart_mono {a b : Int} (h : a ≤ b) : yearStart a ≤ yearStart b := by
  unfold yearStart
  omega

/-- Within an era, a later day falls in a later year, or later in the same year. -/
theorem yearStart_add_lt {yoe₁ yoe₂ doy₁ doy₂ : Int} (hy₂ : 0 ≤ yoe₂)
    (hd₁ : 0 ≤ doy₁) (hl₂ : yearStart yoe₂ + doy₂ < yearStart (yoe₂ + 1))
    (h : yearStart yoe₁ + doy₁ < yearStart yoe₂ + doy₂) :
    yoe₁ < yoe₂ ∨ yoe₁ = yoe₂ ∧ doy₁ < doy₂ := by
  by_cases hlt : yoe₁ < yoe₂
  · exact .inl hlt
  · by_cases heq : yoe₁ = yoe₂
    · subst heq
      exact .inr ⟨rfl, by omega⟩
    · -- a later year starts after the whole of the earlier one
      have hstart := yearStart_mono (by omega : yoe₂ + 1 ≤ yoe₁)
      omega

/-- A later day of the March-based calendar, by era, year of the era and day of the year,
has a later calendar date. -/
theorem civilOf_lt {era₁ yoe₁ doy₁ era₂ yoe₂ doy₂ : Int} (hy₁ : 0 ≤ yoe₁ ∧ yoe₁ ≤ 399)
    (hy₂ : 0 ≤ yoe₂ ∧ yoe₂ ≤ 399) (hd₁ : 0 ≤ doy₁ ∧ doy₁ < 366) (hd₂ : 0 ≤ doy₂ ∧ doy₂ < 366)
    (h : era₁ < era₂ ∨ era₁ = era₂ ∧ (yoe₁ < yoe₂ ∨ yoe₁ = yoe₂ ∧ doy₁ < doy₂)) :
    Prod.Lex (· < ·) (Prod.Lex (· < ·) (· < ·)) (civilOf era₁ yoe₁ doy₁) (civilOf era₂ yoe₂ doy₂) := by
  have hmp₁ : monthOfYear doy₁ = (5 * doy₁ + 2) / 153 := rfl
  have hmp₂ : monthOfYear doy₂ = (5 * doy₂ + 2) / 153 := rfl
  simp only [civilOf, Prod.lex_def]
  generalize monthOfYear doy₁ = mp₁ at hmp₁ ⊢
  generalize monthOfYear doy₂ = mp₂ at hmp₂ ⊢
  -- January and February move to the next calendar year
  by_cases hc₁ : mp₁ < 10 <;> by_cases hc₂ : mp₂ < 10 <;> simp only [hc₁, hc₂, if_true, if_false] <;>
    omega

/-- Later days have later dates. -/
theorem civilFromDays_lt {z₁ z₂ : Int} (h : z₁ < z₂) :
    Prod.Lex (· < ·) (Prod.Lex (· < ·) (· < ·)) (civilFromDays z₁) (civilFromDays z₂) := by
  obtain ⟨era₁, yoe₁, doy₁, hz₁, hy0₁, hy1₁, hd0₁, hdlen₁, he₁⟩ := civilFromDays_eq z₁
  obtain ⟨era₂, yoe₂, doy₂, hz₂, hy0₂, hy1₂, hd0₂, hdlen₂, he₂⟩ := civilFromDays_eq z₂
  have hlen₁ : yearStart (yoe₁ + 1) - yearStart yoe₁ ≤ 366 := by
    have := yearStart_succ_sub era₁ hy0₁ hy1₁
    split at this <;> omega
  have hlen₂ : yearStart (yoe₂ + 1) - yearStart yoe₂ ≤ 366 := by
    have := yearStart_succ_sub era₂ hy0₂ hy1₂
    split at this <;> omega
  -- a day of an era is below the era's length
  have hend : yearStart 400 = 146097 := by decide
  have hD₁ := yearStart_mono (by omega : yoe₁ + 1 ≤ 400)
  have hD₂ := yearStart_mono (by omega : yoe₂ + 1 ≤ 400)
  have hs₁ : 0 ≤ yearStart yoe₁ := by unfold yearStart; omega
  have hs₂ : 0 ≤ yearStart yoe₂ := by unfold yearStart; omega
  have hera : era₁ < era₂ ∨ era₁ = era₂ ∧ yearStart yoe₁ + doy₁ < yearStart yoe₂ + doy₂ := by
    omega
  rw [he₁, he₂]
  apply civilOf_lt ⟨hy0₁, hy1₁⟩ ⟨hy0₂, hy1₂⟩ ⟨hd0₁, by omega⟩ ⟨hd0₂, by omega⟩
  rcases hera with hlt | ⟨rfl, hin⟩
  · exact .inl hlt
  · exact .inr ⟨rfl, yearStart_add_lt hy0₂ hd0₁ hdlen₂ hin⟩

end DepthRig.Time
