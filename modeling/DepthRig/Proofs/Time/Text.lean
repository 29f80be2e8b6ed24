import DepthRig.Proofs.Time.Civil
import Mathlib

/-!
# The order of timestamp texts

An instant is stored as its UTC text, and for four-digit years the instant in the earlier
second has the smaller text (`utc_text_lt_of_unix_lt`). Within one second the order of the
texts is not the order of time: `Z` sorts after every digit, so a whole second sorts after
every fraction of itself (`fraction_text_lt_iff`).
-/

namespace DepthRig.Time

/-! ### Digits of fixed width -/

/-- The last `w` decimal digits of `n`, most significant first. -/
def digitsOf : Nat → Nat → List Char
  | 0, _ => []
  | w + 1, n => digitsOf w (n / 10) ++ [Nat.digitChar (n % 10)]

@[simp] theorem length_digitsOf (w n : Nat) : (digitsOf w n).length = w := by
  induction w generalizing n with
  | zero => rfl
  | succ w ih => simp [digitsOf, ih]

theorem digitsOf_zero (w : Nat) : digitsOf w 0 = List.replicate w '0' := by
  induction w with
  | zero => rfl
  | succ w ih => simp [digitsOf, ih, List.replicate_succ']

/-- Padding the decimal digits of a number below `10 ^ (w + 1)` with zeros to `w + 1`
places gives its last `w + 1` digits. -/
theorem replicate_append_toDigits {w n : Nat} (h : n < 10 ^ (w + 1)) :
    List.replicate (w + 1 - (Nat.toDigits 10 n).length) '0' ++ Nat.toDigits 10 n =
      digitsOf (w + 1) n := by
  induction w generalizing n with
  | zero =>
    have hn : n < 10 := by simpa using h
    simp [Nat.toDigits_of_lt_base hn, digitsOf, Nat.mod_eq_of_lt hn]
  | succ w ih =>
    by_cases hn : n < 10
    · -- one digit: every other place is a zero
      simp [Nat.toDigits_of_lt_base hn, digitsOf, Nat.div_eq_of_lt hn, Nat.mod_eq_of_lt hn,
        digitsOf_zero, List.replicate_succ']
    · have hq : n / 10 < 10 ^ (w + 1) := by
        rw [Nat.pow_succ] at h
        omega
      rw [Nat.toDigits_of_base_le (by omega) (by omega), digitsOf, ← ih hq]
      simp only [List.length_append, List.length_singleton, List.append_assoc,
        Nat.add_sub_add_right]

/-- A number in `[0, 10 ^ w)`, padded to `w > 0` places, is written with its last `w`
digits. -/
theorem padded_toList {w : Nat} {n : Int} (hw : 0 < w) (h0 : 0 ≤ n) (h : n.toNat < 10 ^ w) :
    (padded w n).toList = digitsOf w n.toNat := by
  obtain ⟨v, rfl⟩ : ∃ v, w = v + 1 := ⟨w - 1, by omega⟩
  have habs : n.natAbs = n.toNat := by omega
  have hneg : ¬n < 0 := by omega
  simp only [padded, hneg, if_false, habs, Nat.toString_eq_ofList_toDigits, String.toList_append,
    String.toList_ofList, String.length_ofList]
  simpa using replicate_append_toDigits h

/-- Of two digits, the smaller is written with the smaller character. -/
theorem digitChar_lt_digitChar {a b : Nat} (hab : a < b) (hb : b < 10) :
    Nat.digitChar a < Nat.digitChar b := by
  have key : ∀ a b : Fin 10, a < b → Nat.digitChar a < Nat.digitChar b := by decide
  exact key ⟨a, by omega⟩ ⟨b, hb⟩ hab

/-- A list that sorts before another of the same length still does with anything after
each. -/
theorem append_lt_append_of_lt {α : Type} [LT α] {l₁ l₂ : List α} (h : l₁ < l₂)
    (hl : l₁.length = l₂.length) (m₁ m₂ : List α) : l₁ ++ m₁ < l₂ ++ m₂ := by
  induction l₁ generalizing l₂ with
  | nil => cases l₂ <;> simp_all
  | cons a l₁ ih =>
    cases l₂ with
    | nil => simp at hl
    | cons b l₂ =>
      rw [List.cons_lt_cons_iff] at h
      simp only [List.cons_append, List.cons_lt_cons_iff]
      rcases h with h | ⟨rfl, h⟩
      · exact .inl h
      · exact .inr ⟨rfl, ih h (by simpa using hl)⟩

/-- Digits of fixed width sort as the numbers they write. -/
theorem digitsOf_lt {w a b : Nat} (hab : a < b) (hb : b < 10 ^ w) :
    digitsOf w a < digitsOf w b := by
  induction w generalizing a b with
  | zero => simp at hb; omega
  | succ w ih =>
    have hq : b / 10 < 10 ^ w := by
      rw [Nat.pow_succ] at hb
      omega
    simp only [digitsOf]
    by_cases hd : a / 10 < b / 10
    · exact append_lt_append_of_lt (ih hd hq) (by simp) _ _
    · -- the leading digits agree, and the last one decides
      rw [show a / 10 = b / 10 by omega]
      apply List.append_left_lt
      simp only [List.cons_lt_cons_iff]
      exact .inl (digitChar_lt_digitChar (by omega) (Nat.mod_lt _ (by omega)))

/-- A field of fixed width sorts by its number, and equal fields leave the order to what
follows them. -/
theorem digitsOf_append_lt {w a b : Nat} {r₁ r₂ : List Char} (hb : b < 10 ^ w)
    (h : a < b ∨ a = b ∧ r₁ < r₂) : digitsOf w a ++ r₁ < digitsOf w b ++ r₂ := by
  rcases h with h | ⟨rfl, h⟩
  · exact append_lt_append_of_lt (digitsOf_lt h hb) (by simp) r₁ r₂
  · exact List.append_left_lt h

/-! ### The text of an instant in UTC -/

/-- The civil date of an instant in UTC. -/
def Stamp.date (s : Stamp) : Int × Nat × Nat := civilFromDays (s.unix / 86400)

/-- The second of its day of an instant in UTC. -/
def Stamp.secondOfDay (s : Stamp) : Nat := (s.unix % 86400).toNat

/-- A date written `YYYY-MM-DD`. -/
def dateText (c : Int × Nat × Nat) : List Char :=
  digitsOf 4 c.1.toNat ++ '-' :: (digitsOf 2 c.2.1 ++ '-' :: digitsOf 2 c.2.2)

/-- A second of the day written `hh:mm:ss`. -/
def timeText (secs : Nat) : List Char :=
  digitsOf 2 (secs / 3600) ++ ':' :: (digitsOf 2 (secs / 60 % 60) ++ ':' :: digitsOf 2 (secs % 60))

/-- The fraction of a second as written after the seconds. -/
def fractionText (nanos : Nat) : List Char := (fraction nanos).toList

@[simp] theorem length_dateText (c : Int × Nat × Nat) : (dateText c).length = 10 := by
  simp [dateText]

theorem secondOfDay_lt (s : Stamp) : s.secondOfDay < 86400 := by
  unfold Stamp.secondOfDay
  omega

theorem daysIn_le (m : Nat) (y : Int) : daysIn m y ≤ 31 := by
  unfold daysIn
  split <;> (try split) <;> omega

/-- An instant in UTC whose year has four digits is written as its date, `T`, its time of
day, its fraction and `Z`. -/
theorem utc_text_toList (s : Stamp) (h0 : 0 ≤ s.date.1) (h1 : s.date.1 < 10000) :
    s.utc.text.toList = dateText s.date ++ 'T' :: (timeText s.secondOfDay ++
      (fractionText s.nanos ++ ['Z'])) := by
  obtain ⟨-, hm, -, hd⟩ := civilFromDays_valid (s.unix / 86400)
  have hdays := daysIn_le (civilFromDays (s.unix / 86400)).2.1 (civilFromDays (s.unix / 86400)).1
  have hsecs := secondOfDay_lt s
  unfold Stamp.date at h0 h1
  unfold Stamp.secondOfDay at hsecs
  simp only [Stamp.text, Stamp.utc, Stamp.date, Stamp.secondOfDay, Int.add_zero, dateText,
    timeText, fractionText]
  generalize civilFromDays (s.unix / 86400) = c at h0 h1 hm hd hdays ⊢
  generalize (s.unix % 86400).toNat = secs at hsecs ⊢
  obtain ⟨y, m, d⟩ := c
  simp only at h0 h1 hm hd hdays ⊢
  -- the time of day is computed in `Int` from the second of the day
  have hh : (secs : Int) / 3600 = ((secs / 3600 : Nat) : Int) := by omega
  have hmi : (secs : Int) / 60 % 60 = ((secs / 60 % 60 : Nat) : Int) := by omega
  have hs : (secs : Int) % 60 = ((secs % 60 : Nat) : Int) := by omega
  simp only [String.toList_append, hh, hmi, hs]
  rw [padded_toList (by decide) h0 (by simp; omega),
    padded_toList (by decide) (Int.natCast_nonneg _) (by simp; omega),
    padded_toList (by decide) (Int.natCast_nonneg _) (by simp; omega),
    padded_toList (by decide) (Int.natCast_nonneg _) (by simp; omega),
    padded_toList (by decide) (Int.natCast_nonneg _) (by simp; omega),
    padded_toList (by decide) (Int.natCast_nonneg _) (by simp; omega)]
  simp only [Int.toNat_natCast]
  simp [offsetText]

/-- Later dates of four-digit years are written with larger texts. -/
theorem dateText_lt {c₁ c₂ : Int × Nat × Nat}
    (h : Prod.Lex (· < ·) (Prod.Lex (· < ·) (· < ·)) c₁ c₂) (h0 : 0 ≤ c₁.1) (h1 : c₂.1 < 10000)
    (hm : c₂.2.1 < 100) (hd : c₂.2.2 < 100) : dateText c₁ < dateText c₂ := by
  obtain ⟨y₁, m₁, d₁⟩ := c₁
  obtain ⟨y₂, m₂, d₂⟩ := c₂
  simp only [Prod.lex_def] at h h0 h1 hm hd
  unfold dateText
  apply digitsOf_append_lt (by simp only; omega)
  rcases h with h | ⟨rfl, h⟩
  · exact .inl (by simp only; omega)
  · refine .inr ⟨rfl, ?_⟩
    rw [List.cons_lt_cons_self]
    apply digitsOf_append_lt hm
    rcases h with h | ⟨rfl, h⟩
    · exact .inl h
    · refine .inr ⟨rfl, ?_⟩
      rw [List.cons_lt_cons_self]
      simpa using digitsOf_lt h hd

/-- Later seconds of a day are written with larger texts. -/
theorem timeText_lt {s₁ s₂ : Nat} (h : s₁ < s₂) (h2 : s₂ < 86400) : timeText s₁ < timeText s₂ := by
  unfold timeText
  -- the hour, then the minute, then the second decides
  apply digitsOf_append_lt (by simp; omega)
  by_cases hh : s₁ / 3600 < s₂ / 3600
  · exact .inl hh
  · refine .inr ⟨by omega, ?_⟩
    rw [List.cons_lt_cons_self]
    apply digitsOf_append_lt (by simp; omega)
    by_cases hm : s₁ / 60 % 60 < s₂ / 60 % 60
    · exact .inl hm
    · refine .inr ⟨by omega, ?_⟩
      rw [List.cons_lt_cons_self]
      simpa using digitsOf_lt (by omega : s₁ % 60 < s₂ % 60) (by simp; omega)

/-- Of two instants in UTC with years of four digits, the one in the earlier second is
written with the smaller text, whatever their fractions. -/
theorem utc_text_lt_of_unix_lt {a b : Stamp} (ha0 : 0 ≤ a.date.1) (ha1 : a.date.1 < 10000)
    (hb0 : 0 ≤ b.date.1) (hb1 : b.date.1 < 10000) (h : a.unix < b.unix) :
    a.utc.text < b.utc.text := by
  rw [String.lt_iff, utc_text_toList a ha0 ha1, utc_text_toList b hb0 hb1]
  obtain ⟨-, hm, -, hd⟩ := civilFromDays_valid (b.unix / 86400)
  have hdays := daysIn_le (civilFromDays (b.unix / 86400)).2.1 (civilFromDays (b.unix / 86400)).1
  by_cases hday : a.unix / 86400 < b.unix / 86400
  · -- an earlier day: the dates decide
    have hdate : dateText a.date < dateText b.date :=
      dateText_lt (civilFromDays_lt hday) ha0 hb1 (by unfold Stamp.date; omega)
        (by unfold Stamp.date; omega)
    exact append_lt_append_of_lt hdate (by simp) _ _
  · -- the same day: the times of day decide
    have hsame : a.unix / 86400 = b.unix / 86400 := by omega
    have hdate : a.date = b.date := by unfold Stamp.date; rw [hsame]
    rw [hdate]
    apply List.append_left_lt
    rw [List.cons_lt_cons_self]
    apply append_lt_append_of_lt _ (by simp [timeText])
    exact timeText_lt (by unfold Stamp.secondOfDay; omega) (secondOfDay_lt b)


/-! ### Within one second -/

/-- Dropping a common first part leaves the order of two lists as it was. -/
theorem append_lt_append_left_iff {α : Type} [LT α] [Std.Irrefl (· < · : α → α → Prop)]
    (l : List α) {x y : List α} : l ++ x < l ++ y ↔ x < y := by
  induction l with
  | nil => rfl
  | cons a l ih => simpa only [List.cons_append, List.cons_lt_cons_self] using ih

/-- The digits a fraction of a second is written with: its nine digits without their
trailing zeros. -/
def fractionDigits (nanos : Nat) : List Char :=
  ((digitsOf 9 nanos).reverse.dropWhile (· == '0')).reverse

theorem fractionDigits_zero : fractionDigits 0 = [] := by decide

theorem fractionDigits_prefix_digitsOf (nanos : Nat) : fractionDigits nanos <+: digitsOf 9 nanos := by
  have hsuffix : (digitsOf 9 nanos).reverse.dropWhile (· == '0') <:+ (digitsOf 9 nanos).reverse :=
    List.dropWhile_suffix _
  unfold fractionDigits
  simpa using hsuffix.reverse

theorem le_nine_of_mem_digitsOf {w n : Nat} {c : Char} (h : c ∈ digitsOf w n) : c ≤ '9' := by
  induction w generalizing n with
  | zero => simp [digitsOf] at h
  | succ w ih =>
    simp only [digitsOf, List.mem_append, List.mem_singleton] at h
    rcases h with h | rfl
    · exact ih h
    · have key : ∀ k : Fin 10, Nat.digitChar k ≤ '9' := by decide
      exact key ⟨n % 10, Nat.mod_lt _ (by omega)⟩

/-- A fraction is written as a point and its digits, a whole second as nothing. -/
theorem fractionText_eq {nanos : Nat} (h : nanos < 10 ^ 9) :
    fractionText nanos = if nanos = 0 then [] else '.' :: fractionDigits nanos := by
  unfold fractionText fraction fractionDigits
  by_cases h0 : nanos = 0
  · simp [h0]
  · have hpad := @padded_toList 9 (nanos : Int) (by decide) (Int.natCast_nonneg _) (by simpa using h)
    simp only [Int.toNat_natCast] at hpad
    simp [h0, hpad]

/-- Digits closed by `Z` sort as the digits do, except that digits which begin others sort
after them; `u ++ zs < v ++ zs'` rules out that `u` sorts after `v` where they differ. -/
theorem append_Z_lt_iff {u v zs zs' : List Char} (hu : ∀ c ∈ u, c ≤ '9')
    (hv : ∀ c ∈ v, c ≤ '9') (h : u ++ zs < v ++ zs') :
    u ++ ['Z'] < v ++ ['Z'] ↔ ¬u <+: v := by
  induction u generalizing v with
  | nil =>
    -- `Z` sorts after every digit
    cases v with
    | nil => simp
    | cons d v =>
      have hd := hv d (by simp)
      have hlt : ¬ 'Z' < d := Char.not_lt.mpr (Char.le_trans hd (by decide))
      have hne : 'Z' ≠ d := by
        rintro rfl
        exact absurd hd (by decide)
      simp [List.cons_lt_cons_iff, hlt, hne]
  | cons c u ih =>
    have hc := hu c (by simp)
    cases v with
    | nil =>
      have : c < 'Z' := Char.not_le.mp fun hZ => absurd (Char.le_trans hZ hc) (by decide)
      simp [List.cons_lt_cons_iff, this]
    | cons d v =>
      simp only [List.cons_append, List.cons_lt_cons_iff, List.cons_prefix_cons] at h ⊢
      rcases h with h | ⟨rfl, h⟩
      · have hne : c ≠ d := fun hcd => by subst hcd; exact Char.lt_irrefl _ h
        simp [h, hne]
      · have := ih (fun x hx => hu x (by simp [hx])) (fun x hx => hv x (by simp [hx])) h
        simp [this]

/-- Of two instants in one second, both in UTC with a year of four digits, the earlier is
written with the smaller text exactly when its fraction's digits do not begin the later
one's. A whole second has no digits, so it is written with a larger text than every later
instant in it. -/
theorem fraction_text_lt_iff {a b : Stamp} (ha0 : 0 ≤ a.date.1) (ha1 : a.date.1 < 10000)
    (hsec : a.unix = b.unix) (hab : a.nanos < b.nanos) (hb : b.nanos < 10 ^ 9) :
    a.utc.text < b.utc.text ↔ ¬fractionDigits a.nanos <+: fractionDigits b.nanos := by
  have hdate : b.date = a.date := by unfold Stamp.date; rw [hsec]
  have hday : b.secondOfDay = a.secondOfDay := by unfold Stamp.secondOfDay; rw [hsec]
  have hbtext : fractionText b.nanos = '.' :: fractionDigits b.nanos := by
    rw [fractionText_eq hb, if_neg (show ¬b.nanos = 0 by omega)]
  rw [String.lt_iff, utc_text_toList a ha0 ha1, utc_text_toList b (hdate ▸ ha0) (hdate ▸ ha1),
    hdate, hday, append_lt_append_left_iff, List.cons_lt_cons_self, append_lt_append_left_iff,
    hbtext, @fractionText_eq a.nanos (by omega)]
  by_cases h0 : a.nanos = 0
  · -- a whole second: its `Z` against the point of the later instant
    have hZ : ¬['Z'] < '.' :: (fractionDigits b.nanos ++ ['Z']) := by
      have hlt : ¬ 'Z' < '.' := by decide
      have hne : 'Z' ≠ '.' := by decide
      simp [List.cons_lt_cons_iff, hlt, hne]
    simp only [h0, if_true, fractionDigits_zero, List.nil_append, List.cons_append,
      List.nil_prefix, not_true_eq_false, iff_false]
    exact hZ
  · simp only [h0, if_false, List.cons_append, List.cons_lt_cons_self]
    obtain ⟨zs, hzs⟩ := fractionDigits_prefix_digitsOf a.nanos
    obtain ⟨zs', hzs'⟩ := fractionDigits_prefix_digitsOf b.nanos
    have hlt : fractionDigits a.nanos ++ zs < fractionDigits b.nanos ++ zs' := by
      rw [hzs, hzs']
      exact digitsOf_lt hab hb
    exact append_Z_lt_iff
      (fun c hc => le_nine_of_mem_digitsOf ((fractionDigits_prefix_digitsOf _).subset hc))
      (fun c hc => le_nine_of_mem_digitsOf ((fractionDigits_prefix_digitsOf _).subset hc)) hlt

end DepthRig.Time
