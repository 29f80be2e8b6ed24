import DepthRig.Proofs.Time.Text
import DepthRig.Time.Layout

/-!
# Reading timestamp texts back

A timestamp written in UTC, with a year of four digits and a fraction below a second, reads
back by the RFC 3339 layout as itself (`rfc3339_parse_utc_text`). Each field of the layout
reads the digits of fixed width that writing put there, whatever text follows them. The
fraction reads back its nanoseconds, because the zeros that writing drops are the ones that
reading puts back.
-/

namespace DepthRig.Time

/-! ### Digits read back -/

theorem isDigit_of_mem_digitsOf {w n : Nat} {c : Char} (h : c ∈ digitsOf w n) :
    c.isDigit = true := by
  induction w generalizing n with
  | zero => simp [digitsOf] at h
  | succ w ih =>
    simp only [digitsOf, List.mem_append, List.mem_singleton] at h
    rcases h with h | rfl
    · exact ih h
    · simpa [Nat.isDigit_digitChar] using Nat.mod_lt n (by omega : 10 > 0)

theorem digitsValue_append_singleton (cs : List Char) (c : Char) :
    digitsValue (cs ++ [c]) = digitsValue cs * 10 + (c.toNat - 48) := by
  simp [digitsValue]

/-- Digits of fixed width read back as the number they were written for. -/
theorem digitsValue_digitsOf {w n : Nat} (h : n < 10 ^ w) : digitsValue (digitsOf w n) = n := by
  induction w generalizing n with
  | zero =>
    simp at h
    simp [h, digitsOf, digitsValue]
  | succ w ih =>
    have hq : n / 10 < 10 ^ w := by
      rw [Nat.pow_succ] at h
      omega
    rw [digitsOf, digitsValue_append_singleton, ih hq,
      Nat.toNat_digitChar_sub_48_of_lt_ten (Nat.mod_lt _ (by omega))]
    omega

theorem digitsOf_two (n : Nat) :
    digitsOf 2 n = [Nat.digitChar (n / 10 % 10), Nat.digitChar (n % 10)] := by
  simp [digitsOf]

/-- Two digits read as the number they were written for. -/
theorem getNum_digitsOf_two {n : Nat} (h : n < 100) (fixed : Bool) (rest : List Char) :
    getNum (digitsOf 2 n ++ rest) fixed = some (n, rest) := by
  have h1 : (Nat.digitChar (n / 10 % 10)).isDigit = true := by
    simpa [Nat.isDigit_digitChar] using Nat.mod_lt (n / 10) (by omega : 10 > 0)
  have h2 : (Nat.digitChar (n % 10)).isDigit = true := by
    simpa [Nat.isDigit_digitChar] using Nat.mod_lt n (by omega : 10 > 0)
  rw [digitsOf_two]
  simp only [List.cons_append, List.nil_append, getNum, h1, h2, Bool.not_true, Bool.false_eq_true,
    if_false, if_true, Nat.toNat_digitChar_sub_48_of_lt_ten (Nat.mod_lt _ (by omega : 10 > 0))]
  congr
  omega

/-! ### The fraction read back -/

theorem fractionDigits_append_zeros (nanos : Nat) :
    ∃ k, digitsOf 9 nanos = fractionDigits nanos ++ List.replicate k '0' := by
  refine ⟨((digitsOf 9 nanos).reverse.takeWhile (· == '0')).length, ?_⟩
  have hzeros : ((digitsOf 9 nanos).reverse.takeWhile (· == '0')) =
      List.replicate ((digitsOf 9 nanos).reverse.takeWhile (· == '0')).length '0' := by
    refine List.eq_replicate_iff.mpr ⟨rfl, fun c hc => ?_⟩
    have hall : ((digitsOf 9 nanos).reverse.takeWhile (· == '0')).all (· == '0') = true :=
      List.all_takeWhile
    simpa using List.all_eq_true.mp hall c hc
  have hsplit : (digitsOf 9 nanos).reverse.takeWhile (· == '0') ++
      (digitsOf 9 nanos).reverse.dropWhile (· == '0') = (digitsOf 9 nanos).reverse :=
    List.takeWhile_append_dropWhile
  unfold fractionDigits
  rw [← List.reverse_replicate, ← hzeros, ← List.reverse_append, hsplit, List.reverse_reverse]

theorem digitsValue_append_zeros (cs : List Char) (k : Nat) :
    digitsValue (cs ++ List.replicate k '0') = digitsValue cs * 10 ^ k := by
  induction k with
  | zero => simp
  | succ k ih =>
    rw [List.replicate_succ', ← List.append_assoc, digitsValue_append_singleton, ih, Nat.pow_succ]
    simp [Nat.mul_assoc]

/-- A fraction's digits, with the zeros after them put back, are its nanoseconds. -/
theorem digitsValue_fractionDigits {nanos : Nat} (h : nanos < 10 ^ 9) :
    digitsValue (fractionDigits nanos) * 10 ^ (9 - (fractionDigits nanos).length) = nanos := by
  obtain ⟨k, hk⟩ := fractionDigits_append_zeros nanos
  have hlen : (fractionDigits nanos).length + k = 9 := by
    simpa using congrArg List.length hk.symm
  rw [show 9 - (fractionDigits nanos).length = k by omega, ← digitsValue_append_zeros, ← hk,
    digitsValue_digitsOf h]

theorem fractionDigits_ne_nil {nanos : Nat} (h0 : nanos ≠ 0) (h : nanos < 10 ^ 9) :
    fractionDigits nanos ≠ [] := by
  intro hnil
  obtain ⟨k, hk⟩ := fractionDigits_append_zeros nanos
  have hlen : k = 9 := by simpa [hnil] using congrArg List.length hk.symm
  rw [hnil, hlen, List.nil_append, ← digitsOf_zero] at hk
  have := congrArg digitsValue hk
  rw [digitsValue_digitsOf h, digitsValue_digitsOf (by decide)] at this
  exact h0 this

theorem isDigit_of_mem_fractionDigits {nanos : Nat} {c : Char} (h : c ∈ fractionDigits nanos) :
    c.isDigit = true :=
  isDigit_of_mem_digitsOf ((fractionDigits_prefix_digitsOf nanos).subset h)

theorem takeWhile_isDigit_append {cs rest : List Char} (hcs : ∀ c ∈ cs, c.isDigit = true)
    (hrest : ∀ c, rest.head? = some c → c.isDigit = false) :
    (cs ++ rest).takeWhile Char.isDigit = cs := by
  induction cs with
  | nil =>
    cases rest with
    | nil => rfl
    | cons c rest => simp [hrest c rfl]
  | cons c cs ih =>
    simp only [List.cons_append, List.takeWhile_cons, hcs c (by simp), if_true]
    rw [ih fun x hx => hcs x (by simp [hx])]

/-- The fraction as written reads back as its nanoseconds, the text after it not starting
with a digit. -/
theorem readFraction_fractionText {nanos : Nat} (h0 : nanos ≠ 0) (h : nanos < 10 ^ 9)
    {rest : List Char} (hrest : ∀ c, rest.head? = some c → c.isDigit = false) :
    readFraction (fractionText nanos ++ rest) = some (nanos, rest) := by
  rw [fractionText_eq h, if_neg h0]
  obtain ⟨d, ds, hds⟩ := List.exists_cons_of_ne_nil (fractionDigits_ne_nil h0 h)
  have hdig : ∀ c ∈ fractionDigits nanos, c.isDigit = true := fun c hc =>
    isDigit_of_mem_fractionDigits hc
  have hlen : (fractionDigits nanos).length ≤ 9 := by
    simpa using (fractionDigits_prefix_digitsOf nanos).length_le
  have htake := takeWhile_isDigit_append hdig hrest
  have hval := digitsValue_fractionDigits h
  rw [hds] at hdig htake hlen hval ⊢
  simp only [List.cons_append] at htake ⊢
  simp only [readFraction, hdig d (by simp), beq_self_eq_true, Bool.true_or, Bool.and_true,
    if_true, htake, Nat.pow_eq]
  rw [List.take_of_length_le (by simpa using hlen), hval, ← List.cons_append,
    List.drop_left]


/-! ### Fields read back -/

theorem skipPrefix_nil (v : List Char) : skipPrefix [] v = some v := by
  simp [skipPrefix]

theorem skipPrefix_single {c : Char} (hc : c ≠ ' ') (v : List Char) :
    skipPrefix [c] (c :: v) = some v := by
  rw [skipPrefix]
  split
  · exact skipPrefix_nil v
  · simp_all
  · exact hc

section Fields

variable (layout value : String) (fractionNext : Bool) (rest : List Char) (r : Reading)

-- the equations of `readField` are made once here, not by each lemma below in parallel
attribute [local simp] readField

theorem readField_year {y : Nat} (hy : y < 10 ^ 4) :
    readField layout value .year fractionNext (digitsOf 4 y ++ rest) r =
      .ok ({ r with year := y }, rest) := by
  have hdig : ∀ c ∈ digitsOf 4 y, c.isDigit = true := fun c hc => isDigit_of_mem_digitsOf hc
  have hval := digitsValue_digitsOf hy
  obtain ⟨a, b, c, d, hds⟩ : ∃ a b c d, digitsOf 4 y = [a, b, c, d] := ⟨_, _, _, _, rfl⟩
  rw [hds] at hdig hval ⊢
  simp [readField, hdig a (by simp), hdig b (by simp), hdig c (by simp), hdig d (by simp), hval]

theorem readField_month {m : Nat} (h1 : 1 ≤ m) (h12 : m ≤ 12) :
    readField layout value .month fractionNext (digitsOf 2 m ++ rest) r =
      .ok ({ r with month := m }, rest) := by
  have hrange : (m == 0 || decide (12 < m)) = false := by
    simp only [Bool.or_eq_false_iff, beq_eq_false_iff_ne, decide_eq_false_iff_not]
    omega
  simp [readField, getNum_digitsOf_two (by omega : m < 100), hrange]

theorem readField_day {d : Nat} (hd : d < 100) :
    readField layout value .day fractionNext (digitsOf 2 d ++ rest) r =
      .ok ({ r with day := d }, rest) := by
  simp [readField, getNum_digitsOf_two hd]

theorem readField_hour {h : Nat} (hh : h < 24) :
    readField layout value .hour fractionNext (digitsOf 2 h ++ rest) r =
      .ok ({ r with hour := h }, rest) := by
  simp [readField, getNum_digitsOf_two (by omega : h < 100), Nat.not_le.mpr hh]

theorem readField_minute {m : Nat} (hm : m < 60) :
    readField layout value .minute fractionNext (digitsOf 2 m ++ rest) r =
      .ok ({ r with minute := m }, rest) := by
  simp [readField, getNum_digitsOf_two (by omega : m < 100), Nat.not_le.mpr hm]

/-- The seconds, when the layout reads a fraction next. -/
theorem readField_second {sec : Nat} (hs : sec < 60) :
    readField layout value .second true (digitsOf 2 sec ++ rest) r =
      .ok ({ r with second := sec }, rest) := by
  simp [readField, getNum_digitsOf_two (by omega : sec < 100), Nat.not_le.mpr hs]

/-- The fraction as written, when the text after it neither starts with a digit nor holds a
fraction itself. -/
theorem readField_fraction {nanos : Nat} (h : nanos < 10 ^ 9)
    (hrest : ∀ c, rest.head? = some c → c.isDigit = false) (hnone : readFraction rest = none)
    (hr : r.nanos = 0) :
    readField layout value .fraction fractionNext (fractionText nanos ++ rest) r =
      .ok ({ r with nanos := nanos }, rest) := by
  by_cases h0 : nanos = 0
  · subst h0
    rw [fractionText_eq h]
    simp only [if_true, List.nil_append, readField, hnone]
    rw [← hr]
  · simp [readField, readFraction_fractionText h0 h hrest]

theorem readField_zone_Z :
    readField layout value (.zone true) fractionNext ('Z' :: rest) r =
      .ok ({ r with offset := 0 }, rest) := by
  simp [readField]

end Fields


/-! ### Layouts read back -/

/-- The text of an instant in UTC without its `Z`. -/
def Stamp.zonelessText (s : Stamp) : List Char :=
  dateText s.date ++ 'T' :: (timeText s.secondOfDay ++ (fractionText s.nanos ++ []))

theorem utc_text_toList_zoneless {s : Stamp} (h0 : 0 ≤ s.date.1) (h1 : s.date.1 < 10000) :
    s.utc.text.toList = s.zonelessText ++ ['Z'] := by
  rw [utc_text_toList s h0 h1, Stamp.zonelessText]
  simp

/-- The fields a layout reads from the text of an instant in UTC: no offset, and no zone
named. -/
def Stamp.reading (s : Stamp) : Reading :=
  { year := s.date.1, month := s.date.2.1, day := s.date.2.2, hour := s.secondOfDay / 3600,
    minute := s.secondOfDay / 60 % 60, second := s.secondOfDay % 60, nanos := s.nanos }

section Blocks

variable (layout value : String) (fs : List (String × Field)) (rest : List Char) (r : Reading)

/-- A date as written reads back, whatever fields follow it. -/
theorem readFields_dateText {c : Int × Nat × Nat} (h0 : 0 ≤ c.1) (h1 : c.1 < 10000) (hm1 : 1 ≤ c.2.1)
    (hm12 : c.2.1 ≤ 12) (hd : c.2.2 < 100) :
    readFields layout value (("", .year) :: ("-", .month) :: ("-", .day) :: fs) (dateText c ++ rest) r =
      readFields layout value fs rest { r with year := c.1, month := c.2.1, day := c.2.2 } := by
  simp only [readFields, dateText, List.append_assoc, List.cons_append,
    show "".toList = [] from rfl, show "-".toList = ['-'] from rfl, skipPrefix_nil,
    skipPrefix_single (show '-' ≠ ' ' by decide),
    readField_year _ _ _ _ _ (show c.1.toNat < 10 ^ 4 by omega), readField_month _ _ _ _ _ hm1 hm12,
    readField_day _ _ _ _ _ hd, bind, Except.bind, Int.toNat_of_nonneg h0]

/-- A time of day after `T`, with its fraction, reads back, the text after the fraction
neither starting with a digit nor holding a fraction itself. -/
theorem readFields_timeText {secs nanos : Nat} (hs : secs < 86400) (hn : nanos < 10 ^ 9)
    (hrest : ∀ c, rest.head? = some c → c.isDigit = false) (hnone : readFraction rest = none)
    (hr : r.nanos = 0) :
    readFields layout value
        (("T", .hour) :: (":", .minute) :: (":", .second) :: ("", .fraction) :: fs)
        ('T' :: (timeText secs ++ (fractionText nanos ++ rest))) r =
      readFields layout value fs rest
        { r with hour := secs / 3600, minute := secs / 60 % 60, second := secs % 60,
                 nanos := nanos } := by
  simp only [readFields, timeText, List.append_assoc, List.cons_append,
    show "".toList = [] from rfl, show "T".toList = ['T'] from rfl,
    show ":".toList = [':'] from rfl, skipPrefix_nil,
    skipPrefix_single (show 'T' ≠ ' ' by decide), skipPrefix_single (show ':' ≠ ' ' by decide),
    readField_hour _ _ _ _ _ (show secs / 3600 < 24 by omega),
    readField_minute _ _ _ _ _ (show secs / 60 % 60 < 60 by omega),
    readField_second _ _ _ _ (show secs % 60 < 60 by omega),
    readField_fraction _ _ _ _ _ hn hrest hnone, hr, bind, Except.bind]

/-- A layout that puts a blank before the hour does not read a `T` there. -/
theorem readFields_blank_hour (v : List Char) :
    readFields layout value ((" ", .hour) :: fs) ('T' :: v) r =
      .error (.cannotParse layout value (String.ofList ('T' :: v)) " ") := by
  simp [readFields, show " ".toList = [' '] from rfl, skipPrefix]
  rfl

end Blocks

/-- A text whose fields do not read does not parse. -/
theorem parse_error_of_readFields {l : Layout} {text : String} {e : ParseError}
    (h : readFields l.text text l.fields text.toList {} = .error e) : l.parse text = .error e := by
  simp [Layout.parse, h, bind, Except.bind]

/-- What a layout reads from the whole of a text of an instant in UTC is that instant. -/
theorem parse_eq_utc {l : Layout} {text : String} (s : Stamp)
    (h : readFields l.text text l.fields text.toList {} = .ok (s.reading, [])) :
    l.parse text = .ok s.utc := by
  obtain ⟨hm1, hm12, hd1, hdd⟩ := civilFromDays_valid (s.unix / 86400)
  have hround : daysFromCivil s.date.1 s.date.2.1 s.date.2.2 = s.unix / 86400 :=
    daysFromCivil_civilFromDays _
  have hday1 : ¬s.date.2.2 < 1 := Nat.not_lt.mpr hd1
  have hday2 : ¬daysIn s.date.2.1 s.date.1 < s.date.2.2 := Nat.not_lt.mpr hdd
  -- the day count and the second of the day make up the instant again
  have hunix : s.unix / 86400 * 86400 + ((s.secondOfDay / 3600 : Nat) : Int) * 3600 +
      ((s.secondOfDay / 60 % 60 : Nat) : Int) * 60 + ((s.secondOfDay % 60 : Nat) : Int) = s.unix := by
    unfold Stamp.secondOfDay
    omega
  simp only [Layout.parse, h, Stamp.reading, bind, Except.bind, List.isEmpty_nil, Bool.not_true,
    Bool.false_eq_true, if_false, hday1, hday2, decide_false, Bool.or_false, hround, Int.sub_zero,
    hunix]
  rfl

/-- A timestamp in UTC, with a year of four digits and a fraction below a second, reads back
by the RFC 3339 layout as itself. -/
theorem rfc3339_parse_utc_text (s : Stamp) (h0 : 0 ≤ s.date.1) (h1 : s.date.1 < 10000)
    (hn : s.nanos < 10 ^ 9) : rfc3339.parse s.utc.text = .ok s.utc := by
  obtain ⟨hm1, hm12, -, hd⟩ := civilFromDays_valid (s.unix / 86400)
  have hdays := daysIn_le (civilFromDays (s.unix / 86400)).2.1 (civilFromDays (s.unix / 86400)).1
  have hZ : ∀ c, (['Z'] : List Char).head? = some c → c.isDigit = false := by
    intro c hc
    cases hc
    rfl
  apply parse_eq_utc
  rw [utc_text_toList s h0 h1]
  simp only [rfc3339]
  rw [readFields_dateText _ _ _ _ _ h0 h1 hm1 hm12 (by unfold Stamp.date; omega),
    readFields_timeText _ _ _ _ _ (secondOfDay_lt s) hn hZ rfl rfl]
  simp only [readFields, show "".toList = [] from rfl, skipPrefix_nil, readField_zone_Z, bind,
    Except.bind]
  rfl

end DepthRig.Time
