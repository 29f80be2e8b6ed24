import DepthRig.Proofs.Time.Reading
import DepthRig.Store.Scan
import Mathlib.Data.List.TakeWhile

/-!
# Times kept as text

The store keeps an instant as its text in UTC. The time columns convert text that spells a
number into that number, and the text of an instant never spells one
(`withAffinity_utc_text`), so it is kept as written. Reading a time column recognises the
text as a time and writes it back in the same form (`readTimeCell_utc_text`), so the text
read is the text written. Both hold for instants whose UTC year has four digits and whose
fraction is below a second.
-/

namespace DepthRig.Store

open Time

/-! ### The characters of an instant's text -/

/-- Whether a character can occur in an instant's text: a digit, a separator of date or
time, the point of the fraction or the `Z` of UTC. -/
def stampChar (c : Char) : Bool :=
  c.isDigit || c == '-' || c == 'T' || c == ':' || c == '.' || c == 'Z'

theorem all_stampChar_digitsOf (w n : Nat) : (digitsOf w n).all stampChar = true := by
  rw [List.all_eq_true]
  intro c hc
  simp [stampChar, isDigit_of_mem_digitsOf hc]

theorem all_stampChar_fractionText {nanos : Nat} (hn : nanos < 10 ^ 9) :
    (fractionText nanos).all stampChar = true := by
  rw [fractionText_eq hn, List.all_eq_true]
  intro c hc
  split at hc
  · simp at hc
  · rcases List.mem_cons.mp hc with rfl | h
    · rfl
    · simp [stampChar, isDigit_of_mem_fractionDigits h]

theorem all_stampChar_utc_text {s : Stamp} (h0 : 0 ≤ s.date.1) (h1 : s.date.1 < 10000)
    (hn : s.nanos < 10 ^ 9) : s.utc.text.toList.all stampChar = true := by
  rw [utc_text_toList s h0 h1]
  simp [dateText, timeText, all_stampChar_digitsOf, all_stampChar_fractionText hn, stampChar]

theorem isNumberBlank_of_stampChar {c : Char} (h : stampChar c = true) :
    isNumberBlank c = false := by
  simp only [stampChar, Bool.or_eq_true, beq_iff_eq] at h
  rcases h with ((((h | rfl) | rfl) | rfl) | rfl) | rfl
  · -- a digit's code lies between 48 and 57
    have hcode := Char.isDigit_iff_toNat.mp h
    simp only [isNumberBlank, Bool.or_eq_false_iff, beq_eq_false_iff_ne, Bool.and_eq_false_iff,
      decide_eq_false_iff_not]
    have h0 : '0'.toNat = 48 := rfl
    have h9 : '9'.toNat = 57 := rfl
    refine ⟨fun hc => ?_, by omega⟩
    rw [hc] at hcode
    exact absurd hcode (by decide)
  all_goals rfl

/-! ### Kept as text -/

theorem dropWhile_eq_self_of_all {p q : Char → Bool} {l : List Char} (hl : l.all q = true)
    (hpq : ∀ c, q c = true → p c = false) : l.dropWhile p = l :=
  List.dropWhile_eq_self_iff.mpr fun hl0 => by
    simp [hpq _ (List.all_eq_true.mp hl _ (List.getElem_mem hl0))]

/-- Digits read up to the first character that is not one. -/
theorem readDigits_append {ds : List Char} (hds : ∀ x ∈ ds, x.isDigit = true) {c : Char}
    (hc : c.isDigit = false) (rest : List Char) (v n : Nat) :
    ∃ w, NumberText.readDigits (ds ++ c :: rest) v n = (w, n + ds.length, c :: rest) := by
  induction ds generalizing v n with
  | nil => exact ⟨v, by simp [NumberText.readDigits, hc]⟩
  | cons x ds ih =>
    obtain ⟨w, hw⟩ := ih (fun y hy => hds y (by simp [hy])) (v * 10 + (x.toNat - 48)) (n + 1)
    refine ⟨w, ?_⟩
    simp only [List.cons_append, NumberText.readDigits, hds x (by simp), if_true, hw,
      List.length_cons]
    congr 2
    omega

theorem numberText_read_utc_text {s : Stamp} (h0 : 0 ≤ s.date.1) (h1 : s.date.1 < 10000)
    (hn : s.nanos < 10 ^ 9) : NumberText.read? s.utc.text = none := by
  have hall := all_stampChar_utc_text h0 h1 hn
  have hrev : s.utc.text.toList.reverse.all stampChar = true := by simpa using hall
  have htrim : ((s.utc.text.toList.dropWhile isNumberBlank).reverse.dropWhile isNumberBlank).reverse =
      s.utc.text.toList := by
    rw [dropWhile_eq_self_of_all hall fun _ => isNumberBlank_of_stampChar,
      dropWhile_eq_self_of_all hrev fun _ => isNumberBlank_of_stampChar, List.reverse_reverse]
  obtain ⟨a, b, c, d, hds⟩ : ∃ a b c d, digitsOf 4 s.date.1.toNat = [a, b, c, d] :=
    ⟨_, _, _, _, rfl⟩
  have hdig : ∀ x ∈ [a, b, c, d], x.isDigit = true := fun x hx =>
    isDigit_of_mem_digitsOf (hds ▸ hx)
  unfold NumberText.read?
  rw [htrim, utc_text_toList s h0 h1]
  simp only [dateText, hds, List.cons_append, List.nil_append]
  generalize digitsOf 2 s.date.snd.fst ++ '-' :: digitsOf 2 s.date.snd.snd ++
    'T' :: (timeText s.secondOfDay ++ (fractionText s.nanos ++ ['Z'])) = R
  have ha := hdig a (by simp)
  have hsign : a ≠ '-' ∧ a ≠ '+' :=
    ⟨by rintro rfl; exact absurd ha (by decide), by rintro rfl; exact absurd ha (by decide)⟩
  obtain ⟨w, hw⟩ := readDigits_append hdig (by decide : '-'.isDigit = false) R 0 0
  simp only [List.cons_append, List.nil_append] at hw
  -- the text starts with a digit, so it has no sign
  split
  · rename_i heq
    exact absurd (List.cons.inj heq).1 hsign.1
  · rename_i heq
    exact absurd (List.cons.inj heq).1 hsign.2
  · -- four digits, then `-`: neither a fraction nor an exponent follows, and text is left over
    simp [hw, NumberText.readExponentPart]

theorem withAffinity_utc_text {s : Stamp} (h0 : 0 ≤ s.date.1) (h1 : s.date.1 < 10000)
    (hn : s.nanos < 10 ^ 9) : Cell.withAffinity .numeric (.text s.utc.text) = .text s.utc.text := by
  simp [Cell.withAffinity, numberText_read_utc_text h0 h1 hn]

/-! ### Read back as the same text -/

theorem isBlank_of_stampChar {c : Char} (h : stampChar c = true) : Blank.isBlank c = false := by
  simp only [stampChar, Bool.or_eq_true, beq_iff_eq] at h
  rcases h with ((((h | rfl) | rfl) | rfl) | rfl) | rfl
  · -- a digit's code lies between 48 and 57
    have hcode := Char.isDigit_iff_toNat.mp h
    have h0 : '0'.toNat = 48 := rfl
    have h9 : '9'.toNat = 57 := rfl
    simp only [Blank.isBlank, Bool.or_eq_false_iff, beq_eq_false_iff_ne, Bool.and_eq_false_iff,
      decide_eq_false_iff_not]
    omega
  all_goals rfl

theorem monotonicMark_of_all {cs : List Char} (h : cs.all stampChar = true) :
    monotonicMark cs = none := by
  induction cs with
  | nil => rfl
  | cons c cs ih =>
    rw [List.all_cons, Bool.and_eq_true] at h
    unfold monotonicMark
    split
    · rename_i heq
      rw [(List.cons.inj heq).1] at h
      exact absurd h.1 (by decide)
    · rename_i heq
      obtain ⟨rfl, rfl⟩ := List.cons.inj heq
      simp [ih h.2]
    · rename_i heq
      exact absurd heq (List.cons_ne_nil _ _)

theorem trim_of_all {cs : List Char} (h : cs.all stampChar = true) :
    Blank.trim (String.ofList cs) = String.ofList cs := by
  have hrev : cs.reverse.all stampChar = true := by simpa using h
  simp only [Blank.trim, String.toList_ofList,
    dropWhile_eq_self_of_all h fun _ => isBlank_of_stampChar,
    dropWhile_eq_self_of_all hrev fun _ => isBlank_of_stampChar, List.reverse_reverse]

section Layouts

variable {s : Stamp} (h0 : 0 ≤ s.date.1) (h1 : s.date.1 < 10000) (hn : s.nanos < 10 ^ 9)
include h0 h1

theorem readFields_dateText_stamp (layout value : String) (fs : List (String × Field))
    (rest : List Char) :
    readFields layout value (("", .year) :: ("-", .month) :: ("-", .day) :: fs)
        (dateText s.date ++ rest) {} =
      readFields layout value fs rest { year := s.date.1, month := s.date.2.1, day := s.date.2.2 } := by
  obtain ⟨hm1, hm12, -, hd⟩ := civilFromDays_valid (s.unix / 86400)
  have hdays := daysIn_le (civilFromDays (s.unix / 86400)).2.1 (civilFromDays (s.unix / 86400)).1
  exact readFields_dateText _ _ _ _ _ h0 h1 hm1 hm12 (by unfold Stamp.date; omega)

/-- A layout with a blank before the hour does not read an instant's text. -/
theorem parse_blank_hour (fs : List (String × Field)) (v : List Char) :
    (Layout.parse ⟨("", .year) :: ("-", .month) :: ("-", .day) :: (" ", .hour) :: fs⟩
      (String.ofList (dateText s.date ++ 'T' :: v))).toOption = none := by
  rw [parse_error_of_readFields (by
    rw [String.toList_ofList, readFields_dateText_stamp h0 h1, readFields_blank_hour])]
  rfl

include hn

theorem readFields_timeText_stamp (layout value : String) (fs : List (String × Field)) :
    readFields layout value
        (("", .year) :: ("-", .month) :: ("-", .day) :: ("T", .hour) :: (":", .minute) ::
          (":", .second) :: ("", .fraction) :: fs) s.zonelessText {} =
      readFields layout value fs [] s.reading := by
  rw [Stamp.zonelessText, readFields_dateText_stamp h0 h1,
    readFields_timeText _ _ _ _ _ (secondOfDay_lt s) hn (by simp) rfl rfl]
  rfl

/-- The layout with a zone does not read an instant's text without its `Z`. -/
theorem parse_zone_missing :
    (Layout.parse ⟨[("", .year), ("-", .month), ("-", .day), ("T", .hour), (":", .minute),
      (":", .second), ("", .fraction), ("", .zone false)]⟩
      (String.ofList s.zonelessText)).toOption = none := by
  rw [parse_error_of_readFields (by
    rw [String.toList_ofList, readFields_timeText_stamp h0 h1 hn]
    simp [readFields, skipPrefix_nil, readField, bind, Except.bind]
    rfl)]
  rfl

/-- The layout of date, `T`, time and fraction reads an instant's text without its `Z` as
the instant. -/
theorem parse_zoneless :
    (Layout.parse ⟨[("", .year), ("-", .month), ("-", .day), ("T", .hour), (":", .minute),
      (":", .second), ("", .fraction)]⟩ (String.ofList s.zonelessText)).toOption = some s.utc := by
  rw [parse_eq_utc s (by rw [String.toList_ofList, readFields_timeText_stamp h0 h1 hn]; rfl)]
  rfl

/-- A time column reads the text of an instant in UTC as that instant: not as the store
prints times, and by the stored layouts only as date, `T`, time and fraction once the `Z`
is dropped. -/
theorem readStoredTime_utc_text : readStoredTime s.utc.text = some s.utc := by
  have hall := all_stampChar_utc_text h0 h1 hn
  have hsplit := utc_text_toList_zoneless h0 h1
  have hprinted : (printedTimeLayout.parse (Blank.trim (String.ofList s.utc.text.toList))).toOption =
      none := by
    rw [trim_of_all hall, hsplit, Stamp.zonelessText]
    simp only [printedTimeLayout, List.append_assoc, List.cons_append]
    exact parse_blank_hour h0 h1 _ _
  unfold readStoredTime
  simp only [monotonicMark_of_all hall, hprinted]
  rw [hsplit]
  simp only [List.getLast?_concat, beq_self_eq_true, if_true, List.dropLast_concat,
    storedTimeLayouts, List.cons_append, List.nil_append, List.findSome?_cons,
    parse_zone_missing h0 h1 hn, parse_zoneless h0 h1 hn]
  simp only [Stamp.zonelessText, parse_blank_hour h0 h1]

end Layouts

/-- A time column reads the text of an instant in UTC back unchanged. -/
theorem readTimeCell_utc_text {s : Stamp} (h0 : 0 ≤ s.date.1) (h1 : s.date.1 < 10000)
    (hn : s.nanos < 10 ^ 9) : readTimeCell (.text s.utc.text) = .text s.utc.text := by
  simp only [readTimeCell, readStoredTime_utc_text h0 h1 hn]

end DepthRig.Store
