import DepthRig.Export.Ply
import DepthRig.Proofs.Text.Paths
import DepthRig.Proofs.Wire.Framing

/-!
# Safe file names

`Ply.sanitize` keeps ASCII letters, digits, `.`, `_` and `-`, writes one `_` per run of other
bytes, stops at `maxNameLength` bytes and then trims `.` and `_` from both ends, falling back
to `unknown`. Its result is always a `SafeName`, a plain path part, so joining it to a
directory gives a direct child of that directory, and a safe name comes back unchanged.
-/

namespace DepthRig.Ply

/-- A byte that a file name neither starts nor ends with: `.` or `_`. -/
def edge (b : UInt8) : Bool := b == 46 || b == 95

/-- A name with `.` and `_` dropped from both ends, as `sanitize` trims it. -/
def trimEdges (xs : List UInt8) : List UInt8 :=
  ((xs.dropWhile edge).reverse.dropWhile edge).reverse

/-- A safe file name, as bytes: not empty, at most `maxNameLength` long, made only of ASCII
letters, digits, `.`, `_` and `-`, and neither starting nor ending with `.` or `_`. -/
def SafeName (bs : List UInt8) : Prop :=
  bs ≠ [] ∧ bs.length ≤ maxNameLength ∧ (∀ b ∈ bs, keeps b = true) ∧
    (∀ b ∈ bs.head?, edge b = false) ∧ ∀ b ∈ bs.getLast?, edge b = false

instance : DecidablePred SafeName := fun _ => inferInstanceAs (Decidable (_ ∧ _ ∧ _ ∧ _ ∧ _))

theorem lt_of_keeps {b : UInt8} (h : keeps b = true) : b.toNat < 128 := by
  simp [keeps, UInt8.le_iff_toNat_le, UInt8.ext_iff] at h
  omega

/-! ### Squeezing the bytes -/

theorem squeeze_keeps {bs out : List UInt8} {last : Bool} (hout : ∀ b ∈ out, keeps b = true) :
    ∀ b ∈ squeeze bs out last, keeps b = true := by
  induction bs generalizing out last with
  | nil => simpa [squeeze] using hout
  | cons c rest ih =>
    unfold squeeze
    split
    · simpa using hout
    split
    · -- a byte that is kept goes in as it is
      rename_i hc
      exact ih fun b hb => by rcases List.mem_cons.1 hb with rfl | hb; exacts [hc, hout b hb]
    split
    · exact ih hout
    · -- any other byte becomes one underscore, which is kept
      have h95 : keeps 95 = true := by decide
      exact ih fun b hb => by rcases List.mem_cons.1 hb with rfl | hb; exacts [h95, hout b hb]

/-- The name grows by one byte at a time, and only while it is shorter than the cap. -/
theorem length_squeeze_le {bs out : List UInt8} {last : Bool}
    (hout : out.length ≤ maxNameLength) : (squeeze bs out last).length ≤ maxNameLength := by
  induction bs generalizing out last with
  | nil => simpa [squeeze] using hout
  | cons c rest ih =>
    unfold squeeze
    split
    · simpa using hout
    split
    · exact ih (by simp; omega)
    split
    · exact ih hout
    · exact ih (by simp; omega)

theorem squeeze_of_keeps {bs out : List UInt8} {last : Bool} (hbs : ∀ b ∈ bs, keeps b = true)
    (hlen : out.length + bs.length ≤ maxNameLength) :
    squeeze bs out last = out.reverse ++ bs := by
  induction bs generalizing out last with
  | nil => simp [squeeze]
  | cons c rest ih =>
    have hc := hbs c (by simp)
    simp only [List.length_cons] at hlen
    rw [squeeze, if_neg (by omega), if_pos hc,
      ih (fun b hb => hbs b (by simp [hb])) (by simp; omega)]
    simp

/-! ### Trimming the ends -/

theorem head?_dropWhile_edge (xs : List UInt8) :
    ∀ b ∈ (xs.dropWhile edge).head?, edge b = false := by
  intro b hb
  have := List.head?_dropWhile_not edge xs
  rw [Option.mem_def] at hb
  simpa [hb] using this

theorem getLast?_dropWhile {xs : List UInt8} {b : UInt8}
    (hb : b ∈ (xs.dropWhile edge).getLast?) : b ∈ xs.getLast? := by
  have hne : xs.dropWhile edge ≠ [] := by
    intro h; simp [h] at hb
  rw [← @List.takeWhile_append_dropWhile _ edge xs, List.getLast?_append_of_ne_nil _ hne]
  exact hb

theorem trimEdges_sublist (xs : List UInt8) : List.Sublist (trimEdges xs) xs := by
  have h₁ : List.Sublist ((xs.dropWhile edge).reverse.dropWhile edge) (xs.dropWhile edge).reverse :=
    (List.dropWhile_suffix _).sublist
  have h₂ := h₁.reverse
  rw [List.reverse_reverse] at h₂
  exact h₂.trans (List.dropWhile_suffix _).sublist

theorem head?_trimEdges (xs : List UInt8) : ∀ b ∈ (trimEdges xs).head?, edge b = false := by
  intro b hb
  rw [trimEdges, List.head?_reverse] at hb
  have hlast := getLast?_dropWhile hb
  rw [List.getLast?_reverse] at hlast
  exact head?_dropWhile_edge xs b hlast

theorem getLast?_trimEdges (xs : List UInt8) :
    ∀ b ∈ (trimEdges xs).getLast?, edge b = false := by
  intro b hb
  rw [trimEdges, List.getLast?_reverse] at hb
  exact head?_dropWhile_edge _ b hb

theorem dropWhile_edge_of_head {xs : List UInt8} (h : ∀ b ∈ xs.head?, edge b = false) :
    xs.dropWhile edge = xs := by
  cases xs with
  | nil => rfl
  | cons c rest => exact List.dropWhile_cons_of_neg (by simpa using h c rfl)

theorem trimEdges_of_ends {xs : List UInt8} (hhead : ∀ b ∈ xs.head?, edge b = false)
    (hlast : ∀ b ∈ xs.getLast?, edge b = false) : trimEdges xs = xs := by
  rw [trimEdges, dropWhile_edge_of_head hhead,
    dropWhile_edge_of_head (by simpa [List.head?_reverse] using hlast), List.reverse_reverse]

/-! ### Names as bytes -/

theorem encode_eq_flatMap (s : String) :
    Utf8.encode s = s.toList.flatMap String.utf8EncodeChar := by
  conv_lhs => rw [← @String.ofList_toList s]
  rw [Utf8.encode, String.toUTF8_eq_toByteArray, String.toByteArray_ofList, List.utf8Encode,
    Wire.toList_byteArray, List.toList_data_toByteArray]

theorem encode_injective {s t : String} (h : Utf8.encode s = Utf8.encode t) : s = t := by
  rw [Utf8.encode, Utf8.encode, String.toUTF8_eq_toByteArray, String.toUTF8_eq_toByteArray,
    Wire.toList_byteArray, Wire.toList_byteArray] at h
  exact String.toByteArray_inj.1 (ByteArray.ext (Array.ext' h))

theorem toNat_charOfByte (b : UInt8) : (Char.ofNat b.toNat).toNat = b.toNat := by
  have hb := b.toNat_lt
  rw [Char.ofNat, dif_pos (Or.inl (by omega))]
  simp [Char.ofNatAux, Char.toNat]

/-- Bytes below 128, written as characters, are their own UTF-8 encoding. -/
theorem encode_ofList_ascii (bs : List UInt8) (h : ∀ b ∈ bs, b.toNat < 128) :
    Utf8.encode (String.ofList (bs.map fun b => Char.ofNat b.toNat)) = bs := by
  rw [encode_eq_flatMap, String.toList_ofList, List.flatMap_map]
  induction bs with
  | nil => rfl
  | cons b bs ih =>
    have hb := h b (by simp)
    have hval := toNat_charOfByte b
    have hsize : (Char.ofNat b.toNat).utf8Size = 1 := by
      rw [Char.utf8Size_eq_one_iff, UInt32.le_iff_toNat_le, Char.toNat_val, hval]
      simp
      omega
    have hbyte : (Char.ofNat b.toNat).val.toUInt8 = b := by
      apply UInt8.toNat_inj.mp
      rw [UInt32.toNat_toUInt8, Char.toNat_val, hval]
      omega
    rw [List.flatMap_cons, String.utf8EncodeChar_eq_singleton hsize, hbyte,
      ih (fun d hd => h d (by simp [hd]))]
    rfl

/-- A safe name is a plain path part: not empty, neither `.` nor `..`, and without a slash. -/
theorem SafeName.plainName {s : String} (h : SafeName (Utf8.encode s)) : Path.PlainName s := by
  refine ⟨?_, ?_, ?_, ?_⟩
  · rintro rfl
    revert h
    decide +kernel
  · rintro rfl
    revert h
    decide +kernel
  · rintro rfl
    revert h
    decide +kernel
  · intro hslash
    have hmem : (47 : UInt8) ∈ Utf8.encode s := by
      rw [encode_eq_flatMap]
      exact List.mem_flatMap.2 ⟨'/', hslash, by decide⟩
    exact absurd (h.2.2.1 47 hmem) (by decide)

/-! ### The name made -/

theorem sanitize_eq (bs : List UInt8) :
    sanitize bs = if (trimEdges (squeeze bs [] false)).isEmpty then "unknown"
      else String.ofList ((trimEdges (squeeze bs [] false)).map fun b => Char.ofNat b.toNat) :=
  rfl

/-- The bytes of the name made: the squeezed bytes trimmed at both ends, or `unknown` when
nothing is left. -/
theorem encode_sanitize (bs : List UInt8) :
    Utf8.encode (sanitize bs) =
      if trimEdges (squeeze bs [] false) = [] then Utf8.encode "unknown"
      else trimEdges (squeeze bs [] false) := by
  have hkeeps : ∀ b ∈ trimEdges (squeeze bs [] false), b.toNat < 128 := fun b hb =>
    lt_of_keeps (squeeze_keeps (by simp) b ((trimEdges_sublist _).subset hb))
  by_cases hnil : trimEdges (squeeze bs [] false) = []
  · rw [if_pos hnil, sanitize_eq, hnil]
    rfl
  · rw [if_neg hnil, sanitize_eq, if_neg (by simpa using hnil), encode_ofList_ascii _ hkeeps]

theorem safeName_unknown : SafeName (Utf8.encode "unknown") := by decide +kernel

/-- Whatever the bytes, the name made is safe. -/
theorem safeName_sanitize (bs : List UInt8) : SafeName (Utf8.encode (sanitize bs)) := by
  rw [encode_sanitize]
  by_cases hnil : trimEdges (squeeze bs [] false) = []
  · rw [if_pos hnil]
    exact safeName_unknown
  · rw [if_neg hnil]
    have hsub := trimEdges_sublist (squeeze bs [] false)
    exact ⟨hnil, hsub.length_le.trans (length_squeeze_le (by simp [maxNameLength])),
      fun b hb => squeeze_keeps (by simp) b (hsub.subset hb), head?_trimEdges _,
      getLast?_trimEdges _⟩

/-- A name that is already safe is kept as it is. -/
theorem encode_sanitize_of_safeName {bs : List UInt8} (h : SafeName bs) :
    Utf8.encode (sanitize bs) = bs := by
  obtain ⟨hne, hlen, hkeeps, hhead, hlast⟩ := h
  have hsq : squeeze bs [] false = bs := by
    rw [squeeze_of_keeps hkeeps (by simpa using hlen)]
    simp
  rw [encode_sanitize, hsq, trimEdges_of_ends hhead hlast, if_neg hne]

/-- File names made from identifiers are single path parts, and making one is idempotent:
the name is a `SafeName`, never `.` or `..`; joined to any directory it is a direct child
of the cleaned directory, written after the last slash; a safe name comes back as it is; and
making a name from a name made gives the same name. -/
theorem sanitize_safe_path_component (bs : List UInt8) :
    SafeName (Utf8.encode (sanitize bs)) ∧ sanitize bs ≠ "." ∧ sanitize bs ≠ ".." ∧
      (∀ d, Path.dir (Path.join [d, sanitize bs]) = Path.clean d ∧
        Path.upToLastSlash (Path.join [d, sanitize bs]) ++ sanitize bs =
          Path.join [d, sanitize bs]) ∧
      (SafeName bs → Utf8.encode (sanitize bs) = bs) ∧
      sanitize (Utf8.encode (sanitize bs)) = sanitize bs := by
  have hsafe := safeName_sanitize bs
  have hplain := hsafe.plainName
  exact ⟨hsafe, hplain.2.1, hplain.2.2.1, fun d => Path.join_plainName_child d hplain,
    encode_sanitize_of_safeName, encode_injective (encode_sanitize_of_safeName hsafe)⟩

example : sanitize (Utf8.encode "a b  c") = "a_b_c" := by decide +kernel
example : sanitize (Utf8.encode "../..") = "unknown" := by decide +kernel
example : sanitize [0xff, 0x2e, 0x2e, 0x68] = "h" := by decide +kernel

/-- A take name that is already safe is written as it is. -/
theorem sanitize_keeps_take_name :
    SafeName (Utf8.encode "take_1") ∧ Utf8.encode (sanitize (Utf8.encode "take_1")) =
      Utf8.encode "take_1" :=
  ⟨by decide +kernel, (sanitize_safe_path_component _).2.2.2.2.1 (by decide +kernel)⟩

end DepthRig.Ply
