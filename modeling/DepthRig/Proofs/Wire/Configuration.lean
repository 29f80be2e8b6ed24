import Mathlib
import DepthRig.Proofs.Wire.Payloads

/-!
# The configuration block read back

A configuration block is 22 bytes, the serial in a 16-byte field padded with NUL. A
configuration comes back from its block exactly when its serial fits and holds no NUL
(`decode_encode_iff`), and a block is the one written for what it decodes to exactly when its
serial field is NUL after its first NUL and its filter flag is 0 or 1 (`encode_decode_iff`).
-/

namespace DepthRig

/-! ### Bytes written back -/

/-- Bytes without a NUL, padded with NUL, are cut back to themselves at the first NUL. -/
theorem takeWhile_append_replicate_zero {s : List UInt8} (hs : 0 ∉ s) (k : Nat) :
    (s ++ List.replicate k 0).takeWhile (· != 0) = s := by
  induction s with
  | nil => cases k <;> simp [List.replicate_succ]
  | cons x s ih =>
    have hx : x ≠ 0 := fun h => hs (h ▸ List.mem_cons_self)
    rw [List.cons_append, List.takeWhile_cons_of_pos (by simpa using hx),
      ih fun h => hs (List.mem_cons_of_mem x h)]

/-- A field is its part before the first NUL padded back with NUL exactly when every byte
after its first NUL is NUL. -/
theorem takeWhile_pad_eq_iff (field : List UInt8) :
    field.takeWhile (· != 0) ++
        List.replicate (field.length - (field.takeWhile (· != 0)).length) 0 = field ↔
      ∀ x ∈ field.dropWhile (· != 0), x = 0 := by
  have hsplit := @List.takeWhile_append_dropWhile _ (· != (0 : UInt8)) field
  have hlen : field.length - (field.takeWhile (· != 0)).length =
      (field.dropWhile (· != 0)).length := by
    have := congrArg List.length hsplit
    simp only [List.length_append] at this
    omega
  -- the part before the first NUL is common to both sides
  conv_lhs => rhs; rw [← hsplit]
  rw [List.append_cancel_left_eq, hlen, eq_comm, List.eq_replicate_iff]
  simp

/-- Two lists of one length, each followed by two bytes, are equal exactly when the lists
and the bytes are. -/
theorem append_pair_eq_iff {xs ys : List UInt8} (h : xs.length = ys.length) (p q e f : UInt8) :
    xs ++ [p, q] = ys ++ [e, f] ↔ xs = ys ∧ p = e ∧ q = f := by
  constructor
  · intro hxy
    obtain ⟨rfl, hpq⟩ := List.append_inj hxy h
    simpa using hpq
  · rintro ⟨rfl, rfl, rfl⟩
    rfl

/-- The byte written back for the flag a byte is read as is that byte exactly when it is 0
or 1. -/
theorem flag_byte_eq_iff (e : UInt8) : (if (e != 0) = true then (1 : UInt8) else 0) = e ↔ e ≤ 1 := by
  by_cases h0 : e = 0
  · simp [h0]
  · have hne : (e != 0) = true := by simpa using h0
    rw [if_pos hne]
    constructor
    · intro h
      rw [← h]
      decide
    · intro hle
      have : e.toNat ≤ 1 := hle
      have : e.toNat ≠ 0 := fun h => h0 (UInt8.toNat_inj.mp h)
      exact UInt8.toNat_inj.mp (by simp; omega)

namespace DeviceConfig

/-- The serial field written for a serial: its first 16 bytes, padded with NUL. -/
def serialField (serial : List UInt8) : List UInt8 :=
  serial.take serialWidth ++ List.replicate (serialWidth - (serial.take serialWidth).length) 0

@[simp] theorem length_serialField (serial : List UInt8) :
    (serialField serial).length = serialWidth := by
  simp only [serialField, List.length_append, List.length_replicate, List.length_take]
  omega

/-- A block is the four role bytes, the serial field and the two filter bytes. -/
theorem encode_eq (c : DeviceConfig) :
    c.encode = [c.depthMode.code, c.softwareSync.code, c.hardwareSync.code, c.syncOffset] ++
      serialField c.serial ++ [if c.filterDepthMap then 1 else 0, c.filterSize] := by
  simp [encode, serialField]

/-- In a block laid out field by field, bytes 20 and 21 are the two filter bytes. -/
theorem getD_layout (a b c d e f : UInt8) {field : List UInt8}
    (hfield : field.length = serialWidth) (rest : List UInt8) :
    ([a, b, c, d] ++ field ++ [e, f] ++ rest).getD 20 0 = e ∧
      ([a, b, c, d] ++ field ++ [e, f] ++ rest).getD 21 0 = f := by
  have hcons : [a, b, c, d] ++ field ++ [e, f] ++ rest = a :: b :: c :: d :: (field ++ e :: f :: rest) := by
    simp
  rw [hcons]
  simp only [List.getD_cons_succ]
  rw [List.getD_append_right _ _ _ _ (by simp [hfield, serialWidth]),
    List.getD_append_right _ _ _ _ (by simp [hfield, serialWidth]), hfield]
  simp [serialWidth]

/-- In a block laid out field by field, the 16 bytes after the first four are the serial
field. -/
theorem serialField_layout (a b c d e f : UInt8) {field : List UInt8}
    (hfield : field.length = serialWidth) (rest : List UInt8) :
    (([a, b, c, d] ++ field ++ [e, f] ++ rest).drop 4).take serialWidth = field := by
  simp [List.append_assoc, ← hfield]

/-- Decoding reads a block field by field, cutting the serial field at its first NUL;
whatever follows the 22 bytes is not looked at. -/
theorem decode_layout (a b c d e f : UInt8) {field : List UInt8}
    (hfield : field.length = serialWidth) (rest : List UInt8) :
    decode ([a, b, c, d] ++ field ++ [e, f] ++ rest) =
      .ok ⟨⟨a⟩, ⟨b⟩, ⟨c⟩, d, field.takeWhile (· != 0), e != 0, f⟩ := by
  have hlen : ¬ ([a, b, c, d] ++ field ++ [e, f] ++ rest).length < blockSize := by
    simp only [List.length_append, List.length_cons, List.length_nil, hfield, blockSize,
      serialWidth]
    omega
  obtain ⟨he, hf⟩ := getD_layout a b c d e f hfield rest
  simp only [decode, if_neg hlen, serialField_layout a b c d e f hfield rest, he, hf]
  rfl

/-- Every block of 22 bytes or more has the layout `decode_layout` reads. -/
theorem exists_layout {bs : List UInt8} (h : blockSize ≤ bs.length) :
    ∃ a b c d e f field rest, field.length = serialWidth ∧
      bs = [a, b, c, d] ++ field ++ [e, f] ++ rest := by
  rcases bs with _ | ⟨a, _ | ⟨b, _ | ⟨c, _ | ⟨d, tail⟩⟩⟩⟩
  all_goals simp only [List.length_cons, List.length_nil, blockSize] at h
  any_goals omega
  -- after the serial field come at least the two filter bytes
  obtain ⟨e, f, rest, htail⟩ : ∃ e f rest, tail.drop serialWidth = e :: f :: rest := by
    rcases hdrop : tail.drop serialWidth with _ | ⟨e, _ | ⟨f, rest⟩⟩
    all_goals
      have hl := congrArg List.length hdrop
      simp only [List.length_drop, List.length_cons, List.length_nil, serialWidth] at hl
    · omega
    · omega
    · exact ⟨e, f, rest, rfl⟩
  have htail' : tail = tail.take serialWidth ++ e :: f :: rest := by
    rw [← htail, List.take_append_drop]
  refine ⟨a, b, c, d, e, f, tail.take serialWidth, rest, by simp [serialWidth]; omega, ?_⟩
  conv_lhs => rw [htail']
  simp

/-- What a block decodes to holds a serial that fits the field and has no NUL. -/
theorem serial_of_decode {bs : List UInt8} {c : DeviceConfig} (h : decode bs = .ok c) :
    c.serial.length ≤ serialWidth ∧ 0 ∉ c.serial := by
  unfold decode at h
  split at h
  · cases h
  · obtain rfl := (Except.ok.inj h).symm
    refine ⟨(List.takeWhile_sublist _).length_le.trans (by simp), fun h0 => ?_⟩
    simpa using List.mem_takeWhile_imp h0

/-- A configuration comes back from its block exactly when its serial fits the 16-byte field
and holds no NUL; its depth mode, sync roles, offset and filter always do. -/
theorem decode_encode_iff (c : DeviceConfig) :
    decode c.encode = .ok c ↔ c.serial.length ≤ serialWidth ∧ 0 ∉ c.serial := by
  refine ⟨serial_of_decode, fun ⟨hlen, hnul⟩ => ?_⟩
  have htake : c.serial.take serialWidth = c.serial := List.take_of_length_le hlen
  have hdecode := decode_layout c.depthMode.code c.softwareSync.code c.hardwareSync.code
    c.syncOffset (if c.filterDepthMap then 1 else 0) c.filterSize (length_serialField c.serial) []
  rw [List.append_nil, ← encode_eq] at hdecode
  rw [hdecode, serialField, htake, takeWhile_append_replicate_zero hnul]
  cases c
  cases ‹Bool› <;> rfl

/-- Fewer than 22 bytes are refused as a short block, naming how many there were. -/
theorem decode_short {bs : List UInt8} (h : bs.length < blockSize) :
    decode bs = .error (.configurationShort bs.length) :=
  if_pos h

/-- A block of 22 bytes or more is the one written for what it decodes to exactly when its
serial field holds only NUL after its first NUL and its filter byte is 0 or 1. -/
theorem encode_decode_iff {bs : List UInt8} (h : blockSize ≤ bs.length) :
    encode <$> decode bs = .ok (bs.take blockSize) ↔
      (∀ x ∈ ((bs.drop 4).take serialWidth).dropWhile (· != 0), x = 0) ∧ bs.getD 20 0 ≤ 1 := by
  obtain ⟨a, b, c, d, e, f, field, rest, hfield, rfl⟩ := exists_layout h
  have hcut : (field.takeWhile (· != 0)).length ≤ serialWidth :=
    (List.takeWhile_sublist _).length_le.trans hfield.le
  have hblock : ([a, b, c, d] ++ field ++ [e, f] ++ rest).take blockSize =
      [a, b, c, d] ++ field ++ [e, f] := by
    simp [List.take_append, hfield, blockSize, serialWidth]
  rw [decode_layout a b c d e f hfield rest, serialField_layout a b c d e f hfield rest,
    (getD_layout a b c d e f hfield rest).1, hblock, ← takeWhile_pad_eq_iff, ← flag_byte_eq_iff]
  -- the block written back differs from the one read only in the serial field and the flag
  simp only [Functor.map, Except.map, Except.ok.injEq, encode_eq, serialField,
    List.take_of_length_le hcut, List.append_assoc, List.append_cancel_left_eq, hfield]
  -- the serial written back is padded to the field's width
  have hwidth : ∀ xs : List UInt8, xs.length ≤ serialWidth →
      (xs ++ List.replicate (serialWidth - xs.length) 0).length = field.length := by
    intro xs hxs
    simp only [List.length_append, List.length_replicate, hfield]
    omega
  rw [← List.append_assoc, append_pair_eq_iff (hwidth _ hcut)]
  simp

/-- The configuration block codec: every block is 22 bytes, and a configuration comes back
from its block exactly when its serial fits the 16-byte field and holds no NUL; a block of 22
bytes or more is written back from what it decodes to exactly when its serial field is NUL
after its first NUL and its filter byte is 0 or 1; a shorter one is refused. -/
theorem configuration_block_codec :
    (∀ c : DeviceConfig, c.encode.length = blockSize ∧
      (decode c.encode = .ok c ↔ c.serial.length ≤ serialWidth ∧ 0 ∉ c.serial)) ∧
    (∀ bs : List UInt8, blockSize ≤ bs.length →
      (encode <$> decode bs = .ok (bs.take blockSize) ↔
        (∀ x ∈ ((bs.drop 4).take serialWidth).dropWhile (· != 0), x = 0) ∧ bs.getD 20 0 ≤ 1)) ∧
    ∀ bs : List UInt8, bs.length < blockSize →
      decode bs = .error (.configurationShort bs.length) :=
  ⟨fun c => ⟨length_encode c, decode_encode_iff c⟩, fun _ h => encode_decode_iff h,
    fun _ h => decode_short h⟩

/-- The default configuration comes back from its block; a block whose serial field has a byte
after its NUL is not written back as it was; 21 bytes are refused. -/
theorem configuration_block_codec_cases :
    decode DeviceConfig.default.encode = .ok DeviceConfig.default ∧
      encode <$> decode ([2, 2, 3, 0, 65, 0, 66] ++ List.replicate 15 0) ≠
        .ok ([2, 2, 3, 0, 65, 0, 66] ++ List.replicate 15 0) ∧
      decode (List.replicate 21 0) = .error (.configurationShort 21) := by
  refine ⟨(configuration_block_codec.1 _).2.2 ⟨by decide, by decide⟩, fun h => ?_,
    configuration_block_codec.2.2 _ (by decide)⟩
  have hblock := (configuration_block_codec.2.1
    ([2, 2, 3, 0, 65, 0, 66] ++ List.replicate 15 0) (by decide)).1
  rw [List.take_of_length_le (by decide)] at hblock
  exact absurd (hblock h).1 (by decide)

end DeviceConfig

end DepthRig
