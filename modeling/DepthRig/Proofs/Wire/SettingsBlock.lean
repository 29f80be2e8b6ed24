import Mathlib
import DepthRig.Proofs.Wire.CountedLists
import DepthRig.Proofs.Wire.Configuration

/-!
# The settings block read back

The settings block is `51 + 68 n` bytes for `n` markers, three of its fields one-byte flags.
A block written for settings reads back bit for bit, and on a stream a block within the list
limit is read whole while a longer one is refused after its length. Conversely bytes that
decode begin with the block written for what they decode to exactly when their flag bytes
are 0 or 1.
-/

namespace DepthRig.Wire

variable {α : Type}

namespace Decode

/-- A buffer reader that takes the writing of what it reads: whenever it reads a value, the
bytes it took are that value's writing. -/
def ReadsBack (d : Decode α) (enc : α → List UInt8) : Prop :=
  ∀ {c c' : Cursor} {a : α}, d.runOn c = (.ok a, c') → c.rest = enc a ++ c'.rest

/-- A reader that only returns a value returns it where it started. -/
theorem eq_of_runOn_pure {a b : α} {c c' : Cursor}
    (h : (pure a : Decode α).runOn c = (.ok b, c')) : a = b ∧ c = c' := by
  simpa using h

/-- A field taken whole and mapped by a function that the writer undoes. -/
theorem readsBack_field_map {n : Nat} {f : List UInt8 → α} {enc : α → List UInt8}
    (hf : ∀ bs, bs.length = n → enc (f bs) = bs) :
    (field n >>= fun bs => pure (f bs)).ReadsBack enc := by
  intro c c' a h
  rw [runOn_field_bind] at h
  split_ifs at h with hn
  · obtain ⟨rfl, rfl⟩ := eq_of_runOn_pure h
    rw [hf _ (by simp [hn])]
    exact (List.take_append_drop n c.rest).symm
  · simp at h

/-- `n` values read one after another take their writings one after another. -/
theorem ReadsBack.times {d : Decode α} {enc : α → List UInt8} (hd : d.ReadsBack enc)
    (n : Nat) : (times n d).ReadsBack (·.flatMap enc) := by
  induction n with
  | zero =>
    intro c c' a h
    rw [Wire.times] at h
    obtain ⟨rfl, rfl⟩ := eq_of_runOn_pure h
    rfl
  | succ n ih =>
    intro c c' a h
    rw [Wire.times] at h
    obtain ⟨x, c₁, hx, h⟩ := runOn_bind_eq_ok h
    obtain ⟨xs, c₂, hxs, h⟩ := runOn_bind_eq_ok h
    obtain ⟨rfl, rfl⟩ := eq_of_runOn_pure h
    dsimp only at ih ⊢
    rw [hd hx, ih hxs, List.flatMap_cons, List.append_assoc]

/-- `n` values read one after another are `n` values. -/
theorem length_of_runOn_times {d : Decode α} {n : Nat} {c c' : Cursor} {xs : List α}
    (h : (times n d).runOn c = (.ok xs, c')) : xs.length = n := by
  induction n generalizing c c' xs with
  | zero =>
    rw [Wire.times] at h
    obtain ⟨rfl, -⟩ := eq_of_runOn_pure h
    rfl
  | succ n ih =>
    rw [Wire.times] at h
    obtain ⟨x, c₁, -, h⟩ := runOn_bind_eq_ok h
    obtain ⟨ys, c₂, hys, h⟩ := runOn_bind_eq_ok h
    obtain ⟨rfl, -⟩ := eq_of_runOn_pure h
    rw [List.length_cons, ih hys]

theorem readsBack_single : (single field).ReadsBack putSingle :=
  readsBack_field_map fun _ h => by simp [putSingle, putU32_u32OfBytes h]

theorem readsBack_i32 : (i32 field).ReadsBack putI32 :=
  readsBack_field_map fun _ h => putI32_i32OfBytes h

theorem readsBack_u8 : (u8 field).ReadsBack fun b => [b] := by
  unfold u8
  exact @readsBack_field_map UInt8 1 (fun bs => bs.headD 0) (fun b => [b]) fun bs h => by
    obtain ⟨b, rfl⟩ := List.length_eq_one_iff.mp h
    rfl

/-- A flag read from a buffer takes one byte, and is whether that byte is not zero. -/
theorem exists_byte_of_runOn_flag {c c' : Cursor} {v : Bool}
    (h : (flag field).runOn c = (.ok v, c')) : ∃ x, c.rest = x :: c'.rest ∧ v = (x != 0) := by
  obtain ⟨x, c₁, hx, h⟩ := runOn_bind_eq_ok h
  obtain ⟨rfl, rfl⟩ := eq_of_runOn_pure h
  exact ⟨x, readsBack_u8 hx, rfl⟩

end Decode

end DepthRig.Wire

namespace DepthRig

open Wire Decode

namespace Settings

/-- Sixteen singles, looked up by position, are the pose they were read into. -/
theorem toList_ofFn_getD {vs : List Single} (h : vs.length = 16) :
    (Vector.ofFn fun i : Fin 16 => vs.getD i.val .zero).toList = vs := by
  apply List.ext_getElem (by simp [h])
  intro i h₁ h₂
  simp [List.getD_eq_getElem?_getD, List.getElem?_eq_getElem h₂]

theorem readsBack_markerReader : markerReader.ReadsBack markerBytes := by
  intro c c' m h
  obtain ⟨vs, c₁, hvs, h⟩ := runOn_bind_eq_ok h
  obtain ⟨id, c₂, hid, h⟩ := runOn_bind_eq_ok h
  obtain ⟨rfl, rfl⟩ := eq_of_runOn_pure h
  rw [(readsBack_single.times 16) hvs, readsBack_i32 hid, markerBytes,
    toList_ofFn_getD (length_of_runOn_times hvs), List.append_assoc]

theorem length_encodeFlags (s : Settings) (x₁ x₂ x₃ : UInt8) :
    (s.encodeFlags x₁ x₂ x₃).length = 51 + 68 * s.markers.length := by
  simp only [encodeFlags, List.length_append, length_flagsPrefix, List.length_cons,
    length_putI32, List.length_nil]
  omega

/-- Two writings of one block differ at most in their flag bytes. -/
theorem encodeFlags_inj (s : Settings) {x₁ x₂ x₃ y₁ y₂ y₃ : UInt8} :
    s.encodeFlags x₁ x₂ x₃ = s.encodeFlags y₁ y₂ y₃ ↔ x₁ = y₁ ∧ x₂ = y₂ ∧ x₃ = y₃ := by
  simp [encodeFlags]

/-- Six singles are the two corner points they were read into. -/
theorem toList_ofList_take_drop {b : List Single} (h : b.length = 6) :
    (Point3.ofList (b.take 3)).toList ++ (Point3.ofList (b.drop 3)).toList = b := by
  rcases b with _ | ⟨b₀, _ | ⟨b₁, _ | ⟨b₂, _ | ⟨b₃, _ | ⟨b₄, _ | ⟨b₅, _ | ⟨b₆, rest⟩⟩⟩⟩⟩⟩⟩
  all_goals simp only [List.length_cons, List.length_nil] at h
  any_goals omega
  rfl

/-- Bytes that the settings reader reads begin with the block written for what it read, each
flag as the byte it was read from. -/
theorem runOn_reader_eq_ok {c c' : Cursor} {s : Settings} (h : reader.runOn c = (.ok s, c')) :
    ∃ x₁ x₂ x₃, c.rest = s.encodeFlags x₁ x₂ x₃ ++ c'.rest ∧
      s.autoExposure = (x₁ != 0) ∧ s.autoWhiteBalance = (x₂ != 0) ∧
      s.previewEnabled = (x₃ != 0) := by
  unfold reader at h
  obtain ⟨b, c₁, hb, h⟩ := runOn_bind_eq_ok h
  obtain ⟨n, c₂, hn, h⟩ := runOn_bind_eq_ok h
  rw [runOn_remaining_bind] at h
  split at h
  · simp at h
  rename_i hfit
  obtain ⟨ms, c₃, hms, h⟩ := runOn_bind_eq_ok h
  obtain ⟨cl, c₄, hcl, h⟩ := runOn_bind_eq_ok h
  obtain ⟨ae, c₅, hae, h⟩ := runOn_bind_eq_ok h
  obtain ⟨es, c₆, hes, h⟩ := runOn_bind_eq_ok h
  obtain ⟨awb, c₇, hawb, h⟩ := runOn_bind_eq_ok h
  obtain ⟨k, c₈, hk, h⟩ := runOn_bind_eq_ok h
  obtain ⟨em, c₉, hem, h⟩ := runOn_bind_eq_ok h
  obtain ⟨ef, c₁₀, hef, h⟩ := runOn_bind_eq_ok h
  obtain ⟨pe, c₁₁, hpe, h⟩ := runOn_bind_eq_ok h
  obtain ⟨rfl, rfl⟩ := eq_of_runOn_pure h
  obtain ⟨x₁, hx₁, rfl⟩ := exists_byte_of_runOn_flag hae
  obtain ⟨x₂, hx₂, rfl⟩ := exists_byte_of_runOn_flag hawb
  obtain ⟨x₃, hx₃, rfl⟩ := exists_byte_of_runOn_flag hpe
  refine ⟨x₁, x₂, x₃, ?_, rfl, rfl, rfl⟩
  -- the count passed its check, so it is the number of markers read, and is written back
  have hnonneg : 0 ≤ n.toInt := by
    simp only [Bool.or_eq_true, decide_eq_true_eq, not_or] at hfit
    omega
  have hcount : putCount ms.length = putI32 n := by
    rw [length_of_runOn_times hms, putCount, Int.toNat_of_nonneg hnonneg, Int32.ofInt_toInt]
  rw [(readsBack_single.times 6) hb, readsBack_i32 hn, (readsBack_markerReader.times _) hms,
    readsBack_i32 hcl, hx₁, readsBack_i32 hes, hx₂, readsBack_i32 hk, readsBack_i32 hem,
    readsBack_i32 hef, hx₃]
  simp only [encodeFlags, flagsPrefix, toList_ofList_take_drop (length_of_runOn_times hb),
    hcount, List.append_assoc, List.cons_append, List.nil_append]

/-- What a buffer decodes to is what the settings reader read from its start. -/
theorem runOn_reader_of_decode {b : List UInt8} {s : Settings} (h : decode b = .ok s) :
    (reader.runOn (Cursor.start b)).1 = .ok s := by
  unfold decode at h
  split at h
  · rename_i s' hrun
    rw [hrun, Except.ok.inj h]
  · cases h
  · cases h

/-- The flag bytes of a block with `n` markers stand at `32 + 68 n`, `37 + 68 n` and
`50 + 68 n`. -/
theorem getD_encodeFlags (s : Settings) (x₁ x₂ x₃ : UInt8) (rest : List UInt8) :
    (s.encodeFlags x₁ x₂ x₃ ++ rest).getD (32 + 68 * s.markers.length) 0 = x₁ ∧
      (s.encodeFlags x₁ x₂ x₃ ++ rest).getD (37 + 68 * s.markers.length) 0 = x₂ ∧
      (s.encodeFlags x₁ x₂ x₃ ++ rest).getD (50 + 68 * s.markers.length) 0 = x₃ := by
  -- past the prefix, the bytes are counted from the first flag
  have hafter : ∀ k, (s.encodeFlags x₁ x₂ x₃ ++ rest).getD (32 + 68 * s.markers.length + k) 0 =
      (x₁ :: (putI32 s.exposureStep ++ x₂ :: (putI32 s.kelvin ++ putI32 s.exportMode.code
        ++ putI32 s.extrinsicsFormat ++ [x₃])) ++ rest).getD k 0 := by
    intro k
    rw [encodeFlags, List.append_assoc, ← length_flagsPrefix,
      List.getD_append_right _ _ _ _ (by omega), Nat.add_sub_cancel_left]
  have h₂ := hafter 5
  have h₃ := hafter 18
  rw [show 32 + 68 * s.markers.length + 5 = 37 + 68 * s.markers.length by omega] at h₂
  rw [show 32 + 68 * s.markers.length + 18 = 50 + 68 * s.markers.length by omega] at h₃
  refine ⟨by simpa using hafter 0, ?_, ?_⟩
  · rw [h₂]
    simp
  · rw [h₃]
    simp [List.getElem?_append_right]

/-- Bytes that decode to settings begin with the block written for them exactly when the
three flag bytes they hold are 0 or 1. -/
theorem encode_eq_take_iff {b : List UInt8} {s : Settings} (h : decode b = .ok s) :
    s.encode = b.take (51 + 68 * s.markers.length) ↔
      b.getD (32 + 68 * s.markers.length) 0 ≤ 1 ∧ b.getD (37 + 68 * s.markers.length) 0 ≤ 1 ∧
        b.getD (50 + 68 * s.markers.length) 0 ≤ 1 := by
  obtain ⟨c', hrun⟩ : ∃ c', reader.runOn (Cursor.start b) = (.ok s, c') :=
    ⟨_, Prod.ext (runOn_reader_of_decode h) rfl⟩
  obtain ⟨x₁, x₂, x₃, hrest, h₁, h₂, h₃⟩ := runOn_reader_eq_ok hrun
  change b = _ at hrest
  obtain ⟨g₁, g₂, g₃⟩ := getD_encodeFlags s x₁ x₂ x₃ c'.rest
  rw [hrest, g₁, g₂, g₃, List.take_left' (length_encodeFlags s x₁ x₂ x₃), encode_eq_encodeFlags,
    encodeFlags_inj, h₁, h₂, h₃, ← flag_byte_eq_iff, ← flag_byte_eq_iff, ← flag_byte_eq_iff]

/-- The block is as long as `blockSize` says for its marker count: 51 bytes and 68 per
marker. -/
theorem length_encode_eq_blockSize (s : Settings) :
    blockSize s.markers.length = s.encode.length := by
  rw [length_encode, blockSize]
  push_cast
  omega

/-- Without markers the block is 51 bytes, not 55: 55 is its size with the length written
before it. -/
theorem settings_block_without_markers_is_fifty_one_bytes :
    blockSize 0 = 51 ∧
      (default : Settings).encode.length ≠ 55 + 68 * (default : Settings).markers.length := by
  rw [length_encode]
  decide

/-- The length-prefixed block is the block and four bytes. -/
theorem length_encodePrefixed (s : Settings) : s.encodePrefixed.length = 4 + s.encode.length := by
  simp [encodePrefixed, putU32]

/-- A length above `2 ^ 20` that its 32-bit word still holds is out of the list bounds. -/
theorem count_out_of_range {len : Nat} (hbig : maxListEntries < len) (hword : len < 2 ^ 32) :
    (Int32.ofInt len).toInt < 0 ∨ maxListEntries < (Int32.ofInt len).toInt := by
  have hmax : maxListEntries = 1048576 := rfl
  have hsize : ((Int32.size : Nat) : Int) = 4294967296 := rfl
  rw [hmax] at hbig ⊢
  rw [Int32.toInt_ofInt, Int.bmod, hsize]
  split <;> omega

/-- A block longer than `2 ^ 20` bytes is refused on a stream as soon as the four bytes of its
length are read. -/
theorem decides_streamReader_refuses {o : Nat} (s : Settings)
    (hbig : maxListEntries < s.encode.length) (hword : s.encode.length < 2 ^ 32) :
    streamReader.Decides o (s.encodePrefixed.take 4)
      (.error (.wire (.listLength (Int32.ofInt s.encode.length).toInt))) := by
  have hlen : (putCount s.encode.length).length = 4 := length_putCount _
  have hread : i32OfBytes (putCount s.encode.length) = Int32.ofInt s.encode.length :=
    i32OfBytes_putI32 _
  rw [encodePrefixed, putU32_ofNat, List.take_left' hlen]
  have h : listCount.Decides o (putCount s.encode.length)
      (.error (.wire (.listLength (i32OfBytes (putCount s.encode.length)).toInt))) :=
    decides_listCount_refuses hlen (by rw [hread]; exact count_out_of_range hbig hword)
  rw [hread] at h
  exact Decides.bind_error h

/-- The settings block codec: the block is `51 + 68 n` bytes for `n` markers, the size
`blockSize` gives; settings whose marker count fits its word read back from their block bit for
bit; on a stream the length-prefixed block of at most `2 ^ 20` bytes reads back whole, and a
longer one whose length fits its word is refused as a malformed frame after the four bytes of
its length; and bytes that decode to settings begin with the block written for them exactly
when their three flag bytes are 0 or 1. -/
theorem settings_block_codec (o : Nat) :
    (∀ s : Settings, s.encode.length = 51 + 68 * s.markers.length ∧
      blockSize s.markers.length = s.encode.length) ∧
    (∀ s : Settings, s.markers.length < 2 ^ 31 → decode s.encode = .ok s) ∧
    (∀ s : Settings, s.encode.length ≤ maxListEntries →
      streamReader.Decides o s.encodePrefixed (.ok s) ∧
        s.encodePrefixed.length = 4 + s.encode.length) ∧
    (∀ s : Settings, maxListEntries < s.encode.length → s.encode.length < 2 ^ 32 →
      streamReader.Decides o (s.encodePrefixed.take 4)
          (.error (.wire (.listLength (Int32.ofInt s.encode.length).toInt))) ∧
        (WireError.listLength (Int32.ofInt s.encode.length).toInt).isMalformed = true) ∧
    ∀ (b : List UInt8) (s : Settings), decode b = .ok s →
      (s.encode = b.take (51 + 68 * s.markers.length) ↔
        b.getD (32 + 68 * s.markers.length) 0 ≤ 1 ∧ b.getD (37 + 68 * s.markers.length) 0 ≤ 1 ∧
          b.getD (50 + 68 * s.markers.length) 0 ≤ 1) :=
  ⟨fun s => ⟨length_encode s, length_encode_eq_blockSize s⟩, fun s hm => decode_encode s hm,
    fun s hs => ⟨decides_streamReader s hs, length_encodePrefixed s⟩,
    fun s hbig hword => ⟨decides_streamReader_refuses s hbig hword, isMalformed_listLength _⟩,
    fun _ _ h => encode_eq_take_iff h⟩

/-- Settings with one marker read back from their 119-byte block, and from a stream in 123
bytes; with 2 as its first flag byte the block still decodes to them but is not the block
written back; and settings with 15421 markers, 1048679 bytes, are refused after the four bytes
of their length. -/
theorem settings_block_codec_samples :
    let s : Settings :=
      { (default : Settings) with
        markers := [⟨7, default⟩], compressionLevel := 3, autoExposure := true, kelvin := 5600,
        exportMode := ExportMode.rawFrames, previewEnabled := true }
    let big : Settings := { (default : Settings) with markers := List.replicate 15421 default }
    s.encode.length = 119 ∧ decode s.encode = .ok s ∧
      streamReader.Decides 0 s.encodePrefixed (.ok s) ∧ s.encodePrefixed.length = 123 ∧
      decode (s.encodeFlags 2 0 1) = .ok s ∧ s.encode ≠ (s.encodeFlags 2 0 1).take 119 ∧
      streamReader.Decides 0 (big.encodePrefixed.take 4)
        (.error (.wire (.listLength 1048679))) := by
  intro s big
  have hcodec := settings_block_codec 0
  have hlen : s.encode.length = 119 := by rw [(hcodec.1 s).1]; rfl
  have hbig : big.encode.length = 1048679 := by rw [(hcodec.1 big).1, List.length_replicate]
  have hflags : decode (s.encodeFlags 2 0 1) = .ok s := decode_encodeFlags s (by decide) 2 0 1
  obtain ⟨hread, hprefixed⟩ := hcodec.2.2.1 s (by rw [hlen]; decide)
  -- the first flag byte, 2, is not one the writer writes
  have hnot : s.encode ≠ (s.encodeFlags 2 0 1).take (51 + 68 * s.markers.length) := by
    rw [Ne, hcodec.2.2.2.2 _ s hflags]
    decide
  have hrefused := (hcodec.2.2.2.1 big (by rw [hbig]; decide) (by rw [hbig]; decide)).1
  rw [hbig] at hrefused
  exact ⟨hlen, hcodec.2.1 s (by decide), hread, by rw [hprefixed, hlen], hflags, hnot, hrefused⟩

end Settings

end DepthRig
