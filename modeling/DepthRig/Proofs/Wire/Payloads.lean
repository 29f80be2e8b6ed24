import DepthRig.Proofs.Wire.Stream
import DepthRig.Wire.Settings
import DepthRig.Wire.Device
import DepthRig.Wire.Calibration

/-!
# Payloads read back whole

Every payload has a writer on one side and a reader on the other, and the reader takes
exactly the bytes the writer wrote, whatever follows them (`Decode.Decides`). This holds of
the payloads behind the server's commands and the sensor's messages within the bounds of
their counts; each proof follows its writer's layout field by field.
-/

namespace DepthRig.Wire

variable {α β : Type} {o : Nat}

/-! ### Readers that take given bytes -/

namespace Decode.Decides

protected theorem pure (a : α) : (pure a : Decode α).Decides o [] (.ok a) :=
  fun more closed => by simp

/-- Readers in a row take the bytes of the first, then those of the second. -/
protected theorem bind {d : Decode α} {k : α → Decode β} {t₁ t₂ : List UInt8} {a : α}
    {r : Except ReadStop β} (hd : d.Decides o t₁ (.ok a))
    (hk : (k a).Decides (o + t₁.length) t₂ r) : (d >>= k).Decides o (t₁ ++ t₂) r :=
  Decides.append (fun more closed => by rw [runOn_bind, hd more closed]) hk

/-- A reader followed by one that takes nothing takes the bytes of the first. -/
theorem bind_nil {d : Decode α} {k : α → Decode β} {t : List UInt8} {a : α}
    {r : Except ReadStop β} (hd : d.Decides o t (.ok a)) (hk : (k a).Decides (o + t.length) [] r) :
    (d >>= k).Decides o t r := by
  simpa using Decides.bind hd hk

/-- A reader whose value is then mapped takes the same bytes. -/
theorem bind_pure {d : Decode α} {f : α → β} {t : List UInt8} {a : α} {b : β}
    (hd : d.Decides o t (.ok a)) (hb : f a = b) :
    (d >>= fun x => pure (f x)).Decides o t (.ok b) :=
  bind_nil hd (hb ▸ Decides.pure (f a))

/-- A reader followed by one that reads nothing takes the bytes of the first. -/
theorem bind_pure_exists {d : Decode α} {k : α → Decode β} {t : List UInt8} {a : α}
    (hd : d.Decides o t (.ok a)) (hk : ∃ b, k a = pure b) : ∃ b, (d >>= k).Decides o t (.ok b) := by
  obtain ⟨b, hb⟩ := hk
  exact ⟨b, bind_nil hd (hb ▸ Decides.pure b)⟩

/-- A reader that looks at how many bytes remain comes to the same outcome whatever follows
its bytes, when it does so for every count at least theirs. -/
theorem remaining_bind {k : Nat → Decode β} {t : List UInt8} {r : Except ReadStop β}
    (hk : ∀ m, t.length ≤ m → (k m).Decides o t r) : (remaining >>= k).Decides o t r := by
  intro more closed
  rw [runOn_remaining_bind]
  exact hk _ (by simp) more closed

end Decode.Decides

/-- A stream reader that comes to a settled outcome on `t` having taken all of it decides
that outcome on `t`. -/
theorem Decode.Steady.decides_of_runOn {P : α → Prop} {d : Decode α}
    (hd : d.Steady P) {t : List UInt8} {closed : Bool} {r : Except ReadStop α}
    {c' : Cursor} (h : d.runOn ⟨t, o, closed⟩ = (r, c')) (hc : c'.rest = []) (hr : Decided r) :
    d.Decides o t r := by
  obtain ⟨taken, more, hrest, hdec, heq⟩ := hd.runOn_eq ⟨t, o, closed⟩ (by rw [h]; exact hr)
  rw [h] at hdec heq
  obtain rfl : more = [] := by rw [← hc, (Prod.mk.inj heq).2]
  have ht : t = taken := by simpa using hrest
  rw [ht]
  exact hdec

open Decode

/-- A way of taking bytes that takes any `n` bytes at the front whole: from a buffer or
from a stream alike. -/
def Takes (take : Take) : Prop :=
  ∀ {o n : Nat} {bs : List UInt8}, bs.length = n → (take n).Decides o bs (.ok bs)

theorem takes_field : Takes field := fun hbs more closed => by
  rw [runOn_field_append hbs, hbs]

theorem takes_readFull : Takes readFull := fun hbs more closed => by
  rw [runOn_readFull_append hbs, hbs]

/-! ### Scalars -/

namespace Takes

variable {take : Take}

theorem u8 (ht : Takes take) (b : UInt8) : (u8 take).Decides o [b] (.ok b) :=
  Decides.bind_pure (ht rfl) rfl

theorem i32 (ht : Takes take) (v : Int32) : (i32 take).Decides o (putI32 v) (.ok v) :=
  Decides.bind_pure (ht (length_putI32 v)) (i32OfBytes_putI32 v)

theorem count (ht : Takes take) (n : Nat) :
    (Wire.i32 take).Decides o (putCount n) (.ok (Int32.ofInt n)) :=
  ht.i32 _

theorem single (ht : Takes take) (v : Single) : (single take).Decides o (putSingle v) (.ok v) :=
  Decides.bind_pure (ht (length_putSingle v)) (by simp [putSingle])

/-- A flag is read from any byte, as whether the byte is not zero. -/
theorem flag_byte (ht : Takes take) (x : UInt8) : (flag take).Decides o [x] (.ok (x != 0)) :=
  Decides.bind_pure (ht.u8 x) rfl

theorem flag (ht : Takes take) (v : Bool) : (flag take).Decides o (putBool v) (.ok v) := by
  cases v
  · exact ht.flag_byte 0
  · exact ht.flag_byte 1

theorem u64 (ht : Takes take) (v : UInt64) : (u64 take).Decides o (putU64 v) (.ok v) :=
  Decides.bind_pure (ht (by simp [putU64])) (by simp [u64OfBytes, putU64, getLE_putLE])

end Takes

/-- `n` values read one after another take their writings one after another. -/
theorem decides_times {d : Decode α} {enc : α → List UInt8}
    (hd : ∀ o a, d.Decides o (enc a) (.ok a)) (vs : List α) {n : Nat} (hn : vs.length = n) :
    (times n d).Decides o (vs.flatMap enc) (.ok vs) := by
  subst hn
  induction vs generalizing o with
  | nil => exact Decides.pure []
  | cons a vs ih =>
    rw [List.flatMap_cons]
    exact Decides.bind (hd o a) (Decides.bind_pure ih rfl)

/-- A list count written for at most `2 ^ 20` entries is read back as that count. -/
theorem decides_listCount {n : Nat} (hn : n ≤ maxListEntries) :
    listCount.Decides o (putCount n) (.ok n) := by
  have hlimit : maxListEntries < 2 ^ 31 := by decide
  have hcount : (Int32.ofInt n).toInt = n := Int32.toInt_ofInt_of_le (by omega) (by omega)
  refine Decides.bind_nil (takes_readFull.count n) ?_
  -- a count within the limit passes the check
  rw [if_neg (by simp only [hcount, Bool.or_eq_true, decide_eq_true_eq]; omega), hcount,
    Int.toNat_natCast]
  exact Decides.pure n

/-- A length written as a 32-bit word is the same bytes as the count. -/
theorem putU32_ofNat (n : Nat) : putU32 (UInt32.ofNat n) = putCount n := by
  simp only [putCount, putI32]
  congr 1

/-- Words of `k` bytes laid end to end, each taken as its bytes. -/
theorem length_flatMap_of_length {enc : α → List UInt8} {k : Nat} (henc : ∀ a, (enc a).length = k)
    (vs : List α) : (vs.flatMap enc).length = k * vs.length := by
  induction vs with
  | nil => simp
  | cons a vs ih => simp [henc, ih, Nat.mul_succ, Nat.add_comm]

end DepthRig.Wire

/-! ### What the server writes behind its commands -/

namespace DepthRig

open Wire Decode

namespace Settings

/-- A settings block is 51 bytes and 68 per marker. -/
theorem length_encode (s : Settings) : s.encode.length = 51 + 68 * s.markers.length := by
  simp [Settings.encode, Point3.toList, List.length_flatMap, List.map_const', List.sum_replicate]
  omega

/-- A marker record: its sixteen pose entries, then its id. -/
def markerBytes (m : MarkerPose) : List UInt8 := m.pose.toList.flatMap putSingle ++ putI32 m.id

theorem decides_markerReader (m : MarkerPose) : markerReader.Decides o (markerBytes m) (.ok m) := by
  refine Decides.bind (decides_times (fun _ v => takes_field.single v) m.pose.toList
    (by simp)) (Decides.bind_pure (takes_field.i32 m.id) ?_)
  -- the pose comes back entry by entry
  simp

/-- The block up to its first flag: the corners, the markers and the compression level. -/
def flagsPrefix (s : Settings) : List UInt8 :=
  (s.minBounds.toList ++ s.maxBounds.toList).flatMap putSingle ++ putCount s.markers.length
    ++ s.markers.flatMap markerBytes ++ putI32 s.compressionLevel

/-- The block with each of the three flags written as the given byte. -/
def encodeFlags (s : Settings) (x₁ x₂ x₃ : UInt8) : List UInt8 :=
  s.flagsPrefix ++ x₁ :: (putI32 s.exposureStep ++ x₂ :: (putI32 s.kelvin
    ++ putI32 s.exportMode.code ++ putI32 s.extrinsicsFormat ++ [x₃]))

theorem length_flagsPrefix (s : Settings) :
    s.flagsPrefix.length = 32 + 68 * s.markers.length := by
  have hmarkers : (s.markers.flatMap markerBytes).length = 68 * s.markers.length :=
    length_flatMap_of_length (fun m => by simp [markerBytes]) _
  simp only [flagsPrefix, List.length_append, List.length_flatMap, hmarkers, length_putCount,
    length_putI32]
  simp [Point3.toList]
  omega

/-- The block written for settings has each flag as the byte 1 or 0. -/
theorem encode_eq_encodeFlags (s : Settings) :
    s.encode = s.encodeFlags (if s.autoExposure then 1 else 0)
      (if s.autoWhiteBalance then 1 else 0) (if s.previewEnabled then 1 else 0) := by
  simp [encode, encodeFlags, flagsPrefix, putBool]
  rfl

/-- The settings reader takes a written block whole, whatever bytes stand for its three flags,
and reads back the settings written, every single bit for bit, with each flag read as whether
its byte is not zero, when the marker count fits its word. -/
theorem decides_reader_encodeFlags (s : Settings) (hm : s.markers.length < 2 ^ 31)
    (x₁ x₂ x₃ : UInt8) :
    reader.Decides o (s.encodeFlags x₁ x₂ x₃) (.ok { s with
      autoExposure := x₁ != 0, autoWhiteBalance := x₂ != 0, previewEnabled := x₃ != 0 }) := by
  have hcount : (Int32.ofInt s.markers.length).toInt = s.markers.length :=
    Int32.toInt_ofInt_of_le (by omega) (by omega)
  have hlen : (s.markers.flatMap markerBytes).length = 68 * s.markers.length :=
    length_flatMap_of_length (fun m => by simp [markerBytes]) _
  simp only [encodeFlags, flagsPrefix, putCount, List.append_assoc]
  unfold reader
  refine Decides.bind (decides_times (fun _ v => takes_field.single v) _ (by rfl)) ?_
  refine Decides.bind (takes_field.i32 _) (Decides.remaining_bind fun rem hrem => ?_)
  -- the marker records are all there, so the count passes the check
  simp only [List.length_append, hlen, length_putI32, List.length_cons] at hrem
  rw [if_neg (by simp only [hcount, Bool.or_eq_true, decide_eq_true_eq]; omega), hcount,
    Int.toNat_natCast]
  refine Decides.bind (decides_times (fun _ m => decides_markerReader m) s.markers rfl) ?_
  refine Decides.bind (takes_field.i32 _) (Decides.bind (takes_field.flag_byte _) ?_)
  refine Decides.bind (takes_field.i32 _) (Decides.bind (takes_field.flag_byte _) ?_)
  refine Decides.bind (takes_field.i32 _) (Decides.bind (takes_field.i32 _) ?_)
  refine Decides.bind (takes_field.i32 _) (Decides.bind_pure (takes_field.flag_byte _) ?_)
  cases s
  simp [Point3.ofList, Point3.toList]

/-- A flag written as the byte 1 or 0 is read back as itself. -/
@[simp] theorem flag_byte_ne_zero (v : Bool) : ((if v then 1 else 0 : UInt8) != 0) = v := by
  cases v <;> rfl

/-- The settings reader takes a written block whole and reads back the settings written. -/
theorem decides_reader (s : Settings) (hm : s.markers.length < 2 ^ 31) :
    reader.Decides o s.encode (.ok s) := by
  have h := decides_reader_encodeFlags (o := o) s hm (if s.autoExposure then 1 else 0)
    (if s.autoWhiteBalance then 1 else 0) (if s.previewEnabled then 1 else 0)
  rw [← encode_eq_encodeFlags] at h
  simpa using h

/-- Decoding a written block gives back the settings written. -/
theorem decode_encode (s : Settings) (hm : s.markers.length < 2 ^ 31) :
    decode s.encode = .ok s := by
  have h := decides_reader (o := 0) s hm [] true
  rw [List.append_nil] at h
  simp [decode, Cursor.start, h]

/-- Decoding a block with any bytes for its flags gives back the settings written, each flag
read as whether its byte is not zero. -/
theorem decode_encodeFlags (s : Settings) (hm : s.markers.length < 2 ^ 31) (x₁ x₂ x₃ : UInt8) :
    decode (s.encodeFlags x₁ x₂ x₃) = .ok { s with
      autoExposure := x₁ != 0, autoWhiteBalance := x₂ != 0, previewEnabled := x₃ != 0 } := by
  have h := decides_reader_encodeFlags (o := 0) s hm x₁ x₂ x₃ [] true
  rw [List.append_nil] at h
  simp [decode, Cursor.start, h]

/-- The length-prefixed block within the list limit is read from a stream whole, as the
settings written. -/
theorem decides_streamReader (s : Settings) (hs : s.encode.length ≤ maxListEntries) :
    streamReader.Decides o s.encodePrefixed (.ok s) := by
  have hm : s.markers.length < 2 ^ 31 := by
    have hlimit : maxListEntries < 2 ^ 31 := by decide
    rw [length_encode] at hs
    omega
  rw [encodePrefixed, putU32_ofNat]
  refine Decides.bind (decides_listCount hs) (Decides.bind_nil (takes_readFull rfl) ?_)
  rw [decode_encode s hm]
  exact Decides.pure s

end Settings

namespace DeviceConfig

/-- A configuration block is 22 bytes, whatever the serial. -/
theorem length_encode (c : DeviceConfig) : c.encode.length = blockSize := by
  simp only [encode, List.length_append, List.length_cons, List.length_take,
    List.length_replicate, List.length_nil, blockSize, serialWidth]
  omega

/-- Any 22 bytes decode to a configuration. -/
theorem decode_of_length {bs : List UInt8} (h : blockSize ≤ bs.length) :
    ∃ c, decode bs = .ok c :=
  ⟨_, if_neg (by omega)⟩

end DeviceConfig

/-- A world calibration is 48 bytes. -/
theorem length_encodeWorldCalibration (r : Rotation) (t : Point3) :
    (encodeWorldCalibration r t).length = worldCalibrationSize := by
  simp [encodeWorldCalibration, Point3.toList, List.length_flatMap, List.map_const',
    worldCalibrationSize]

/-- Any 48 bytes decode to a world calibration. -/
theorem decodeWorldCalibration_of_length {bs : List UInt8} (h : worldCalibrationSize ≤ bs.length) :
    ∃ v, decodeWorldCalibration bs = .ok v :=
  ⟨_, if_neg (by omega)⟩

/-- A directory path within the list limit is read back whole. -/
theorem decides_directoryReader (path : List UInt8) (hp : path.length ≤ maxListEntries) :
    directoryReader.Decides o (encodeDirectory path) (.ok path) :=
  Decides.bind (decides_listCount hp) (takes_readFull rfl)

namespace PostSyncList

/-- Words of four bytes laid end to end are read back one by one. -/
theorem words_flatMap (vs : List Int32) : reader.words (vs.flatMap putI32) vs.length = vs := by
  induction vs with
  | nil => rfl
  | cons v vs ih =>
    rw [List.flatMap_cons, List.length_cons, reader.words, List.take_left' (length_putI32 v),
      List.drop_left' (length_putI32 v), i32OfBytes_putI32, ih]

/-- A relabelling within the list limit is read back whole, as written. -/
theorem decides_reader {p : PostSyncList} {bytes : List UInt8} (he : p.encode = .ok bytes)
    (hp : p.frameIds.length ≤ maxListEntries) : reader.Decides o bytes (.ok p) := by
  unfold encode at he
  split at he
  · cases he
  rename_i hlen
  have hsame : p.frameIds.length = p.syncedIds.length := by simpa using hlen
  obtain rfl : putCount p.frameIds.length ++ p.frameIds.flatMap putI32 ++
      p.syncedIds.flatMap putI32 = bytes := Except.ok.inj he
  have hfirst : (p.frameIds.flatMap putI32).length = 4 * p.frameIds.length :=
    length_flatMap_of_length length_putI32 _
  have hsecond : (p.syncedIds.flatMap putI32).length = 4 * p.frameIds.length := by
    rw [hsame]
    exact length_flatMap_of_length length_putI32 _
  rw [List.append_assoc]
  refine Decides.bind (decides_listCount hp) (Decides.bind (takes_readFull hfirst)
    (Decides.bind_pure (takes_readFull hsecond) ?_))
  rw [words_flatMap, hsame, words_flatMap]

end PostSyncList

/-! ### What the sensor writes behind its messages -/

namespace CalibrationRecord

/-- A calibration record is 52 bytes. -/
theorem length_encode (c : CalibrationRecord) : c.encode.length = size := by
  simp [encode, Point3.toList, List.length_flatMap, List.map_const', size]

/-- Any 52 bytes decode to a record. -/
theorem decode_of_length {bs : List UInt8} (h : size ≤ bs.length) : ∃ c, decode bs = .ok c :=
  ⟨_, if_neg (by omega)⟩

end CalibrationRecord

namespace TimestampList

/-- Records of `k` bytes laid end to end are split back into the records. -/
theorem records_flatMap {enc : α → List UInt8} {k : Nat} (henc : ∀ a, (enc a).length = k)
    (vs : List α) : reader.records k (vs.flatMap enc) vs.length = vs.map enc := by
  induction vs with
  | nil => rfl
  | cons v vs ih =>
    rw [List.flatMap_cons, List.length_cons, reader.records, List.take_left' (henc v),
      List.drop_left' (henc v), ih, List.map_cons]

/-- A timestamp list with at most `2 ^ 20` timestamps and frame numbers is read back whole,
as written. -/
theorem decides_reader (l : TimestampList) (ht : l.timestamps.length ≤ maxListEntries)
    (hn : l.frameNumbers.length ≤ maxListEntries) : reader.Decides o l.encode (.ok l) := by
  have hstamps : (l.timestamps.flatMap putU64).length = 8 * l.timestamps.length :=
    length_flatMap_of_length (fun v => by simp [putU64]) _
  have hnumbers : (l.frameNumbers.flatMap putI32).length = 4 * l.frameNumbers.length :=
    length_flatMap_of_length length_putI32 _
  simp only [encode, List.append_assoc]
  refine Decides.bind (decides_listCount ht) (Decides.bind (takes_readFull hstamps) ?_)
  refine Decides.bind (decides_listCount hn) (Decides.bind_pure (takes_readFull hnumbers) ?_)
  rw [records_flatMap (fun v => by simp [putU64]), records_flatMap length_putI32]
  cases l
  simp [u64OfBytes, putU64, getLE_putLE, Function.comp_def]

end TimestampList

end DepthRig
