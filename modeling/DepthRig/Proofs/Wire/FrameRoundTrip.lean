import DepthRig.Proofs.Wire.FrameRecords
import DepthRig.Proofs.Wire.Millimetres

/-!
# Frame payloads read back

The two directions of the frame codec undo each other. Writing what was read gives back
the bytes that were read, as long as every tracked byte was a boolean: a point record
comes back because every millimetre count survives the trip through metres, and a joint
record because its fields are kept as raw words. Reading what was written gives back the
frame as the wire carries it: colours padded with black, coordinates through whole
millimetres, bodies unchanged bit for bit.
-/

namespace DepthRig.Wire

/-! ### One record -/

/-- A record is its field of `k` bytes at `i` followed by everything after that field. -/
theorem take_append_drop_of_add_eq (r : List UInt8) {i k j : Nat} (h : i + k = j) :
    (r.drop i).take k ++ r.drop j = r.drop i := by
  rw [← h, ← List.drop_drop, List.take_append_drop]

/-- A field that ends the record is the rest of the record. -/
theorem take_drop_of_length {r : List UInt8} {i k : Nat} (h : r.length = i + k) :
    (r.drop i).take k = r.drop i :=
  List.take_of_length_le (by simp [h])

/-- A joint record written back is the record itself: its seven fields are raw words. -/
theorem encodeJoint_jointOfRecord {r : List UInt8} (hr : r.length = jointRecordSize) :
    encodeJoint (jointOfRecord r) = r := by
  have hlast : (r.drop 24).take 4 = r.drop 24 := take_drop_of_length hr
  simp (disch := simp [hr, jointRecordSize]) only [encodeJoint, jointOfRecord, putSingle,
    putI32_i32OfBytes, putU32_u32OfBytes]
  -- the fields fold back into the record from the last one
  simp (disch := omega) only [List.append_assoc, hlast, take_append_drop_of_add_eq,
    List.drop_zero, List.take_append_drop]

/-- A joint written and read back is the joint itself. -/
@[simp] theorem jointOfRecord_encodeJoint (j : Joint) : jointOfRecord (encodeJoint j) = j := by
  simp [jointOfRecord, encodeJoint, putSingle, List.drop_append, List.drop_eq_nil_of_le,
    List.take_of_length_le]

/-- The byte written for a tracked flag is the byte read, when that byte was a boolean. -/
theorem trackedByte_eq {t : UInt8} (ht : t ≤ 1) :
    (if (t != 0) = true then (1 : UInt8) else 0) = t := by
  have h : t.toNat ≤ 1 := UInt8.le_iff_toNat_le.mp ht
  rcases Nat.le_one_iff_eq_zero_or_eq_one.mp h with h0 | h1
  · have : t = 0 := UInt8.toNat_inj.mp h0
    subst this
    decide
  · have : t = 1 := UInt8.toNat_inj.mp h1
    subst this
    decide

/-- A point record written back at an index whose colour is the record's is the record:
the colour bytes are copied and each millimetre count survives the trip through metres. -/
theorem encodeVertex_vertexOfRecord {f : Frame} {i : Nat} {v : List UInt8}
    (hv : v.length = vertexRecordSize) (hc : f.colorAt i ⟨0, 0, 0⟩ = (vertexOfRecord v).1) :
    encodeVertex f i (vertexOfRecord v).2 = v := by
  have hlast : (v.drop 7).take 2 = v.drop 7 := take_drop_of_length hv
  simp (disch := simp [hv, vertexRecordSize]) only [encodeVertex, hc, vertexOfRecord,
    millimetresOfMetres_metresOfMillimetres, putI16_i16OfBytes]
  simp (disch := omega) only [List.append_assoc, hlast, take_append_drop_of_add_eq]
  -- the three colour bytes are the record's first three
  rcases v with _ | ⟨a, _ | ⟨b, _ | ⟨c, rest⟩⟩⟩
  all_goals simp [vertexRecordSize] at hv ⊢

/-- A list mapped by a function that fixes each of its elements is the list itself. -/
theorem map_eq_self_of_forall {α : Type} {g : α → α} {l : List α} (h : ∀ a ∈ l, g a = a) :
    l.map g = l := by
  rw [List.map_congr_left h, List.map_id']

/-! ### A whole payload -/

namespace FrameRecords

/-- The colour the frame read from records gives point `i` is the colour of record `i`. -/
theorem colorAt_frame (r : FrameRecords) {i : Nat} (hi : i < r.vertices.length)
    (fallback : Color) : r.frame.colorAt i fallback = (vertexOfRecord r.vertices[i]).1 := by
  simp [Frame.colorAt, frame, List.getD_eq_getElem?_getD, hi]

/-- A valid body whose tracked byte is a boolean is written back as it was read. -/
theorem bodyRecords_body {b : UInt8 × List (List UInt8)} (hb : BodyValid b) (ht : b.1 ≤ 1) :
    ((if (body b).tracked then 1 else 0), (body b).joints.map encodeJoint) = b := by
  obtain ⟨t, joints⟩ := b
  have hjoints : (joints.map jointOfRecord).map encodeJoint = joints := by
    rw [List.map_map]
    exact map_eq_self_of_forall fun j hj => encodeJoint_jointOfRecord (hb.joint_size j hj)
  simp only [body, hjoints, Prod.mk.injEq, and_true]
  exact trackedByte_eq ht

/-- Writing the frame read from valid records gives back the records, when every tracked
byte was a boolean. -/
theorem ofFrame_frame {r : FrameRecords} (hr : r.Valid) (ht : ∀ b ∈ r.bodies, b.1 ≤ 1) :
    ofFrame r.frame = r := by
  have hvertices : (ofFrame r.frame).vertices = r.vertices := by
    -- record `i` is written at index `i`, with the colour it was read with
    apply List.ext_getElem (by simp [ofFrame, frame])
    intro i h1 h2
    simp only [ofFrame, List.getElem_map, List.getElem_zipIdx, Nat.zero_add]
    have hi : i < r.vertices.length := h2
    simp only [frame, List.getElem_map]
    exact encodeVertex_vertexOfRecord (hr.vertex_size _ (List.getElem_mem hi))
      (r.colorAt_frame hi _)
  have hbodies : (ofFrame r.frame).bodies = r.bodies := by
    simp only [ofFrame, frame, List.map_map]
    exact map_eq_self_of_forall fun b hb => bodyRecords_body (hr.body_valid b hb) (ht b hb)
  calc ofFrame r.frame = ⟨(ofFrame r.frame).vertices, (ofFrame r.frame).bodies⟩ := rfl
    _ = r := by rw [hvertices, hbodies]

/-- The length of the bytes of valid records: the two counts, nine bytes a point and five
bytes plus twenty-eight a joint for each body. -/
theorem length_bytes {r : FrameRecords} (hr : r.Valid) :
    r.bytes.length = 4 + 9 * r.vertices.length + 4 +
      (r.bodies.map fun b => 5 + 28 * b.2.length).sum := by
  have hbodies : ∀ bs : List (UInt8 × List (List UInt8)), (∀ b ∈ bs, BodyValid b) →
      (bs.flatMap bodyBytes).length = (bs.map fun b => 5 + 28 * b.2.length).sum := by
    intro bs hbs
    induction bs with
    | nil => rfl
    | cons b bs ih =>
      have hb := length_bodyBytes (hbs b (by simp))
      simp only [List.flatMap_cons, List.length_append, hb, List.map_cons, List.sum_cons,
        ih (fun b' hb' => hbs b' (by simp [hb'])), jointRecordSize]
      ring
  simp only [bytes, contentBytes, List.length_append, length_putCount,
    length_flatten_of_size hr.vertex_size, hbodies r.bodies hr.body_valid, vertexRecordSize]
  ring

end FrameRecords

/-! ### Writing what was read -/

/-- Writing a decoded frame gives back exactly the bytes the decoder read, whenever every
tracked byte among them was a boolean: `4 + 9 n + 4` bytes for the counts and `n` points,
then `5 + 28 j` bytes for each body of `j` joints. Every 16-bit millimetre count survives
the trip through single-precision metres, so no point moves. -/
theorem encodeFrame_decodePayload :
    (∀ b f, decodePayload b = .ok (.frame f) →
      (∃ r rest, FrameRecords.Valid r ∧ b = r.bytes ++ rest) ∧
      ∀ r rest, FrameRecords.Valid r → b = r.bytes ++ rest →
        (∀ body ∈ r.bodies, body.1 ≤ 1) →
        encodeFrame (some f) = b.take (4 + 9 * r.vertices.length + 4 +
          (r.bodies.map fun body => 5 + 28 * body.2.length).sum)) ∧
    ∀ mm : Int16, millimetresOfMetres (metresOfMillimetres mm) = mm := by
  refine ⟨fun b f hdec => ⟨(decodePayload_eq_frame_iff b).mp ⟨f, hdec⟩, ?_⟩,
    millimetresOfMetres_metresOfMillimetres⟩
  rintro r rest hr rfl ht
  -- the decoder read the records `r`, so the frame is theirs
  have hf : r.frame = f := by
    rw [FrameRecords.decodePayload_bytes_append hr rest] at hdec
    simpa using hdec
  rw [← hf, FrameRecords.encodeFrame_eq_bytes, FrameRecords.ofFrame_frame hr ht,
    ← FrameRecords.length_bytes hr, List.take_left]

/-- Two payloads read and written back: the empty frame's eight bytes, and one point with
one tracked body of one twenty-eight-byte joint, fifty bytes read from the front of a stream
and written back without the two bytes after them. -/
theorem encodeFrame_decodePayload_samples :
    (decodePayload [0, 0, 0, 0, 0, 0, 0, 0] = .ok (.frame {}) ∧
      encodeFrame (some {}) = ([0, 0, 0, 0, 0, 0, 0, 0] : List UInt8).take (4 + 9 * 0 + 4 + 0)) ∧
    let b : List UInt8 := [1, 0, 0, 0, 0xF4, 0x01, 0, 0, 0xE8, 0x03, 10, 20, 30, 1, 0, 0, 0,
      1, 1, 0, 0, 0] ++ List.replicate 28 0 ++ [7, 7]
    ∃ f, decodePayload b = .ok (.frame f) ∧
      encodeFrame (some f) = b.take (4 + 9 * 1 + 4 + (5 + 28 * 1)) := by
  have hempty : FrameRecords.Valid ⟨[], []⟩ := ⟨by simp, by decide, by decide, by simp⟩
  have hdec₀ := FrameRecords.decodePayload_bytes_append hempty []
  -- one point record and one body whose single joint record is all zeroes
  have hr : FrameRecords.Valid
      ⟨[[0xF4, 0x01, 0, 0, 0xE8, 0x03, 10, 20, 30]], [(1, [List.replicate 28 0])]⟩ :=
    ⟨by simp [vertexRecordSize], by decide, by decide, by
      intro b hb
      rw [List.mem_singleton] at hb
      subst hb
      exact ⟨by simp [jointRecordSize], by decide⟩⟩
  have hdec := FrameRecords.decodePayload_bytes_append hr [7, 7]
  refine ⟨⟨hdec₀, (encodeFrame_decodePayload.1 _ _ hdec₀).2 _ [] hempty rfl (by simp)⟩, _, hdec, ?_⟩
  exact (encodeFrame_decodePayload.1 _ _ hdec).2 _ [7, 7] hr rfl (by simp)

/-- A joint record takes twenty-eight bytes, not twenty-six: the payload of one body with one
joint is read whole, forty-one bytes, and written back whole. -/
theorem encodeFrame_rereads_twenty_eight_byte_joints :
    decodePayload ([0, 0, 0, 0, 1, 0, 0, 0, 1, 1, 0, 0, 0] ++ List.replicate 28 0) =
        .ok (.frame { bodies := [⟨true, [⟨0, 0, ⟨⟨0⟩, ⟨0⟩, ⟨0⟩⟩, ⟨⟨0⟩, ⟨0⟩⟩⟩]⟩] }) ∧
      encodeFrame (some { bodies := [⟨true, [⟨0, 0, ⟨⟨0⟩, ⟨0⟩, ⟨0⟩⟩, ⟨⟨0⟩, ⟨0⟩⟩⟩]⟩] }) ≠
        ([0, 0, 0, 0, 1, 0, 0, 0, 1, 1, 0, 0, 0] ++ List.replicate 28 0 : List UInt8).take
          (4 + 9 * 0 + 4 + (5 + 26 * 1)) := by
  have hr : FrameRecords.Valid ⟨[], [(1, [List.replicate 28 0])]⟩ :=
    ⟨by simp, by decide, by decide, by
      intro b hb
      rw [List.mem_singleton] at hb
      subst hb
      exact ⟨by simp [jointRecordSize], by decide⟩⟩
  refine ⟨?_, by decide⟩
  exact FrameRecords.decodePayload_bytes_append hr []

/-! ### Reading what was written -/

/-- A point record read back: the colour written for the point and each coordinate through
whole millimetres. -/
@[simp] theorem vertexOfRecord_encodeVertex (f : Frame) (i : Nat) (p : Point3) :
    vertexOfRecord (encodeVertex f i p) = (f.colorAt i ⟨0, 0, 0⟩,
      ⟨metresOfMillimetres (millimetresOfMetres p.x),
        metresOfMillimetres (millimetresOfMetres p.y),
        metresOfMillimetres (millimetresOfMetres p.z)⟩) := by
  simp [vertexOfRecord, encodeVertex, List.drop_append, List.drop_eq_nil_of_le,
    List.take_of_length_le]

/-- A body written and read back is the body itself. -/
@[simp] theorem body_encodeBody (b : Body) :
    FrameRecords.body (if b.tracked then 1 else 0, b.joints.map encodeJoint) = b := by
  obtain ⟨tracked, joints⟩ := b
  cases tracked <;> simp [FrameRecords.body, List.map_map, Function.comp_def]

/-- The frame read from the records of a frame: every point as the wire carries it, with
the colour written for it (black past the end of the colour list), and the bodies as they
were. -/
theorem FrameRecords.frame_ofFrame (f : Frame) :
    (ofFrame f).frame =
      { vertices := f.vertices.map fun p => ⟨metresOfMillimetres (millimetresOfMetres p.x),
          metresOfMillimetres (millimetresOfMetres p.y),
          metresOfMillimetres (millimetresOfMetres p.z)⟩
        colors := (List.range f.vertices.length).map fun i => f.colors.getD i ⟨0, 0, 0⟩
        bodies := f.bodies } := by
  -- the points are read off the first components of the indexed points, the colours off
  -- the indices
  have hvertices := List.zipIdx_map_fst 0 f.vertices
  have hcolors := List.zipIdx_map_snd 0 f.vertices
  simp only [frame, ofFrame, List.map_map, Function.comp_def, vertexOfRecord_encodeVertex,
    body_encodeBody, List.map_id', Frame.colorAt, List.range_eq_range', Frame.mk.injEq]
  refine ⟨?_, ?_, trivial⟩
  · conv_rhs => rw [← hvertices, List.map_map]
    rfl
  · conv_rhs => rw [← hcolors, List.map_map]
    rfl

end DepthRig.Wire
