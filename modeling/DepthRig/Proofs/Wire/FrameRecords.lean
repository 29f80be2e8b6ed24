import DepthRig.Proofs.Wire.Reading

/-!
# The grammar of frame payloads

`FrameRecords` holds a payload's records before any field is read and `FrameRecords.bytes`
lays them out. The reader of frame payloads succeeds exactly on the payloads that start with
the bytes of valid records, consumes exactly those bytes, and stops on every other payload
with a malformed frame, save the spurious vertex counts.
-/

namespace DepthRig.Wire

/-- The records of a frame payload as they lie on the wire: each point's record, and each
body's tracked byte with its joints' records. -/
structure FrameRecords where
  vertices : List (List UInt8)
  bodies : List (UInt8 × List (List UInt8))

namespace FrameRecords

/-- The bytes of one body: its tracked byte, its joint count and its joint records. -/
def bodyBytes (b : UInt8 × List (List UInt8)) : List UInt8 :=
  b.1 :: (putCount b.2.length ++ b.2.flatten)

/-- The bytes after the vertex count: point records, body count, bodies. -/
def contentBytes (r : FrameRecords) : List UInt8 :=
  r.vertices.flatten ++ (putCount r.bodies.length ++ r.bodies.flatMap bodyBytes)

/-- The bytes of a whole payload. -/
def bytes (r : FrameRecords) : List UInt8 := putCount r.vertices.length ++ r.contentBytes

/-- A body whose joint records have the joint size and whose joints can be counted in a
signed 32-bit word. -/
structure BodyValid (b : UInt8 × List (List UInt8)) : Prop where
  joint_size : ∀ j ∈ b.2, j.length = jointRecordSize
  joint_count : b.2.length < 2 ^ 31

/-- Records that a payload can hold: every record has its size and every count fits a
signed 32-bit word. -/
structure Valid (r : FrameRecords) : Prop where
  vertex_size : ∀ v ∈ r.vertices, v.length = vertexRecordSize
  vertex_count : r.vertices.length < 2 ^ 31
  body_count : r.bodies.length < 2 ^ 31
  body_valid : ∀ b ∈ r.bodies, BodyValid b

/-- The body that a body's records denote: tracked unless its byte is zero. -/
def body (b : UInt8 × List (List UInt8)) : Body := ⟨b.1 != 0, b.2.map jointOfRecord⟩

/-- The frame that the records denote. -/
def frame (r : FrameRecords) : Frame :=
  { vertices := r.vertices.map fun v => (vertexOfRecord v).2
    colors := r.vertices.map fun v => (vertexOfRecord v).1
    bodies := r.bodies.map body }

theorem length_flatten_of_size {rs : List (List UInt8)} {k : Nat} (h : ∀ r ∈ rs, r.length = k) :
    rs.flatten.length = rs.length * k := by
  induction rs with
  | nil => simp
  | cons r rs ih =>
    simp only [List.flatten_cons, List.length_append, List.length_cons, h r (by simp),
      ih (fun r' hr => h r' (by simp [hr]))]
    ring

theorem length_bodyBytes {b : UInt8 × List (List UInt8)} (hb : BodyValid b) :
    (bodyBytes b).length = 5 + b.2.length * jointRecordSize := by
  simp [bodyBytes, length_flatten_of_size hb.joint_size]
  omega

/-- Every body takes at least five bytes. -/
theorem five_mul_le_length_flatMap_bodyBytes (bs : List (UInt8 × List (List UInt8))) :
    bs.length * 5 ≤ (bs.flatMap bodyBytes).length := by
  induction bs with
  | nil => simp
  | cons b bs ih =>
    simp only [List.flatMap_cons, List.length_append, List.length_cons, bodyBytes,
      length_putCount]
    omega

/-! ### Reading valid records -/

/-- A valid body's bytes read back as its body, and the reader stops right after them. -/
theorem runOn_decodeBody {b : UInt8 × List (List UInt8)} (hb : BodyValid b) (index : Nat)
    (rest : List UInt8) (offset : Nat) (closed : Bool) :
    (decodeBody index).runOn ⟨bodyBytes b ++ rest, offset, closed⟩ =
      (.ok (body b), ⟨rest, offset + (bodyBytes b).length, closed⟩) := by
  have hflat : b.2.flatten.length = b.2.length * jointRecordSize :=
    length_flatten_of_size hb.joint_size
  have hcount : (i32OfBytes (putCount b.2.length)).toInt = b.2.length :=
    toInt_i32OfBytes_putCount hb.joint_count
  simp only [decodeBody, flag, u8, i32, bind_assoc, pure_bind, Decode.runOn_field_bind,
    Decode.runOn_remaining_bind, Decode.runOn_ite, Decode.runOn_fail, Decode.runOn_pure]
  simp [bodyBytes, hcount, hflat, records_flatten hb.joint_size, body]
  rw [if_neg (by omega)]
  simp only [Prod.mk.injEq, Cursor.mk.injEq, true_and, and_true]
  omega

/-- Valid bodies laid end to end read back one after another. -/
theorem runOn_decodeBodies {bs : List (UInt8 × List (List UInt8))}
    (hbs : ∀ b ∈ bs, BodyValid b) (index : Nat) (rest : List UInt8) (offset : Nat)
    (closed : Bool) :
    (decodeBodies bs.length index).runOn ⟨bs.flatMap bodyBytes ++ rest, offset, closed⟩ =
      (.ok (bs.map body), ⟨rest, offset + (bs.flatMap bodyBytes).length, closed⟩) := by
  induction bs generalizing index offset with
  | nil => simp [decodeBodies]
  | cons b bs ih =>
    have hb : BodyValid b := hbs b (by simp)
    have hrest := ih (fun b' h => hbs b' (by simp [h])) (index + 1)
    simp only [List.length_cons, decodeBodies, List.flatMap_cons, List.append_assoc,
      Decode.runOn_bind, runOn_decodeBody hb, hrest, Decode.runOn_pure, List.map_cons,
      List.length_append, Prod.mk.injEq, Cursor.mk.injEq, true_and, and_true]
    omega

/-- The contents of valid records, after their vertex count, read back as their frame. -/
theorem runOn_frameContents {r : FrameRecords} (hr : r.Valid) (rest : List UInt8)
    (offset : Nat) (closed : Bool) :
    (frameContents r.vertices.length).runOn ⟨r.contentBytes ++ rest, offset, closed⟩ =
      (.ok r.frame, ⟨rest, offset + r.contentBytes.length, closed⟩) := by
  have hflat : r.vertices.flatten.length = r.vertices.length * vertexRecordSize :=
    length_flatten_of_size hr.vertex_size
  have hcount : (i32OfBytes (putCount r.bodies.length)).toInt = r.bodies.length :=
    toInt_i32OfBytes_putCount hr.body_count
  have hbodies := five_mul_le_length_flatMap_bodyBytes r.bodies
  simp only [frameContents, i32, bind_assoc, pure_bind, Decode.runOn_field_bind,
    Decode.runOn_remaining_bind, Decode.runOn_ite, Decode.runOn_fail]
  simp only [List.length_flatMap] at hbodies
  simp [contentBytes, hflat, hcount, records_flatten hr.vertex_size]
  rw [if_neg (by omega), if_neg (by omega), runOn_decodeBodies hr.body_valid]
  simp only [frame, Prod.mk.injEq, Cursor.mk.injEq, List.length_flatMap, true_and, and_true]
  refine ⟨rfl, by omega⟩

/-- A payload that starts with the bytes of valid records is read up to their end, as
their frame. -/
theorem runOn_payloadReader_bytes {r : FrameRecords} (hr : r.Valid) (rest : List UInt8)
    (offset : Nat) (closed : Bool) :
    payloadReader.runOn ⟨r.bytes ++ rest, offset, closed⟩ =
      (.ok (.frame r.frame), ⟨rest, offset + r.bytes.length, closed⟩) := by
  have hcount : (i32OfBytes (putCount r.vertices.length)).toInt = r.vertices.length :=
    toInt_i32OfBytes_putCount hr.vertex_count
  simp only [payloadReader, i32, bind_assoc, pure_bind, Decode.runOn_field_bind]
  simp [bytes, hcount, runOn_frameContents hr]
  rw [if_neg (by omega)]
  simp only [Prod.mk.injEq, Cursor.mk.injEq, true_and, and_true]
  omega

/-- Decoding a payload that starts with the bytes of valid records gives their frame. -/
theorem decodePayload_bytes_append {r : FrameRecords} (hr : r.Valid) (rest : List UInt8) :
    decodePayload (r.bytes ++ rest) = .ok (.frame r.frame) := by
  simp [decodePayload, Cursor.start, runOn_payloadReader_bytes hr]

/-! ### What a successful read consumed -/

/-- A body that was read came from the bytes of a valid body, and the reader consumed
exactly those bytes. -/
theorem exists_body_of_runOn_decodeBody {index : Nat} {c c' : Cursor} {b' : Body}
    (h : (decodeBody index).runOn c = (.ok b', c')) :
    ∃ b, BodyValid b ∧ c.rest = bodyBytes b ++ c'.rest ∧ b' = body b ∧
      c'.offset = c.offset + (bodyBytes b).length ∧ c'.closed = c.closed := by
  obtain ⟨bs, offset, closed⟩ := c
  simp only [decodeBody, flag, u8, i32, bind_assoc, pure_bind, Decode.runOn_field_bind,
    Decode.runOn_remaining_bind, Decode.runOn_ite, Decode.runOn_fail, Decode.runOn_pure] at h
  split_ifs at h with h1 h2 h3 h4 <;>
    simp only [Prod.mk.injEq, reduceCtorEq, false_and, Except.ok.injEq] at h
  obtain ⟨rfl, rfl⟩ := h
  cases bs with
  | nil => simp at h1
  | cons t tail =>
    simp only [List.drop_succ_cons, List.drop_zero, List.length_drop, Bool.or_eq_true,
      decide_eq_true_eq, not_or, not_lt] at h2 h3 h4
    simp only [List.drop_succ_cons, List.drop_zero]
    set w := tail.take 4 with hw
    set n := (i32OfBytes w).toInt.toNat with hn
    obtain ⟨rs, hlen, hsize, hflat⟩ := @exists_flatten_records jointRecordSize n
      ((tail.drop 4).take (n * jointRecordSize)) (by simp; omega)
    have hword : putCount rs.length = w := by
      rw [hlen, putCount, hn, Int.toNat_of_nonneg h3.1, Int32.ofInt_toInt]
      exact putI32_i32OfBytes (by rw [hw, List.length_take]; omega)
    have hvalid : BodyValid (t, rs) :=
      ⟨hsize, by have := Int32.toInt_lt (i32OfBytes w); simp only [hlen]; omega⟩
    refine ⟨(t, rs), hvalid, ?_, ?_, ?_, trivial⟩
    · calc t :: tail = t :: (w ++ ((tail.drop 4).take (n * jointRecordSize) ++
            (tail.drop 4).drop (n * jointRecordSize))) := by simp only [List.take_append_drop, hw]
        _ = _ := by rw [hflat]; simp [bodyBytes, hword]
    · rw [body, hflat, ← hlen, records_flatten hsize]
      simp
    · rw [length_bodyBytes hvalid, hlen]
      omega

/-- Bodies that were read came from the bytes of valid bodies laid end to end. -/
theorem exists_bodies_of_runOn_decodeBodies {count index : Nat} {c c' : Cursor}
    {bs' : List Body} (h : (decodeBodies count index).runOn c = (.ok bs', c')) :
    ∃ bs : List (UInt8 × List (List UInt8)), bs.length = count ∧
      (∀ b ∈ bs, BodyValid b) ∧ c.rest = bs.flatMap bodyBytes ++ c'.rest ∧
      bs' = bs.map body ∧
      c'.offset = c.offset + (bs.flatMap bodyBytes).length ∧ c'.closed = c.closed := by
  induction count generalizing index c bs' with
  | zero =>
    simp only [decodeBodies, Decode.runOn_pure, Prod.mk.injEq, Except.ok.injEq] at h
    obtain ⟨rfl, rfl⟩ := h
    exact ⟨[], rfl, by simp, by simp, rfl, by simp, rfl⟩
  | succ count ih =>
    obtain ⟨b', c₁, hb, h⟩ := Decode.runOn_bind_eq_ok h
    obtain ⟨rest', c₂, hrest, h⟩ := Decode.runOn_bind_eq_ok h
    simp only [Decode.runOn_pure, Prod.mk.injEq, Except.ok.injEq] at h
    obtain ⟨rfl, rfl⟩ := h
    obtain ⟨b, hvalid, hc, rfl, hoff, hclosed⟩ := exists_body_of_runOn_decodeBody hb
    obtain ⟨bs, hlen, hvalids, hc₁, rfl, hoff₁, hclosed₁⟩ := ih hrest
    refine ⟨b :: bs, by simp [hlen], ?_, ?_, rfl, ?_, by rw [hclosed₁, hclosed]⟩
    · intro b' hb'
      rcases List.mem_cons.mp hb' with rfl | hb'
      · exact hvalid
      · exact hvalids b' hb'
    · rw [hc, hc₁, List.flatMap_cons, List.append_assoc]
    · rw [hoff₁, hoff, List.flatMap_cons, List.length_append]
      omega

/-- Frame contents that were read came from the bytes of valid records with that many
points, and the reader consumed exactly those bytes. -/
theorem exists_records_of_runOn_frameContents {count : Nat} {c c' : Cursor} {f : Frame}
    (hcount : count < 2 ^ 31) (h : (frameContents count).runOn c = (.ok f, c')) :
    ∃ r : FrameRecords, r.Valid ∧ r.vertices.length = count ∧
      c.rest = r.contentBytes ++ c'.rest ∧ f = r.frame ∧
      c'.offset = c.offset + r.contentBytes.length ∧ c'.closed = c.closed := by
  obtain ⟨bs, offset, closed⟩ := c
  simp only [frameContents, i32, bind_assoc, pure_bind, Decode.runOn_field_bind,
    Decode.runOn_remaining_bind, Decode.runOn_ite, Decode.runOn_fail] at h
  split_ifs at h with h1 h2 h3 h4 h5
  any_goals simp only [Prod.mk.injEq, reduceCtorEq, false_and] at h
  obtain ⟨bodies, c₂, hdb, h⟩ := Decode.runOn_bind_eq_ok h
  simp only [Decode.runOn_pure, Prod.mk.injEq, Except.ok.injEq] at h
  obtain ⟨rfl, rfl⟩ := h
  set vs := bs.take (count * vertexRecordSize) with hvs
  set after := bs.drop (count * vertexRecordSize) with hafter
  set w := after.take 4 with hw
  obtain ⟨bodyRecs, hblen, hbvalid, hrest, rfl, hoff, hclosed⟩ :=
    exists_bodies_of_runOn_decodeBodies hdb
  obtain ⟨rs, hrlen, hrsize, hrflat⟩ := @exists_flatten_records vertexRecordSize count vs
    (by rw [hvs, List.length_take]; omega)
  have hword : putCount bodyRecs.length = w := by
    rw [hblen, putCount, Int.toNat_of_nonneg (by omega), Int32.ofInt_toInt]
    exact putI32_i32OfBytes (by rw [hw, List.length_take]; omega)
  have hnb := Int32.toInt_lt (i32OfBytes w)
  simp only at hrest hoff hclosed
  refine ⟨⟨rs, bodyRecs⟩, ⟨hrsize, by show rs.length < 2 ^ 31; omega,
    by show bodyRecs.length < 2 ^ 31; omega, hbvalid⟩, hrlen, ?_, ?_, ?_, hclosed⟩
  · calc bs = vs ++ (w ++ after.drop 4) := by simp only [List.take_append_drop, hw, hvs, hafter]
      _ = _ := by simp only [hrflat, ← hword, hrest, contentBytes, List.append_assoc]
  · simp only [frame, ← hrlen, hrflat, records_flatten hrsize, List.map_map]
    rfl
  · rw [hoff]
    simp only [contentBytes, List.length_append, length_putCount,
      length_flatten_of_size hrsize, hrlen]
    omega

/-! ### The records a frame is written as -/

/-- The records of a frame as the encoder writes them: each point with its colour (black
where the frame has none), and each body with a tracked byte of 1 or 0. -/
def ofFrame (f : Frame) : FrameRecords :=
  { vertices := f.vertices.zipIdx.map fun (p, i) => encodeVertex f i p
    bodies := f.bodies.map fun b => (if b.tracked then 1 else 0, b.joints.map encodeJoint) }

@[simp] theorem length_encodeVertex (f : Frame) (i : Nat) (p : Point3) :
    (encodeVertex f i p).length = vertexRecordSize := by
  simp [encodeVertex, vertexRecordSize]

@[simp] theorem length_encodeJoint (j : Joint) : (encodeJoint j).length = jointRecordSize := by
  simp [encodeJoint, jointRecordSize]

theorem encodeBody_eq_bodyBytes (b : Body) :
    encodeBody b = bodyBytes (if b.tracked then 1 else 0, b.joints.map encodeJoint) := by
  simp [encodeBody, bodyBytes, putBool, List.flatMap]

/-- A frame's payload is the bytes of its records. -/
theorem encodeFrame_eq_bytes (f : Frame) : encodeFrame (some f) = (ofFrame f).bytes := by
  have hbody : encodeBody = fun b : Body =>
      bodyBytes (if b.tracked then 1 else 0, b.joints.map encodeJoint) :=
    funext encodeBody_eq_bodyBytes
  simp [encodeFrame, bytes, contentBytes, ofFrame, hbody, List.flatMap, Function.comp_def]

@[simp] theorem length_ofFrame_vertices (f : Frame) :
    (ofFrame f).vertices.length = f.vertices.length := by
  simp [ofFrame]

theorem size_ofFrame_vertices (f : Frame) :
    ∀ v ∈ (ofFrame f).vertices, v.length = vertexRecordSize := by
  simp only [ofFrame, List.mem_map]
  rintro _ ⟨⟨p, i⟩, -, rfl⟩
  simp

/-- A payload holds at least its vertex count and its point records. -/
theorem le_length_bytes {r : FrameRecords}
    (hv : ∀ v ∈ r.vertices, v.length = vertexRecordSize) :
    4 + r.vertices.length * vertexRecordSize ≤ r.bytes.length := by
  simp [bytes, contentBytes, length_flatten_of_size hv]

/-- The records of a frame whose counts fit a signed 32-bit word are valid. -/
theorem valid_ofFrame {f : Frame} (hv : f.vertices.length < 2 ^ 31)
    (hb : f.bodies.length < 2 ^ 31) (hj : ∀ b ∈ f.bodies, b.joints.length < 2 ^ 31) :
    (ofFrame f).Valid where
  vertex_size := size_ofFrame_vertices f
  vertex_count := by simpa [ofFrame] using hv
  body_count := by simpa [ofFrame] using hb
  body_valid := by
    simp only [ofFrame, List.mem_map]
    rintro _ ⟨b, hmem, rfl⟩
    exact ⟨by simp, by simpa using hj b hmem⟩

end FrameRecords

/-! ### Where a read can stop -/

/-- A stop on a malformed frame that is not a spurious length. -/
def MalformedStop (s : ReadStop) : Prop :=
  ∃ e, s = .wire e ∧ e.isMalformed = true ∧ e.isSpurious = false

/-- A body is refused only as a malformed frame: a short field or a joint count that is
negative or does not fit. -/
theorem malformedStop_of_runOn_decodeBody {index : Nat} {c c' : Cursor} {s : ReadStop}
    (h : (decodeBody index).runOn c = (.error s, c')) : MalformedStop s := by
  simp only [decodeBody, flag, u8, i32, bind_assoc, pure_bind, Decode.runOn_field_bind,
    Decode.runOn_remaining_bind, Decode.runOn_ite, Decode.runOn_fail, Decode.runOn_pure] at h
  split_ifs at h <;> simp only [Prod.mk.injEq, reduceCtorEq, false_and, Except.error.injEq] at h
  all_goals exact ⟨_, h.1.symm, rfl, rfl⟩

/-- Bodies are refused only as a malformed frame. -/
theorem malformedStop_of_runOn_decodeBodies {count index : Nat} {c c' : Cursor} {s : ReadStop}
    (h : (decodeBodies count index).runOn c = (.error s, c')) : MalformedStop s := by
  induction count generalizing index c with
  | zero => simp [decodeBodies] at h
  | succ count ih =>
    rcases Decode.runOn_bind_eq_error h with hb | ⟨_, c₁, -, h⟩
    · exact malformedStop_of_runOn_decodeBody hb
    · rcases Decode.runOn_bind_eq_error h with hbs | ⟨_, _, -, h⟩
      · exact ih hbs
      · simp at h

/-- The contents after a vertex count are refused only as a malformed frame. -/
theorem malformedStop_of_runOn_frameContents {count : Nat} {c c' : Cursor} {s : ReadStop}
    (h : (frameContents count).runOn c = (.error s, c')) : MalformedStop s := by
  simp only [frameContents, i32, bind_assoc, pure_bind, Decode.runOn_field_bind,
    Decode.runOn_remaining_bind, Decode.runOn_ite, Decode.runOn_fail] at h
  split_ifs at h
  any_goals
    simp only [Prod.mk.injEq, Except.error.injEq] at h
    exact ⟨_, h.1.symm, rfl, rfl⟩
  rcases Decode.runOn_bind_eq_error h with hbs | ⟨_, _, -, h⟩
  · exact malformedStop_of_runOn_decodeBodies hbs
  · simp at h

/-- Decoding a payload reads its first word as the vertex count: `-1` ends the stored frames,
another negative count is spurious, and any other count is followed by the frame's
contents. -/
theorem decodePayload_eq (b : List UInt8) : decodePayload b =
    if 4 ≤ b.length then
      if (i32OfBytes (b.take 4)).toInt = -1 then .ok .endOfStored
      else if (i32OfBytes (b.take 4)).toInt < 0 then
        .error (.spuriousVertexCount (i32OfBytes (b.take 4)).toInt)
      else
        match ((frameContents (i32OfBytes (b.take 4)).toInt.toNat).runOn
            ⟨b.drop 4, 4, true⟩).1 with
        | .ok f => .ok (.frame f)
        | .error (.wire e) => .error e
        | .error _ => .error (.short 0 0 0)
    else .error (.short 4 0 b.length) := by
  simp only [decodePayload, Cursor.start, payloadReader, i32, bind_assoc, pure_bind,
    Decode.runOn_field_bind, Decode.runOn_ite, Decode.runOn_fail, Decode.runOn_pure,
    Decode.runOn_map, beq_iff_eq, Nat.zero_add]
  split_ifs
  · rfl
  · rfl
  · rcases (frameContents _).runOn _ with ⟨r, c⟩
    rcases r with s | f
    · cases s <;> rfl
    · rfl
  · rfl

/-- The end of the stored frames is read exactly from a first word of `-1`. -/
theorem decodePayload_eq_endOfStored_iff (b : List UInt8) :
    decodePayload b = .ok .endOfStored ↔
      4 ≤ b.length ∧ (i32OfBytes (b.take 4)).toInt = -1 := by
  rw [decodePayload_eq]
  split_ifs with h4 hend hneg
  · simp [h4, hend]
  · simp [hend]
  · simp only [hend, and_false, iff_false]
    split <;> simp
  · simp [h4]

/-- After a count that is not negative, decoding either reads the frame's contents or
stops on a malformed frame. -/
theorem decodePayload_cases_of_nonneg {b : List UInt8} (h4 : 4 ≤ b.length)
    (hnn : 0 ≤ (i32OfBytes (b.take 4)).toInt) :
    (∃ f c', (frameContents (i32OfBytes (b.take 4)).toInt.toNat).runOn ⟨b.drop 4, 4, true⟩ =
      (.ok f, c') ∧ decodePayload b = .ok (.frame f)) ∨
    ∃ e, decodePayload b = .error e ∧ e.isMalformed = true ∧ e.isSpurious = false := by
  rw [decodePayload_eq, if_pos h4, if_neg (by omega), if_neg (by omega)]
  rcases hrun : (frameContents _).runOn ⟨b.drop 4, 4, true⟩ with ⟨r, c'⟩
  rcases r with s | f
  · obtain ⟨e, rfl, hmal, hspur⟩ := malformedStop_of_runOn_frameContents hrun
    exact .inr ⟨e, rfl, hmal, hspur⟩
  · exact .inl ⟨f, c', rfl, rfl⟩

/-- A spurious length is read exactly from a first word below `-1`, and it is not a
malformed frame. -/
theorem decodePayload_spurious_iff (b : List UInt8) :
    (∃ e, decodePayload b = .error e ∧ e.isSpurious = true ∧ e.isMalformed = false) ↔
      4 ≤ b.length ∧ (i32OfBytes (b.take 4)).toInt < -1 := by
  by_cases h4 : 4 ≤ b.length
  · by_cases hnn : 0 ≤ (i32OfBytes (b.take 4)).toInt
    · have hnot : ¬ (i32OfBytes (b.take 4)).toInt < -1 := by omega
      simp only [h4, hnot, and_false, iff_false, not_exists, not_and]
      intro e he hspur
      rcases decodePayload_cases_of_nonneg h4 hnn with ⟨f, -, -, hf⟩ | ⟨e', he', -, hspur'⟩
      · rw [hf] at he
        cases he
      · rw [he'] at he
        cases he
        simp [hspur'] at hspur
    · rw [decodePayload_eq, if_pos h4]
      by_cases hend : (i32OfBytes (b.take 4)).toInt = -1
      · simp [hend]
      · rw [if_neg hend, if_pos (by omega)]
        simp only [Except.error.injEq, exists_eq_left', WireError.isSpurious,
          WireError.isMalformed, and_self, h4, true_and, true_iff]
        omega
  · rw [decodePayload_eq, if_neg h4]
    simp [h4, WireError.isSpurious]

/-- A first word that is not negative is the count it holds, written back. -/
theorem take_four_eq_putCount {b : List UInt8} (h4 : 4 ≤ b.length)
    (hnn : 0 ≤ (i32OfBytes (b.take 4)).toInt) :
    b.take 4 = putCount (i32OfBytes (b.take 4)).toInt.toNat := by
  rw [putCount, Int.toNat_of_nonneg hnn, Int32.ofInt_toInt,
    putI32_i32OfBytes (by simp; omega)]

/-- A frame is read exactly from the payloads that start with the bytes of valid
records. -/
theorem decodePayload_eq_frame_iff (b : List UInt8) :
    (∃ f, decodePayload b = .ok (.frame f)) ↔
      ∃ r rest, FrameRecords.Valid r ∧ b = r.bytes ++ rest := by
  constructor
  · rintro ⟨f, hf⟩
    have h4 : 4 ≤ b.length := by
      by_contra h4
      rw [decodePayload_eq, if_neg h4] at hf
      cases hf
    have hnn : 0 ≤ (i32OfBytes (b.take 4)).toInt := by
      by_contra hneg
      rw [decodePayload_eq, if_pos h4] at hf
      split_ifs at hf
      · simp at hf
      · omega
    rcases decodePayload_cases_of_nonneg h4 hnn with ⟨f', c', hrun, -⟩ | ⟨e, he, -⟩
    · obtain ⟨r, hr, hlen, hrest, -, -, -⟩ :=
        FrameRecords.exists_records_of_runOn_frameContents
          (by have := Int32.toInt_lt (i32OfBytes (b.take 4)); omega) hrun
      refine ⟨r, c'.rest, hr, ?_⟩
      calc b = b.take 4 ++ b.drop 4 := (List.take_append_drop 4 b).symm
        _ = r.bytes ++ c'.rest := by
          rw [take_four_eq_putCount h4 hnn, ← hlen]
          simpa [FrameRecords.bytes] using hrest
    · rw [he] at hf
      cases hf
  · rintro ⟨r, rest, hr, rfl⟩
    exact ⟨_, FrameRecords.decodePayload_bytes_append hr rest⟩

/-- Whatever is neither a negative first word nor the bytes of valid records is refused
as a malformed frame, buffers shorter than a word included. -/
theorem decodePayload_malformed {b : List UInt8}
    (hword : ¬ (4 ≤ b.length ∧ (i32OfBytes (b.take 4)).toInt < 0))
    (hrecords : ¬ ∃ r rest, FrameRecords.Valid r ∧ b = r.bytes ++ rest) :
    ∃ e, decodePayload b = .error e ∧ e.isMalformed = true ∧ e.isSpurious = false := by
  by_cases h4 : 4 ≤ b.length
  · rcases decodePayload_cases_of_nonneg h4 (by omega) with ⟨f, -, -, hf⟩ | he
    · exact absurd ((decodePayload_eq_frame_iff b).mp ⟨f, hf⟩) hrecords
    · exact he
  · rw [decodePayload_eq, if_neg h4]
    exact ⟨_, rfl, rfl, rfl⟩

/-- Every error of the payload decoder is a malformed frame or a spurious length. -/
theorem decodePayload_error_isMalformed_or_isSpurious {b : List UInt8} {e : WireError}
    (h : decodePayload b = .error e) : e.isMalformed = true ∨ e.isSpurious = true := by
  by_cases hword : 4 ≤ b.length ∧ (i32OfBytes (b.take 4)).toInt < 0
  · by_cases hend : (i32OfBytes (b.take 4)).toInt = -1
    · rw [(decodePayload_eq_endOfStored_iff b).mpr ⟨hword.1, hend⟩] at h
      cases h
    · obtain ⟨e', he', hspur, -⟩ := (decodePayload_spurious_iff b).mpr ⟨hword.1, by omega⟩
      rw [h] at he'
      cases he'
      exact .inr hspur
  · by_cases hrec : ∃ r rest, FrameRecords.Valid r ∧ b = r.bytes ++ rest
    · obtain ⟨f, hf⟩ := (decodePayload_eq_frame_iff b).mpr hrec
      rw [h] at hf
      cases hf
    · obtain ⟨e', he', hmal, -⟩ := decodePayload_malformed hword hrec
      rw [h] at he'
      cases he'
      exact .inl hmal

/-- No proper prefix of the bytes of valid records is read: the first word is their count,
and the records would end beyond the prefix. -/
theorem decodePayload_of_bytes_eq_append {r : FrameRecords} (hr : r.Valid)
    {p extra : List UInt8} (hp : r.bytes = p ++ extra) (hextra : extra ≠ []) :
    ∃ e, decodePayload p = .error e ∧ e.isMalformed = true ∧ e.isSpurious = false := by
  apply decodePayload_malformed
  · rintro ⟨h4, hneg⟩
    have htake : p.take 4 = putCount r.vertices.length :=
      calc p.take 4 = (p ++ extra).take 4 := (List.take_append_of_le_length h4).symm
        _ = (putCount r.vertices.length ++ r.contentBytes).take 4 := by rw [← hp]; rfl
        _ = putCount r.vertices.length := List.take_left' (by simp)
    rw [htake, toInt_i32OfBytes_putCount hr.vertex_count] at hneg
    omega
  · rintro ⟨r', rest', hr', rfl⟩
    have hrun := FrameRecords.runOn_payloadReader_bytes hr [] 0 true
    rw [List.append_nil, hp, List.append_assoc,
      FrameRecords.runOn_payloadReader_bytes hr' (rest' ++ extra) 0 true] at hrun
    simp only [Prod.mk.injEq, Cursor.mk.injEq, List.append_eq_nil_iff] at hrun
    exact hextra hrun.2.1.2

/-- Decoding a payload has four outcomes, each decided by the bytes alone: the end of the
stored frames exactly for a first word of `-1`; a spurious length, never a malformed frame,
exactly for a first word below `-1`; a frame exactly when the payload starts with the bytes
of valid records, every count not negative and every record there; and a malformed frame in
every other case. Hence no proper prefix of a frame's payload is read, when the frame's
counts fit a signed 32-bit word. -/
theorem decodePayload_accepts_exactly_frame_records :
    (∀ b : List UInt8,
      (decodePayload b = .ok .endOfStored ↔
        4 ≤ b.length ∧ (i32OfBytes (b.take 4)).toInt = -1) ∧
      ((∃ e, decodePayload b = .error e ∧ e.isSpurious = true ∧ e.isMalformed = false) ↔
        4 ≤ b.length ∧ (i32OfBytes (b.take 4)).toInt < -1) ∧
      ((∃ f, decodePayload b = .ok (.frame f)) ↔
        ∃ r rest, FrameRecords.Valid r ∧ b = r.bytes ++ rest) ∧
      (¬ (4 ≤ b.length ∧ (i32OfBytes (b.take 4)).toInt < 0) →
        (¬ ∃ r rest, FrameRecords.Valid r ∧ b = r.bytes ++ rest) →
        ∃ e, decodePayload b = .error e ∧ e.isMalformed = true ∧ e.isSpurious = false)) ∧
    ∀ f : Frame, f.vertices.length < 2 ^ 31 → f.bodies.length < 2 ^ 31 →
      (∀ body ∈ f.bodies, body.joints.length < 2 ^ 31) →
      ∀ p, p <+: encodeFrame (some f) → p.length < (encodeFrame (some f)).length →
        ∃ e, decodePayload p = .error e ∧ e.isMalformed = true ∧ e.isSpurious = false := by
  refine ⟨fun b => ⟨decodePayload_eq_endOfStored_iff b, decodePayload_spurious_iff b,
    decodePayload_eq_frame_iff b, decodePayload_malformed⟩, ?_⟩
  intro f hv hb hj p ⟨extra, hextra⟩ hlen
  rw [FrameRecords.encodeFrame_eq_bytes] at hextra hlen
  refine decodePayload_of_bytes_eq_append (FrameRecords.valid_ofFrame hv hb hj) hextra.symm ?_
  rintro rfl
  simp [← hextra] at hlen

/-- Payloads that are refused as malformed frames: one point with one tracked body of one
joint, cut inside the joint record after forty of its fifty bytes, and five points announced
in a payload that holds two bytes after the count. -/
theorem decodePayload_refuses_cut_frames :
    let f : Frame :=
      { vertices := [Point3.origin], colors := [⟨10, 20, 30⟩], bodies := [⟨true, [default]⟩] }
    ((encodeFrame (some f)).take 40 <+: encodeFrame (some f) ∧
      40 < (encodeFrame (some f)).length ∧
      ∃ e, decodePayload ((encodeFrame (some f)).take 40) = .error e ∧ e.isMalformed = true ∧
        e.isSpurious = false) ∧
    ∃ e, decodePayload [5, 0, 0, 0, 1, 2] = .error e ∧ e.isMalformed = true ∧
      e.isSpurious = false := by
  intro f
  have hall := decodePayload_accepts_exactly_frame_records
  have hcut : (encodeFrame (some f)).take 40 <+: encodeFrame (some f) := List.take_prefix _ _
  have hlen : 40 < (encodeFrame (some f)).length := by decide
  refine ⟨⟨hcut, hlen, hall.2 f (by decide) (by decide) (by decide) _ hcut (by decide)⟩, ?_⟩
  -- the payload is no frame: its count is not negative and no records start it
  have hcount : ¬ (4 ≤ [5, 0, 0, 0, 1, 2].length ∧
      (i32OfBytes (([5, 0, 0, 0, 1, 2] : List UInt8).take 4)).toInt < 0) := by decide
  have hnone : (decodePayload [5, 0, 0, 0, 1, 2]).isOk = false := by decide
  refine (hall.1 _).2.2.2 hcount fun hrec => ?_
  obtain ⟨g, hg⟩ := (hall.1 _).2.2.1.mpr hrec
  rw [hg] at hnone
  cases hnone

/-- A frame with `2 ^ 32 - 1` points writes its count as the word `-1`, so a four-byte
prefix of its payload reads as the end of the stored frames. -/
theorem decodePayload_prefix_of_wrapped_vertex_count :
    [255, 255, 255, 255] <+:
        encodeFrame (some { vertices := List.replicate (2 ^ 32 - 1) Point3.origin }) ∧
      4 < (encodeFrame (some { vertices := List.replicate (2 ^ 32 - 1) Point3.origin })).length ∧
      decodePayload [255, 255, 255, 255] = .ok .endOfStored := by
  have hcount : putCount (2 ^ 32 - 1) = [255, 255, 255, 255] := by decide
  -- the points are kept abstract: only their number matters, and it is too many to build
  generalize hvs : List.replicate (2 ^ 32 - 1) Point3.origin = vs
  have hlen : vs.length = 2 ^ 32 - 1 := by rw [← hvs, List.length_replicate]
  rw [FrameRecords.encodeFrame_eq_bytes]
  refine ⟨?_, ?_, (decodePayload_eq_endOfStored_iff _).mpr (by decide)⟩
  · simp only [FrameRecords.bytes, FrameRecords.length_ofFrame_vertices, hlen, hcount]
    exact List.prefix_append _ _
  · have hle := FrameRecords.le_length_bytes (FrameRecords.size_ofFrame_vertices
      { vertices := vs })
    rw [FrameRecords.length_ofFrame_vertices, hlen] at hle
    exact Nat.lt_of_lt_of_le (by decide) hle

end DepthRig.Wire
