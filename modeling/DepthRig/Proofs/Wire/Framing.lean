import DepthRig.Proofs.Wire.FrameRoundTrip

/-!
# Framed payloads on a stream

A call of the frame reader takes the eight-byte header and then exactly the bytes the
header announces (none for a length of zero or below), whatever it makes of them: a frame,
the end of the stored frames, or a wire error. A stream that ends before those bytes stops
the call with the end of the stream. Calls in a row over framed messages therefore each
start at the next header.
-/

namespace DepthRig.Wire

namespace Decode

variable {β : Type}

/-- `runOn_readFull` before a continuation. -/
theorem runOn_readFull_bind (n : Nat) (f : List UInt8 → Decode β) (c : Cursor) :
    (readFull n >>= f).runOn c = if n ≤ c.rest.length then
      (f (c.rest.take n)).runOn { c with rest := c.rest.drop n, offset := c.offset + n }
    else if !c.closed then (.error .waiting, c)
    else if c.rest.isEmpty then (.error .ended, c)
    else (.error .cut, { c with rest := [], offset := c.offset + c.rest.length }) := by
  rw [runOn_bind, runOn_readFull]
  split_ifs <;> rfl

/-- `runOn_discard` before a continuation. -/
theorem runOn_discard_bind (n : Nat) (f : Unit → Decode β) (c : Cursor) :
    (discard n >>= f).runOn c = if n ≤ c.rest.length then
      (f ()).runOn { c with rest := c.rest.drop n, offset := c.offset + n }
    else if !c.closed then (.error .waiting, c)
    else (.error .ended, { c with rest := [], offset := c.offset + c.rest.length }) := by
  rw [runOn_bind, runOn_discard]
  split_ifs <;> rfl

end Decode

/-! ### Readers that take no bytes -/

/-- A stop of the frame reader that is about the frame, not about the stream: a wire error
that is a malformed frame or a spurious length. -/
def FrameStop (s : ReadStop) : Prop :=
  ∃ e, s = .wire e ∧ (e.isMalformed = true ∨ e.isSpurious = true)

/-- A reader that takes no bytes and can only stop on the frame: what the frame reader does
once it holds the payload. -/
structure Settles {α : Type} (d : Decode α) : Prop where
  cursor : ∀ c, (d.runOn c).2 = c
  stop : ∀ c s, (d.runOn c).1 = .error s → FrameStop s

namespace Settles

variable {α β : Type}

theorem pure (a : α) : Settles (pure a : Decode α) :=
  ⟨fun _ => rfl, fun _ _ h => by simp at h⟩

theorem fail {e : WireError} (he : e.isMalformed = true ∨ e.isSpurious = true) :
    Settles (fail e : Decode α) :=
  ⟨fun _ => rfl, fun _ _ h => ⟨e, by simpa using h.symm, he⟩⟩

theorem bind {d : Decode α} {k : α → Decode β} (hd : Settles d) (hk : ∀ a, Settles (k a)) :
    Settles (d >>= k) := by
  constructor
  · intro c
    rw [Decode.runOn_bind]
    rcases hrun : d.runOn c with ⟨r, c'⟩
    have hc : c' = c := by simpa [hrun] using hd.cursor c
    cases r with
    | ok a => simpa [hc] using (hk a).cursor c'
    | error e => simpa using hc
  · intro c s hs
    rw [Decode.runOn_bind] at hs
    rcases hrun : d.runOn c with ⟨r, c'⟩
    rw [hrun] at hs
    cases r with
    | ok a => exact (hk a).stop c' s hs
    | error e => exact hd.stop c s (by simpa [hrun] using hs)

/-- A reader that settles leaves the cursor and stops only on the frame. -/
theorem runOn {d : Decode α} (hd : Settles d) (c : Cursor) :
    (d.runOn c).2 = c ∧ ∀ s, (d.runOn c).1 = .error s → FrameStop s :=
  ⟨hd.cursor c, hd.stop c⟩

end Settles

/-- Decoding a payload and stopping on its error takes no bytes and stops on the frame. -/
theorem settles_decodePayload (payload : List UInt8) :
    Settles (match decodePayload payload with
      | .ok p => pure p
      | .error e => fail e) := by
  split
  · exact Settles.pure _
  · rename_i e he
    exact Settles.fail (decodePayload_error_isMalformed_or_isSpurious he)

/-! ### One call -/

/-- What a call of the frame reader does once it holds the payload: decompress it when the
header asks and a decompressor is there, then decode it. -/
def afterPayload (zstd compressed : Bool) (payload : List UInt8) : Decode Payload := do
  let payload ← if compressed then
      if !zstd then fail .noDecompressor
      else match Compression.decompress (ByteArray.mk payload.toArray) with
        | .ok p => pure p.toList
        | .error e => fail (.decompress e.message)
    else pure payload
  match decodePayload payload with
  | .ok p => pure p
  | .error e => fail e

/-- Once the payload is read, the rest of a call takes no bytes and stops only on the
frame. -/
theorem settles_afterPayload (zstd compressed : Bool) (payload : List UInt8) :
    Settles (afterPayload zstd compressed payload) := by
  unfold afterPayload
  split_ifs
  · exact (Settles.fail (.inl rfl)).bind settles_decodePayload
  · split
    · exact (Settles.pure _).bind settles_decodePayload
    · exact (Settles.fail (.inl rfl)).bind settles_decodePayload
  · exact (Settles.pure _).bind settles_decodePayload

/-- One call of the frame reader on a stream that holds a header and the bytes it announces
takes exactly those: eight bytes for the end of the stored frames or a spurious length, and
eight plus the length otherwise, whether it reads a frame or stops on it. It never stops for
want of bytes. -/
theorem runOn_readFramed {zstd : Bool} {hdr rest : List UInt8} (hhdr : hdr.length = 8)
    (hrest : (i32OfBytes (hdr.take 4)).toInt.toNat ≤ rest.length) (offset : Nat) (closed : Bool) :
    ((readFramed zstd).runOn ⟨hdr ++ rest, offset, closed⟩).2 =
        ⟨rest.drop (i32OfBytes (hdr.take 4)).toInt.toNat,
          offset + 8 + (i32OfBytes (hdr.take 4)).toInt.toNat, closed⟩ ∧
      ∀ s, ((readFramed zstd).runOn ⟨hdr ++ rest, offset, closed⟩).1 = .error s →
        FrameStop s := by
  have htake : hdr.take 8 = hdr := List.take_of_length_le (by omega)
  have hdrop : (hdr ++ rest).drop 8 = rest := by rw [← hhdr, List.drop_left]
  simp only [readFramed, Decode.runOn_readFull_bind, List.length_append, hhdr,
    List.take_append_of_le_length (le_of_eq hhdr.symm), htake, hdrop]
  rw [if_pos (by omega)]
  -- the three outcomes decided by the header, then the payload
  split
  next hend =>
    -- the end of the stored frames: nothing after the header
    have hzero : (i32OfBytes (hdr.take 4)).toInt.toNat = 0 := by
      simp [FrameHeader.isEndOfStream] at hend
      omega
    simp [hzero]
  split
  next hspur =>
    -- a spurious length: nothing after the header
    have hzero : (i32OfBytes (hdr.take 4)).toInt.toNat = 0 := by
      simp [FrameHeader.isSpurious] at hspur
      omega
    refine ⟨by simp [hzero], ?_⟩
    intro s hs
    simp only [Decode.runOn_fail, Except.error.injEq] at hs
    exact ⟨_, hs.symm, .inr rfl⟩
  split
  next hlong =>
    -- too long: the payload is drained, then refused
    rw [Decode.runOn_discard_bind, if_pos hrest]
    refine ⟨by simp [Nat.add_assoc], ?_⟩
    intro s hs
    simp only [Decode.runOn_fail, Except.error.injEq] at hs
    exact ⟨_, hs.symm, .inl rfl⟩
  -- the payload is read whole, and the rest of the call settles
  rw [Decode.runOn_readFull_bind, if_pos hrest]
  exact (settles_afterPayload zstd (u32OfBytes (hdr.drop 4) == 1)
    (rest.take (i32OfBytes (hdr.take 4)).toInt.toNat)).runOn _

/-- A call on an ended stream that holds less than a header and the bytes it announces
stops with the end of the stream, `ended` or `cut`, and reads no frame. -/
theorem readFramed_short {zstd : Bool} {bs : List UInt8}
    (hshort : bs.length < 8 + (i32OfBytes (bs.take 4)).toInt.toNat) (offset : Nat) :
    ((readFramed zstd).runOn ⟨bs, offset, true⟩).1 = .error .ended ∨
      ((readFramed zstd).runOn ⟨bs, offset, true⟩).1 = .error .cut := by
  simp only [readFramed, Decode.runOn_readFull_bind]
  by_cases h8 : 8 ≤ bs.length
  · rw [if_pos h8]
    have htake : (bs.take 8).take 4 = bs.take 4 := by rw [List.take_take]; rfl
    simp only [htake]
    -- the announced bytes run past the end, so the length is positive
    split
    next hend =>
      simp [FrameHeader.isEndOfStream] at hend
      omega
    split
    next hspur =>
      simp [FrameHeader.isSpurious] at hspur
      omega
    split
    next hlong =>
      rw [Decode.runOn_discard_bind, if_neg (by rw [List.length_drop]; omega)]
      simp
    rw [Decode.runOn_readFull_bind, if_neg (by rw [List.length_drop]; omega)]
    simp only [Bool.not_true, Bool.false_eq_true, if_false]
    split <;> simp
  · rw [if_neg h8]
    simp only [Bool.not_true, Bool.false_eq_true, if_false]
    split <;> simp

/-! ### Calls in a row -/

/-- A framed message: an eight-byte header and the bytes its length announces, none when
that length is not positive. -/
structure FramedMessage where
  header : List UInt8
  body : List UInt8
  header_length : header.length = 8
  body_length : body.length = (i32OfBytes (header.take 4)).toInt.toNat

/-- The bytes of a framed message on the stream. -/
def FramedMessage.bytes (m : FramedMessage) : List UInt8 := m.header ++ m.body

/-- A call on a stream that starts with a framed message takes exactly that message. -/
theorem FramedMessage.runOn_readFramed_append (zstd : Bool) (m : FramedMessage) (rest : List UInt8)
    (offset : Nat) (closed : Bool) :
    ((readFramed zstd).runOn ⟨m.bytes ++ rest, offset, closed⟩).2 =
      ⟨rest, offset + m.bytes.length, closed⟩ := by
  have hstep := (@runOn_readFramed zstd m.header (m.body ++ rest) m.header_length
    (by simp [m.body_length]) offset closed).1
  rw [bytes, List.append_assoc, hstep, ← m.body_length, List.drop_left]
  simp [m.header_length, Nat.add_assoc]

/-- Calls in a row over framed messages: after `i` calls the reader stands at the header
of message `i`, whatever each call made of its message. -/
theorem readFramed_iterate (zstd : Bool) (ms : List FramedMessage) (rest : List UInt8)
    (offset : Nat) (closed : Bool) {i : Nat} (hi : i ≤ ms.length) :
    (fun c => ((readFramed zstd).runOn c).2)^[i]
        ⟨ms.flatMap FramedMessage.bytes ++ rest, offset, closed⟩ =
      ⟨(ms.drop i).flatMap FramedMessage.bytes ++ rest,
        offset + ((ms.take i).flatMap FramedMessage.bytes).length, closed⟩ := by
  induction ms generalizing i offset with
  | nil =>
    have hi0 : i = 0 := by simpa using hi
    subst hi0
    simp
  | cons m ms ih =>
    cases i with
    | zero => simp
    | succ i =>
      -- the first call takes the first message, the other calls the rest
      have hfirst : ((readFramed zstd).runOn ⟨(m :: ms).flatMap FramedMessage.bytes ++ rest,
          offset, closed⟩).2 = ⟨ms.flatMap FramedMessage.bytes ++ rest, offset + m.bytes.length,
          closed⟩ := by
        rw [List.flatMap_cons, List.append_assoc, FramedMessage.runOn_readFramed_append]
      rw [Function.iterate_succ_apply, hfirst, ih (offset + m.bytes.length) (by simpa using hi)]
      simp [Nat.add_assoc]

/-! ### A written frame read back -/

/-- The bytes of a byte array, read by its index loop, are those of its array. -/
theorem toList_byteArray (bs : ByteArray) : bs.toList = bs.data.toList := by
  -- the loop has consed the bytes before `i`, reversed, and appends those from `i` on
  have hloop : ∀ i r, ByteArray.toList.loop bs i r = r.reverse ++ bs.data.toList.drop i := by
    intro i r
    fun_induction ByteArray.toList.loop bs i r with
    | case1 i r hi ih =>
      rw [ih]
      conv_rhs => rw [List.drop_eq_getElem_cons (by simpa using hi)]
      simp [ByteArray.get!, getElem!_pos, hi]
    | case2 i r hi =>
      rw [List.drop_eq_nil_of_le (by simpa using hi), List.append_nil]
  simp [ByteArray.toList, hloop]

@[simp] theorem toList_mk_toArray (l : List UInt8) : (ByteArray.mk l.toArray).toList = l := by
  simp [toList_byteArray]

@[simp] theorem mk_toArray_toList (bs : ByteArray) : ByteArray.mk bs.toList.toArray = bs := by
  simp [toList_byteArray]

namespace FrameHeader

@[simp] theorem length_encode (h : FrameHeader) : h.encode.length = 8 := by simp [encode]

theorem take_four_encode (h : FrameHeader) : h.encode.take 4 = putI32 h.length :=
  List.take_left' (by simp)

@[simp] theorem flag_encode (h : FrameHeader) :
    (u32OfBytes (h.encode.drop 4) == 1) = h.compressed := by
  rw [encode, List.drop_left' (by simp), u32OfBytes_putU32]
  cases h.compressed <;> decide

end FrameHeader

/-- A call on a header of positive length within the limit, followed by that many bytes,
takes them and goes on with them. -/
theorem runOn_readFramed_header {zstd : Bool} {h : FrameHeader} {payload rest : List UInt8}
    (hlen : h.length.toInt = payload.length) (hpos : 0 < payload.length)
    (hmax : payload.length ≤ maxFramePayload) (offset : Nat) (closed : Bool) :
    (readFramed zstd).runOn ⟨h.encode ++ (payload ++ rest), offset, closed⟩ =
      (afterPayload zstd h.compressed payload).runOn
        ⟨rest, offset + 8 + payload.length, closed⟩ := by
  have htake : (h.encode ++ (payload ++ rest)).take 8 = h.encode := List.take_left' (by simp)
  have hdrop : (h.encode ++ (payload ++ rest)).drop 8 = payload ++ rest :=
    List.drop_left' (by simp)
  have hn : h.length.toInt.toNat = payload.length := by omega
  simp only [readFramed, Decode.runOn_readFull_bind, htake, hdrop, FrameHeader.take_four_encode,
    i32OfBytes_putI32, FrameHeader.flag_encode, List.length_append, FrameHeader.length_encode]
  rw [if_pos (by omega)]
  -- a positive length within the limit: neither the sentinel, nor spurious, nor too long
  rw [if_neg (by simp only [FrameHeader.isEndOfStream, hlen, beq_iff_eq]; omega),
    if_neg (by
      simp only [FrameHeader.isSpurious, hlen, Bool.and_eq_true, decide_eq_true_eq]; omega),
    if_neg (by omega), hn,
    Decode.runOn_readFull_bind, if_pos (by simp), List.take_left' rfl, List.drop_left' rfl]
  rfl

/-- The end-of-stored header is read as such, in its eight bytes. -/
theorem runOn_readFramed_endOfStored (zstd : Bool) (rest : List UInt8) (offset : Nat)
    (closed : Bool) :
    (readFramed zstd).runOn ⟨FrameHeader.encode ⟨-1, false⟩ ++ rest, offset, closed⟩ =
      (.ok .endOfStored, ⟨rest, offset + 8, closed⟩) := by
  have htake :
      (FrameHeader.encode ⟨-1, false⟩ ++ rest).take 8 = FrameHeader.encode ⟨-1, false⟩ :=
    List.take_left' (by simp)
  have hdrop : (FrameHeader.encode ⟨-1, false⟩ ++ rest).drop 8 = rest :=
    List.drop_left' (by simp)
  simp only [readFramed, Decode.runOn_readFull_bind, htake, hdrop, FrameHeader.take_four_encode,
    i32OfBytes_putI32, List.length_append, FrameHeader.length_encode]
  rw [if_pos (by omega)]
  simp [FrameHeader.isEndOfStream]

/-! ### Writing and reading a frame -/

/-- A frame whose counts fit a signed 32-bit word is read back from its payload as the wire
carries it: every point through whole millimetres, with the colour written for it (black
past the end of the colour list), and every body as it was, bit for bit. Framed after any
bytes, compressed or not, with a payload within the limit, and followed by the end-of-stored
header, it is read back by the frame reader, which then reads the end of the stored frames;
a compressed payload needs a decompressor that undoes the compressor. -/
theorem readFramed_appendFramed_round_trip (f : Frame) (hv : f.vertices.length < 2 ^ 31)
    (hb : f.bodies.length < 2 ^ 31) (hj : ∀ b ∈ f.bodies, b.joints.length < 2 ^ 31) :
    let g : Frame :=
      { vertices := f.vertices.map fun p => ⟨metresOfMillimetres (millimetresOfMetres p.x),
          metresOfMillimetres (millimetresOfMetres p.y),
          metresOfMillimetres (millimetresOfMetres p.z)⟩
        colors := (List.range f.vertices.length).map fun i => f.colors.getD i ⟨0, 0, 0⟩
        bodies := f.bodies }
    decodePayload (encodeFrame (some f)) = .ok (.frame g) ∧
    ∀ (dst : List UInt8) (compress zstd closed : Bool),
      (compress = true → zstd = true ∧
        Compression.decompress (Compression.compress ⟨(encodeFrame (some f)).toArray⟩) =
          .ok ⟨(encodeFrame (some f)).toArray⟩) →
      (if compress then (Compression.compress ⟨(encodeFrame (some f)).toArray⟩).toList
        else encodeFrame (some f)).length ≤ maxFramePayload →
      ((readFramed zstd).runOn ⟨(appendEndOfStored (appendFramed dst (some f) compress)).drop
          dst.length, 0, closed⟩).1 = .ok (.frame g) ∧
      ((readFramed zstd).runOn ((readFramed zstd).runOn
          ⟨(appendEndOfStored (appendFramed dst (some f) compress)).drop dst.length, 0,
            closed⟩).2).1 = .ok .endOfStored := by
  intro g
  have hdec : decodePayload (encodeFrame (some f)) = .ok (.frame g) := by
    rw [FrameRecords.encodeFrame_eq_bytes, ← List.append_nil (FrameRecords.ofFrame f).bytes,
      FrameRecords.decodePayload_bytes_append (FrameRecords.valid_ofFrame hv hb hj),
      FrameRecords.frame_ofFrame]
  refine ⟨hdec, fun dst compress zstd closed hzstd hmax => ?_⟩
  set payload := (if compress then
      (Compression.compress ⟨(encodeFrame (some f)).toArray⟩).toList
    else encodeFrame (some f)) with hpayload
  -- after `dst`: the header, the payload and the end-of-stored header
  have hstream : (appendEndOfStored (appendFramed dst (some f) compress)).drop dst.length =
      FrameHeader.encode ⟨Int32.ofInt payload.length, compress⟩ ++
        (payload ++ FrameHeader.encode ⟨-1, false⟩) := by
    simp only [appendEndOfStored, appendFramed, hpayload, List.append_assoc]
    exact List.drop_left
  have hpos : 0 < payload.length := by
    cases compress
    · simp [hpayload, FrameRecords.encodeFrame_eq_bytes, FrameRecords.bytes]
    · simp [hpayload, Compression.compress, Compression.leBytes]
  have hlimit : maxFramePayload < 2 ^ 31 := by decide
  have hlen : (Int32.ofInt payload.length).toInt = payload.length :=
    Int32.toInt_ofInt_of_le (by omega) (by omega)
  -- the payload, decompressed when it was compressed, decodes to the frame
  have hafter : ∀ c, (afterPayload zstd compress payload).runOn c = (.ok (.frame g), c) := by
    intro c
    cases compress with
    | false => simp [afterPayload, hpayload, hdec]
    | true =>
      obtain ⟨hz, hround⟩ := hzstd rfl
      simp [afterPayload, hpayload, hz, hround, hdec]
  have hfirst := @runOn_readFramed_header zstd ⟨Int32.ofInt payload.length, compress⟩ payload
    (FrameHeader.encode ⟨-1, false⟩) hlen hpos hmax 0 closed
  rw [hstream, hfirst, hafter]
  refine ⟨rfl, ?_⟩
  rw [← List.append_nil (FrameHeader.encode ⟨-1, false⟩), runOn_readFramed_endOfStored]

/-- Two sample frames, each followed by the end-of-stored header. The empty frame, framed
compressed after no bytes, is read back. A frame of two points with one colour and a tracked
body with one joint, framed uncompressed after three bytes, is read back with its points
through whole millimetres and black for the colour it lacks. Each is followed by the end of
the stored frames. -/
theorem readFramed_appendFramed_samples :
    (decodePayload (encodeFrame (some {})) = .ok (.frame {}) ∧
      ((readFramed true).runOn ⟨(appendEndOfStored (appendFramed [] (some {}) true)).drop 0, 0,
          true⟩).1 = .ok (.frame {}) ∧
      ((readFramed true).runOn ((readFramed true).runOn
          ⟨(appendEndOfStored (appendFramed [] (some {}) true)).drop 0, 0, true⟩).2).1 =
        .ok .endOfStored) ∧
    let f : Frame :=
      { vertices := [⟨⟨0x3F000000⟩, ⟨0xBE800000⟩, Single.one⟩, ⟨Single.zero, Single.one, ⟨0x40000000⟩⟩]
        colors := [⟨10, 20, 30⟩]
        bodies := [⟨true, [⟨3, 2, ⟨Single.one, Single.zero, Single.one⟩, ⟨Single.zero, Single.one⟩⟩]⟩] }
    let g : Frame :=
      { vertices := f.vertices.map fun p => ⟨metresOfMillimetres (millimetresOfMetres p.x),
          metresOfMillimetres (millimetresOfMetres p.y),
          metresOfMillimetres (millimetresOfMetres p.z)⟩
        colors := (List.range f.vertices.length).map fun i => f.colors.getD i ⟨0, 0, 0⟩
        bodies := f.bodies }
    f.vertices.length < 2 ^ 31 ∧ f.bodies.length < 2 ^ 31 ∧
      (∀ b ∈ f.bodies, b.joints.length < 2 ^ 31) ∧
      g.vertices = f.vertices ∧ g.colors = [⟨10, 20, 30⟩, ⟨0, 0, 0⟩] ∧
      decodePayload (encodeFrame (some f)) = .ok (.frame g) ∧
      ((readFramed false).runOn ⟨(appendEndOfStored (appendFramed [7, 7, 7] (some f) false)).drop 3,
          0, false⟩).1 = .ok (.frame g) ∧
      ((readFramed false).runOn ((readFramed false).runOn
          ⟨(appendEndOfStored (appendFramed [7, 7, 7] (some f) false)).drop 3, 0, false⟩).2).1 =
        .ok .endOfStored := by
  -- the decompressor undoes the compressor on this payload, checked through its bytes
  have hbytes : ((Compression.decompress
      (Compression.compress ⟨(encodeFrame (some {})).toArray⟩)).toOption.map ByteArray.data) =
      some (encodeFrame (some {})).toArray := by decide +kernel
  have hround :
      Compression.decompress (Compression.compress ⟨(encodeFrame (some {})).toArray⟩) =
      .ok ⟨(encodeFrame (some {})).toArray⟩ := by
    revert hbytes
    cases Compression.decompress (Compression.compress ⟨(encodeFrame (some {})).toArray⟩) with
    | error e => simp [Except.toOption]
    | ok b =>
      intro h
      simp only [Except.toOption, Option.map_some, Option.some.injEq] at h
      rw [← h]
  obtain ⟨hdec, hread⟩ :=
    readFramed_appendFramed_round_trip {} (by decide) (by decide) (by simp)
  have hmax : (Compression.compress ⟨(encodeFrame (some {})).toArray⟩).toList.length ≤
      maxFramePayload := by
    rw [toList_byteArray]
    decide +kernel
  refine ⟨⟨hdec, hread [] true true true (fun _ => ⟨rfl, hround⟩) hmax⟩, ?_⟩
  intro f g
  have hv : f.vertices.length < 2 ^ 31 := by decide
  have hb : f.bodies.length < 2 ^ 31 := by decide
  have hj : ∀ b ∈ f.bodies, b.joints.length < 2 ^ 31 := by decide
  obtain ⟨hdec', hread'⟩ := readFramed_appendFramed_round_trip f hv hb hj
  have hmax' : (if false then (Compression.compress ⟨(encodeFrame (some f)).toArray⟩).toList
      else encodeFrame (some f)).length ≤ maxFramePayload := by decide +kernel
  exact ⟨hv, hb, hj, by decide +kernel, by decide +kernel, hdec',
    hread' [7, 7, 7] false false false nofun hmax'⟩

/-! ### Alignment -/

/-- The frame reader keeps a stream aligned on its messages. A call on a stream that starts
with a header of length `L` and holds the `max L 0` bytes after it takes eight bytes when
`L ≤ 0` and `8 + L` bytes when `L > 0`, and stops, if at all, only on the frame; a call on
an ended stream shorter than that stops with the end of the stream. Calls in a row over any
framed messages therefore each start at the next header. -/
theorem readFramed_stays_aligned :
    (∀ (zstd : Bool) (hdr rest : List UInt8) (offset : Nat) (closed : Bool), hdr.length = 8 →
      (i32OfBytes (hdr.take 4)).toInt.toNat ≤ rest.length →
      ((i32OfBytes (hdr.take 4)).toInt ≤ 0 →
        ((readFramed zstd).runOn ⟨hdr ++ rest, offset, closed⟩).2 =
          ⟨rest, offset + 8, closed⟩) ∧
      (0 < (i32OfBytes (hdr.take 4)).toInt →
        ((readFramed zstd).runOn ⟨hdr ++ rest, offset, closed⟩).2 =
          ⟨rest.drop (i32OfBytes (hdr.take 4)).toInt.toNat,
            offset + 8 + (i32OfBytes (hdr.take 4)).toInt.toNat, closed⟩) ∧
      ∀ s, ((readFramed zstd).runOn ⟨hdr ++ rest, offset, closed⟩).1 = .error s →
        FrameStop s) ∧
    (∀ (zstd : Bool) (bs : List UInt8) (offset : Nat),
      bs.length < 8 + (i32OfBytes (bs.take 4)).toInt.toNat →
      ((readFramed zstd).runOn ⟨bs, offset, true⟩).1 = .error .ended ∨
        ((readFramed zstd).runOn ⟨bs, offset, true⟩).1 = .error .cut) ∧
    ∀ (zstd : Bool) (ms : List FramedMessage) (rest : List UInt8) (offset : Nat) (closed : Bool)
      (i : Nat), i ≤ ms.length →
      (fun c => ((readFramed zstd).runOn c).2)^[i]
          ⟨ms.flatMap FramedMessage.bytes ++ rest, offset, closed⟩ =
        ⟨(ms.drop i).flatMap FramedMessage.bytes ++ rest,
          offset + ((ms.take i).flatMap FramedMessage.bytes).length, closed⟩ := by
  refine ⟨fun zstd hdr rest offset closed hhdr hrest => ?_,
    fun zstd bs offset hshort => readFramed_short hshort offset,
    fun zstd ms rest offset closed i hi => readFramed_iterate zstd ms rest offset closed hi⟩
  obtain ⟨hcursor, hstop⟩ := @runOn_readFramed zstd hdr rest hhdr hrest offset closed
  refine ⟨fun hle => ?_, fun _ => hcursor, hstop⟩
  -- a length of zero or below announces nothing
  have hzero : (i32OfBytes (hdr.take 4)).toInt.toNat = 0 := Int.toNat_of_nonpos hle
  rw [hcursor, hzero, List.drop_zero, Nat.add_zero]

/-- A header announcing three bytes is read with them, leaving what follows; the end-of-stored
header is read in eight bytes; a header announcing one byte on a stream that ends right after
it stops with the end of the stream; and a three-byte message, the end-of-stored header and a
two-byte message in a row are read in eleven, eight and ten bytes. -/
theorem readFramed_aligned_on_samples :
    ((readFramed false).runOn ⟨[3, 0, 0, 0, 0, 0, 0, 0] ++ [1, 2, 3, 9, 9], 0, false⟩).2 =
        ⟨[9, 9], 11, false⟩ ∧
      ((readFramed false).runOn ⟨[255, 255, 255, 255, 0, 0, 0, 0], 0, true⟩).2 =
        ⟨[], 8, true⟩ ∧
      (((readFramed false).runOn ⟨[1, 0, 0, 0, 0, 0, 0, 0], 0, true⟩).1 = .error .ended ∨
        ((readFramed false).runOn ⟨[1, 0, 0, 0, 0, 0, 0, 0], 0, true⟩).1 = .error .cut) ∧
      (fun c => ((readFramed false).runOn c).2)^[3]
          ⟨[3, 0, 0, 0, 0, 0, 0, 0, 1, 2, 3, 255, 255, 255, 255, 0, 0, 0, 0,
            2, 0, 0, 0, 0, 0, 0, 0, 4, 5, 6], 0, true⟩ =
        ⟨[6], 29, true⟩ := by
  let three : FramedMessage := ⟨[3, 0, 0, 0, 0, 0, 0, 0], [1, 2, 3], rfl, by decide⟩
  let sentinel : FramedMessage := ⟨[255, 255, 255, 255, 0, 0, 0, 0], [], rfl, by decide⟩
  let two : FramedMessage := ⟨[2, 0, 0, 0, 0, 0, 0, 0], [4, 5], rfl, by decide⟩
  refine ⟨?_, ?_, readFramed_stays_aligned.2.1 false _ 0 (by decide), ?_⟩
  · -- the header announces three bytes
    have hlen : (i32OfBytes ([3, 0, 0, 0, 0, 0, 0, 0].take 4)).toInt.toNat = 3 := by decide
    have h := (readFramed_stays_aligned.1 false [3, 0, 0, 0, 0, 0, 0, 0] [1, 2, 3, 9, 9] 0 false
      rfl (by decide)).2.1 (by decide)
    rw [hlen] at h
    simpa using h
  · simpa using (readFramed_stays_aligned.1 false _ [] 0 true rfl (by decide)).1 (by decide)
  · simpa [three, sentinel, two, FramedMessage.bytes] using
      readFramed_stays_aligned.2.2 false [three, sentinel, two] [6] 0 true 3 (by decide)

end DepthRig.Wire
