import Mathlib
import DepthRig.Wire.Framing

/-!
# Reading fields back

The little-endian writers and the field readers are inverse, and every reader of a
`Decode` computation is described by what it does to the cursor: a read that fits takes
the bytes at the front and moves the offset past them, and a stop leaves the cursor where
the reader stopped. Later files never unfold a reader; they rewrite with these laws.
-/

namespace DepthRig.Wire

/-! ### Little-endian words -/

@[simp] theorem length_putLE (k v : Nat) : (putLE k v).length = k := by
  induction k generalizing v with
  | zero => rfl
  | succ k ih => simp [putLE, ih]

/-- Reading `k` written bytes gives the number modulo `256 ^ k`. -/
theorem getLE_putLE (k v : Nat) : getLE (putLE k v) = v % 256 ^ k := by
  induction k generalizing v with
  | zero => simp [putLE, getLE, Nat.mod_one]
  | succ k ih =>
    simp only [putLE, getLE, ih]
    rw [pow_succ', Nat.mod_mul]
    simp

/-- Writing only looks at the number modulo `256 ^ k`. -/
theorem putLE_mod (k v : Nat) : putLE k (v % 256 ^ k) = putLE k v := by
  induction k generalizing v with
  | zero => rfl
  | succ k ih =>
    have hlow : v % 256 ^ (k + 1) % 256 = v % 256 := by
      rw [pow_succ', Nat.mod_mul_right_mod]
    have hhigh : v % 256 ^ (k + 1) / 256 = v / 256 % 256 ^ k := by
      rw [pow_succ', Nat.mod_mul_right_div_self]
    simp only [putLE, hlow, hhigh, ih]

/-- Writing back the number that some bytes hold gives those bytes. -/
theorem putLE_getLE (w : List UInt8) : putLE w.length (getLE w) = w := by
  induction w with
  | nil => rfl
  | cons b w ih =>
    have hlow : (b.toNat + 256 * getLE w) % 256 = b.toNat := by
      have := b.toNat_lt
      omega
    have hhigh : (b.toNat + 256 * getLE w) / 256 = getLE w := by
      have := b.toNat_lt
      omega
    simp [putLE, getLE, hlow, hhigh, ih]

@[simp] theorem length_putI16 (v : Int16) : (putI16 v).length = 2 := by simp [putI16, putU16]
@[simp] theorem length_putU32 (v : UInt32) : (putU32 v).length = 4 := by simp [putU32]
@[simp] theorem length_putI32 (v : Int32) : (putI32 v).length = 4 := by simp [putI32]
@[simp] theorem length_putSingle (v : Single) : (putSingle v).length = 4 := by simp [putSingle]
@[simp] theorem length_putCount (n : Nat) : (putCount n).length = 4 := by simp [putCount]
@[simp] theorem length_putBool (v : Bool) : (putBool v).length = 1 := rfl

@[simp] theorem i16OfBytes_putI16 (v : Int16) : i16OfBytes (putI16 v) = v := by
  simp [i16OfBytes, putI16, putU16, getLE_putLE]

@[simp] theorem i32OfBytes_putI32 (v : Int32) : i32OfBytes (putI32 v) = v := by
  simp [i32OfBytes, putI32, putU32, getLE_putLE]

@[simp] theorem u32OfBytes_putU32 (v : UInt32) : u32OfBytes (putU32 v) = v := by
  simp [u32OfBytes, putU32, getLE_putLE]

/-- Two bytes are the signed word they hold, written back. -/
theorem putI16_i16OfBytes {w : List UInt8} (hw : w.length = 2) : putI16 (i16OfBytes w) = w := by
  have h := putLE_getLE w
  have hmod : putLE 2 (getLE w % 65536) = putLE 2 (getLE w) := putLE_mod 2 _
  rw [hw] at h
  simpa [putI16, putU16, i16OfBytes, hmod] using h

/-- Four bytes are the signed word they hold, written back. -/
theorem putI32_i32OfBytes {w : List UInt8} (hw : w.length = 4) : putI32 (i32OfBytes w) = w := by
  have h := putLE_getLE w
  have hmod : putLE 4 (getLE w % 4294967296) = putLE 4 (getLE w) := putLE_mod 4 _
  rw [hw] at h
  simpa [putI32, putU32, i32OfBytes, hmod] using h

/-- Four bytes are the word they hold, written back. -/
theorem putU32_u32OfBytes {w : List UInt8} (hw : w.length = 4) : putU32 (u32OfBytes w) = w := by
  have h := putLE_getLE w
  have hmod : putLE 4 (getLE w % 4294967296) = putLE 4 (getLE w) := putLE_mod 4 _
  rw [hw] at h
  simpa [putU32, u32OfBytes, hmod] using h

/-- A count below `2 ^ 31` reads back as itself. -/
theorem toInt_i32OfBytes_putCount {n : Nat} (hn : n < 2 ^ 31) :
    (i32OfBytes (putCount n)).toInt = n := by
  simp only [putCount, i32OfBytes_putI32]
  exact Int32.toInt_ofInt_of_le (by omega) (by omega)

/-! ### Readers and the cursor -/

/-- Taking `n` bytes succeeds exactly when `n` remain, and moves the offset by `n`. -/
theorem Cursor.take?_eq (c : Cursor) (n : Nat) :
    c.take? n = if n ≤ c.rest.length then
      some (c.rest.take n, { c with rest := c.rest.drop n, offset := c.offset + n })
    else none := by
  unfold Cursor.take?
  by_cases h : n ≤ c.rest.length
  · simp [h, List.splitAt_eq]
  · simp [h, List.splitAt_eq]

namespace Decode

variable {α β : Type}

@[simp] theorem runOn_pure (a : α) (c : Cursor) : (pure a : Decode α).runOn c = (.ok a, c) := rfl

/-- A reader followed by another runs the second from where the first left the cursor,
unless the first stopped. -/
@[simp] theorem runOn_bind (x : Decode α) (f : α → Decode β) (c : Cursor) :
    (x >>= f).runOn c = match x.runOn c with
      | (.ok a, c') => (f a).runOn c'
      | (.error e, c') => (.error e, c') := by
  simp only [Decode.runOn, ExceptT.run, bind, ExceptT.bind, ExceptT.mk, StateT.run, StateT.bind,
    ExceptT.bindCont]
  rcases x c with ⟨r, c'⟩
  cases r <;> simp [pure, StateT.pure]

@[simp] theorem runOn_map (f : α → β) (x : Decode α) (c : Cursor) :
    (f <$> x).runOn c = match x.runOn c with
      | (.ok a, c') => (.ok (f a), c')
      | (.error e, c') => (.error e, c') := by
  rw [map_eq_pure_bind, runOn_bind]
  rcases x.runOn c with ⟨r, c'⟩
  cases r <;> rfl

/-- A bind that succeeds is two runs that succeed, the second from where the first
stopped. -/
theorem runOn_bind_eq_ok {x : Decode α} {f : α → Decode β} {c c'' : Cursor} {b : β}
    (h : (x >>= f).runOn c = (.ok b, c'')) :
    ∃ a c', x.runOn c = (.ok a, c') ∧ (f a).runOn c' = (.ok b, c'') := by
  rw [runOn_bind] at h
  rcases hx : x.runOn c with ⟨r, c'⟩
  cases r with
  | error e => simp [hx] at h
  | ok a => exact ⟨a, c', rfl, by simpa [hx] using h⟩

/-- A bind that stops stopped in its first reader, or in its second after the first
succeeded. -/
theorem runOn_bind_eq_error {x : Decode α} {f : α → Decode β} {c c'' : Cursor} {s : ReadStop}
    (h : (x >>= f).runOn c = (.error s, c'')) :
    x.runOn c = (.error s, c'') ∨
      ∃ a c', x.runOn c = (.ok a, c') ∧ (f a).runOn c' = (.error s, c'') := by
  rw [runOn_bind] at h
  rcases hx : x.runOn c with ⟨r, c'⟩
  cases r with
  | error e =>
    simp only [hx, Prod.mk.injEq, Except.error.injEq] at h
    simp [h.1, h.2]
  | ok a => exact .inr ⟨a, c', rfl, by simpa [hx] using h⟩

@[simp] theorem runOn_fail (e : WireError) (c : Cursor) :
    (fail e : Decode α).runOn c = (.error (.wire e), c) := rfl

@[simp] theorem runOn_remaining (c : Cursor) : remaining.runOn c = (.ok c.rest.length, c) := rfl

/-- A field of a buffer is the next `n` bytes, or a short read that names its size, the
offset and what remained, with the cursor left in place. -/
theorem runOn_field (n : Nat) (c : Cursor) :
    (field n).runOn c = if n ≤ c.rest.length then
      (.ok (c.rest.take n), { c with rest := c.rest.drop n, offset := c.offset + n })
    else (.error (.wire (.short n c.offset c.rest.length)), c) := by
  simp only [Decode.runOn, field, ExceptT.run, ExceptT.mk, StateT.run]
  rw [Cursor.take?_eq]
  split_ifs <;> rfl

/-- A read from a stream is the next `n` bytes when they are there; otherwise an open stream
waits and an ended one stops at its end, `ended` with nothing left and `cut` inside the
field. -/
theorem runOn_readFull (n : Nat) (c : Cursor) :
    (readFull n).runOn c = if n ≤ c.rest.length then
      (.ok (c.rest.take n), { c with rest := c.rest.drop n, offset := c.offset + n })
    else if !c.closed then (.error .waiting, c)
    else if c.rest.isEmpty then (.error .ended, c)
    else (.error .cut, { c with rest := [], offset := c.offset + c.rest.length }) := by
  simp only [Decode.runOn, readFull, ExceptT.run, ExceptT.mk, StateT.run]
  rw [Cursor.take?_eq]
  split_ifs <;> rfl

/-- Skipping `n` bytes of a stream takes them when they are there; an ended stream short of
them is consumed to its end. -/
theorem runOn_discard (n : Nat) (c : Cursor) :
    (discard n).runOn c = if n ≤ c.rest.length then
      (.ok (), { c with rest := c.rest.drop n, offset := c.offset + n })
    else if !c.closed then (.error .waiting, c)
    else (.error .ended, { c with rest := [], offset := c.offset + c.rest.length }) := by
  simp only [Decode.runOn, discard, ExceptT.run, ExceptT.mk, StateT.run]
  rw [Cursor.take?_eq]
  split_ifs <;> rfl

@[simp] theorem runOn_ite {p : Prop} [Decidable p] (x y : Decode α) (c : Cursor) :
    (if p then x else y).runOn c = if p then x.runOn c else y.runOn c := by
  split_ifs <;> rfl

/-- `runOn_field` before a continuation: the continuation runs on the field's bytes. -/
theorem runOn_field_bind (n : Nat) (f : List UInt8 → Decode β) (c : Cursor) :
    (field n >>= f).runOn c = if n ≤ c.rest.length then
      (f (c.rest.take n)).runOn { c with rest := c.rest.drop n, offset := c.offset + n }
    else (.error (.wire (.short n c.offset c.rest.length)), c) := by
  rw [runOn_bind, runOn_field]
  split_ifs <;> rfl

@[simp] theorem runOn_remaining_bind (f : Nat → Decode β) (c : Cursor) :
    (remaining >>= f).runOn c = (f c.rest.length).runOn c := by
  rw [runOn_bind, runOn_remaining]

/-- A field whose bytes are at the front of the buffer is read whole. -/
theorem runOn_field_append {bs : List UInt8} {n : Nat} (hbs : bs.length = n)
    (rest : List UInt8) (offset : Nat) (closed : Bool) :
    (field n).runOn ⟨bs ++ rest, offset, closed⟩ =
      (.ok bs, ⟨rest, offset + n, closed⟩) := by
  subst hbs
  simp [runOn_field]

/-- A stream read whose bytes are at the front of the stream is read whole. -/
theorem runOn_readFull_append {bs : List UInt8} {n : Nat} (hbs : bs.length = n)
    (rest : List UInt8) (offset : Nat) (closed : Bool) :
    (readFull n).runOn ⟨bs ++ rest, offset, closed⟩ =
      (.ok bs, ⟨rest, offset + n, closed⟩) := by
  subst hbs
  simp [runOn_readFull]

end Decode

/-! ### Fixed-size records -/

private theorem records_go_flatten {k : Nat} (rs : List (List UInt8))
    (hrs : ∀ r ∈ rs, r.length = k) (acc : Array (List UInt8)) :
    records.go k rs.flatten rs.length acc = acc.toList ++ rs := by
  induction rs generalizing acc with
  | nil => simp [records.go]
  | cons r rs ih =>
    have hr : r.length = k := hrs r (by simp)
    have hsplit : (r ++ rs.flatten).splitAt k = (r, rs.flatten) := by
      simp [List.splitAt_eq, ← hr]
    simp only [List.flatten_cons, List.length_cons, records.go, hsplit]
    rw [ih (fun r' h => hrs r' (by simp [h]))]
    simp

/-- Records of `k` bytes laid end to end split back into the same records. -/
theorem records_flatten {k : Nat} {rs : List (List UInt8)} (hrs : ∀ r ∈ rs, r.length = k) :
    records k rs.flatten rs.length = rs := by
  simpa [records] using records_go_flatten rs hrs #[]

/-- Bytes that are `n` records long are `n` records of `k` bytes laid end to end. -/
theorem exists_flatten_records {k n : Nat} {bs : List UInt8} (hbs : bs.length = n * k) :
    ∃ rs : List (List UInt8), rs.length = n ∧ (∀ r ∈ rs, r.length = k) ∧
      bs = rs.flatten := by
  induction n generalizing bs with
  | zero => exact ⟨[], rfl, by simp, by simpa using hbs⟩
  | succ n ih =>
    obtain ⟨rs, hlen, hsize, hflat⟩ := @ih (bs.drop k) (by simp [hbs, Nat.succ_mul])
    refine ⟨bs.take k :: rs, by simp [hlen], ?_, ?_⟩
    · intro r hr
      rcases List.mem_cons.mp hr with rfl | hr
      · simp [hbs, Nat.succ_mul]
      · exact hsize r hr
    · rw [List.flatten_cons, ← hflat, List.take_append_drop]

end DepthRig.Wire
