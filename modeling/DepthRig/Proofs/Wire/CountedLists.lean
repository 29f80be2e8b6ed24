import Mathlib
import DepthRig.Proofs.Wire.Payloads

/-!
# Counted lists within their bounds

Timestamp lists, post-sync lists and directory paths travel behind 32-bit counts, and within
the bound of `2 ^ 20` each reads back what was written and takes exactly its bytes. A count
outside the bound is refused as a malformed frame as soon as its four bytes are read
(`decides_listCount_refuses`).
-/

namespace DepthRig.Wire

variable {α β : Type} {o : Nat}

namespace Decode.Decides

protected theorem fail (e : WireError) : (fail e : Decode α).Decides o [] (.error (.wire e)) :=
  fun more closed => by simp

/-- A reader that stops on its bytes stops a bind there, and the rest of the bind never
runs. -/
theorem bind_error {d : Decode α} {k : α → Decode β} {t : List UInt8} {s : ReadStop}
    (hd : d.Decides o t (.error s)) : (d >>= k).Decides o t (.error s) := by
  intro more closed
  rw [runOn_bind, hd more closed]

end Decode.Decides

open Decode

/-- A count below zero or above `2 ^ 20` is refused as soon as its four bytes are read. -/
theorem decides_listCount_refuses {w : List UInt8} (hw : w.length = 4)
    (hout : (i32OfBytes w).toInt < 0 ∨ maxListEntries < (i32OfBytes w).toInt) :
    listCount.Decides o w (.error (.wire (.listLength (i32OfBytes w).toInt))) := by
  set v := i32OfBytes w with hv
  have hbytes : putI32 v = w := putI32_i32OfBytes hw
  rw [← hbytes]
  refine Decides.bind_nil (takes_readFull.i32 v) ?_
  rw [if_pos (by simpa using hout)]
  exact Decides.fail _

/-- A refused count is a malformed frame. -/
theorem isMalformed_listLength (n : Int) : (WireError.listLength n).isMalformed = true := rfl

end DepthRig.Wire

namespace DepthRig

open Wire Decode

namespace TimestampList

/-- A timestamp list is its two counts, eight bytes per timestamp and four per frame number. -/
theorem length_encode (l : TimestampList) :
    l.encode.length = 8 + 8 * l.timestamps.length + 4 * l.frameNumbers.length := by
  have hstamps : (l.timestamps.flatMap putU64).length = 8 * l.timestamps.length :=
    length_flatMap_of_length (fun v => by simp [putU64]) _
  have hnumbers : (l.frameNumbers.flatMap putI32).length = 4 * l.frameNumbers.length :=
    length_flatMap_of_length length_putI32 _
  simp only [encode, List.length_append, length_putCount, hstamps, hnumbers]
  omega

/-- A timestamp count out of bounds is refused after its four bytes. -/
theorem decides_reader_refuses_timestamps {w : List UInt8} (hw : w.length = 4)
    (hout : (i32OfBytes w).toInt < 0 ∨ maxListEntries < (i32OfBytes w).toInt) :
    reader.Decides o w (.error (.wire (.listLength (i32OfBytes w).toInt))) :=
  Decides.bind_error (decides_listCount_refuses hw hout)

/-- A frame-number count out of bounds is refused after its four bytes, which follow the
timestamps. -/
theorem decides_reader_refuses_frameNumbers {n : Nat} (hn : n ≤ maxListEntries)
    {raw : List UInt8} (hraw : raw.length = 8 * n) {w : List UInt8} (hw : w.length = 4)
    (hout : (i32OfBytes w).toInt < 0 ∨ maxListEntries < (i32OfBytes w).toInt) :
    reader.Decides o (putCount n ++ raw ++ w)
      (.error (.wire (.listLength (i32OfBytes w).toInt))) := by
  rw [List.append_assoc]
  exact Decides.bind (decides_listCount hn) (Decides.bind (takes_readFull hraw)
    (Decides.bind_error (decides_listCount_refuses hw hout)))

end TimestampList

namespace PostSyncList

/-- A relabelling is written exactly when its two lists have one length, as the count and
four bytes per entry of each list; otherwise writing fails with the two lengths. -/
theorem encode_eq_ok_iff (p : PostSyncList) :
    (∃ bytes, p.encode = .ok bytes ∧ bytes.length = 4 + 8 * p.frameIds.length) ↔
      p.frameIds.length = p.syncedIds.length := by
  unfold encode
  split
  · rename_i hne
    simp only [bne_iff_ne, ne_eq] at hne
    simp [hne]
  · rename_i hsame
    have hsame : p.frameIds.length = p.syncedIds.length := by simpa using hsame
    refine iff_of_true ⟨_, rfl, ?_⟩ hsame
    simp only [List.length_append, length_putCount,
      length_flatMap_of_length length_putI32, ← hsame]
    omega

/-- Lists of different lengths are not written: writing fails with the two lengths. -/
theorem encode_of_length_ne {p : PostSyncList} (h : p.frameIds.length ≠ p.syncedIds.length) :
    p.encode = .error (p.frameIds.length, p.syncedIds.length) := by
  simp [encode, h]

/-- A relabelling count out of bounds is refused after its four bytes. -/
theorem decides_reader_refuses {w : List UInt8} (hw : w.length = 4)
    (hout : (i32OfBytes w).toInt < 0 ∨ maxListEntries < (i32OfBytes w).toInt) :
    reader.Decides o w (.error (.wire (.listLength (i32OfBytes w).toInt))) :=
  Decides.bind_error (decides_listCount_refuses hw hout)

end PostSyncList

/-- A directory path payload is its count and its bytes. -/
theorem length_encodeDirectory (path : List UInt8) :
    (encodeDirectory path).length = 4 + path.length := by
  simp [encodeDirectory]

/-- A path count out of bounds is refused after its four bytes. -/
theorem decides_directoryReader_refuses {o : Nat} {w : List UInt8} (hw : w.length = 4)
    (hout : (i32OfBytes w).toInt < 0 ∨ maxListEntries < (i32OfBytes w).toInt) :
    directoryReader.Decides o w (.error (.wire (.listLength (i32OfBytes w).toInt))) :=
  Decides.bind_error (decides_listCount_refuses hw hout)

/-- Counted lists within their bounds: a timestamp list, a relabelling and a directory path
each read back as written and take exactly their bytes; a relabelling whose lists differ in
length is not written; and every count below zero or above `2 ^ 20` is refused as a malformed
frame as soon as its four bytes are read. -/
theorem counted_lists_round_trip (o : Nat) :
    (∀ l : TimestampList, l.timestamps.length ≤ maxListEntries →
      l.frameNumbers.length ≤ maxListEntries →
      TimestampList.reader.Decides o l.encode (.ok l) ∧
        l.encode.length = 8 + 8 * l.timestamps.length + 4 * l.frameNumbers.length) ∧
    (∀ p : PostSyncList, p.frameIds.length ≠ p.syncedIds.length →
      p.encode = .error (p.frameIds.length, p.syncedIds.length)) ∧
    (∀ p : PostSyncList, p.frameIds.length = p.syncedIds.length →
      p.frameIds.length ≤ maxListEntries →
      ∃ bytes, p.encode = .ok bytes ∧ PostSyncList.reader.Decides o bytes (.ok p) ∧
        bytes.length = 4 + 8 * p.frameIds.length) ∧
    (∀ path : List UInt8, path.length ≤ maxListEntries →
      directoryReader.Decides o (encodeDirectory path) (.ok path) ∧
        (encodeDirectory path).length = 4 + path.length) ∧
    ∀ w : List UInt8, w.length = 4 →
      ((i32OfBytes w).toInt < 0 ∨ maxListEntries < (i32OfBytes w).toInt) →
      (WireError.listLength (i32OfBytes w).toInt).isMalformed = true ∧
      TimestampList.reader.Decides o w (.error (.wire (.listLength (i32OfBytes w).toInt))) ∧
      (∀ n raw, n ≤ maxListEntries → raw.length = 8 * n →
        TimestampList.reader.Decides o (putCount n ++ raw ++ w)
          (.error (.wire (.listLength (i32OfBytes w).toInt)))) ∧
      PostSyncList.reader.Decides o w (.error (.wire (.listLength (i32OfBytes w).toInt))) ∧
      directoryReader.Decides o w (.error (.wire (.listLength (i32OfBytes w).toInt))) := by
  refine ⟨fun l ht hn => ⟨TimestampList.decides_reader l ht hn, TimestampList.length_encode l⟩,
    fun p hne => PostSyncList.encode_of_length_ne hne, fun p hsame hp => ?_,
    fun path hp => ⟨decides_directoryReader path hp, length_encodeDirectory path⟩,
    fun w hw hout => ⟨isMalformed_listLength _,
      TimestampList.decides_reader_refuses_timestamps hw hout,
      fun n raw hn hraw => TimestampList.decides_reader_refuses_frameNumbers hn hraw hw hout,
      PostSyncList.decides_reader_refuses hw hout, decides_directoryReader_refuses hw hout⟩⟩
  obtain ⟨bytes, he, hlen⟩ := (PostSyncList.encode_eq_ok_iff p).mpr hsame
  exact ⟨bytes, he, PostSyncList.decides_reader he hp, hlen⟩

/-- Two timestamps and no frame numbers are read back in 24 bytes, and a path announcing
`-1` bytes is refused after its four. -/
theorem counted_lists_round_trip_cases :
    TimestampList.reader.Decides 0 (⟨[1, 2], []⟩ : TimestampList).encode (.ok ⟨[1, 2], []⟩) ∧
      (⟨[1, 2], []⟩ : TimestampList).encode.length = 24 ∧
      directoryReader.Decides 0 [255, 255, 255, 255] (.error (.wire (.listLength (-1)))) := by
  obtain ⟨hread, hlen⟩ := (counted_lists_round_trip 0).1 ⟨[1, 2], []⟩ (by decide) (by decide)
  have hminus : (i32OfBytes [255, 255, 255, 255]).toInt = -1 := by decide
  have hdir := ((counted_lists_round_trip 0).2.2.2.2 [255, 255, 255, 255] rfl
    (.inl (by rw [hminus]; decide))).2.2.2.2
  rw [hminus] at hdir
  exact ⟨hread, hlen, hdir⟩

end DepthRig
