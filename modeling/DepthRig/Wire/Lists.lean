import DepthRig.Wire.Reader

/-!
# Counted lists

Three payloads are counted lists, each count a 32-bit integer between zero and `2 ^ 20`: a
timestamp list of a sensor's stored frames with their numbers, a post-sync list renumbering
the listed frames and dropping the rest, and a directory path's bytes.
-/

namespace DepthRig

/-- A sensor's stored-frame timestamps and frame numbers. -/
structure TimestampList where
  timestamps : List UInt64
  frameNumbers : List Int32
  deriving BEq, Inhabited, Repr

namespace TimestampList

/-- The frame number of position `i`. -/
def frameNumber (l : TimestampList) (i : Nat) : Int32 :=
  if l.frameNumbers.length == l.timestamps.length then l.frameNumbers.getD i 0
  else Int32.ofNat i

/-- The list's bytes. -/
def encode (l : TimestampList) : List UInt8 :=
  Wire.putCount l.timestamps.length ++ l.timestamps.flatMap Wire.putU64
    ++ Wire.putCount l.frameNumbers.length ++ l.frameNumbers.flatMap Wire.putI32

open Wire in
/-- Read a timestamp list from a stream. -/
def reader : Decode TimestampList := do
  let n ← listCount
  let raw ← readFull (8 * n)
  let m ← listCount
  let raw2 ← readFull (4 * m)
  pure ⟨(records 8 raw n).map u64OfBytes, (records 4 raw2 m).map i32OfBytes⟩
where
  records (k : Nat) (bs : List UInt8) : Nat → List (List UInt8)
    | 0 => []
    | j + 1 => bs.take k :: records k (bs.drop k) j

end TimestampList

/-- How a sensor relabels its stored frames. -/
structure PostSyncList where
  frameIds : List Int32
  syncedIds : List Int32
  deriving BEq, Inhabited, Repr

namespace PostSyncList

/-- The list's bytes, or the two lengths when they differ. -/
def encode (p : PostSyncList) : Except (Nat × Nat) (List UInt8) :=
  if p.frameIds.length != p.syncedIds.length then .error (p.frameIds.length, p.syncedIds.length)
  else .ok (Wire.putCount p.frameIds.length ++ p.frameIds.flatMap Wire.putI32
    ++ p.syncedIds.flatMap Wire.putI32)

/-- The text of a length mismatch. -/
def mismatchMessage (lens : Nat × Nat) : String :=
  s!"post-sync list length mismatch: {lens.1} frame ids, {lens.2} synced ids"

open Wire in
/-- Read a post-sync list from a stream. -/
def reader : Decode PostSyncList := do
  let n ← listCount
  let a ← readFull (4 * n)
  let b ← readFull (4 * n)
  pure ⟨words a n, words b n⟩
where
  words (bs : List UInt8) : Nat → List Int32
    | 0 => []
    | j + 1 => i32OfBytes (bs.take 4) :: words (bs.drop 4) j

end PostSyncList

/-- The bytes of a directory path payload. -/
def encodeDirectory (path : List UInt8) : List UInt8 := Wire.putCount path.length ++ path

open Wire in
/-- Read a directory path payload from a stream. -/
def directoryReader : Decode (List UInt8) := do
  let n ← listCount
  readFull n

end DepthRig
