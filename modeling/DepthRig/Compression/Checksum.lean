/-!
# XXH64

The 64-bit xxHash of a byte buffer with seed zero, which a zstd frame may carry (its low
32 bits) as a checksum of its content. Arithmetic is on 64-bit words and wraps.
-/

namespace DepthRig.Compression

private def xxPrime1 : UInt64 := 11400714785074694791
private def xxPrime2 : UInt64 := 14029467366897019727
private def xxPrime3 : UInt64 := 1609587929392839161
private def xxPrime4 : UInt64 := 9650029242287828579
private def xxPrime5 : UInt64 := 2870177450012600261

/-- Rotate a word left. -/
def rotl (x : UInt64) (r : UInt64) : UInt64 := (x <<< r) ||| (x >>> (64 - r))

/-- The little-endian word of `n` bytes at `i`. -/
def wordAt (data : ByteArray) (i n : Nat) : UInt64 :=
  (List.range n).foldr (fun k acc => acc * 256 + (data[i + k]?.getD 0).toUInt64) 0

private def xxRound (acc input : UInt64) : UInt64 := rotl (acc + input * xxPrime2) 31 * xxPrime1

private def xxMerge (acc v : UInt64) : UInt64 := (acc ^^^ xxRound 0 v) * xxPrime1 + xxPrime4

/-- The xxHash64 of a buffer, seed zero. -/
def xxh64 (data : ByteArray) : UInt64 :=
  let len := data.size
  let stripes := len / 32
  let h :=
    if 32 ≤ len then
      let (v1, v2, v3, v4) := (List.range stripes).foldl
        (fun (v : UInt64 × UInt64 × UInt64 × UInt64) s =>
          let i := 32 * s
          (xxRound v.1 (wordAt data i 8), xxRound v.2.1 (wordAt data (i + 8) 8),
            xxRound v.2.2.1 (wordAt data (i + 16) 8), xxRound v.2.2.2 (wordAt data (i + 24) 8)))
        (xxPrime1 + xxPrime2, xxPrime2, 0, 0 - xxPrime1)
      let h := rotl v1 1 + rotl v2 7 + rotl v3 12 + rotl v4 18
      xxMerge (xxMerge (xxMerge (xxMerge h v1) v2) v3) v4
    else xxPrime5
  let h := h + len.toUInt64
  let i := 32 * stripes
  let lanes := (len - i) / 8
  let h := (List.range lanes).foldl
    (fun h k => rotl (h ^^^ xxRound 0 (wordAt data (i + 8 * k) 8)) 27 * xxPrime1 + xxPrime4) h
  let i := i + 8 * lanes
  let (h, i) := if i + 4 ≤ len then
      (rotl (h ^^^ wordAt data i 4 * xxPrime1) 23 * xxPrime2 + xxPrime3, i + 4)
    else (h, i)
  let h := (List.range (len - i)).foldl
    (fun h k => rotl (h ^^^ (data[i + k]?.getD 0).toUInt64 * xxPrime5) 11 * xxPrime1) h
  let h := h ^^^ (h >>> 33)
  let h := h * xxPrime2
  let h := h ^^^ (h >>> 29)
  let h := h * xxPrime3
  h ^^^ (h >>> 32)

end DepthRig.Compression
