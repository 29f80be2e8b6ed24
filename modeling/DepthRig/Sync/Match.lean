/-!
# Matching timestamps

Each reference instant, in order, takes the nearest candidate timestamp that no earlier
instant took, provided it lies within the tolerance. Candidates are scanned from just after
the last one taken; the scan stops at the first candidate past the instant or the first
that is farther than the best so far, so on ascending candidates it finds the earliest of
the nearest ones. Taken candidates therefore increase strictly along the reference.
-/

namespace DepthRig.Sync

/-- The distance between two timestamps. -/
def gap (a b : UInt64) : UInt64 := if b < a then a - b else b - a

/-- Scan indexed candidates for the one nearest to `ref`, keeping the earliest of equally
near ones, and stopping at the first candidate past `ref` or farther than the best. -/
def nearest (ref : UInt64) : List (UInt64 × Nat) → Option (Nat × UInt64) → Option (Nat × UInt64)
  | [], best => best
  | (c, j) :: rest, best =>
    let d := gap c ref
    match best with
    | some (_, bd) =>
      if bd < d then best
      else
        let best := if d < bd then some (j, d) else best
        if ref < c then best else nearest ref rest best
    | none =>
      let best := some (j, d)
      if ref < c then best else nearest ref rest best

/-- Match each reference instant to a candidate index, or to nothing, given the candidates
not yet passed. -/
def matchFrom (tolerance : UInt64) : List UInt64 → List (UInt64 × Nat) → List (Option Nat)
  | [], _ => []
  | r :: rs, pending =>
    match nearest r pending none with
    | some (j, d) =>
      if d ≤ tolerance then some j :: matchFrom tolerance rs (pending.dropWhile (·.2 ≤ j))
      else none :: matchFrom tolerance rs pending
    | none => none :: matchFrom tolerance rs pending

/-- Match reference instants to candidate timestamps within a tolerance: per instant the
index of its candidate, or `none` for a hole. -/
def matchTimes (reference candidates : List UInt64) (tolerance : UInt64) : List (Option Nat) :=
  matchFrom tolerance reference candidates.zipIdx

/-- The mapping has one entry per reference instant. -/
theorem length_matchFrom (tolerance : UInt64) (rs : List UInt64) (pending : List (UInt64 × Nat)) :
    (matchFrom tolerance rs pending).length = rs.length := by
  induction rs generalizing pending with
  | nil => rfl
  | cons r rs ih =>
    simp only [matchFrom]
    split
    · split <;> simp [ih]
    · simp [ih]

/-- The mapping has one entry per reference instant. -/
theorem length_matchTimes (reference candidates : List UInt64) (tolerance : UInt64) :
    (matchTimes reference candidates tolerance).length = reference.length :=
  length_matchFrom tolerance reference _

end DepthRig.Sync
