/-!
# Timestamps

A timestamp is an instant in seconds and nanoseconds from the Unix epoch with the offset it is
shown in, civil dates those of the proleptic Gregorian calendar. Written out it is
`YYYY-MM-DDThh:mm:ss`, the fraction without trailing zeros, then `Z` or `±hh:mm`.
-/

namespace DepthRig.Time

/-- An instant and the offset from UTC (in seconds) it is shown in. -/
structure Stamp where
  unix : Int
  nanos : Nat
  offset : Int := 0
  deriving BEq, Repr, Inhabited

/-- Whether a year is a leap year. -/
def isLeap (y : Int) : Bool := y % 4 == 0 && (y % 100 != 0 || y % 400 == 0)

/-- The number of days in a month of a year. -/
def daysIn (month : Nat) (year : Int) : Nat :=
  match month with
  | 2 => if isLeap year then 29 else 28
  | 4 | 6 | 9 | 11 => 30
  | _ => 31

/-- Days from 1970-01-01 to a civil date, counting in 400-year eras of 146097 days
from 0000-03-01 so that the leap day ends each year. -/
def daysFromCivil (y : Int) (m d : Nat) : Int :=
  let y := if m ≤ 2 then y - 1 else y
  let era := y / 400
  let yoe := y - era * 400
  let mp : Int := (m + 9) % 12
  let doy := (153 * mp + 2) / 5 + d - 1
  let doe := yoe * 365 + yoe / 4 - yoe / 100 + doy
  era * 146097 + doe - 719468

/-- The civil date (year, month, day) of a day count from 1970-01-01; the inverse of
`daysFromCivil`. -/
def civilFromDays (z : Int) : Int × Nat × Nat :=
  let z := z + 719468
  let era := z / 146097
  let doe := z - era * 146097
  let yoe := (doe - doe / 1460 + doe / 36524 - doe / 146096) / 365
  let y := yoe + era * 400
  let doy := doe - (365 * yoe + yoe / 4 - yoe / 100)
  let mp := (5 * doy + 2) / 153
  let d := doy - (153 * mp + 2) / 5 + 1
  let m := if mp < 10 then mp + 3 else mp - 9
  ((if m ≤ 2 then y + 1 else y), m.toNat, d.toNat)

/-- The zero instant, 0001-01-01T00:00:00Z, which stands for "no time". -/
def Stamp.zero : Stamp := ⟨daysFromCivil 1 1 1 * 86400, 0, 0⟩

/-- Whether a stamp is the zero instant, in whatever offset. -/
def Stamp.isZero (s : Stamp) : Bool := s.unix == Stamp.zero.unix && s.nanos == 0

/-- The same instant shown in UTC. -/
def Stamp.utc (s : Stamp) : Stamp := { s with offset := 0 }

/-- A number with at least `width` digits, zero-padded after any sign. -/
def padded (width : Nat) (n : Int) : String :=
  let digits := toString n.natAbs
  (if n < 0 then "-" else "") ++ String.ofList (List.replicate (width - digits.length) '0') ++ digits

/-- The fraction of a second, without trailing zeros; empty for none. -/
def fraction (nanos : Nat) : String :=
  if nanos == 0 then ""
  else "." ++ String.ofList ((padded 9 nanos).toList.reverse.dropWhile (· == '0')).reverse

/-- The offset: `Z` for zero, else `±hh:mm`. -/
def offsetText (offset : Int) : String :=
  if offset == 0 then "Z"
  else
    let minutes := offset.natAbs / 60
    (if offset < 0 then "-" else "+") ++ padded 2 (minutes / 60) ++ ":" ++ padded 2 (minutes % 60)

/-- A stamp written out in its own offset. -/
def Stamp.text (s : Stamp) : String :=
  let shown := s.unix + s.offset
  let secs := (shown % 86400).toNat
  let (y, m, d) := civilFromDays (shown / 86400)
  padded 4 y ++ "-" ++ padded 2 m ++ "-" ++ padded 2 d ++ "T" ++ padded 2 (secs / 3600) ++ ":"
    ++ padded 2 (secs / 60 % 60) ++ ":" ++ padded 2 (secs % 60) ++ fraction s.nanos
    ++ offsetText s.offset

/-- The instant `n` nanoseconds later. -/
def Stamp.addNanos (s : Stamp) (n : Nat) : Stamp :=
  let total := s.nanos + n
  { s with unix := s.unix + (total / 1000000000 : Nat), nanos := total % 1000000000 }

/-- A stamp as `YYYYMMDDThhmmss` in its own offset, for file names. -/
def Stamp.compact (s : Stamp) : String :=
  let shown := s.unix + s.offset
  let secs := (shown % 86400).toNat
  let (y, m, d) := civilFromDays (shown / 86400)
  padded 4 y ++ padded 2 m ++ padded 2 d ++ "T" ++ padded 2 (secs / 3600) ++ padded 2 (secs / 60 % 60)
    ++ padded 2 (secs % 60)

end DepthRig.Time
