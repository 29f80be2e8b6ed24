/-!
# Durations

A span of time as a signed 64-bit count of nanoseconds, with its text in both directions: the
largest fitting unit below a second (`1.5ms`), hours, minutes and seconds above (`2m3.5s`),
and a sequence of numbers with units when read (`2h45m`), a total beyond 64 bits being an
error.
-/

namespace DepthRig

/-- A span of time in nanoseconds. -/
structure Duration where
  nanos : Int64
  deriving BEq, DecidableEq, Inhabited, Repr

namespace Duration

/-- One microsecond. -/
def microsecond : Duration := ⟨1000⟩

/-- One millisecond. -/
def millisecond : Duration := ⟨1000000⟩

/-- One second. -/
def second : Duration := ⟨1000000000⟩

/-- `k` milliseconds. -/
def millis (k : Int64) : Duration := ⟨k * 1000000⟩

/-- `k` seconds. -/
def seconds (k : Int64) : Duration := ⟨k * 1000000000⟩

/-- `k` microseconds. -/
def micros (k : Int64) : Duration := ⟨k * 1000⟩

/-- The whole microseconds of a duration, cut toward zero. -/
def wholeMicros (d : Duration) : Int64 := d.nanos / 1000

/-- Whether a duration is above zero. -/
def isPositive (d : Duration) : Bool := 0 < d.nanos

/-- `v / 10 ^ places` with its fraction's trailing zeros left out, and the point too
when nothing is left of the fraction. -/
def fractionText (v places : Nat) : String :=
  let digits := Nat.toDigits 10 (v % Nat.pow 10 places)
  let padded := List.replicate (places - digits.length) '0' ++ digits
  let kept := (padded.reverse.dropWhile (· == '0')).reverse
  toString (v / Nat.pow 10 places) ++ (if kept.isEmpty then "" else "." ++ String.ofList kept)

/-- The text of a duration. -/
def text (d : Duration) : String :=
  let u := d.nanos.toInt.natAbs
  let body :=
    if u == 0 then "0s"
    else if u < 1000 then toString u ++ "ns"
    else if u < 1000000 then fractionText u 3 ++ "µs"
    else if u < 1000000000 then fractionText u 6 ++ "ms"
    else
      let secs := u / 1000000000
      let s := fractionText (secs % 60 * 1000000000 + u % 1000000000) 9 ++ "s"
      let mins := secs / 60
      if mins == 0 then s
      else
        let m := toString (mins % 60) ++ "m" ++ s
        let hours := mins / 60
        if hours == 0 then m else toString hours ++ "h" ++ m
  (if d.nanos < 0 then "-" else "") ++ body

/-- Nanoseconds per unit name. -/
def unitNanos : List Char → Option Nat
  | ['n', 's'] => some 1
  | ['u', 's'] | ['µ', 's'] | ['μ', 's'] => some 1000
  | ['m', 's'] => some 1000000
  | ['s'] => some 1000000000
  | ['m'] => some 60000000000
  | ['h'] => some 3600000000000
  | _ => none

/-- A text in double quotes for an error: quotes and backslashes escaped, and every
byte of a control or non-ASCII character as `\xNN`. -/
def quoteText (s : String) : String :=
  let hex (b : UInt8) : String :=
    let d := fun (n : Nat) => "0123456789abcdef".toList.getD n '0'
    String.ofList ['\\', 'x', d (b.toNat / 16), d (b.toNat % 16)]
  let one (c : Char) : String :=
    if c.toNat < 32 || 128 ≤ c.toNat then
      String.join ((String.singleton c).toUTF8.toList.map hex)
    else if c == '"' || c == '\\' then String.ofList ['\\', c]
    else String.singleton c
  "\"" ++ String.join (s.toList.map one) ++ "\""

/-- Why a duration text does not read. -/
inductive ParseError where
  | invalid (text : String)
  | missingUnit (text : String)
  | unknownUnit (unit text : String)
  deriving BEq, Repr

/-- The text of a reading error. -/
def ParseError.message : ParseError → String
  | .invalid t => "time: invalid duration " ++ quoteText t
  | .missingUnit t => "time: missing unit in duration " ++ quoteText t
  | .unknownUnit u t => "time: unknown unit " ++ quoteText u ++ " in duration " ++ quoteText t

/-- The limit on magnitudes while reading: `2 ^ 63`. -/
def readLimit : Nat := Nat.pow 2 63

/-- Leading digits as a number; `none` when it passes `readLimit`. -/
def leadingWhole (cs : List Char) : Option Nat × List Char :=
  let ds := cs.takeWhile Char.isDigit
  let rest := cs.dropWhile Char.isDigit
  let v := ds.foldl (fun (acc : Option Nat) c => acc.bind fun x =>
    if readLimit / 10 < x then none
    else
      let y := x * 10 + (c.toNat - '0'.toNat)
      if readLimit < y then none else some y) (some 0)
  (v, rest)

/-- Leading fraction digits: the number they make while it stays below `readLimit`, the
power of ten it is scaled by, and what follows the digits. -/
def leadingFraction (cs : List Char) : Nat × Nat × List Char :=
  let ds := cs.takeWhile Char.isDigit
  let rest := cs.dropWhile Char.isDigit
  let (x, scale, _) := ds.foldl (fun (acc : Nat × Nat × Bool) c =>
    let (x, scale, capped) := acc
    if capped then acc
    else if (readLimit - 1) / 10 < x then (x, scale, true)
    else
      let y := x * 10 + (c.toNat - '0'.toNat)
      if readLimit < y then (x, scale, true) else (y, scale * 10, false)) (0, 1, false)
  (x, scale, rest)

/-- The nanoseconds of a fraction `f / scale` of a unit, as binary floating point
computes them, cut toward zero. -/
def fractionNanos (f scale unit : Nat) : Nat :=
  (Float.ofNat f * (Float.ofNat unit / Float.ofNat scale)).toUInt64.toNat

/-- Read the terms of a duration after its sign, adding to `total`. -/
def readTerms (orig : String) (total : Nat) : List Char → Nat → Except ParseError Nat
  | [], _ => .ok total
  | cs@(c :: _), fuel + 1 =>
    if !(c == '.' || c.isDigit) then .error (.invalid orig)
    else
      let (whole?, rest) := leadingWhole cs
      match whole? with
      | none => .error (.invalid orig)
      | some v =>
        let pre := rest.length != cs.length
        let (f, scale, rest, post) := match rest with
          | '.' :: more =>
            let (f, scale, after) := leadingFraction more
            (f, scale, after, after.length != more.length)
          | _ => (0, 1, rest, false)
        if !pre && !post then .error (.invalid orig)
        else
          let unit := rest.takeWhile (fun c => !(c == '.' || c.isDigit))
          let rest := rest.dropWhile (fun c => !(c == '.' || c.isDigit))
          if unit.isEmpty then .error (.missingUnit orig)
          else match unitNanos unit with
            | none => .error (.unknownUnit (String.ofList unit) orig)
            | some u =>
              if readLimit / u < v then .error (.invalid orig)
              else
                let v := v * u
                let v := if 0 < f then v + fractionNanos f scale u else v
                if readLimit < v then .error (.invalid orig)
                else
                  let total := total + v
                  if readLimit < total then .error (.invalid orig)
                  else readTerms orig total rest fuel
  | _ :: _, 0 => .error (.invalid orig)

/-- Read a duration. -/
def parse (s : String) : Except ParseError Duration :=
  let (neg, body) := match s.toList with
    | '-' :: rest => (true, rest)
    | '+' :: rest => (false, rest)
    | cs => (false, cs)
  if body == ['0'] then .ok ⟨0⟩
  else if body.isEmpty then .error (.invalid s)
  else
    match readTerms s 0 body (body.length + 1) with
    | .error e => .error e
    | .ok d =>
      if neg then .ok ⟨Int64.ofInt (-(d : Int))⟩
      else if readLimit - 1 < d then .error (.invalid s)
      else .ok ⟨Int64.ofNat d⟩

end Duration

end DepthRig
