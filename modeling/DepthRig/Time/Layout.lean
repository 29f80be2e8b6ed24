import DepthRig.Time.Stamp
import DepthRig.Duration

/-!
# Reading timestamps by layout

A layout is a sequence of fields, each after a literal prefix, written as the reference time
`2006-01-02T15:04:05.999999999Z07:00` is written in it. Reading goes field by field; the
first field that fails names the text left at it, and a value out of range is reported at
once, except the day, which is checked once the whole text is read.
-/

namespace DepthRig.Time

/-- A field of a layout. -/
inductive Field where
  | year
  | month
  | day
  | hour
  | minute
  | second
  | fraction
  /-- A zone offset; `z` allows `Z` for UTC. -/
  | zone (z : Bool)
  /-- A zone offset without a colon. -/
  | compactZone
  /-- A zone abbreviation. -/
  | zoneName
  deriving BEq, Repr

/-- How the reference time writes a field. -/
def Field.text : Field → String
  | .year => "2006"
  | .month => "01"
  | .day => "02"
  | .hour => "15"
  | .minute => "04"
  | .second => "05"
  | .fraction => ".999999999"
  | .zone true => "Z07:00"
  | .zone false => "-07:00"
  | .compactZone => "-0700"
  | .zoneName => "MST"

/-- A layout: fields with their literal prefixes. -/
structure Layout where
  fields : List (String × Field)

/-- The layout written as the reference time. -/
def Layout.text (l : Layout) : String := String.join (l.fields.map fun (p, f) => p ++ f.text)

/-- Why a text does not read by a layout. -/
inductive ParseError where
  /-- The text left at a field or prefix that did not read, and that field or prefix. -/
  | cannotParse (layout value rest element : String)
  /-- A field out of its range. -/
  | outOfRange (value what : String)
  /-- Text after the last field. -/
  | extraText (value rest : String)
  deriving BEq, Repr

/-- The text of a reading error. -/
def ParseError.message : ParseError → String
  | .cannotParse l v rest e =>
    "parsing time " ++ Duration.quoteText v ++ " as " ++ Duration.quoteText l ++ ": cannot parse "
      ++ Duration.quoteText rest ++ " as " ++ Duration.quoteText e
  | .outOfRange v what => "parsing time " ++ Duration.quoteText v ++ ": " ++ what ++ " out of range"
  | .extraText v rest => "parsing time " ++ Duration.quoteText v ++ ": extra text: " ++ Duration.quoteText rest

/-- The fields read so far. -/
structure Reading where
  year : Int := 0
  month : Nat := 1
  day : Nat := 1
  hour : Nat := 0
  minute : Nat := 0
  second : Nat := 0
  nanos : Nat := 0
  offset : Int := 0
  /-- The zone was named `UTC`. -/
  utc : Bool := false
  deriving Inhabited

/-- One or two digits (exactly two when `fixed`), and the text after them. -/
def getNum (s : List Char) (fixed : Bool) : Option (Nat × List Char) :=
  match s with
  | a :: b :: rest =>
    if !a.isDigit then none
    else if b.isDigit then some ((a.toNat - 48) * 10 + (b.toNat - 48), rest)
    else if fixed then none
    else some (a.toNat - 48, b :: rest)
  | [a] => if a.isDigit && !fixed then some (a.toNat - 48, []) else none
  | [] => none

/-- The value of a run of digits. -/
def digitsValue (cs : List Char) : Nat := cs.foldl (fun n c => n * 10 + (c.toNat - 48)) 0

/-- Dropping leading items never lengthens a list. -/
theorem length_dropWhile_le (p : Char → Bool) : ∀ l : List Char, (l.dropWhile p).length ≤ l.length
  | [] => by simp
  | c :: cs => by
    simp only [List.dropWhile]
    split
    · have := length_dropWhile_le p cs
      simp only [List.length_cons]
      omega
    · simp

/-- Match a literal prefix; a blank in it, with the blanks after it, matches one or more
blanks, or the end of the text. -/
def skipPrefix (pfx v : List Char) : Option (List Char) :=
  match pfx with
  | [] => some v
  | ' ' :: ps =>
    match v with
    | c :: _ =>
      if c == ' ' then skipPrefix (ps.dropWhile (· == ' ')) (v.dropWhile (· == ' ')) else none
    | [] => skipPrefix (ps.dropWhile (· == ' ')) []
  | p :: ps =>
    match v with
    | c :: vs => if p == c then skipPrefix ps vs else none
    | [] => none
termination_by pfx.length
decreasing_by
  all_goals simp only [List.length_cons]
  all_goals have := length_dropWhile_le (· == ' ') ps
  all_goals omega

/-- A fraction of a second at the start of the text, if there is one: its nanoseconds
(from the first nine digits) and the text after all its digits. -/
def readFraction (v : List Char) : Option (Nat × List Char) :=
  match v with
  | c :: d :: rest =>
    if (c == '.' || c == ',') && d.isDigit then
      let digits := (d :: rest).takeWhile Char.isDigit
      let kept := digits.take 9
      some (digitsValue kept * Nat.pow 10 (9 - kept.length), (d :: rest).drop digits.length)
    else none
  | _ => none

/-- A `±hh:mm` offset from its sign and fields, `v` being the text at the zone: a minute
past 60 or an hour past 24 is out of range (the minute is named if both are); else a
field that did not read or a sign other than `+` and `-` fails. -/
def readOffset (value : String) (fail : ParseError) (sign : Char)
    (hh mm : Option (Nat × List Char)) (rest : List Char) : Except ParseError (Int × List Char) :=
  let hr := (hh.map (·.1)).getD 0
  let mn := if hh.isSome then (mm.map (·.1)).getD 0 else 0
  if 60 < mn then .error (.outOfRange value "time zone offset minute")
  else if 24 < hr then .error (.outOfRange value "time zone offset hour")
  else if hh.isNone || mm.isNone || (sign != '+' && sign != '-') then .error fail
  else
    let off : Int := (hr * 60 + mn) * 60
    .ok (if sign == '-' then -off else off, rest)

/-- The length of a signed hour `±h` at the start of the text, of value at most 23, or
zero if there is none. -/
def signedHoursLength (v : List Char) : Nat :=
  match v with
  | s :: rest =>
    let ds := rest.takeWhile Char.isDigit
    if (s != '+' && s != '-') || ds.isEmpty || 23 < digitsValue ds then 0 else ds.length + 1
  | [] => 0

/-- The length of a zone abbreviation at the start of the text: `ChST` or `MeST`; `GMT`
with a signed hour if one follows; a signed hour alone; or three capitals, four ending in
`T` (or `WITA`), or five ending in `T`. -/
def zoneNameLength (v : List Char) : Option Nat :=
  if v.length < 3 then none
  else if v.take 4 == "ChST".toList || v.take 4 == "MeST".toList then some 4
  else if v.take 3 == "GMT".toList then
    let rest := v.drop 3
    some (3 + (if rest.isEmpty then 0 else signedHoursLength rest))
  else if v.head? == some '+' || v.head? == some '-' then
    let n := signedHoursLength v
    if n == 0 then none else some n
  else
    match ((v.take 6).takeWhile fun c => 'A' ≤ c && c ≤ 'Z').length with
    | 3 => some 3
    | 4 => if v.getD 3 ' ' == 'T' || v.take 4 == "WITA".toList then some 4 else none
    | 5 => if v.getD 4 ' ' == 'T' then some 5 else none
    | _ => none

/-- Read one field at `v`; `fractionNext` says whether the layout's next field is a
fraction. -/
def readField (layout value : String) (f : Field) (fractionNext : Bool) (v : List Char)
    (r : Reading) : Except ParseError (Reading × List Char) :=
  let fail := ParseError.cannotParse layout value (String.ofList v) f.text
  let two (fixed : Bool) (limit : Nat) (what : String) (set : Nat → Reading) :
      Except ParseError (Reading × List Char) :=
    match getNum v fixed with
    | none => .error fail
    | some (n, rest) => if limit ≤ n then .error (.outOfRange value what) else .ok (set n, rest)
  match f with
  | .year =>
    match v with
    | a :: b :: c :: d :: rest =>
      if [a, b, c, d].all Char.isDigit then .ok ({ r with year := digitsValue [a, b, c, d] }, rest)
      else .error fail
    | _ => .error fail
  | .month =>
    match getNum v true with
    | none => .error fail
    | some (n, rest) =>
      if n == 0 || 12 < n then .error (.outOfRange value "month") else .ok ({ r with month := n }, rest)
  | .day =>
    match getNum v true with
    | none => .error fail
    | some (n, rest) => .ok ({ r with day := n }, rest)
  | .hour => two false 24 "hour" fun n => { r with hour := n }
  | .minute => two true 60 "minute" fun n => { r with minute := n }
  | .second => do
    let (r, rest) ← two true 60 "second" fun n => { r with second := n }
    if fractionNext then return (r, rest)
    match readFraction rest with
    | some (ns, rest) => return ({ r with nanos := ns }, rest)
    | none => return (r, rest)
  | .fraction =>
    match readFraction v with
    | some (ns, rest) => .ok ({ r with nanos := ns }, rest)
    | none => .ok (r, v)
  | .zone z =>
    match v with
    | 'Z' :: rest => if z then .ok ({ r with offset := 0 }, rest) else .error fail
    | s :: h1 :: h2 :: ':' :: m1 :: m2 :: rest =>
      match readOffset value fail s (getNum [h1, h2] true) (getNum [m1, m2] true) rest with
      | .ok (off, rest) => .ok ({ r with offset := off }, rest)
      | .error e => .error e
    | _ => .error fail
  | .compactZone =>
    match v with
    | s :: h1 :: h2 :: m1 :: m2 :: rest =>
      match readOffset value fail s (getNum [h1, h2] true) (getNum [m1, m2] true) rest with
      | .ok (off, rest) => .ok ({ r with offset := off }, rest)
      | .error e => .error e
    | _ => .error fail
  | .zoneName =>
    match v with
    | 'U' :: 'T' :: 'C' :: rest => .ok ({ r with utc := true }, rest)
    | _ =>
      match zoneNameLength v with
      | some n => .ok (r, v.drop n)
      | none => .error fail

/-- Read the fields of a layout in turn. -/
def readFields (layout value : String) : List (String × Field) → List Char → Reading →
    Except ParseError (Reading × List Char)
  | [], v, r => .ok (r, v)
  | (p, f) :: rest, v, r => do
    let some v' := skipPrefix p.toList v | throw (.cannotParse layout value (String.ofList v) p)
    let fractionNext := match rest with
      | ("", .fraction) :: _ => true
      | _ => false
    let (r, v'') ← readField layout value f fractionNext v' r
    readFields layout value rest v'' r

/-- Read a text by a layout. -/
def Layout.parse (l : Layout) (text : String) : Except ParseError Stamp := do
  let (r, rest) ← readFields l.text text l.fields text.toList {}
  if !rest.isEmpty then throw (.extraText text (String.ofList rest))
  if r.day < 1 || daysIn r.month r.year < r.day then throw (.outOfRange text "day")
  let wall := daysFromCivil r.year r.month r.day * 86400 + r.hour * 3600 + r.minute * 60 + r.second
  let offset := if r.utc then 0 else r.offset
  pure ⟨wall - offset, r.nanos, offset⟩

/-- The layout timestamps are stored in: date, `T`, time, optional fraction and zone. -/
def rfc3339 : Layout :=
  ⟨[("", .year), ("-", .month), ("-", .day), ("T", .hour), (":", .minute), (":", .second),
    ("", .fraction), ("", .zone true)]⟩

end DepthRig.Time
