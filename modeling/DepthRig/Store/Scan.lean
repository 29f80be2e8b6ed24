import DepthRig.Store.Database
import DepthRig.Time.Layout
import DepthRig.Text.Quote
import DepthRig.Text.Blank
import DepthRig.Decimal.Text

/-!
# Reading stored values

A stored value is read as a text, an integer or a flag, or fails with the column's index and
name; integers and doubles read as their texts, and a flag is 0 or 1 or a text such as `t` or
`False`. A time column reads a time as the store prints it, or a date with an optional time
and zone, as RFC 3339 text, and any other text as itself.
-/

namespace DepthRig.Store

open Time in
/-- The layout of a time as the store prints one: `2006-01-02 15:04:05.999999999 -0700 MST`. -/
def printedTimeLayout : Layout :=
  ⟨[("", .year), ("-", .month), ("-", .day), (" ", .hour), (":", .minute), (":", .second),
    ("", .fraction), (" ", .compactZone), (" ", .zoneName)]⟩

open Time in
/-- The layouts a stored time is recognised in, after one trailing `Z` is dropped: date
and time with a blank or `T` between, with seconds, fraction and zone, with seconds and
fraction, or with minutes only, and the date alone. -/
def storedTimeLayouts : List Layout :=
  let date : List (String × Field) := [("", .year), ("-", .month), ("-", .day)]
  let clock (sep : String) := date ++ [(sep, .hour), (":", .minute)]
  let fine (sep : String) := clock sep ++ [(":", .second), ("", .fraction)]
  [⟨fine " " ++ [("", .zone false)]⟩, ⟨fine "T" ++ [("", .zone false)]⟩, ⟨fine " "⟩, ⟨fine "T"⟩,
    ⟨clock " "⟩, ⟨clock "T"⟩, ⟨date⟩]

/-- Where the first `m=` starts in a text. -/
def monotonicMark : List Char → Option Nat
  | 'm' :: '=' :: _ => some 0
  | _ :: rest => (monotonicMark rest).map (· + 1)
  | [] => none

/-- A stored time text as a time: first as printed, with anything from an `m=` after its
start cut off and blanks trimmed; else by the stored layouts, one trailing `Z` dropped. -/
def readStoredTime (s : String) : Option Time.Stamp :=
  let cs := s.toList
  let head := match monotonicMark cs with
    | some i => if 0 < i then cs.take i else cs
    | none => cs
  match (printedTimeLayout.parse (Blank.trim (String.ofList head))).toOption with
  | some t => some t
  | none =>
    let trimmed := String.ofList (if cs.getLast? == some 'Z' then cs.dropLast else cs)
    storedTimeLayouts.findSome? fun l => (l.parse trimmed).toOption

/-- A time column's value as read. -/
def readTimeCell : Cell → Cell
  | .text s =>
    match readStoredTime s with
    | some t => .text t.text
    | none => .text s
  | c => c

/-- The shortest text of a stored double. -/
def realText (bits : Nat) : String := BinaryFormat.double.shortestText FloatText.message bits

/-- A text as a 64-bit integer: `invalid syntax` unless it is an optional sign and
digits, `value out of range` beyond 64 bits. -/
def readInt64 (s : String) : Except String Int :=
  let (neg, digits) := match s.toList with
    | '-' :: ds => (true, ds)
    | '+' :: ds => (false, ds)
    | ds => (false, ds)
  if digits.isEmpty || !digits.all Char.isDigit then .error "invalid syntax"
  else
    let n : Int := digits.foldl (fun n c => n * 10 + (c.toNat - 48 : Nat)) 0
    let v := if neg then -n else n
    if v < -maxInteger - 1 || maxInteger < v then .error "value out of range" else .ok v

/-- Read a value as a text. -/
def scanText (index : Nat) (column : String) : Cell → Except StoreError String
  | .text s => .ok s
  | .int n => .ok (toString n)
  | .real b => .ok (realText b)
  | .null => .error (.scan index column "converting NULL to string is unsupported")

/-- Read a value as a text that may be missing. -/
def scanOptionalText : Cell → Option String
  | .text s => some s
  | .int n => some (toString n)
  | .real b => some (realText b)
  | .null => none

/-- Read a value as an integer. -/
def scanInt (index : Nat) (column : String) : Cell → Except StoreError Int
  | .int n => .ok n
  | .text s =>
    match readInt64 s with
    | .ok n => .ok n
    | .error why =>
      .error (.scan index column ("converting driver.Value type string (" ++ Quote.text s ++ ") to a int: " ++ why))
  | .real b =>
    let s := realText b
    match readInt64 s with
    | .ok n => .ok n
    | .error why =>
      .error (.scan index column ("converting driver.Value type float64 (" ++ Quote.text s ++ ") to a int: " ++ why))
  | .null => .error (.scan index column "converting NULL to int is unsupported")

/-- Read a value as a flag. -/
def scanBool (index : Nat) (column : String) : Cell → Except StoreError Bool
  | .int 1 => .ok true
  | .int 0 => .ok false
  | .int n => .error (.scan index column ("sql/driver: couldn't convert " ++ toString n ++ " into type bool"))
  | .text s =>
    if ["1", "t", "T", "TRUE", "true", "True"].contains s then .ok true
    else if ["0", "f", "F", "FALSE", "false", "False"].contains s then .ok false
    else .error (.scan index column ("sql/driver: couldn't convert " ++ Quote.text s ++ " into type bool"))
  | .real b => .error (.scan index column ("sql/driver: couldn't convert " ++ realText b ++ " (float64) into type bool"))
  | .null => .error (.scan index column "sql/driver: couldn't convert <nil> (<nil>) into type bool")

end DepthRig.Store
