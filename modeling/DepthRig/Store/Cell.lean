import DepthRig.Store.Numeric

/-!
# Stored values and tables

A table holds rows of cells, each empty, an integer, a double or a text, converted on writing
by its column's affinity as the store converts them. Cells are ordered as the store sorts
them: `NULL` first, then numbers by value, then texts.
-/

namespace DepthRig.Store

/-- A stored value. -/
inductive Cell where
  | null
  | int (n : Int)
  /-- A double-precision number, by its bit pattern. -/
  | real (bits : Nat)
  | text (s : String)
  deriving BEq, Repr, Inhabited

/-- How a column converts what is written into it. -/
inductive Affinity where
  | text
  | integer
  | numeric
  deriving BEq, Repr, Inhabited

/-- The largest stored integer, `2^63 - 1`. -/
def maxInteger : Int := Int.pow 2 63 - 1

/-- The whole number a double denotes, if it is one. -/
def wholeValue? (bits : Nat) : Option Int :=
  match BinaryFormat.double.classify bits with
  | .finite neg m e =>
    let v : Option Nat :=
      if 0 ≤ e then some (m * Nat.pow 2 e.toNat)
      else if m % Nat.pow 2 (-e).toNat == 0 then some (m / Nat.pow 2 (-e).toNat) else none
    v.map fun n => if neg then -(n : Int) else n
  | _ => none

/-- A double as a numeric column stores it: a whole number strictly between the least and
the greatest 64-bit integer becomes that integer. -/
def Cell.ofDouble (bits : Nat) : Cell :=
  match wholeValue? bits with
  | some n => if -maxInteger - 1 < n && n < maxInteger then .int n else .real bits
  | none => .real bits

/-- A number read from text as a numeric column stores it: an integral number that fits
in 64 bits exactly, any other through its double. -/
def Cell.ofNumber (t : NumberText) : Cell :=
  let v := t.integerValue
  if t.integral && -maxInteger - 1 ≤ v && v ≤ maxInteger then .int v else Cell.ofDouble t.toDouble

/-- A value as a column of the affinity stores it. -/
def Cell.withAffinity : Affinity → Cell → Cell
  | .text, .int n => .text (toString n)
  | .integer, .text s | .numeric, .text s =>
    match NumberText.read? s with
    | some t => Cell.ofNumber t
    | none => .text s
  | .integer, .real b | .numeric, .real b => Cell.ofDouble b
  | _, c => c

/-- Where a number stands on the line: below or above every finite number, or at the
fraction `num / 2 ^ shift`. -/
inductive Place where
  | below
  | at (num : Int) (shift : Nat)
  | above
  deriving BEq, Repr

/-- The place of a double; NaN stands at zero. -/
def Place.ofDouble (bits : Nat) : Place :=
  match BinaryFormat.double.classify bits with
  | .finite neg m e =>
    let n : Int := if neg then -(m : Int) else m
    if 0 ≤ e then .at (n * (Nat.pow 2 e.toNat : Nat)) 0 else .at n (-e).toNat
  | .infinite neg => if neg then .below else .above
  | .nan => .at 0 0

/-- Whether one place is strictly left of another. -/
def Place.lt : Place → Place → Bool
  | .below, .below => false
  | .below, _ => true
  | .at _ _, .below => false
  | .at a s, .at b t => decide (a * (Nat.pow 2 t : Nat) < b * (Nat.pow 2 s : Nat))
  | .at _ _, .above => true
  | .above, _ => false

/-- Whether two places are the same. -/
def Place.same : Place → Place → Bool
  | .at a s, .at b t => a * (Nat.pow 2 t : Nat) == b * (Nat.pow 2 s : Nat)
  | .below, .below | .above, .above => true
  | _, _ => false

/-- The place of a number cell. -/
def Cell.place? : Cell → Option Place
  | .int n => some (.at n 0)
  | .real b => some (Place.ofDouble b)
  | _ => none

/-- The rank of a cell's class in the sort order. -/
def Cell.rank : Cell → Nat
  | .null => 0
  | .int _ | .real _ => 1
  | .text _ => 2

/-- Whether a cell sorts strictly before another. -/
def Cell.lt (a b : Cell) : Bool :=
  match a, b, a.place?, b.place? with
  | _, _, some p, some q => p.lt q
  | .text x, .text y, _, _ => decide (x < y)
  | _, _, _, _ => decide (a.rank < b.rank)

/-- Whether two cells are equal as a comparison `a = b` sees them; `NULL` equals nothing. -/
def Cell.same (a b : Cell) : Bool :=
  match a, b, a.place?, b.place? with
  | _, _, some p, some q => p.same q
  | .text x, .text y, _, _ => x == y
  | _, _, _, _ => false

/-- What a column is initialised with when a row does not name it. -/
inductive Default where
  | null
  | value (c : Cell)
  /-- The time of writing, as `YYYY-MM-DD hh:mm:ss` in UTC. -/
  | now
  deriving BEq, Repr, Inhabited

/-- A column. -/
structure Column where
  name : String
  affinity : Affinity
  notNull : Bool := false
  default : Default := .null
  /-- The column is the row's primary key: its values are distinct among rows. -/
  key : Bool := false
  /-- Values of the column are distinct among rows, by an index on it. -/
  unique : Bool := false
  /-- The column is an integer key numbered from 1, never reusing a number. -/
  counter : Bool := false
  deriving Repr, Inhabited

/-- A reference from a column to the column of a row in another table. -/
structure Reference where
  column : String
  parent : String
  parentColumn : String
  deriving Repr, Inhabited

/-- A table: its columns, its rows in the order they were added (each with one cell per
column), the next counter number, and its references to other tables. -/
structure Table where
  name : String
  columns : List Column
  rows : List (List Cell) := []
  nextKey : Nat := 1
  references : List Reference := []
  deriving Repr, Inhabited

namespace Table

/-- The position of a column. -/
def columnIndex (t : Table) (name : String) : Option Nat :=
  t.columns.findIdx? fun c => c.name.toLower == name.toLower

/-- A row's cell in a column. -/
def cell (t : Table) (row : List Cell) (name : String) : Cell :=
  match t.columnIndex name with
  | some i => row.getD i .null
  | none => .null

end Table

end DepthRig.Store
