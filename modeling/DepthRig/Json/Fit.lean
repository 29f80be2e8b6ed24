import DepthRig.Json.Numbers

/-!
# Fitting JSON into typed records

A JSON document is fitted into a record by merging it into a starting value, members matched
to fields by name, exactly or else without regard to case. Fitting does not stop at a type
mismatch: the rest is still fitted, and the first mismatch, with its field path, the record
being filled and the field's type, is the outcome.
-/

namespace DepthRig.Json

/-- A value that did not fit its field. -/
structure TypeMismatch where
  found : String
  target : String
  record : String := ""
  path : List String := []
  deriving BEq, Repr, Inhabited

/-- The text of a mismatch. -/
def TypeMismatch.message (m : TypeMismatch) : String :=
  if m.record.isEmpty && m.path.isEmpty then
    "json: cannot unmarshal " ++ m.found ++ " into Go value of type " ++ m.target
  else
    "json: cannot unmarshal " ++ m.found ++ " into Go struct field " ++ m.record ++ "."
      ++ ".".intercalate m.path ++ " of type " ++ m.target

/-- Where a value is being fitted: the record being filled and the field path. -/
structure FitPlace where
  record : String := ""
  path : List String := []
  deriving Inhabited

/-- Fitting, keeping the first mismatch. -/
abbrev FitM := ReaderT FitPlace (StateM (Option TypeMismatch))

/-- A way to fit JSON into a value of type `α`, given the value so far. -/
abbrev Fit (α : Type) := Json → α → FitM α

/-- Note a mismatch, unless an earlier one is already noted. -/
def mismatch (found target : String) : FitM Unit := do
  let p ← read
  modify fun m => m.orElse fun _ => some ⟨found, target, p.record, p.path⟩

/-- The kind of a value, as a mismatch names it. -/
def kindName : Json → String
  | .null => "null"
  | .bool _ => "bool"
  | .number _ => "number"
  | .string _ => "string"
  | .array _ => "array"
  | .object _ => "object"

/-- A value that does not fit `target`: `null` leaves it, anything else is a mismatch. -/
def refuse {α : Type} (target : String) (j : Json) (a : α) : FitM α := do
  if j.isNull then return a
  mismatch (kindName j) target
  return a

/-- A flag. -/
def fitBool : Fit Bool
  | .bool b, _ => pure b
  | j, a => refuse "bool" j a

/-- A text. -/
def fitString : Fit String
  | .string s, _ => pure s
  | j, a => refuse "string" j a

/-- A signed integer of `bits` bits, named `target`. -/
def fitInt (bits : Nat) (target : String) : Fit Int
  | .number t, a =>
    match readSigned 64 t with
    | .ok n =>
      if -(Int.pow 2 (bits - 1)) ≤ n && n < Int.pow 2 (bits - 1) then pure n
      else do mismatch ("number " ++ t) target; pure a
    | .error _ => do mismatch ("number " ++ t) target; pure a
  | j, a => refuse target j a

/-- A single-precision float. -/
def fitSingle : Fit Single
  | .number t, a =>
    match decimal? t with
    | some n =>
      let x := Single.ofDecimal n.negative n.decimal
      if x.isFinite then pure x else do mismatch ("number " ++ t) "float32"; pure a
    | none => do mismatch ("number " ++ t) "float32"; pure a
  | j, a => refuse "float32" j a

/-- An optional value: `null` empties it, anything else fits into it (or into `zero`). -/
def fitOption {α : Type} (zero : α) (f : Fit α) : Fit (Option α)
  | .null, _ => pure none
  | j, a => do return some (← f j (a.getD zero))

/-- Fit the items of an array into existing elements, then new ones. -/
def fitItems {α : Type} (zero : α) (f : Fit α) : List Json → List α → FitM (List α)
  | [], _ => pure []
  | j :: js, old => do
    let x ← f j (old.headD zero)
    let xs ← fitItems zero f js old.tail
    return x :: xs

/-- A list: `null` empties it (to no list at all), an array refits it. -/
def fitList {α : Type} (zero : α) (target : String) (f : Fit α) : Fit (Option (List α))
  | .null, _ => pure none
  | .array js, a => do return some (← fitItems zero f js (a.getD []))
  | j, a => do mismatch (kindName j) target; pure a

/-- The allocator's size classes in bytes: a small block takes the least class that holds
it. -/
def sizeClasses : List Nat :=
  [8, 16, 24, 32, 48, 64, 80, 96, 112, 128, 144, 160, 176, 192, 208, 224, 240, 256, 288, 320,
    352, 384, 416, 448, 480, 512, 576, 640, 704, 768, 896, 1024, 1152, 1280, 1408, 1536, 1792,
    2048, 2304, 2688, 3072, 3200, 3456, 4096, 4864, 5376, 6144, 6528, 6784, 6912, 8192, 9472,
    9728, 10240, 10880, 12288, 13568, 14336, 16384, 18432, 19072, 20480, 21760, 24576, 27264,
    28672, 32768]

/-- The bytes a block of `bytes` takes: its size class, or whole 8 KiB pages past 32 KiB. -/
def allocationSize (bytes : Nat) : Nat :=
  if bytes ≤ 32760 then (sizeClasses.find? (bytes ≤ ·)).getD bytes
  else (bytes + 8191) / 8192 * 8192

/-- The room a full growable array of `count` elements of `size` bytes grows to when one
more is added: twice as many below 256 (one at least), else a quarter more and 192, and
then as many as the block allocated for them holds. -/
def grownRoom (size count : Nat) : Nat :=
  let wanted := if count == 0 then 1 else if count < 256 then 2 * count else count + (count + 768) / 4
  allocationSize (wanted * size) / max size 1

/-- Fit the items of an array into a growable array of `size`-byte elements holding
`backing`, of which the first `len` are in use: an element in use is fitted into, one in
the room past them is taken into use as it is, and a full array grows by fresh `zero`
room. The array and the elements in use after. -/
def fitInRoom {α : Type} (zero : α) (size : Nat) (f : Fit α) :
    List Json → Nat → Array α → Nat → FitM (Array α × Nat)
  | [], i, b, len => pure (b, min i len)
  | j :: js, i, b, len => do
    let b := if b.size ≤ i then b ++ Array.replicate (grownRoom size b.size - b.size) zero else b
    let x ← f j (b.getD i zero)
    fitInRoom zero size f js (i + 1) (b.set! i x) (max len (i + 1))

/-- A list that keeps the room of the growable array holding it: `null` empties it (to no
list and no room), an empty array makes it empty with no room, and any other array is
fitted in place (`fitInRoom`). The list and its room after. -/
def fitRoomyList {α : Type} (zero : α) (size : Nat) (target : String) (f : Fit α) :
    Fit (Option (List α) × List α)
  | .null, _ => pure (none, [])
  | .array [], _ => pure (some [], [])
  | .array js, (items, room) => do
    let held := items.getD []
    let (b, len) ← fitInRoom zero size f js 0 (held ++ room).toArray held.length
    return (some (b.toList.take len), b.toList.drop len)
  | j, a => do mismatch (kindName j) target; pure a

/-- A vector of `n`: an array fills it from the start, zeros after the array's end and
skips items beyond `n`. -/
def fitVector {α : Type} (n : Nat) (zero : α) (target : String) (f : Fit α) :
    Fit (Vector α n)
  | .array js, a => do
    let xs ← fitItems zero f (js.take n) a.toList
    return Vector.ofFn fun i => xs.getD i.val zero
  | j, a => refuse target j a

/-- Letters folded for matching names without regard to case: ASCII letters to upper
case, and the Kelvin sign and the long s to the letters they fold to. -/
def foldChar (c : Char) : Char :=
  if c.toNat == 0x212A then 'K'
  else if c.toNat == 0x17F then 'S'
  else c.toUpper

/-- Whether two names match without regard to case. -/
def sameFolded (a b : String) : Bool := a.toList.map foldChar == b.toList.map foldChar

/-- A field of a record: its name and how to fit it. -/
structure Field (α : Type) where
  name : String
  fit : Json → α → FitM α

/-- The field a member name selects: the exact name, else the first that matches
without regard to case. -/
def Field.select {α : Type} (fields : List (Field α)) (key : String) : Option (Field α) :=
  (fields.find? (·.name == key)).orElse fun _ => fields.find? (sameFolded ·.name key)

/-- Fit one field, with the record's name and the field's name on the path. -/
def fitField {α : Type} (record : String) (f : Field α) (j : Json) (a : α) : FitM α :=
  withReader (fun p => { record, path := p.path ++ [f.name] }) (f.fit j a)

/-- A record named `record`, with its fields. -/
def fitRecord {α : Type} (record target : String) (fields : List (Field α)) : Fit α
  | .object members, a =>
    members.foldlM (fun a (key, j) =>
      match Field.select fields key with
      | some f => fitField record f j a
      | none => pure a) a
  | j, a => refuse target j a

/-- Fit a whole document into a starting value: the result, or the first mismatch. -/
def fitDocument {α : Type} (f : Fit α) (j : Json) (start : α) : Except TypeMismatch α :=
  match (f j start).run {} |>.run none with
  | (a, none) => .ok a
  | (_, some m) => .error m

end DepthRig.Json
