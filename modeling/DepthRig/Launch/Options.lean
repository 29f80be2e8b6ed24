import DepthRig.Duration
import DepthRig.Text.Numeral
import DepthRig.Text.Quote

/-!
# Command-line options

A program's options are named, each with a kind of value, a default and a line of help, and
come first on the command line as `-name` or `--name` with their values. Reading stops at the
first argument that is not an option and fails at the first it cannot take; on a failure or a
request for help the program shows its usage.
-/

namespace DepthRig.Launch

/-- The value an option holds. -/
inductive OptionValue where
  | switch (on : Bool)
  | integer (n : Int)
  | unsigned (n : Nat)
  | text (s : String)
  | span (d : Duration)
  deriving BEq, Repr, Inhabited

namespace OptionValue

/-- The name of a value's kind in the help; a switch shows none. -/
def kindName : OptionValue → String
  | .switch _ => ""
  | .integer _ => "int"
  | .unsigned _ => "uint"
  | .text _ => "string"
  | .span _ => "duration"

/-- The text of a value. -/
def render : OptionValue → String
  | .switch b => if b then "true" else "false"
  | .integer n => toString n
  | .unsigned n => toString n
  | .text s => s
  | .span d => d.text

/-- Whether a value is its kind's zero value, which the help does not show as a default. -/
def isZero : OptionValue → Bool
  | .switch b => !b
  | .integer n => n == 0
  | .unsigned n => n == 0
  | .text s => s.isEmpty
  | .span d => d.nanos == 0

/-- The spellings of a switch's value. -/
def readSwitch (s : String) : Option Bool :=
  if ["1", "t", "T", "TRUE", "true", "True"].contains s then some true
  else if ["0", "f", "F", "FALSE", "false", "False"].contains s then some false
  else none

/-- Why a numeral does not read, as the option reader words it. -/
def numeralProblem : Numeral.ReadError → String
  | .malformed => "parse error"
  | .outOfRange => "value out of range"

/-- Read a text as a value of the same kind as `v`: the value, or why it does not read. -/
def readAs (v : OptionValue) (s : String) : Except String OptionValue :=
  match v with
  | .switch _ => match readSwitch s with
    | some b => .ok (.switch b)
    | none => .error "parse error"
  | .integer _ => match Numeral.readSigned 64 s with
    | .ok n => .ok (.integer n)
    | .error e => .error (numeralProblem e)
  | .unsigned _ => match Numeral.readUnsigned 64 s with
    | .ok n => .ok (.unsigned n)
    | .error e => .error (numeralProblem e)
  | .text _ => .ok (.text s)
  | .span _ => match Duration.parse s with
    | .ok d => .ok (.span d)
    | .error _ => .error "parse error"

end OptionValue

/-- An option of a program whose settings are a `σ`: its name, help line and default, and
how a value given for it changes the settings. -/
structure OptionSpec (σ : Type) where
  name : String
  help : String
  default : OptionValue
  apply : OptionValue → σ → σ

namespace OptionSpec

variable {σ : Type}

/-- A text option. -/
def ofText (name help dflt : String) (put : String → σ → σ) : OptionSpec σ :=
  ⟨name, help, .text dflt, fun v o => match v with | .text s => put s o | _ => o⟩

/-- A switch, off unless given. -/
def ofSwitch (name help : String) (put : Bool → σ → σ) : OptionSpec σ :=
  ⟨name, help, .switch false, fun v o => match v with | .switch b => put b o | _ => o⟩

/-- A signed integer option. -/
def ofInteger (name help : String) (dflt : Int) (put : Int → σ → σ) : OptionSpec σ :=
  ⟨name, help, .integer dflt, fun v o => match v with | .integer n => put n o | _ => o⟩

/-- An unsigned integer option. -/
def ofUnsigned (name help : String) (dflt : Nat) (put : Nat → σ → σ) : OptionSpec σ :=
  ⟨name, help, .unsigned dflt, fun v o => match v with | .unsigned n => put n o | _ => o⟩

/-- A duration option. -/
def ofSpan (name help : String) (dflt : Duration) (put : Duration → σ → σ) : OptionSpec σ :=
  ⟨name, help, .span dflt, fun v o => match v with | .span d => put d o | _ => o⟩

/-- Whether an option is a switch. -/
def isSwitch (o : OptionSpec σ) : Bool :=
  match o.default with
  | .switch _ => true
  | _ => false

/-- The help of one option: its name and kind, then its help line and non-zero default. -/
def helpText (o : OptionSpec σ) : String :=
  let kind := o.default.kindName
  let head := "  -" ++ o.name ++ (if kind.isEmpty then "" else " " ++ kind)
  let sep := if head.utf8ByteSize ≤ 4 then "\t" else "\n    \t"
  let dflt :=
    if o.default.isZero then ""
    else match o.default with
      | .text s => " (default " ++ Quote.text s ++ ")"
      | v => " (default " ++ v.render ++ ")"
  head ++ sep ++ "\n    \t".intercalate (o.help.splitOn "\n") ++ dflt

end OptionSpec

/-- Why the options could not be read. -/
inductive OptionError where
  /-- An argument that starts like an option but has no usable name. -/
  | badSyntax (arg : String)
  /-- A name that no option has. -/
  | unknown (name : String)
  /-- `-h` or `-help`, when no option has that name. -/
  | helpWanted
  /-- An option that needs a value and was given none. -/
  | needsValue (name : String)
  /-- A switch given a value that is not a truth value. -/
  | badSwitch (value name why : String)
  /-- A value that does not read as its option's kind. -/
  | badValue (value name why : String)
  deriving BEq, Repr

/-- The line that reports a failure; a request for help reports none. -/
def OptionError.message : OptionError → Option String
  | .badSyntax a => some ("bad flag syntax: " ++ a)
  | .unknown n => some ("flag provided but not defined: -" ++ n)
  | .helpWanted => none
  | .needsValue n => some ("flag needs an argument: -" ++ n)
  | .badSwitch v n why => some ("invalid boolean value " ++ Quote.text v ++ " for -" ++ n ++ ": " ++ why)
  | .badValue v n why => some ("invalid value " ++ Quote.text v ++ " for flag -" ++ n ++ ": " ++ why)

/-- The exit status after a failure to read the options: success for help, else 2. -/
def OptionError.exitCode : OptionError → Int
  | .helpWanted => 0
  | _ => 2

variable {σ : Type}

/-- The lines of a program's help, its options in name order. -/
def helpLines (program : String) (specs : List (OptionSpec σ)) : List String :=
  let sorted := specs.mergeSort fun a b => !decide (b.name < a.name)
  ("Usage of " ++ program ++ ":") :: sorted.flatMap fun o => o.helpText.splitOn "\n"

/-- An option's name and the value given after `=`, if any: the first `=` after the name's
first character divides them. -/
def splitAssignment : List Char → List Char × Option String
  | [] => ([], none)
  | c :: more =>
    let key := more.takeWhile (· != '=')
    match more.dropWhile (· != '=') with
    | [] => (c :: key, none)
    | _ :: value => (c :: key, some (String.ofList value))

/-- Read options from the front of the arguments onto the settings `s`: the settings and
the arguments left over. -/
def readOptions (specs : List (OptionSpec σ)) : σ → List String → Except OptionError (σ × List String)
  | s, [] => .ok (s, [])
  | s, arg :: rest =>
    match arg.toList with
    | ['-', '-'] => .ok (s, rest)
    | '-' :: body@(_ :: _) =>
      let name := match body with
        | '-' :: n => n
        | n => n
      if name.isEmpty || name.head? == some '-' || name.head? == some '=' then .error (.badSyntax arg)
      else
        let (keyChars, value?) := splitAssignment name
        let key := String.ofList keyChars
        match specs.find? (·.name == key) with
        | none => if key == "help" || key == "h" then .error .helpWanted else .error (.unknown key)
        | some o =>
          if o.isSwitch then
            match value? with
            | none => readOptions specs (o.apply (.switch true) s) rest
            | some v =>
              match o.default.readAs v with
              | .ok x => readOptions specs (o.apply x s) rest
              | .error why => .error (.badSwitch v key why)
          else
            match value? with
            | some v =>
              match o.default.readAs v with
              | .ok x => readOptions specs (o.apply x s) rest
              | .error why => .error (.badValue v key why)
            | none =>
              match rest with
              | v :: more =>
                match o.default.readAs v with
                | .ok x => readOptions specs (o.apply x s) more
                | .error why => .error (.badValue v key why)
              | [] => .error (.needsValue key)
    | _ => .ok (s, arg :: rest)

end DepthRig.Launch
