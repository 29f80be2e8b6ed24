import DepthRig.Json.Value
import DepthRig.Text.Utf8

/-!
# Reading JSON text

The reader is a machine that takes the text one byte at a time, its state saying what may
come next and which containers are open; the first byte the grammar does not allow ends the
reading with a message naming it. Strings are kept raw until their closing quote and then
decoded, ill-formed UTF-8 and lone surrogates becoming `U+FFFD`.
-/

namespace DepthRig.Json

/-- Where the reader stands inside a number literal. -/
inductive NumberState where
  | minus | zero | integer | point | fraction | exponentMark | exponentSign | exponent

/-- Where the reader stands inside a string. -/
inductive EscapeState where
  | plain
  | backslash
  /-- Inside `\u`, with this many hex digits still to come. -/
  | unicode (remaining : Nat)

/-- A container that is still open. -/
inductive Open where
  | array (items : Array Json)
  /-- An object, with the name of the member whose value is being read. -/
  | object (members : Array (String × Json)) (key : String)

/-- What the reader expects next. -/
inductive Phase where
  | value
  | valueOrClose
  | keyOrClose
  | key
  | colon
  | afterValue
  | text (raw : Array UInt8) (isKey : Bool) (esc : EscapeState)
  | number (raw : Array UInt8) (st : NumberState)
  | literal (word : String) (rest : List UInt8)
  | done

/-- The reader's state: its phase, the open containers innermost first, and the value once
the top level is complete. -/
structure Reader where
  phase : Phase := .value
  stack : List Open := []
  result : Json := .null

/-- Blank bytes between tokens: space, tab, carriage return and line feed. -/
def isBlank (c : UInt8) : Bool := c == 32 || c == 9 || c == 13 || c == 10

private def isDigit (c : UInt8) : Bool := 48 ≤ c && c ≤ 57

private def isHex (c : UInt8) : Bool :=
  isDigit c || (97 ≤ c && c ≤ 102) || (65 ≤ c && c ≤ 70)

private def hexDigitValue (c : UInt8) : Nat :=
  if isDigit c then c.toNat - 48 else if 97 ≤ c then c.toNat - 87 else c.toNat - 55

/-- Hex digits of a number, lowercase, padded to `width`. -/
def hexPad (width n : Nat) : String :=
  let s := Nat.toDigits 16 n
  String.ofList (List.replicate (width - s.length) '0' ++ s)

/-- Whether a code point below `U+0100` is printed as itself when quoted: the ASCII
graphic characters and space, and the Latin-1 letters and signs except the no-break space
and the soft hyphen. -/
def isPrintableLatin1 (c : Nat) : Bool :=
  (0x20 ≤ c && c < 0x7F) || (0xA1 ≤ c && c ≤ 0xFF && c != 0xAD)

/-- A byte as it appears in a reader message: in single quotes, the byte read as the
code point of the same number, escaped when it is not printable. -/
def quoteByte (c : UInt8) : String :=
  let n := c.toNat
  if n == 39 then "'\\''"
  else if n == 34 then "'\"'"
  else
    let body :=
      if n == 92 then "\\\\"
      else if n == 7 then "\\a" else if n == 8 then "\\b" else if n == 12 then "\\f"
      else if n == 10 then "\\n" else if n == 13 then "\\r" else if n == 9 then "\\t"
      else if n == 11 then "\\v"
      else if isPrintableLatin1 n then String.singleton (Char.ofNat n)
      else if n < 0x80 then "\\x" ++ hexPad 2 n
      else "\\u" ++ hexPad 4 n
    "'" ++ body ++ "'"

/-- The message for a byte that is not allowed at this point. -/
def invalid (c : UInt8) (context : String) : String :=
  "invalid character " ++ quoteByte c ++ " " ++ context

/-- Four hex digits at the front of a byte list. -/
private def hex4? : List UInt8 → Option Nat
  | a :: b :: c :: d :: _ =>
    if isHex a && isHex b && isHex c && isHex d then
      some (((hexDigitValue a * 16 + hexDigitValue b) * 16 + hexDigitValue c) * 16
        + hexDigitValue d)
    else none
  | _ => none

private def isSurrogate (u : Nat) : Bool := 0xD800 ≤ u && u < 0xE000

/-- Decode the raw bytes between two quotes. -/
def unquote (raw : List UInt8) : String :=
  String.ofList (go raw raw.length)
where
  go (bs : List UInt8) : Nat → List Char
    | 0 => []
    | fuel + 1 =>
      match bs with
      | [] => []
      | 92 :: e :: rest =>
        if e == 117 then
          match hex4? rest with
          | none => go rest fuel
          | some u =>
            let rest := rest.drop 4
            if isSurrogate u then
              let pair? : Option Nat :=
                if 0xD800 ≤ u && u < 0xDC00 then
                  match rest with
                  | 92 :: 117 :: rest' =>
                    match hex4? rest' with
                    | some v => if 0xDC00 ≤ v && v < 0xE000 then
                        some (0x10000 + (u - 0xD800) * 0x400 + (v - 0xDC00)) else none
                    | none => none
                  | _ => none
                else none
              match pair? with
              | some c => Char.ofNat c :: go (rest.drop 6) fuel
              | none => '�' :: go rest fuel
            else Char.ofNat u :: go rest fuel
        else
          let c := if e == 98 then '\x08' else if e == 102 then '\x0c'
            else if e == 110 then '\n' else if e == 114 then '\r'
            else if e == 116 then '\t' else Char.ofNat e.toNat
          c :: go rest fuel
      | b :: rest =>
        match Utf8.decodeOne (b :: rest) with
        | some (c, n) => Char.ofNat c :: go ((b :: rest).drop n) fuel
        | none => '�' :: go rest fuel

namespace Reader

/-- Hand a completed value to the innermost open container, or finish the top level. -/
def finish (r : Reader) (v : Json) : Reader :=
  match r.stack with
  | [] => { r with phase := .done, result := v }
  | .array items :: rest => { r with phase := .afterValue, stack := .array (items.push v) :: rest }
  | .object ms k :: rest =>
    { r with phase := .afterValue, stack := .object (ms.push (k, v)) "" :: rest }

/-- Close the innermost container and hand it outwards. -/
def close (r : Reader) : Reader :=
  match r.stack with
  | [] => r
  | .array items :: rest => { r with stack := rest }.finish (.array items.toList)
  | .object ms _ :: rest => { r with stack := rest }.finish (.object ms.toList)

/-- Start a value at byte `c`. -/
def beginValue (r : Reader) (c : UInt8) : Except String Reader :=
  if isBlank c then .ok r
  else if c == 123 then .ok { r with phase := .keyOrClose, stack := .object #[] "" :: r.stack }
  else if c == 91 then .ok { r with phase := .valueOrClose, stack := .array #[] :: r.stack }
  else if c == 34 then .ok { r with phase := .text #[] false .plain }
  else if c == 45 then .ok { r with phase := .number #[c] .minus }
  else if c == 48 then .ok { r with phase := .number #[c] .zero }
  else if isDigit c then .ok { r with phase := .number #[c] .integer }
  else if c == 116 then .ok { r with phase := .literal "true" [114, 117, 101] }
  else if c == 102 then .ok { r with phase := .literal "false" [97, 108, 115, 101] }
  else if c == 110 then .ok { r with phase := .literal "null" [117, 108, 108] }
  else .error (invalid c "looking for beginning of value")

/-- Byte `c` after a complete value. -/
def afterValue (r : Reader) (c : UInt8) : Except String Reader :=
  match r.stack with
  | [] => if isBlank c then .ok r else .error (invalid c "after top-level value")
  | .array _ :: _ =>
    if isBlank c then .ok r
    else if c == 44 then .ok { r with phase := .value }
    else if c == 93 then .ok r.close
    else .error (invalid c "after array element")
  | .object _ _ :: _ =>
    if isBlank c then .ok r
    else if c == 44 then .ok { r with phase := .key }
    else if c == 125 then .ok r.close
    else .error (invalid c "after object key:value pair")

/-- Byte `c` where an object key must start. -/
def beginKey (r : Reader) (c : UInt8) : Except String Reader :=
  if isBlank c then .ok r
  else if c == 34 then .ok { r with phase := .text #[] true .plain }
  else .error (invalid c "looking for beginning of object key string")

/-- The value of a finished number literal. -/
def numberValue (raw : Array UInt8) : Json := .number (Utf8.decode raw.toList)

/-- Feed one byte. -/
def step (r : Reader) (c : UInt8) : Except String Reader :=
  match r.phase with
  | .value => r.beginValue c
  | .valueOrClose => if c == 93 then .ok r.close else r.beginValue c
  | .keyOrClose => if c == 125 then .ok r.close else r.beginKey c
  | .key => r.beginKey c
  | .colon =>
    if isBlank c then .ok r
    else if c == 58 then .ok { r with phase := .value }
    else .error (invalid c "after object key")
  | .afterValue => r.afterValue c
  | .done => r.afterValue c
  | .text raw isKey esc =>
    match esc with
    | .plain =>
      if c == 34 then
        let s := unquote raw.toList
        if isKey then
          match r.stack with
          | .object ms _ :: rest => .ok { r with phase := .colon, stack := .object ms s :: rest }
          | _ => .ok r
        else .ok (r.finish (.string s))
      else if c == 92 then .ok { r with phase := .text (raw.push c) isKey .backslash }
      else if c < 32 then .error (invalid c "in string literal")
      else .ok { r with phase := .text (raw.push c) isKey .plain }
    | .backslash =>
      if c == 98 || c == 102 || c == 110 || c == 114 || c == 116 || c == 92 || c == 47 || c == 34 then
        .ok { r with phase := .text (raw.push c) isKey .plain }
      else if c == 117 then .ok { r with phase := .text (raw.push c) isKey (.unicode 4) }
      else .error (invalid c "in string escape code")
    | .unicode k =>
      if isHex c then
        .ok { r with phase := .text (raw.push c) isKey (if k ≤ 1 then .plain else .unicode (k - 1)) }
      else .error (invalid c "in \\u hexadecimal character escape")
  | .number raw st =>
    let more (st' : NumberState) : Except String Reader :=
      .ok { r with phase := .number (raw.push c) st' }
    let stop : Except String Reader := (r.finish (numberValue raw)).afterValue c
    let isE := c == 101 || c == 69
    match st with
    | .minus =>
      if c == 48 then more .zero else if isDigit c then more .integer
      else .error (invalid c "in numeric literal")
    | .zero => if c == 46 then more .point else if isE then more .exponentMark else stop
    | .integer =>
      if isDigit c then more .integer else if c == 46 then more .point
      else if isE then more .exponentMark else stop
    | .point => if isDigit c then more .fraction
      else .error (invalid c "after decimal point in numeric literal")
    | .fraction => if isDigit c then more .fraction else if isE then more .exponentMark else stop
    | .exponentMark =>
      if c == 43 || c == 45 then more .exponentSign else if isDigit c then more .exponent
      else .error (invalid c "in exponent of numeric literal")
    | .exponentSign => if isDigit c then more .exponent
      else .error (invalid c "in exponent of numeric literal")
    | .exponent => if isDigit c then more .exponent else stop
  | .literal word rest =>
    match rest with
    | [] => r.afterValue c
    | e :: more =>
      if c == e then
        if more.isEmpty then
          let v : Json := if word == "true" then .bool true
            else if word == "false" then .bool false else .null
          .ok (r.finish v)
        else .ok { r with phase := .literal word more }
      else .error (invalid c ("in literal " ++ word ++ " (expecting " ++ quoteByte e ++ ")"))

/-- Feed every byte in order, stopping at the first error. -/
def feed (r : Reader) : List UInt8 → Except String Reader
  | [] => .ok r
  | c :: cs => match r.step c with
    | .ok r' => r'.feed cs
    | .error e => .error e

/-- End of input: the blank that ends a number or literal, then the top level must be
complete. -/
def finishInput (r : Reader) : Except String Json :=
  match r.phase with
  | .done => .ok r.result
  | _ =>
    match r.step 32 with
    | .error e => .error e
    | .ok r' =>
      match r'.phase with
      | .done => .ok r'.result
      | _ => .error "unexpected end of JSON input"

end Reader

/-- Read one JSON document from bytes; the error is the reader's message. -/
def parseBytes (bs : List UInt8) : Except String Json :=
  match ({} : Reader).feed bs with
  | .ok r => r.finishInput
  | .error e => .error e

/-- Read one JSON document from text. -/
def parse (s : String) : Except String Json := parseBytes (Utf8.encode s)

end DepthRig.Json
