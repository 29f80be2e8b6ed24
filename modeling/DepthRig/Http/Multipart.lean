import DepthRig.Http.Form
import DepthRig.Http.MediaType

/-!
# Multipart form bodies

A multipart body is a run of parts between `--boundary` delimiter lines, each part a block
of headers, a blank line and its content, ended by `--boundary--`. Reading goes part by part
within the limits the server sets (lines of 4096 bytes, 1000 parts) and decodes
quoted-printable content; a `form-data` part with a `name` gives a value unless it names a
`filename`, and any failure means the body gives no values at all.
-/

namespace DepthRig.Http

namespace Multipart

/-- Where the parts of a body are divided: `--boundary`, and whether lines end in a bare
line feed. -/
structure Delimiter where
  dash : List UInt8
  bareLf : Bool

/-- The line break of a body. -/
def Delimiter.newline (d : Delimiter) : List UInt8 := if d.bareLf then [10] else [13, 10]

/-- The line break and `--boundary` that end a part's content. -/
def Delimiter.breakDash (d : Delimiter) : List UInt8 := d.newline ++ d.dash

/-- Drop blanks and tabs at the start. -/
def skipBlanks (bs : List UInt8) : List UInt8 := bs.dropWhile fun b => b == 32 || b == 9

/-- What follows the next line break. -/
inductive Line where
  /-- A line with its line feed, and the rest. -/
  | line (text rest : List UInt8)
  /-- The body ends without a line feed; what is left. -/
  | last (text : List UInt8)
  /-- No line feed within 4096 bytes. -/
  | tooLong

/-- Take the line at the start of the data. -/
def takeLine (data : List UInt8) : Line :=
  match data.findIdx? (· == 10) with
  | some i => if i < 4096 then .line (data.take (i + 1)) (data.drop (i + 1)) else .tooLong
  | none => if data.length < 4096 then .last data else .tooLong

/-- Whether a line ends the body: `--boundary--`, blanks and tabs, and perhaps the line
break. -/
def isClosing (d : Delimiter) (line : List UInt8) : Bool :=
  let mark := d.dash ++ [45, 45]
  mark.isPrefixOf line &&
    (let rest := skipBlanks (line.drop mark.length)
     rest.isEmpty || rest == d.newline)

/-- Whether a line is a delimiter line, and the delimiter from then on: a first delimiter
line that ends in a bare line feed makes every line break a bare line feed. -/
def delimiterLine (d : Delimiter) (first : Bool) (line : List UInt8) : Bool × Delimiter :=
  if !d.dash.isPrefixOf line then (false, d)
  else
    let rest := skipBlanks (line.drop d.dash.length)
    let d := if first && rest == [10] then { d with bareLf := true } else d
    (rest == d.newline, d)

/-- What comes next in a body. -/
inductive Next where
  /-- The body ends. -/
  | finished
  /-- A part starts after its delimiter line: the delimiter from then on, and the data
  after the line. -/
  | part (d : Delimiter) (after : List UInt8)
  | failed

/-- Find the next part: `parts` says how many were read, `expectPart` that a line break
after a part's content was just passed. -/
def nextPart : Nat → Delimiter → Nat → Bool → List UInt8 → Next
  | 0, _, _, _, _ => .failed
  | fuel + 1, d, parts, expectPart, data =>
    match takeLine data with
    | .tooLong => .failed
    | .last text => if isClosing d text then .finished else .failed
    | .line text rest =>
      let (isDelimiter, d) := delimiterLine d (parts == 0) text
      if isDelimiter then .part d rest
      else if isClosing d text then .finished
      else if expectPart then .failed
      else if parts == 0 then nextPart fuel d parts expectPart rest
      else if text == d.newline then nextPart fuel d parts true rest
      else .failed

/-- Split a line of headers off the data: the line without its line break, and the rest;
none at the end of the data. -/
def headerLine (data : List UInt8) : Option (List UInt8 × List UInt8) :=
  if data.isEmpty then none
  else match data.findIdx? (· == 10) with
    | some i =>
      let text := data.take i
      let text := if text.getLast? == some 13 then text.dropLast else text
      some (text, data.drop (i + 1))
    | none => some (data, [])

/-- Drop blanks and tabs at both ends. -/
def trimBlanks (bs : List UInt8) : List UInt8 := (skipBlanks (skipBlanks bs).reverse).reverse

/-- Join the continuation lines that follow a header line. -/
def continued : Nat → List UInt8 → List UInt8 → List UInt8 × List UInt8
  | 0, acc, data => (acc, data)
  | fuel + 1, acc, data =>
    match data with
    | b :: _ =>
      if b == 32 || b == 9 then
        match headerLine (skipBlanks data) with
        | some (text, rest) => continued fuel (acc ++ [32] ++ trimBlanks text) rest
        | none => (acc ++ [32], [])
      else (acc, data)
    | [] => (acc, data)

/-- Whether a byte may stand in a header name: an ASCII letter or digit, or one of
the marks allowed in tokens. -/
def isNameByte (b : UInt8) : Bool :=
  (65 ≤ b && b ≤ 90) || (97 ≤ b && b ≤ 122) || (48 ≤ b && b ≤ 57)
    || [33, 35, 36, 37, 38, 39, 42, 43, 45, 46, 94, 95, 96, 124, 126].contains b

/-- A header name in canonical case: a capital after each dash and at the start, small
letters elsewhere; a name with a blank in it is kept as it is; none for a name that is
empty or has another byte. -/
def canonicalName (k : List UInt8) : Option (List UInt8) :=
  if k.isEmpty || !k.all (fun b => isNameByte b || b == 32) then none
  else if k.contains 32 then some k
  else
    some (k.foldl (fun (acc : List UInt8 × Bool) b =>
      let b := if acc.2 && 97 ≤ b && b ≤ 122 then b - 32
        else if !acc.2 && 65 ≤ b && b ≤ 90 then b + 32 else b
      (acc.1 ++ [b], b == 45)) ([], true)).1

/-- Whether a byte may stand in a header value. -/
def isValueByte (b : UInt8) : Bool := b == 9 || 32 ≤ b && b != 127

/-- How reading a part's headers ends. -/
inductive Headers where
  /-- The headers, by canonical name, and the data after the blank line. -/
  | read (headers : List (List UInt8 × List UInt8)) (rest : List UInt8)
  /-- The body ended among them. -/
  | ended
  | failed

/-- Read header lines up to a blank line. -/
def readHeaders : Nat → List (List UInt8 × List UInt8) → List UInt8 → Headers
  | 0, _, _ => .failed
  | fuel + 1, acc, data =>
    match headerLine data with
    | none => .ended
    | some (text, rest) =>
      if text.isEmpty then .read acc rest
      else if !text.contains 58 then .failed
      else
        let (kv, rest) := continued (rest.length + 1) (trimBlanks text) rest
        let k := kv.takeWhile (· != 58)
        let v := (kv.dropWhile (· != 58)).drop 1
        match canonicalName k with
        | none => .failed
        | some key =>
          if !v.all isValueByte then .failed
          else readHeaders fuel (acc ++ [(key, skipBlanks v)]) rest

/-- Read a part's headers; the first line may not start with a blank or tab. -/
def partHeaders (data : List UInt8) : Headers :=
  match data with
  | b :: _ => if b == 32 || b == 9 then .failed else readHeaders (data.length + 1) [] data
  | [] => readHeaders 1 [] data

/-- A header's first value. -/
def header? (hs : List (List UInt8 × List UInt8)) (name : String) : Option (List UInt8) :=
  (hs.find? (·.1 == Utf8.encode name)).map (·.2)

/-- Whether what follows a delimiter ends a part's content. -/
def endsContent : List UInt8 → Bool
  | [] => true
  | b :: rest => b == 32 || b == 9 || b == 13 || b == 10 || (b == 45 && rest.head? == some 45)

/-- The content before the first line break and delimiter that end it, and the data from
there on. -/
def findEnd (breakDash : List UInt8) : List UInt8 → Option (List UInt8 × List UInt8)
  | [] => none
  | b :: rest =>
    let data := b :: rest
    if breakDash.isPrefixOf data && endsContent (data.drop breakDash.length) then some ([], data)
    else (findEnd breakDash rest).map fun (c, r) => (b :: c, r)

/-- A part's content and the data after it. -/
def content (d : Delimiter) (data : List UInt8) : Option (List UInt8 × List UInt8) :=
  if d.dash.isPrefixOf data && endsContent (data.drop d.dash.length) then some ([], data)
  else findEnd d.breakDash data

/-- The value of a hexadecimal digit, in either case. -/
def hexDigit? (b : UInt8) : Option Nat :=
  if 48 ≤ b && b ≤ 57 then some (b.toNat - 48)
  else if 65 ≤ b && b ≤ 70 then some (b.toNat - 55)
  else if 97 ≤ b && b ≤ 102 then some (b.toNat - 87)
  else none

/-- Decode the bytes of one quoted-printable line. -/
def decodeQuoted : List UInt8 → Option (List UInt8)
  | [] => some []
  | 61 :: h :: l :: more =>
    match hexDigit? h, hexDigit? l with
    | some a, some b => (decodeQuoted more).map (UInt8.ofNat (16 * a + b) :: ·)
    | _, _ => if h != 13 && h != 10 then (decodeQuoted (h :: l :: more)).map (61 :: ·) else none
  | [61, h] => if h != 13 && h != 10 then (decodeQuoted [h]).map (61 :: ·) else none
  | [61] => none
  | b :: rest =>
    if b == 9 || b == 13 || b == 10 || 128 ≤ b || (32 ≤ b && b ≤ 126) then (decodeQuoted rest).map (b :: ·)
    else none

/-- Whether a byte is dropped at the end of a quoted-printable line. -/
def isLineEndBlank (b : UInt8) : Bool := b == 10 || b == 13 || b == 32 || b == 9

/-- Decode one quoted-printable line (with its line feed unless it is the last). -/
def quotedLine (line : List UInt8) (isLast : Bool) : Option (List UInt8) :=
  let kept := (line.reverse.dropWhile isLineEndBlank).reverse
  let dropped := line.drop kept.length
  if kept.getLast? == some 61 then
    let kept := kept.dropLast
    if [10].isPrefixOf dropped || [13, 10].isPrefixOf dropped || (dropped.isEmpty && !kept.isEmpty && isLast)
    then decodeQuoted kept else none
  else
    let ending := if [13, 10].isSuffixOf line then [13, 10] else if [10].isSuffixOf line then [10] else []
    decodeQuoted (kept ++ ending)

/-- Decode quoted-printable content line by line; lines are at most 4096 bytes. -/
def decodeQuotedPrintable : Nat → List UInt8 → Option (List UInt8)
  | 0, _ => none
  | fuel + 1, data =>
    if data.isEmpty then some []
    else match takeLine data with
      | .tooLong => none
      | .last text => quotedLine text true
      | .line text rest => do
        let a ← quotedLine text false
        let b ← decodeQuotedPrintable fuel rest
        pure (a ++ b)

/-- The form name of a part and whether it is a file, from its disposition. -/
def field? (hs : List (List UInt8 × List UInt8)) : Option (String × Bool) := do
  let v ← header? hs "Content-Disposition"
  let m ← (MediaType.read (Utf8.decode v)).toOption
  if m.name != "form-data" then none
  let name ← m.param? "name"
  if name.isEmpty then none
  pure (name, !((m.param? "filename").getD "").isEmpty)

/-- Whether a part's content is sent quoted-printable. -/
def isQuotedPrintable (hs : List (List UInt8 × List UInt8)) : Bool :=
  match header? hs "Content-Transfer-Encoding" with
  | some v => (Utf8.decode v).toLower == "quoted-printable"
  | none => false

/-- Read the parts that follow, adding their values. -/
def readParts : Nat → Delimiter → Nat → List UInt8 → Values → Option Values
  | 0, _, _, _, _ => none
  | fuel + 1, d, parts, data, acc =>
    match nextPart (data.length + 1) d parts false data with
    | .finished => some acc
    | .failed => none
    | .part d after =>
      match partHeaders after with
      | .ended => some acc
      | .failed => none
      | .read hs body =>
        if 1000 ≤ parts then none
        else do
          let (raw, rest) ← content d body
          match field? hs with
          | none => readParts fuel d (parts + 1) rest acc
          | some (name, isFile) =>
            let value ← if isQuotedPrintable hs then decodeQuotedPrintable (raw.length + 1) raw else some raw
            let acc := if isFile then acc else acc ++ [(Utf8.encode name, value)]
            readParts fuel d (parts + 1) rest acc

end Multipart

/-- The values of a multipart form body with a boundary, in order; none when the body does
not read as a form. -/
def readMultipart (boundary : String) (body : List UInt8) : Option Values :=
  if boundary.isEmpty then none
  else Multipart.readParts (body.length + 1) ⟨Utf8.encode ("--" ++ boundary), false⟩ 0 body []

end DepthRig.Http
