import DepthRig.Store.Cell

/-!
# Statements

The store takes a small set of SQL statements separated by semicolons: transactions, drops,
inserts, updates, deletes and vacuums, with quoted texts, integers, `NULL` and `?` arguments
as values. A statement that does not read fails at the first token it cannot take, or as
incomplete at the end of the text.
-/

namespace DepthRig.Store

/-- A token of statement text. -/
inductive Token where
  /-- A name or keyword, as written. -/
  | word (s : String)
  /-- A quoted text, with its text as written. -/
  | str (s : String) (raw : String)
  /-- An integer, with its text as written. -/
  | num (n : Int) (raw : String)
  /-- A placeholder for the next argument. -/
  | param
  | sym (c : Char)
  deriving BEq, Repr, Inhabited

/-- A token as written, as errors quote it. -/
def Token.raw : Token → String
  | .word s => s
  | .str _ r => r
  | .num _ r => r
  | .param => "?"
  | .sym c => String.singleton c

/-- Whether a token is the keyword `k` (given in upper case). -/
def Token.isKeyword (t : Token) (k : String) : Bool :=
  match t with
  | .word s => s.toUpper == k
  | _ => false

/-- Why statement text does not read. -/
inductive SyntaxError where
  | near (token : String)
  | incomplete
  | unrecognized (token : String)
  deriving BEq, Repr

/-- The text of a syntax error. -/
def SyntaxError.message : SyntaxError → String
  | .near t => "near \"" ++ t ++ "\": syntax error"
  | .incomplete => "incomplete input"
  | .unrecognized t => "unrecognized token: \"" ++ t ++ "\""

/-- Whether a character may continue a name. -/
def isNameChar (c : Char) : Bool := c.isAlphanum || c == '_' || c == '$' || 128 ≤ c.toNat

/-- The body of a quoted text after its opening quote: the text, and the characters taken
up to and including the closing quote, or `none` if it is not closed. -/
def quotedBody (q : Char) : List Char → Option (List Char × List Char)
  | [] => none
  | c :: rest =>
    if c == q then
      match rest with
      | d :: rest' =>
        if d == q then (quotedBody q rest').map fun (body, raw) => (q :: body, q :: q :: raw)
        else some ([], [q])
      | [] => some ([], [q])
    else (quotedBody q rest).map fun (body, raw) => (c :: body, c :: raw)

/-- Whether a minus sign here starts a negative number: after nothing, an opening bracket,
a comma or an equals sign. -/
def signAllowed : List Token → Bool
  | [] => true
  | t :: _ => t == .sym '(' || t == .sym ',' || t == .sym '='

/-- The token starting with `c` (none for a blank or a comment), and how many of the
characters after `c` it takes; `before` holds the tokens so far, last first. -/
def scanToken (c : Char) (rest : List Char) (before : List Token) :
    Except SyntaxError (Option Token × Nat) :=
  if c == ' ' || c == '\n' || c == '\t' || c == '\r' then .ok (none, 0)
  else if c == '-' && rest.head? == some '-' then .ok (none, (rest.takeWhile (· != '\n')).length)
  else if c == '\'' then
    match quotedBody '\'' rest with
    | some (body, raw) => .ok (some (.str (String.ofList body) (String.ofList (c :: raw))), raw.length)
    | none => .error (.unrecognized (String.ofList (c :: rest)))
  else if c == '"' then
    match quotedBody '"' rest with
    | some (body, raw) => .ok (some (.word (String.ofList body)), raw.length)
    | none => .error (.unrecognized (String.ofList (c :: rest)))
  else if c.isDigit || (c == '-' && signAllowed before && (rest.head?.map Char.isDigit).getD false) then
    let digits := (if c == '-' then rest else c :: rest).takeWhile Char.isDigit
    let n : Int := digits.foldl (fun n d => n * 10 + (d.toNat - 48 : Nat)) 0
    let signed := if c == '-' then -n else n
    let raw := (if c == '-' then "-" else "") ++ String.ofList digits
    .ok (some (.num signed raw), if c == '-' then digits.length else digits.length - 1)
  else if c.isAlpha || c == '_' then
    let tail := rest.takeWhile isNameChar
    .ok (some (.word (String.ofList (c :: tail))), tail.length)
  else if c == '?' then .ok (some .param, 0)
  else if "(),=;*.".contains c then .ok (some (.sym c), 0)
  else .error (.unrecognized (String.singleton c))

/-- Split statement text into tokens; `acc` holds the tokens so far, last first. -/
def tokenize (cs : List Char) (acc : List Token := []) : Except SyntaxError (List Token) :=
  match cs with
  | [] => .ok acc.reverse
  | c :: rest =>
    match scanToken c rest acc with
    | .error e => .error e
    | .ok (t, k) => tokenize (rest.drop k) (match t with | some t => t :: acc | none => acc)
termination_by cs.length
decreasing_by simp only [List.length_drop, List.length_cons]; omega

/-- A value in a statement: a literal, or the next argument. -/
inductive Operand where
  | lit (c : Cell)
  | param
  deriving Repr, Inhabited

/-- A statement. -/
inductive Statement where
  | begin
  | commit
  | rollback
  | dropTable (name : String) (ifExists : Bool)
  | dropIndex (name : String) (ifExists : Bool)
  /-- Insert a row; no columns means all of them in order. -/
  | insert (table : String) (columns : List String) (values : List Operand)
  | update (table : String) (sets : List (String × Operand)) (cond : Option (String × Operand))
  | delete (table : String) (cond : Option (String × Operand))
  | vacuum (into : Option Operand)
  /-- A query, which changes nothing. -/
  | select
  deriving Repr, Inhabited

/-- The error at a point of the token list: the token there, or the end. -/
def failAt : List Token → SyntaxError
  | t :: _ => .near t.raw
  | [] => .incomplete

/-- A single-token value. -/
def operand : Token → Except SyntaxError Operand
  | .str s _ => .ok (.lit (.text s))
  | .num n _ => .ok (.lit (.int n))
  | .param => .ok .param
  | t => if t.isKeyword "NULL" then .ok (.lit .null) else .error (.near t.raw)

/-- Names separated by commas up to a closing bracket, and the tokens after it. -/
def names : List Token → Except SyntaxError (List String × List Token)
  | .word n :: .sym ',' :: rest => do
    let (ns, r) ← names rest
    pure (n :: ns, r)
  | .word n :: .sym ')' :: rest => pure ([n], rest)
  | .word _ :: ts => .error (failAt ts)
  | ts => .error (failAt ts)

/-- Values separated by commas up to a closing bracket, and the tokens after it. -/
def operands : List Token → Except SyntaxError (List Operand × List Token)
  | t :: .sym ',' :: rest => do
    let o ← operand t
    let (os, r) ← operands rest
    pure (o :: os, r)
  | t :: .sym ')' :: rest => do
    let o ← operand t
    pure ([o], rest)
  | t :: ts => do
    let _ ← operand t
    .error (failAt ts)
  | [] => .error .incomplete

/-- Assignments `c = v` separated by commas, and the tokens after them. -/
def assignments : List Token → Except SyntaxError (List (String × Operand) × List Token)
  | .word c :: .sym '=' :: t :: .sym ',' :: rest => do
    let o ← operand t
    let (more, r) ← assignments rest
    pure ((c, o) :: more, r)
  | .word c :: .sym '=' :: t :: rest => do
    let o ← operand t
    pure ([(c, o)], rest)
  | .word _ :: .sym '=' :: [] => .error .incomplete
  | .word _ :: ts => .error (failAt ts)
  | ts => .error (failAt ts)

/-- The end of a statement. -/
def finish {α : Type} (a : α) : List Token → Except SyntaxError α
  | [] => .ok a
  | t :: _ => .error (.near t.raw)

/-- An optional `WHERE c = v` that ends the statement. -/
def condition : List Token → Except SyntaxError (Option (String × Operand))
  | [] => .ok none
  | w :: .word c :: .sym '=' :: t :: rest =>
    if w.isKeyword "WHERE" then do
      let o ← operand t
      finish (some (c, o)) rest
    else .error (.near w.raw)
  | w :: rest => if w.isKeyword "WHERE" then .error (failAt (rest.drop 2)) else .error (.near w.raw)

/-- Skip an optional keyword. -/
def optional (k : String) : List Token → List Token
  | t :: rest => if t.isKeyword k then rest else t :: rest
  | [] => []

/-- A table or index name, whether `IF EXISTS` came before it, and the tokens after it. -/
def droppedName : List Token → Except SyntaxError (String × Bool × List Token)
  | i :: e :: .word n :: rest =>
    if i.isKeyword "IF" && e.isKeyword "EXISTS" then .ok (n, true, rest)
    else match i with
      | .word n => .ok (n, false, e :: .word n :: rest)
      | t => .error (.near t.raw)
  | .word n :: rest => .ok (n, false, rest)
  | ts => .error (failAt ts)

/-- Read one statement from its tokens. -/
def Statement.read : List Token → Except SyntaxError Statement
  | [] => .error .incomplete
  | t :: rest =>
    if t.isKeyword "BEGIN" then
      let rest := match rest with
        | m :: more => if m.isKeyword "DEFERRED" || m.isKeyword "IMMEDIATE" || m.isKeyword "EXCLUSIVE" then more else m :: more
        | [] => []
      finish .begin (optional "TRANSACTION" rest)
    else if t.isKeyword "COMMIT" || t.isKeyword "END" then finish .commit (optional "TRANSACTION" rest)
    else if t.isKeyword "ROLLBACK" then finish .rollback (optional "TRANSACTION" rest)
    else if t.isKeyword "DROP" then
      match rest with
      | k :: more =>
        if k.isKeyword "TABLE" then do
          let (n, ifExists, after) ← droppedName more
          finish (.dropTable n ifExists) after
        else if k.isKeyword "INDEX" then do
          let (n, ifExists, after) ← droppedName more
          finish (.dropIndex n ifExists) after
        else .error (.near k.raw)
      | [] => .error .incomplete
    else if t.isKeyword "INSERT" then
      match rest with
      | i :: more =>
        if !i.isKeyword "INTO" then .error (.near i.raw)
        else match more with
          | .word table :: .sym '(' :: cols => do
            let (columns, after) ← names cols
            match after with
            | v :: .sym '(' :: vals =>
              if v.isKeyword "VALUES" then do
                let (values, after) ← operands vals
                finish (.insert table columns values) after
              else .error (.near v.raw)
            | v :: ts => if v.isKeyword "VALUES" then .error (failAt ts) else .error (.near v.raw)
            | [] => .error .incomplete
          | .word table :: v :: .sym '(' :: vals =>
            if v.isKeyword "VALUES" then do
              let (values, after) ← operands vals
              finish (.insert table [] values) after
            else .error (.near v.raw)
          | .word _ :: v :: ts => if v.isKeyword "VALUES" then .error (failAt ts) else .error (.near v.raw)
          | [.word _] => .error .incomplete
          | ts => .error (failAt ts)
      | [] => .error .incomplete
    else if t.isKeyword "UPDATE" then
      match rest with
      | .word table :: s :: more =>
        if s.isKeyword "SET" then do
          let (sets, after) ← assignments more
          let cond ← condition after
          pure (.update table sets cond)
        else .error (.near s.raw)
      | [.word _] => .error .incomplete
      | ts => .error (failAt ts)
    else if t.isKeyword "DELETE" then
      match rest with
      | f :: more =>
        if !f.isKeyword "FROM" then .error (.near f.raw)
        else match more with
          | .word table :: after => do
            let cond ← condition after
            pure (.delete table cond)
          | ts => .error (failAt ts)
      | [] => .error .incomplete
    else if t.isKeyword "VACUUM" then
      match rest with
      | [] => .ok (.vacuum none)
      | i :: v :: more =>
        if i.isKeyword "INTO" then do
          let o ← operand v
          finish (.vacuum (some o)) more
        else .error (.near i.raw)
      | ts => .error (failAt ts)
    else if t.isKeyword "SELECT" then .ok .select
    else .error (.near t.raw)

/-- Split tokens into statements at semicolons, dropping empty ones. -/
def splitStatements (ts : List Token) : List (List Token) :=
  let (done, current) := ts.foldl (fun (done, current) t =>
    if t == .sym ';' then (done ++ [current], []) else (done, current ++ [t])) ([], [])
  (done ++ [current]).filter (!·.isEmpty)

end DepthRig.Store
