import DepthRig.Http.Multipart
import DepthRig.Json.Write
import DepthRig.Text.Path

/-!
# Requests and responses

A request carries its method, target, headers, body and peer; its form is read as a server
reads it, the values of an urlencoded body before those of the query and a multipart body's
last, keeping the first problem met. A body written without a content type is given one from
its first bytes.
-/

namespace DepthRig.Http

/-- A request. -/
structure Request where
  method : String := "GET"
  /-- The request target as sent. -/
  target : String
  /-- Headers with their names in canonical case. -/
  headers : List (String × String) := []
  body : List UInt8 := []
  /-- The peer's address, `host:port`. -/
  remote : String := "127.0.0.1:12345"
  /-- Whether the response can be pushed in parts. -/
  canFlush : Bool := true
  deriving Inhabited

namespace Request

/-- The target's path as sent, escapes kept. -/
def rawPath (r : Request) : String := String.ofList (r.target.toList.takeWhile (· != '?'))

/-- The target's query, without its `?`. -/
def rawQuery (r : Request) : String := String.ofList ((r.target.toList.dropWhile (· != '?')).drop 1)

/-- The path with its escapes decoded. -/
def path (r : Request) : String :=
  match unescapeBytes false (Utf8.encode r.rawPath) with
  | .ok bs => Utf8.decode bs
  | .error _ => r.rawPath

/-- Whether a byte may stand unescaped in a path as sent: a byte that stands for itself
in a path, a sub-delimiter `!'()*`, a bracket or `%`. -/
def isSentPathByte (b : UInt8) : Bool :=
  isPathByte b || [33, 39, 40, 41, 42, 91, 93, 37].contains b

/-- The path as routing sees it: as sent when every byte of it may stand there, else the
decoded path escaped again. -/
def escapedPath (r : Request) : String :=
  if (Utf8.encode r.rawPath).all isSentPathByte then r.rawPath else escapePath r.path

/-- A header's value, by name without regard to case; empty when missing. -/
def header (r : Request) (name : String) : String :=
  ((r.headers.find? fun (k, _) => k.toLower == name.toLower).map (·.2)).getD ""

/-- The values of the query. -/
def query (r : Request) : Values := (parseQuery (Utf8.encode r.rawQuery)).1

/-- The type of the body as a form reader sees it, and the problem with the content type:
no content type counts as `application/octet-stream`. -/
def bodyType (r : Request) : String × Option MediaTypeError :=
  let ct := r.header "Content-Type"
  MediaType.nameOf (if ct.isEmpty then "application/octet-stream" else ct)

/-- The values of the body, for the methods whose body is a form. -/
def postForm (r : Request) : Values × Option String :=
  if r.method == "POST" || r.method == "PUT" || r.method == "PATCH" then
    let (t, problem) := r.bodyType
    let problem := problem.map MediaTypeError.message
    if t == "application/x-www-form-urlencoded" then
      let (vs, e) := parseQuery r.body
      (vs, problem.orElse fun _ => e)
    else ([], problem)
  else ([], none)

/-- The form: the body's values, then the query's, and the first problem. -/
def form (r : Request) : Values × Option String :=
  let (post, e1) := r.postForm
  let (q, e2) := parseQuery (Utf8.encode r.rawQuery)
  (post ++ q, e1.orElse fun _ => e2)

/-- The values of a multipart form body, if the request has one that reads. -/
def multipartValues (r : Request) : Values :=
  let ct := r.header "Content-Type"
  if ct.isEmpty then []
  else match MediaType.read ct with
    | .ok m =>
      if m.name != "multipart/form-data" then []
      else match m.param? "boundary" with
        | some b => (readMultipart b r.body).getD []
        | none => []
    | .error _ => []

/-- The first form value of a name as bytes, problems ignored. -/
def formValueBytes (r : Request) (name : String) : List UInt8 :=
  (r.form.1 ++ r.multipartValues).firstBytes name

/-- The first form value of a name, problems ignored. -/
def formValue (r : Request) (name : String) : String := Utf8.decode (r.formValueBytes name)

end Request

/-- A response body: bytes as sent, or a gzip stream of the given content. -/
inductive Body where
  | bytes (b : List UInt8)
  | gzip (content : List UInt8)
  deriving Inhabited

/-- A response. -/
structure Response where
  status : Nat := 200
  headers : List (String × String) := []
  body : Body := .bytes []
  deriving Inhabited

/-- Whether a byte marks content as binary rather than text. -/
def isBinaryByte (b : UInt8) : Bool :=
  b ≤ 8 || b == 11 || (14 ≤ b && b ≤ 26) || (28 ≤ b && b ≤ 31)

/-- Tags whose presence at the start of a body marks it as HTML. -/
def htmlTags : List String :=
  ["<!DOCTYPE HTML", "<HTML", "<HEAD", "<SCRIPT", "<IFRAME", "<H1", "<DIV", "<FONT", "<TABLE",
    "<A", "<STYLE", "<TITLE", "<B", "<BODY", "<BR", "<P", "<!--"]

/-- The content type read off the first bytes of a body. -/
def sniff (body : List UInt8) : String :=
  let start := body.dropWhile fun b => b == 9 || b == 10 || b == 12 || b == 13 || b == 32
  let upper := (Utf8.decode (start.take 16)).toUpper
  let isHtml := htmlTags.any fun t =>
    upper.startsWith t &&
      (match (upper.toList.drop t.length).head? with
        | some c => c == ' ' || c == '>'
        | none => false)
  if isHtml then "text/html; charset=utf-8"
  else if (body.take 512).any isBinaryByte then "application/octet-stream"
  else "text/plain; charset=utf-8"

namespace Response

/-- A header's value, if set. -/
def header? (r : Response) (name : String) : Option String :=
  (r.headers.find? fun (k, _) => k.toLower == name.toLower).map (·.2)

/-- The content type: as set, or read off the body when one was written. -/
def contentType (r : Response) : String :=
  match r.header? "Content-Type" with
  | some t => t
  | none =>
    match r.body with
    | .bytes [] => ""
    | .bytes bs => sniff bs
    | .gzip _ => "application/x-gzip"

/-- A plain-text error: the message and a line end. -/
def error (message : String) (status : Nat) : Response :=
  { status, headers := [("Content-Type", "text/plain; charset=utf-8"), ("X-Content-Type-Options", "nosniff")]
    body := .bytes (Utf8.encode (message ++ "\n")) }

/-- The standard reply for a path nothing serves. -/
def notFound : Response := error "404 page not found" 404

/-- A JSON document and a line end. -/
def json (status : Nat) (j : Json) : Response :=
  { status, headers := [("Content-Type", "application/json")]
    body := .bytes (Utf8.encode (Json.render j ++ "\n")) }

/-- A JSON error `{"error": message}`. -/
def jsonError (status : Nat) (message : String) : Response :=
  json status (.object [("error", .string message)])

/-- Text written with no content type set. -/
def text (s : String) : Response := { body := .bytes (Utf8.encode s) }

/-- Text with HTML's special characters escaped. -/
def htmlEscape (s : String) : String :=
  String.join (s.toList.map fun c =>
    if c == '<' then "&lt;" else if c == '>' then "&gt;" else if c == '&' then "&amp;"
    else if c.toNat == 39 then "&#39;" else if c == '"' then "&#34;" else String.singleton c)

/-- The reason phrase of the statuses the rig answers with. -/
def statusText : Nat → String
  | 200 => "OK"
  | 202 => "Accepted"
  | 301 => "Moved Permanently"
  | 400 => "Bad Request"
  | 403 => "Forbidden"
  | 404 => "Not Found"
  | 405 => "Method Not Allowed"
  | 409 => "Conflict"
  | 412 => "Precondition Failed"
  | 500 => "Internal Server Error"
  | 502 => "Bad Gateway"
  | 504 => "Gateway Timeout"
  | _ => ""

/-- A redirect of a request with the given method to a path-absolute location (with its
query): the location is cleaned, keeping a final slash, and a `GET` gets a short HTML
body. -/
def redirect (method location : String) (status : Nat) : Response :=
  let cs := location.toList
  let pathPart := String.ofList (cs.takeWhile (· != '?'))
  let queryPart := String.ofList (cs.dropWhile (· != '?'))
  let cleaned := Path.clean pathPart
  let cleaned := if pathPart.endsWith "/" && !cleaned.endsWith "/" then cleaned ++ "/" else cleaned
  let url := cleaned ++ queryPart
  let ct := if method == "GET" || method == "HEAD" then [("Content-Type", "text/html; charset=utf-8")] else []
  { status, headers := [("Location", url)] ++ ct
    body := .bytes (if method == "GET" then
      Utf8.encode ("<a href=\"" ++ htmlEscape url ++ "\">" ++ statusText status ++ "</a>.\n\n") else []) }

end Response

/-- The line logged for a served request: its status, colored by class, its method and
its target in cyan, and how long it took. -/
structure LogLine where
  status : Nat
  method : String
  target : String
  deriving Inhabited

/-- The escape sequence that starts a status's color: green for success, yellow for a
redirect, red for an error. -/
def statusColor (status : Nat) : String :=
  if 200 ≤ status && status < 300 then "\x1b[1;32m"
  else if 300 ≤ status && status < 400 then "\x1b[33m"
  else if 400 ≤ status then "\x1b[1;31m"
  else ""

/-- The text of a log line, given the elapsed time in milliseconds as text. -/
def LogLine.text (l : LogLine) (elapsed : String) : String :=
  let code := toString l.status
  let status := if (statusColor l.status).isEmpty then code else statusColor l.status ++ code ++ "\x1b[0m"
  "[" ++ status ++ "] " ++ l.method ++ " \x1b[36m" ++ l.target ++ "\x1b[0m " ++ elapsed ++ "ms"

end DepthRig.Http
