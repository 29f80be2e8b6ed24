/-!
# Slash-separated paths

Paths are texts whose parts are separated by `/`. `clean` gives the shortest path that
names the same place by text alone: repeated slashes become one, `.` parts go, a `..`
part removes the part before it where there is one and is dropped right after the root,
and nothing left is `.`. `join` cleans the parts joined by slashes, `dir` is the cleaned
path without its last part, and `ext` the last part's suffix from its last dot.
-/

namespace DepthRig.Path

/-- Put `..` and the other parts of a path on a stack of kept parts. -/
def pushPart (rooted : Bool) (kept : List String) (part : String) : List String :=
  if part == "" || part == "." then kept
  else if part == ".." then
    match kept with
    | top :: rest => if top == ".." then ".." :: kept else rest
    | [] => if rooted then [] else [".."]
  else part :: kept

/-- The shortest path that names the same place. -/
def clean (p : String) : String :=
  if p.isEmpty then "."
  else
    let rooted := p.startsWith "/"
    let kept := ((p.splitOn "/").foldl (pushPart rooted) []).reverse
    let body := "/".intercalate kept
    if rooted then "/" ++ body
    else if body.isEmpty then "." else body

/-- Parts joined by slashes and cleaned, from the first part that is not empty; the
empty text if every part is. -/
def join (parts : List String) : String :=
  match parts.dropWhile (· == "") with
  | [] => ""
  | rest => clean ("/".intercalate rest)

/-- The text up to and including the last slash, or everything if there is none. -/
def upToLastSlash (p : String) : String :=
  String.ofList (p.toList.reverse.dropWhile (· != '/')).reverse

/-- The path without its last part. -/
def dir (p : String) : String := clean (upToLastSlash p)

/-- The last part's suffix from its last dot, with the dot; empty if it has none. -/
def ext (p : String) : String :=
  let last := (p.toList.reverse.takeWhile (· != '/'))
  match last.findIdx? (· == '.') with
  | some i => String.ofList (last.take (i + 1)).reverse
  | none => ""

/-- The ancestors of a clean path, the path itself last: `/a/b` gives `/a`, `/a/b`. -/
def prefixes (p : String) : List String :=
  let rooted := p.startsWith "/"
  let parts := (p.splitOn "/").filter (· != "")
  (List.range parts.length).map fun i =>
    (if rooted then "/" else "") ++ "/".intercalate (parts.take (i + 1))

end DepthRig.Path
