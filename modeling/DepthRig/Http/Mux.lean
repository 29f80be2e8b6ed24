import DepthRig.Http.Message

/-!
# Routing requests

A route names a method and a path, exactly or, ending in a slash, every path below it;
paths are compared segment by segment with their escapes decoded, and of the routes that
match, an exact path wins over a subtree and a deeper subtree over a shallower one. A
request whose path is not clean, or that names a subtree without its final slash, is
redirected; one that no route matches, or none for its method, is refused.
-/

namespace DepthRig.Http

/-- A route. -/
structure Route where
  method : Option String := none
  path : String
  deriving Inhabited

namespace Route

/-- Whether the route serves a whole subtree. -/
def isSubtree (r : Route) : Bool := r.path.endsWith "/"

/-- The segments of a path after its leading slash, each with its escapes decoded when
they are well formed. -/
def segments (p : String) : List (List UInt8) :=
  (String.ofList (p.toList.drop 1) |>.splitOn "/").map fun seg =>
    match unescapeBytes false (Utf8.encode seg) with
    | .ok bs => bs
    | .error _ => Utf8.encode seg

/-- The segments a route names: all of an exact path, or those before a subtree's final
slash. -/
def fixedSegments (r : Route) : List (List UInt8) :=
  if r.isSubtree then
    if r.path == "/" then [] else segments (String.ofList r.path.toList.dropLast)
  else segments r.path

/-- Whether the route matches a path. -/
def matchesPath (r : Route) (p : String) : Bool :=
  let ps := segments p
  let fixed := r.fixedSegments
  if r.isSubtree then fixed.length < ps.length && ps.take fixed.length == fixed
  else ps == fixed

/-- Whether the route answers a method. -/
def answers (r : Route) (m : String) : Bool :=
  match r.method with
  | none => true
  | some "GET" => m == "GET" || m == "HEAD"
  | some x => m == x

/-- How specific a route is: exact paths first, then longer subtrees. -/
def rank (r : Route) : Nat := if r.isSubtree then r.path.length else 1000000

/-- Whether a route matches a path with nothing left over: a subtree only a path that
ends right after its slash. -/
def isExactFor (r : Route) (p : String) : Bool :=
  !r.isSubtree || (p.endsWith "/" && r.fixedSegments.length + 1 == (p.toList.filter (· == '/')).length)

end Route

/-- Where a request goes. -/
inductive Dispatch (α : Type) where
  | serve (handler : α)
  | redirect (location : String)
  | notAllowed (allowed : List String)
  | notFound
  deriving Inhabited

/-- The best route for a method and path. -/
def bestRoute {α : Type} (routes : List (Route × α)) (method path : String) : Option (Route × α) :=
  let matching := routes.filter fun (r, _) => r.matchesPath path && r.answers method
  matching.foldl (fun best cand =>
    match best with
    | none => some cand
    | some b => if b.1.rank < cand.1.rank then some cand else some b) none

/-- Clean a path the way routing does: rooted, cleaned, a final slash kept. -/
def cleanPath (p : String) : String :=
  if p.isEmpty then "/"
  else
    let p := if p.startsWith "/" then p else "/" ++ p
    let np := Path.clean p
    if p.endsWith "/" && np != "/" then np ++ "/" else np

/-- The methods that some route would answer at a path, in sorted order. -/
def allowedMethods {α : Type} (routes : List (Route × α)) (path : String) : List String :=
  let ms := routes.filterMap fun (r, _) => if r.matchesPath path then r.method else none
  let ms := ms.flatMap fun m => if m == "GET" then ["GET", "HEAD"] else [m]
  (ms.foldl (fun acc m => if acc.contains m then acc else acc ++ [m]) []).mergeSort
    fun a b => decide (a ≤ b)

/-- Route a request. -/
def route {α : Type} (routes : List (Route × α)) (req : Request) : Dispatch α :=
  let escaped := req.escapedPath
  let path := cleanPath escaped
  let withQuery (p : String) := if req.rawQuery.isEmpty then p else p ++ "?" ++ req.rawQuery
  let found := bestRoute routes req.method path
  let exact := match found with
    | some (r, _) => r.isExactFor path
    | none => false
  let slashed := path ++ "/"
  let slashRoute := (bestRoute routes req.method slashed).filter fun (r, _) => r.isExactFor slashed
  if !exact && !path.endsWith "/" && slashRoute.isSome then
    .redirect (withQuery (escapePath (cleanPath req.path ++ "/")))
  else if path != escaped then .redirect (withQuery (escapePath path))
  else match found with
    | some (_, h) => .serve h
    | none =>
      let allowed := allowedMethods routes path
      if allowed.isEmpty then .notFound else .notAllowed allowed

end DepthRig.Http
