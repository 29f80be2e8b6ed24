import DepthRig.Slices

/-!
# The registry's list of links

The registry keeps the live links in connection order as a slice it never writes into once
it is set: adding or removing a link builds a new array and publishes it, and `Links` hands
out the slice with its capacity cut to its length. Every call runs as a thread of atomic
steps, each removal one section under the lock and closing a link a step of its own.
-/

namespace DepthRig

/-- A thread of the registry: a link's watcher, a call to `Remove`, or the loop of `Close`. -/
inductive Registry.Task where
  /-- The watcher of link `l`: once the link is done, it removes it. -/
  | watching (l : Nat)
  /-- `Remove` of link `l`, at the lock; the thread then goes on as `next`. -/
  | removing (l : Nat) (next : Registry.Task)
  /-- `Remove` of link `l` after the removal, closing the link; then `next`. -/
  | closing (l : Nat) (next : Registry.Task)
  /-- `Close`, at element `i` of the snapshot `s` it goes through. -/
  | closeAt (s : Slice) (i : Nat)
  | returned
  deriving DecidableEq, Repr

/-- The registry, with what its clients have seen: the heap of backing arrays and the slice
that is the list, the number of links added, the links that are done, every removal with its
answer, every list published and every list `Links` handed out, every list some holder has,
and the threads. -/
structure Registry where
  heap : Heap Nat := {}
  links : Slice := .nil
  added : Nat := 0
  done : List Nat := []
  removals : List (Nat × Bool) := []
  published : List Slice := []
  handed : List Slice := []
  held : List Slice := []
  tasks : List Registry.Task := []

namespace Registry

/-- `publishLocked`: the subscribers get the list itself. -/
def publish (r : Registry) : Registry :=
  { r with published := r.published ++ [r.links], held := r.held ++ [r.links] }

/-- `Add`: the list moves to a new array one longer, with the new link last; the list is
published, and a watcher starts for the link. -/
def add (r : Registry) : Registry :=
  let l := r.added
  let (heap, next) := r.heap.make r.links.len (r.links.len + 1)
  let heap := heap.copy next r.links
  let (heap, next) := heap.append next [some l] 0
  { r with heap, links := next, added := l + 1, tasks := r.tasks ++ [Task.watching l] }.publish

/-- `remove`: if `l` is listed, the list moves to a new array holding the elements before it
and after it, and is published. The answer, whether `l` was listed, is recorded. -/
def remove (r : Registry) (l : Nat) : Registry :=
  let xs := r.heap.read r.links
  match xs.idxOf? (some l) with
  | none => { r with removals := r.removals ++ [(l, false)] }
  | some i =>
    let (heap, next) := r.heap.make 0 (r.links.len - 1)
    let (heap, next) := heap.append next (xs.take i) 0
    let (heap, next) := heap.append next (xs.drop (i + 1)) 0
    { r with heap, links := next, removals := r.removals ++ [(l, true)] }.publish

/-- `Links`: the list with its capacity cut to its length. -/
def snapshot (r : Registry) : Slice := r.links.clamp

/-- Hand the list out, as `Links` does; its holder keeps it. -/
def handOut (r : Registry) : Registry :=
  { r with handed := r.handed ++ [r.snapshot], held := r.held ++ [r.snapshot] }

/-- The thread's next step, if it can take one: the registry after it, and the thread. -/
def Task.step : Task → Registry → Option (Registry × Task)
  | .watching l, r => if l ∈ r.done then some (r.remove l, .returned) else none
  | .removing l next, r => some (r.remove l, .closing l next)
  | .closing l next, r => some ({ r with done := r.done ++ [l] }, next)
  | .closeAt s i, r =>
    match (r.heap.read s)[i]? with
    | some (some l) => some (r, .removing l (.closeAt s (i + 1)))
    | _ => some (r, .returned)
  | .returned, _ => none

/-- A call a client makes, or what happens to a link from outside. -/
inductive Call where
  /-- A sensor connects. -/
  | add
  /-- `Remove` a link. -/
  | remove (l : Nat)
  /-- A link's connection ends. -/
  | hangUp (l : Nat)
  /-- `Links`. -/
  | links
  /-- `Close` the registry. -/
  | close
  /-- The holder of list `k` appends `xs` to it; `grown` is the capacity the runtime picks
  if the append must move. -/
  | append (k : Nat) (xs : List (Option Nat)) (grown : Nat)
  deriving DecidableEq, Repr

/-- What happens next: a call, or the next step of a thread. -/
inductive Event where
  | call (c : Call)
  | advance (task : Nat)
  deriving DecidableEq, Repr

/-- Make a call. -/
def call (r : Registry) : Call → Registry
  | .add => r.add
  | .remove l =>
    if l < r.added then { r with tasks := r.tasks ++ [Task.removing l .returned] } else r
  | .hangUp l => if l < r.added then { r with done := r.done ++ [l] } else r
  | .links => r.handOut
  | .close => { r.handOut with tasks := r.tasks ++ [Task.closeAt r.snapshot 0] }
  | .append k xs grown =>
    match r.held[k]? with
    | none => r
    | some s =>
      let (heap, s') := r.heap.append s xs grown
      { r with heap, held := r.held ++ [s'] }

/-- Let thread `i` take its next step, if it can. -/
def advance (r : Registry) (i : Nat) : Registry :=
  match r.tasks[i]? with
  | none => r
  | some t =>
    match t.step r with
    | none => r
    | some (r', t') => { r' with tasks := r'.tasks.set i t' }

/-- What an event does. -/
def apply (r : Registry) : Event → Registry
  | .call c => r.call c
  | .advance i => r.advance i

/-- Run a schedule. -/
def run (r : Registry) (evs : List Event) : Registry := evs.foldl apply r

end Registry

end DepthRig
