import DepthRig.Text.Path
import DepthRig.Fault

/-!
# An in-memory file system

A file system held in memory: a set of directories (the root and `.` from the start) and
files with their bytes. Making a directory makes its missing ancestors too and cannot fail;
creating a file needs its directory to exist and replaces any file of that name. Paths are
cleaned first, and files are listed in name order. A path names a file, a directory or
nothing; nothing is *blocked* when a file stands where a directory on its way should be.
-/

namespace DepthRig

/-- Directories and files held in memory. -/
structure MemoryFs where
  dirs : List String := [".", "/"]
  files : List (String × List UInt8) := []
  deriving Inhabited, Repr

namespace MemoryFs

/-- Whether a directory exists. -/
def hasDir (fs : MemoryFs) (p : String) : Bool := fs.dirs.contains p

/-- Make a directory and its missing ancestors, walking up until one exists; `fuel`
bounds the walk. -/
def mkdirFrom (fs : MemoryFs) (p : String) : Nat → MemoryFs
  | 0 => fs
  | fuel + 1 =>
    if fs.hasDir p then fs
    else mkdirFrom { fs with dirs := p :: fs.dirs } (Path.dir p) fuel

/-- Make a directory and its missing ancestors. -/
def mkdirAll (fs : MemoryFs) (p : String) : MemoryFs :=
  let p := Path.clean p
  fs.mkdirFrom p (p.length + 2)

/-- Create (or replace) a file with its bytes; its directory must exist. -/
def create (fs : MemoryFs) (p : String) (bytes : List UInt8) : Except Fault MemoryFs :=
  let p := Path.clean p
  if fs.hasDir (Path.dir p) then
    .ok { fs with files := (fs.files.filter (·.1 != p)) ++ [(p, bytes)] }
  else .error (.ofKind .notExist ("create " ++ p ++ ": file does not exist"))

/-- The files in name order. -/
def listing (fs : MemoryFs) : List (String × List UInt8) :=
  fs.files.mergeSort fun a b => a.1 ≤ b.1

/-- A file system holding the given files, with every directory they need. -/
def ofFiles (files : List (String × List UInt8)) : MemoryFs :=
  files.foldl (fun fs (p, bytes) =>
    let fs := fs.mkdirAll (Path.dir p)
    match fs.create p bytes with
    | .ok fs' => fs'
    | .error _ => fs) {}

/-- What a path names. -/
inductive Entry where
  /-- Nothing, and nothing on the way to it is a file. -/
  | missing
  /-- Nothing, because a file stands where a directory on the way should be. -/
  | blocked
  /-- A file with these bytes. -/
  | file (bytes : List UInt8)
  | directory
  deriving BEq, Repr

/-- What a path names: a file, a directory, or nothing, blocked or not by a file on its
way. -/
def entry (fs : MemoryFs) (p : String) : Entry :=
  let p := Path.clean p
  match fs.files.find? (·.1 == p) with
  | some (_, bytes) => .file bytes
  | none =>
    if fs.hasDir p then .directory
    else if (Path.prefixes p).any fun q => fs.files.any (·.1 == q) then .blocked
    else .missing

/-- The names of the files of `fs` that `before` does not have, in name order. -/
def newSince (fs before : MemoryFs) : List String :=
  (fs.listing.map (·.1)).filter fun p => !before.files.any (·.1 == p)

end MemoryFs

end DepthRig
