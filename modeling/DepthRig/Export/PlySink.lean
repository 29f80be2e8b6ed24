import DepthRig.Export.Ply
import DepthRig.Storage.MemoryFs
import DepthRig.Compression.Zstd

/-!
# Writing takes as PLY files

A PLY sink writes each take into its own directory below a root, one file per frame.
Beginning a take makes the directory `root/<take>` (with the take's safe name) and makes
it the current one; a frame is written there as `<index>[_<device>].ply`, compressed and
named `.ply.zst` when the sink compresses. Writing a frame before any take has begun is
refused.
-/

namespace DepthRig

/-- A PLY sink over an in-memory file system. -/
structure PlySink where
  root : String
  compress : Bool
  /-- Whether beginning a take makes its directory. -/
  makesDirs : Bool := true
  /-- The current take's directory. -/
  dir : String := ""
  fs : MemoryFs := {}
  deriving Inhabited

namespace PlySink

/-- A sink writing below `root` (cleaned). -/
def create (fs : MemoryFs) (root : String) (compress : Bool) : PlySink :=
  { root := Path.clean root, compress, fs }

/-- The fault of writing before a take has begun. -/
def noTake : Fault := .ofKind .noTake "no take started"

/-- Begin a take: make its directory and write there from now on. -/
def beginTake (s : PlySink) (take : List UInt8) : PlySink :=
  let dir := Path.join [s.root, Ply.sanitize take]
  { s with dir, fs := if s.makesDirs then s.fs.mkdirAll dir else s.fs }

/-- Write frame `index` of `device` (empty for a merged frame) into the current take. -/
def writeFrame (s : PlySink) (index : Int) (device : List UInt8) (f : Frame) : Except Fault PlySink :=
  if s.dir.isEmpty then .error noTake
  else
    let path := Path.join [s.dir, Ply.frameFileName index device s.compress]
    let plain := Ply.encode f
    let bytes := if s.compress then (Compression.compress (ByteArray.mk plain.toArray)).toList else plain
    return { s with fs := ← s.fs.create path bytes }

/-- One thing asked of a sink. -/
inductive Step where
  | beginTake (take : List UInt8)
  | writeFrame (index : Int) (device : List UInt8) (f : Frame)
  deriving Inhabited

/-- Do one step: the sink after it, and its fault. -/
def step (s : PlySink) : Step → PlySink × Option Fault
  | .beginTake take => (s.beginTake take, none)
  | .writeFrame index device f =>
    match s.writeFrame index device f with
    | .ok s' => (s', none)
    | .error e => (s, some e)

/-- Do steps in order: each one's fault, and the sink after them all. -/
def run (s : PlySink) : List Step → List (Option Fault) × PlySink
  | [] => ([], s)
  | st :: rest =>
    let (s', e) := s.step st
    let (es, s'') := s'.run rest
    (e :: es, s'')

/-- The files written, in name order, with compressed files decompressed. -/
def contents (s : PlySink) : List (String × List UInt8) :=
  s.fs.listing.map fun (name, bytes) =>
    if name.endsWith ".zst" then
      match Compression.decompress (ByteArray.mk bytes.toArray) with
      | .ok out => (name, out.toList)
      | .error _ => (name, bytes)
    else (name, bytes)

end PlySink

end DepthRig
