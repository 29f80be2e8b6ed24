import DepthRig.Storage.MemoryFs
import DepthRig.Text.Utf8

/-!
# Runs of a program

A run prints to its standard output, logs to its standard error or a log file made with its
directories on the first line, and either exits with a status or serves until a termination
signal, on which it logs its closing lines and exits with success.
-/

namespace DepthRig.Launch

/-- How a run stands once it has done what it can by itself. -/
inductive Ending where
  /-- It has exited with this status. -/
  | exited (code : Int)
  /-- It serves until a termination signal; it then logs these lines and exits with
  success. -/
  | serving (closing : List String)
  deriving BEq, Repr, Inhabited

/-- A run of a program. -/
structure Run where
  /-- Lines printed to standard output. -/
  out : List String := []
  /-- Lines logged, in order. -/
  log : List String := []
  /-- The log file, or none when the log goes to standard error. -/
  logFile : Option String := none
  /-- The working directory's files, the log file apart. -/
  files : MemoryFs := {}
  ending : Ending := .exited 0
  deriving Inhabited

namespace Run

/-- Log a line. -/
def note (r : Run) (line : String) : Run := { r with log := r.log ++ [line] }

/-- Exit with a status. -/
def exit (r : Run) (code : Int) : Run := { r with ending := .exited code }

/-- Deliver a termination signal: a serving run logs its closing lines and exits with
success; a run that has exited stays as it is. -/
def stop (r : Run) : Run :=
  match r.ending with
  | .serving closing => { r with log := r.log ++ closing, ending := .exited 0 }
  | .exited _ => r

/-- Whether the run has exited. -/
def hasExited (r : Run) : Bool :=
  match r.ending with
  | .exited _ => true
  | .serving _ => false

/-- The exit status; a serving run has none yet. -/
def exitCode? (r : Run) : Option Int :=
  match r.ending with
  | .exited c => some c
  | .serving _ => none

/-- The lines on standard error. -/
def errLines (r : Run) : List String :=
  if r.logFile.isNone then r.log else []

/-- Whether `text` occurs in `line`; the empty text occurs everywhere. -/
def occursIn (text line : String) : Bool :=
  text.isEmpty || 1 < (line.splitOn text).length

/-- Deliver a termination signal once standard error shows `text`: the run after the
signal, or none when standard error never shows it. -/
def stopOnceShown (r : Run) (text : String) : Option Run :=
  if r.errLines.any (occursIn text) then some r.stop else none

/-- Whether the log file can be made: nothing on its way is a file, and it is not a
directory. -/
def logFileWritable (fs : MemoryFs) (p : String) : Bool :=
  match fs.entry (Path.dir p), fs.entry p with
  | .blocked, _ | .file _, _ => false
  | _, .directory | _, .blocked => false
  | _, _ => true

/-- The lines of the log file after the run: what it held before, then the lines logged;
none when there is no log file. -/
def fileLines (r : Run) : Option (List String) :=
  r.logFile.bind fun p =>
    if r.log.isEmpty || !logFileWritable r.files p then none
    else
      let before := match r.files.entry p with
        | .file bytes => (Utf8.decode bytes).splitOn "\n" |>.filter (!·.isEmpty)
        | _ => []
      some (before ++ r.log)

/-- The working directory after the run, with the log file. -/
def workspace (r : Run) : MemoryFs :=
  match r.logFile, r.fileLines with
  | some p, some lines =>
    let fs := r.files.mkdirAll (Path.dir p)
    match fs.create p (Utf8.encode (String.join (lines.map (· ++ "\n")))) with
    | .ok fs' => fs'
    | .error _ => r.files
  | _, _ => r.files

end Run

end DepthRig.Launch
