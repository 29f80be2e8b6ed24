import DepthRig.Launch.Server

/-!
# The capture server's command line

The command reads its options, takes a snapshot of the files they name (the configuration,
the session store and the log file) and runs the start-up against it, printing what the
server prints to its standard output and standard error and writing its log file. A
server that comes up serves until its standard input closes, which stands for the
termination signal, and then shuts down. The exit status is the run's.
-/

namespace DepthRig.CommandLine

open Launch

/-- The bytes of a readable file. -/
def readable (p : String) : IO (Option (List UInt8)) := do
  try
    let bytes ← IO.FS.readBinFile p
    return some bytes.toList
  catch _ =>
    return none

/-- The files a run with these settings looks at, with the directories they stand in. -/
def snapshot (s : ServerSettings) : IO MemoryFs := do
  let paths := [s.configPath, s.storePath, s.logPath].filter (!·.isEmpty)
  let mut files : List (String × List UInt8) := []
  for p in paths do
    if let some bytes ← readable p then
      files := files ++ [(p, bytes)]
  return paths.foldl (fun fs p => fs.mkdirAll (Path.dir p)) (MemoryFs.ofFiles files)

/-- Read standard input until it closes. -/
partial def awaitClose (stdin : IO.FS.Stream) : IO Unit := do
  let line ← stdin.getLine
  if !line.isEmpty then awaitClose stdin

/-- Print the lines of a run not printed yet: standard output from its `outDone`-th line,
then standard error from its `errDone`-th. -/
def printFrom (r : Run) (outDone errDone : Nat) : IO Unit := do
  for l in r.out.drop outDone do IO.println l
  for l in r.errLines.drop errDone do IO.eprintln l

/-- Write the run's log file, if it has one. -/
def writeLog (r : Run) : IO Unit := do
  match r.logFile, r.fileLines with
  | some p, some lines => IO.FS.writeFile p (String.join (lines.map (· ++ "\n")))
  | _, _ => pure ()

end DepthRig.CommandLine

section

open DepthRig DepthRig.Launch DepthRig.CommandLine

/-- Run the capture server's start-up with the command's arguments. -/
def main (args : List String) : IO UInt32 := do
  let settings := match readOptions serverOptions {} args with
    | .ok (s, _) => s
    | .error _ => {}
  let run := launchServer {} args (← snapshot settings)
  printFrom run 0 0
  let final ← if run.hasExited then pure run
    else do
      awaitClose (← IO.getStdin)
      pure run.stop
  printFrom final run.out.length run.errLines.length
  writeLog final
  return (final.exitCode?.getD 0).toNat.toUInt32

end
