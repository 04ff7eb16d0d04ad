import LinkBench.FileSystem.Manifest
import LinkBench.Launch.Execution
/-!
The command line. The tree that a run works on is read from the standard input, one line for each
entry, and is written in the same form behind the output of the run. A run ends with status 0 or 1;
status 2 says that it was not started.
-/

open LinkBench

/-- The lines up to the end of the stream. -/
partial def readLines (stream : IO.FS.Stream) : IO (List String) := do
  let line ← stream.getLine
  if line.isEmpty then
    return []
  let text := if line.endsWith "\n" then (line.dropEnd 1).toString else line
  return text :: (← readLines stream)

/-- Runs the program on a tree and prints what it leaves. -/
def runOn (arguments : CommandLine.Arguments) (w : Workspace) : IO UInt32 := do
  let execution := Launch.execute arguments w
  for line in logLines arguments.logLevel execution.session.events do
    IO.eprintln line
  IO.eprint execution.errors
  if let .error failure := execution.result then
    IO.eprintln failure.message
  IO.print execution.output
  for line in Manifest.lines execution.session.files Host.Installation.scratch do
    IO.println line
  return UInt32.ofNat execution.exitStatus

def main (args : List String) : IO UInt32 := do
  match CommandLine.parse args with
  | .error stop =>
    if stop.isRequest then
      IO.print stop.message
      return 0
    IO.eprintln s!"error: {stop.message}"
    return 2
  | .ok arguments =>
    match Manifest.read (← readLines (← IO.getStdin)) with
    | .ok edits => runOn arguments (Host.Installation.workspace.editAll edits)
    | .error line =>
      IO.eprintln s!"error: not an entry of a tree: {line}"
      return 2
