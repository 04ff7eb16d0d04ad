import LinkBench.Session
/-!
A stand-in for the external tools that follows a script. It counts its calls from zero, writes the
declared outputs of each, and can be told to fail, to leave outputs out or to make other changes.
-/

namespace LinkBench

structure Scripted where
  /-- Calls that end in an error and do nothing else. -/
  failures : List (Nat × ToolError)
  /-- File names of outputs that are not written. -/
  skipped : List String
  /-- File names of outputs that become directories. -/
  directories : List String
  /-- Further changes after the outputs of a call. -/
  edits : List (Nat × List Edit)
  /-- A text that the contents of every output begin with. -/
  salt : String
  completion : Completion

namespace Scripted

/-- What an output of an invocation holds. -/
def contents (script : Scripted) (inv : Invocation) (fileName : String) : Bytes :=
  .ofString s!"{script.salt}:{fileName}:{inv.args.length}"

/-- Writes one output; where that is not possible, nothing happens. -/
def writeOutput (script : Scripted) (inv : Invocation) (w : Workspace) (output : Path) :
    Workspace :=
  let fileName := output.fileName?.getD ""
  let path := inv.outputPath output
  if fileName ∈ script.skipped then
    w
  else if fileName ∈ script.directories then
    w.trying fun files cwd => files.createDir cwd path
  else
    w.trying fun files cwd => files.writeFile cwd path (script.contents inv fileName)

/-- Follows the script; the state is the number of calls so far. -/
def invoker (script : Scripted) : Invoker Nat := fun inv w call =>
  match script.failures.lookup call with
  | some e => { result := .error e, workspace := w, tools := call + 1, events := [] }
  | none =>
    let written := inv.outputs.foldl (script.writeOutput inv) w
    { result := .ok script.completion
      workspace := written.editAll ((script.edits.lookup call).getD [])
      tools := call + 1
      events := [] }

end Scripted

end LinkBench
