import LinkBench.Duration
import LinkBench.FileSystem.Operations
import LinkBench.Termination
/-!
One run of an external tool, and how it can end.
-/

namespace LinkBench

/-- A program, its arguments and the files that it should leave behind. -/
structure Invocation where
  program : Path
  args : List String
  /-- Relative paths among the arguments and outputs are seen from here. -/
  currentDir : Path
  outputs : List Path
  /-- Whether an output that was not written is a failure. -/
  requireOutputs : Bool
  deriving DecidableEq

namespace Invocation

/-- The tool that does the work. A program of the name `wine` only launches its first argument. -/
def toolName (inv : Invocation) : String :=
  match inv.args with
  | first :: _ => if inv.program.fileName? = some "wine" then first else inv.program.text
  | [] => inv.program.text

/-- The command line, for people to read. -/
def display (inv : Invocation) : String :=
  String.intercalate " " (inv.program.text :: inv.args)

/-- The place where an output is looked for. -/
def outputPath (inv : Invocation) (output : Path) : Path :=
  inv.currentDir.join output

end Invocation

/-- How a tool that ran to its end has ended. -/
structure Completion where
  /-- Absent if a signal ended the tool. -/
  exitCode : Option Int
  deriving DecidableEq, Repr

def Completion.label (c : Completion) : String :=
  match c.exitCode with
  | some code => s!"exit code {code}"
  | none => "terminated by signal"

/-- What an invoker tells of how a process has ended. -/
def Termination.completion : Termination → Completion
  | .exited code => ⟨some code⟩
  | .signalled _ => ⟨none⟩

inductive ToolError
  | spawn (program : String) (reason : IoError)
  | wait (program : String) (reason : IoError)
  | timedOut (program : String) (timeout : Duration)
  | missingOutput (tool : String) (output : Path) (completion : Completion)
  deriving DecidableEq

namespace ToolError

def message : ToolError → String
  | .spawn program reason => s!"failed to start {program}: {reason.message}"
  | .wait program reason => s!"failed while waiting for {program}: {reason.message}"
  | .timedOut program timeout => s!"{program} did not finish within {timeout.text}"
  | .missingOutput tool output completion =>
    s!"{tool} failed to produce {output.text} ({completion.label})"

/-- The reason that lies behind the error, if it comes from the system. -/
def reason? : ToolError → Option IoError
  | .spawn _ reason => some reason
  | .wait _ reason => some reason
  | _ => none

end ToolError

end LinkBench
