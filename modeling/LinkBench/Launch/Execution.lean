import LinkBench.Host.System
import LinkBench.Suite
/-!
The whole program on a tree of files: what a command line makes of the tree, and what is written to
the standard output and the standard error on the way.
-/

namespace LinkBench.Launch

structure Execution where
  result : Except Failure Suite.Summary
  session : Session Streams

/-- Runs what the arguments ask for, with programs started on a system. -/
def System.execute (system : System Streams) (a : CommandLine.Arguments) (w : Workspace) : Execution :=
  let (result, session) :=
    Suite.run a.config a.samplesOnly (system.invoker (.ofArguments a)) (.start w .empty)
  ⟨result, session⟩

namespace Execution

def exitStatus (x : Execution) : Nat :=
  match x.result with
  | .ok _ => 0
  | .error _ => 1

/-- The line at the end of a run that has succeeded. -/
def closing (x : Execution) : String :=
  match x.result.toOption.bind Suite.Summary.line? with
  | some line => line ++ "\n"
  | none => ""

/-- All that is written to the standard output. -/
def output (x : Execution) : String :=
  x.session.tools.output.toText ++ x.closing

/-- What the tools write to the standard error. -/
def errors (x : Execution) : String :=
  x.session.tools.errors.toText

end Execution

/-! ### The system at hand -/

def invoker (settings : Settings) : Invoker Streams :=
  Host.system.invoker settings

def execute (a : CommandLine.Arguments) (w : Workspace) : Execution :=
  Host.system.execute a w

end LinkBench.Launch
