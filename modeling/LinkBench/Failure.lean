import LinkBench.Golden
/-!
Why a run has failed: a cause, and what was being done when it arose.
-/

namespace LinkBench

inductive Cause
  | format (e : FormatError)
  | tool (e : ToolError)
  | golden (e : GoldenError)
  /-- Two sources of a case would be compiled to the same object. -/
  | objectNameClash (first second object : Path)
  | io (e : IoError)
  | testsDirNotFound (dir : Path)
  deriving DecidableEq

/-- The texts of a cause and of the reasons behind it. -/
def Cause.chain : Cause → List String
  | .format e => [e.message]
  | .tool e => e.message :: (e.reason?.map (·.message)).toList
  | .golden e => e.message :: (e.reason?.map (·.message)).toList
  | .objectNameClash first second object =>
    [s!"{first.text} and {second.text} would both compile to {object.text}"]
  | .io e => [e.message]
  | .testsDirNotFound dir => [s!"tests directory not found: {dir.text}"]

/-- What was being done. -/
inductive Task
  | read (path : Path)
  | write (path : Path)
  | remove (path : Path)
  | create (path : Path)
  | testCase (name : String)
  deriving DecidableEq

def Task.message : Task → String
  | .read path => s!"failed to read {path.text}"
  | .write path => s!"failed to write {path.text}"
  | .remove path => s!"failed to remove {path.text}"
  | .create path => s!"failed to create {path.text}"
  | .testCase name => s!"test case {name} failed"

structure Failure where
  /-- The outermost task first. -/
  tasks : List Task
  cause : Cause
  deriving DecidableEq

namespace Failure

def ofCause (cause : Cause) : Failure := ⟨[], cause⟩

def ofFormat (e : FormatError) : Failure := ofCause (.format e)

def ofTool (e : ToolError) : Failure := ofCause (.tool e)

def ofGolden (e : GoldenError) : Failure := ofCause (.golden e)

/-- A system error that arose during a task. -/
def ofIo (task : Task) (e : IoError) : Failure := ⟨[task], .io e⟩

/-- The same failure as part of a larger task. -/
def during (task : Task) (f : Failure) : Failure :=
  { f with tasks := task :: f.tasks }

/-- The text of each task and reason, outermost first. -/
def chain (f : Failure) : List String :=
  f.tasks.map (·.message) ++ f.cause.chain

def message (f : Failure) : String :=
  String.intercalate ": " f.chain

end Failure

end LinkBench
