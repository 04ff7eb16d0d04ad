import LinkBench.Host.Facts
import LinkBench.Host.Console
/-!
What programs ask of entries, and of the present moment.
-/

namespace LinkBench.Host.Utility

/-- What stands at a name. -/
def entryOf (name : String) : Proc (Except IoError Entry) := do
  let w ← Proc.view
  return w.files.stat w.cwd (Proc.pathOf name)

/-- How an entry is called in questions. -/
def kindOf : Entry → String
  | .directory => "directory"
  | .file [] _ => "regular empty file"
  | .file .. => "regular file"
  | .device _ => "character special file"

/-- Seconds and nanoseconds of a moment. -/
def secondsOf (time : Int) : Int × Nat := (time / 1000000000, (time % 1000000000).toNat)

def nanosecondsOf (m : Int × Nat) : Int := m.1 * 1000000000 + Int.ofNat m.2

/-- What is known of what stands at a name. -/
def factsOf (name : String) : Proc (Except IoError Facts) := do
  return Facts.ofPath (← Proc.view) (Proc.pathOf name)

end LinkBench.Host.Utility
