import LinkBench.TestCase
/-!
All cases of a tests directory. Cases run in name order, and the first that fails ends the run.
-/

namespace LinkBench.Suite

variable {σ : Type}

/-- The case directories directly under the tests directory, in name order; hidden ones are none. -/
def discover (testsDir : Path) : Action σ Failure (List TestCase) := do
  let entries ← (Action.reading fun files cwd => files.listDirectory cwd testsDir).mapError
    (Failure.ofIo (.read testsDir))
  let dirs := entries.filter fun x => !x.1.isHidden && x.2.isDirectory
  return dirs.map fun x => ⟨.ofName x.1⟩

/-- Runs cases one after the other up to the first that fails. -/
def runCases (config : Config) (samples : Sample.Inputs) (invoker : Invoker σ) :
    List TestCase → Action σ Failure (List (TestCase × Outcome))
  | [] => pure []
  | c :: rest => do
    let outcome ← (c.run config samples invoker).mapError (.during (.testCase c.name))
    let others ← runCases config samples invoker rest
    return (c, outcome) :: others

/-- Runs all cases. The sample containers are expected in the tests directory. -/
def runAll (config : Config) (invoker : Invoker σ) :
    Action σ Failure (List (TestCase × Outcome)) := do
  let cases ← discover config.testsDir
  if cases.isEmpty then
    Action.report (.noTestCases config.testsDir)
  runCases config .relative invoker cases

/-- Writes one sample container. -/
def writeSample (path : Path) (bytes : Except FormatError Bytes) (event : Event) :
    Action σ Failure Unit := do
  match bytes with
  | .error e => Action.fail (.ofFormat e)
  | .ok bytes =>
    (Action.changing fun files cwd => files.writeFile cwd path bytes).mapError
      (Failure.ofIo (.write path))
    Action.report event

/-- Writes the sample containers into a directory: the DOL, then the ALF of each version. -/
def writeSamples (dir : Path) : Action σ Failure Sample.Inputs := do
  let inputs := Sample.Inputs.relative.under dir
  writeSample inputs.dol Sample.dol (.wroteDol inputs.dol)
  Alf.Version.all.forM fun version =>
    writeSample (inputs.alf version) (Sample.alf version) (.wroteAlf (inputs.alf version) version)
  return inputs

/-- What a whole run has come to. -/
inductive Summary
  | samplesWritten
  | blessed (cases : Nat)
  | passed
  deriving DecidableEq, Repr

/-- The line that is printed at the end. -/
def Summary.line? : Summary → Option String
  | .samplesWritten => none
  | .blessed cases => some s!"Blessed {cases} test case(s)"
  | .passed => some "All tests passed successfully"

/-- Writes the sample containers and, unless only these are wanted, runs all cases. -/
def run (config : Config) (samplesOnly : Bool) (invoker : Invoker σ) :
    Action σ Failure Summary := do
  if ← Action.ask fun files cwd => files.isDirectory cwd config.testsDir then
    let samples ← writeSamples config.testsDir
    Action.report (.wroteSamples samples.dol)
    if samplesOnly then
      return .samplesWritten
    let outcomes ← runAll config invoker
    match config.mode with
    | .bless => return .blessed outcomes.length
    | .verify => return .passed
  else
    Action.fail (.ofCause (.testsDirNotFound config.testsDir))

end LinkBench.Suite
