import LinkBench.Failure
import LinkBench.Tool.Run
import LinkBench.Tool.Toolchain
/-!
One test case: a directory of sources next to the accepted outputs. Running it means compiling
every source, linking the objects in three ways and judging what the linker has written. Fresh
objects and outputs are kept in scratch directories that start out empty.
-/

namespace LinkBench

/-- A case directory, as seen from the tests directory. -/
structure TestCase where
  dir : Path
  deriving DecidableEq

namespace TestCase

def name (c : TestCase) : String := c.dir.text

/-- Where the objects go. -/
def binDir (c : TestCase) : Path := c.dir.join (.ofString "_bin")

/-- Where the linker's outputs go. -/
def outDir (c : TestCase) : Path := c.dir.join (.ofString "_out")

/-- Where the accepted outputs are. -/
def expectedDir (c : TestCase) : Path := c.dir.join (.ofString "expected")

/-- The addresses that the sources refer to by name. -/
def externals (c : TestCase) : Path := c.dir.join (.ofString "externals.txt")

end TestCase

/-- What is done with the outputs of a case. -/
inductive Mode
  | verify
  | bless
  deriving DecidableEq, Repr

structure Config where
  toolchain : Toolchain
  staticBase : UInt32
  /-- The description of the versions that a relocatable module is made for. -/
  versions : Path
  mode : Mode
  /-- Whether the scratch directories of a failed case stay. -/
  keepFailed : Bool
  deriving DecidableEq

def Config.testsDir (config : Config) : Path :=
  config.toolchain.testsDir

inductive Outcome
  | verified (files : Nat)
  | blessed
  deriving DecidableEq, Repr

/-! ### Sources -/

inductive Language
  | cpp
  | assembly
  deriving DecidableEq, Repr

def Language.extension : Language → String
  | .cpp => "cpp"
  | .assembly => "S"

/-- The tool that compiles a source of the language. -/
def Toolchain.build (t : Toolchain) : Language → Path → Path → Invocation
  | .cpp => t.compile
  | .assembly => t.assemble

/-- A source file of a case. -/
structure Source where
  name : FileName
  /-- The file name without its extension. -/
  stem : String
  deriving DecidableEq

namespace Source

/-- A regular file is a source if it has the extension of the language. -/
def ofEntry? (language : Language) (entry : FileName × Entry) : Option Source :=
  match entry.2, entry.1.splitExtension? with
  | .file .., some (stem, extension) =>
    if extension = language.extension then some ⟨entry.1, stem⟩ else none
  | _, _ => none

/-- The object has the extension `o`. A stem that is a single dot cannot take an extension: it stays
with the dot that followed it. -/
def objectName (s : Source) : String :=
  if s.stem = "." then ".." else s.stem ++ ".o"

def path (s : Source) (c : TestCase) : Path :=
  c.dir.join (.ofName s.name)

def objectPath (s : Source) (c : TestCase) : Path :=
  c.binDir.join (.ofString s.objectName)

end Source

namespace TestCase

variable {σ : Type}

/-- The sources of one language in name order. -/
def sources (c : TestCase) (config : Config) (language : Language) :
    Action σ Failure (List Source) := do
  let dir := config.testsDir.join c.dir
  let entries ← (Action.reading fun files cwd => files.listDirectory cwd dir).mapError
    (Failure.ofIo (.read dir))
  return entries.filterMap (Source.ofEntry? language)

/-- An object and the source that it is made from. -/
structure Compiled where
  object : Path
  source : Path
  deriving DecidableEq

/-- Compiles sources one after the other. `done` are the ones before them; none of their objects may
be written twice. -/
def compileEach (c : TestCase) (config : Config) (invoker : Invoker σ) (language : Language) :
    List Compiled → List Source → Action σ Failure (List Compiled)
  | done, [] => pure done
  | done, s :: rest => do
    let next : Compiled := ⟨s.objectPath c, s.path c⟩
    match done.find? (·.object = next.object) with
    | some first => Action.fail (.ofCause (.objectNameClash first.source next.source next.object))
    | none =>
      (runTool invoker (config.toolchain.build language next.source next.object)).mapError
        Failure.ofTool
      compileEach c config invoker language (done ++ [next]) rest

/-- Compiles the C++ sources, then the assembly sources, and yields the objects. -/
def compileSources (c : TestCase) (config : Config) (invoker : Invoker σ) :
    Action σ Failure (List Path) := do
  let cpp ← compileEach c config invoker .cpp [] (← c.sources config .cpp)
  let all ← compileEach c config invoker .assembly cpp (← c.sources config .assembly)
  return all.map (·.object)

/-! ### Scratch directories -/

/-- The scratch directories of a case, as seen from the working directory. -/
def scratch (c : TestCase) (config : Config) : List Path :=
  [config.testsDir.join c.binDir, config.testsDir.join c.outDir]

/-- Makes a scratch directory anew. -/
def renew (dir : Path) : Action σ Failure Unit := do
  (Action.altering fun files cwd => Golden.removeIfPresent files cwd dir).mapError
    (Failure.ofIo (.remove dir))
  (Action.altering fun files cwd => files.createDirAll cwd dir).mapError
    (Failure.ofIo (.create dir))

/-- Removes a scratch directory; what stands in the way is only reported. -/
def discard (s : Session σ) (dir : Path) : Session σ :=
  match Golden.removeIfPresent s.files s.cwd dir with
  | (.ok (), changes) => s.change changes
  | (.error e, changes) => (s.change changes).report (.cleanUpFailed e dir)

/-- Removes the scratch directories of a failed case, unless they are to be kept. -/
def cleanUp (c : TestCase) (config : Config) (s : Session σ) : Session σ :=
  if config.keepFailed then s else (c.scratch config).foldl discard s

/-! ### Running a case -/

/-- Runs the linker three times. -/
def linkAll (c : TestCase) (config : Config) (samples : Sample.Inputs) (invoker : Invoker σ)
    (objects : List Path) : Action σ ToolError Unit := do
  (config.toolchain.staticLinks objects config.staticBase c.externals samples c.outDir).forM
    (runTool invoker)
  runTool invoker (config.toolchain.dynamicLink objects c.externals config.versions c.outDir)

/-- Accepts the outputs or compares them with the accepted ones. -/
def judge (c : TestCase) (config : Config) : Action σ Failure Outcome := do
  let outDir := config.testsDir.join c.outDir
  let expectedDir := config.testsDir.join c.expectedDir
  match config.mode with
  | .bless =>
    (Golden.bless outDir expectedDir).mapError Failure.ofGolden
    return .blessed
  | .verify =>
    let files ← (Golden.verify expectedDir outDir).mapError Failure.ofGolden
    Action.report (.outputsMatch c.name files)
    return .verified files

/-- What happens between clean scratch directories and the outcome. -/
def build (c : TestCase) (config : Config) (samples : Sample.Inputs) (invoker : Invoker σ) :
    Action σ Failure Outcome := do
  let objects ← c.compileSources config invoker
  Action.report (.caseCompiled c.name objects.length)
  (c.linkAll config samples invoker objects).mapError Failure.ofTool
  Action.report (.caseLinked c.name)
  c.judge config

/-- Runs a case. A case that fails after its scratch directories were made removes them again. -/
def run (c : TestCase) (config : Config) (samples : Sample.Inputs) (invoker : Invoker σ) :
    Action σ Failure Outcome := do
  Action.report (.caseRunning c.name)
  (c.scratch config).forM renew
  (c.build config samples invoker).onFailure (c.cleanUp config)

end TestCase

end LinkBench
