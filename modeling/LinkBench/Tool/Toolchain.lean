import LinkBench.Tool.Invocation
import LinkBench.Sample
/-!
The compiler, the assembler and the linker: where they are and what they are called with. A case
is compiled source by source, linked twice at a fixed address, once for each container version
that the linker takes, and linked once as a relocatable module.
-/

namespace LinkBench

/-- The locations of the tools. Relative ones are seen from the tests directory, which each tool
runs in. -/
structure Toolchain where
  testsDir : Path
  /-- The program that launches the compiler and the assembler, if they need one. -/
  wrapper : Option Path
  compiler : Path
  assembler : Path
  linker : Path
  includeDir : Path
  deriving DecidableEq

namespace Toolchain

/-- The compiler and the assembler lie in one directory under fixed names. -/
def ofDirectories (testsDir compilerDir includeDir linker : Path) (wrapper : Option Path) :
    Toolchain where
  testsDir := testsDir
  wrapper := wrapper
  compiler := compilerDir.join (.ofString "mwcceppc.exe")
  assembler := compilerDir.join (.ofString "mwasmeppc.exe")
  linker := linker
  includeDir := includeDir

def assemblerFlags (t : Toolchain) : List String :=
  ["-I-", "-i", t.includeDir.text]

def compilerFlags (t : Toolchain) : List String :=
  t.assemblerFlags ++
    ["-Cpp_exceptions", "off", "-enum", "int", "-Os", "-use_lmw_stmw", "on", "-fp", "hard",
      "-rostr", "-sdata", "0", "-sdata2", "0"]

/-- Runs `tool`, through the wrapper if there is one, on a source that becomes one object. -/
def compileWith (t : Toolchain) (tool : Path) (flags : List String) (source object : Path) :
    Invocation :=
  let args := flags ++ ["-c", "-o", object.text, source.text]
  { program := t.wrapper.getD tool
    args := match t.wrapper with
      | some _ => tool.text :: args
      | none => args
    currentDir := t.testsDir
    outputs := [object]
    requireOutputs := true }

def compile (t : Toolchain) (source object : Path) : Invocation :=
  t.compileWith t.compiler t.compilerFlags source object

def assemble (t : Toolchain) (source object : Path) : Invocation :=
  t.compileWith t.assembler t.assemblerFlags source object

/-- Runs the linker on all objects. What it does not write is no failure here. -/
def link (t : Toolchain) (args : List String) (objects outputs : List Path) : Invocation where
  program := t.linker
  args := args ++ objects.map (·.text)
  currentDir := t.testsDir
  outputs := outputs
  requireOutputs := false

/-- An option of the linker that takes a path. -/
def pathFlag (name : String) (p : Path) : String :=
  name ++ "=" ++ p.text

/-- The outputs of a link at a fixed address that every case has, with their options. -/
def staticOutputs : List (String × String) :=
  [("-output-riiv", "output-riiv.xml"), ("-output-dolphin", "output-dolphin.ini"),
    ("-output-gecko", "output-gecko.txt"), ("-output-ar", "output-ar.txt"),
    ("-output-code", "output-code.bin"), ("-output-map", "output-map-static.map")]

def staticFlags (base : UInt32) (externals : Path) : List String :=
  ["-q", "-static=0x" ++ Numeral.hexDigits8 base.toNat, pathFlag "-externals" externals]

/-- The link at a fixed address that writes all outputs and patches the DOL and the older ALF. -/
def primaryStaticLink (t : Toolchain) (objects : List Path) (base : UInt32) (externals : Path)
    (samples : Sample.Inputs) (outDir : Path) : Invocation :=
  let outputs := staticOutputs.map fun (option, file) => (option, outDir.join (.ofString file))
  let dol := outDir.join (.ofString "output-dol.dol")
  let alf := outDir.join (.ofString "output-alf_104.alf")
  t.link
    (staticFlags base externals ++ outputs.map (fun (option, path) => pathFlag option path) ++
      [pathFlag "-input-dol" samples.dol, pathFlag "-output-dol" dol,
        pathFlag "-input-alf" samples.alf104, pathFlag "-output-alf" alf])
    objects (outputs.map (·.2) ++ [dol, alf])

/-- The link at a fixed address that patches the newer ALF: the linker takes one ALF at a time. -/
def secondaryStaticLink (t : Toolchain) (objects : List Path) (base : UInt32) (externals : Path)
    (samples : Sample.Inputs) (outDir : Path) : Invocation :=
  let alf := outDir.join (.ofString "output-alf_105.alf")
  t.link
    (staticFlags base externals ++
      [pathFlag "-input-alf" samples.alf105, pathFlag "-output-alf" alf])
    objects [alf]

def staticLinks (t : Toolchain) (objects : List Path) (base : UInt32) (externals : Path)
    (samples : Sample.Inputs) (outDir : Path) : List Invocation :=
  [t.primaryStaticLink objects base externals samples outDir,
    t.secondaryStaticLink objects base externals samples outDir]

/-- The link of a relocatable module. The linker fills the version into the name of each module it
writes, so only the map is a known output. -/
def dynamicLink (t : Toolchain) (objects : List Path) (externals versions outDir : Path) :
    Invocation :=
  let map := outDir.join (.ofString "output-map-dynamic.map")
  t.link
    ["-q", "-dynamic", pathFlag "-externals" externals, pathFlag "-versions" versions,
      pathFlag "-output-kamek" (outDir.join (.ofString "output-kamek.$KV$.bin")),
      pathFlag "-output-map" map]
    objects [map]

end Toolchain

end LinkBench
