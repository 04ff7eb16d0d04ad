import LinkBench.TestCase
import LinkBench.Proofs.FileSystem.Reach

/-!
# Settings and tools of the examples

The examples of runs differ in their trees. What else they need is named here: one toolchain, and tools
that put the same files into the tree each time, of which all that matters is where these lie
(`writing_sameOutside`).
-/

namespace LinkBench.Example

variable {z : Region} {bytes : Bytes} {outputs : List Location}

def toolchain (testsDir : Path) : Toolchain where
  testsDir := testsDir
  wrapper := none
  compiler := .ofString "cc"
  assembler := .ofString "as"
  linker := .ofString "ld"
  includeDir := .ofString "include"

def config (mode : Mode) (testsDir : Path) : Config where
  toolchain := toolchain testsDir
  staticBase := 0
  versions := .ofString "versions.txt"
  mode := mode
  keepFailed := false

/-- Tools that put a file into each of these places, and end with an exit code of zero. -/
def writing (bytes : Bytes) (outputs : List Location) : Invoker Unit := fun _ w _ =>
  ⟨.ok ⟨some 0⟩, w.applyAll (outputs.map fun l => .put l (.file bytes false)), (), []⟩

/-- Tools that put nothing anywhere. -/
def idle : Invoker Unit :=
  writing [] []

/-- Tools that cannot be started. -/
def missing : Invoker Unit := fun inv w _ =>
  ⟨.error (.spawn inv.toolName .notFound), w, (), []⟩

theorem writing_sameOutside (h : ∀ l ∈ outputs, z.holds l = true) (inv : Invocation) (w : Workspace)
    (tools : Unit) : Workspace.SameOutside z w (writing bytes outputs inv w tools).workspace :=
  Workspace.sameOutside_applyAll (List.forall_mem_map.2 h)

end LinkBench.Example
