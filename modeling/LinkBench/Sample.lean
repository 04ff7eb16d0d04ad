import LinkBench.Container.Dol
import LinkBench.Container.Alf.Builder
import LinkBench.Path
/-!
The fixed memory image that the linker under test gets as its DOL and ALF inputs, and the names of
the files that hold it.
-/

namespace LinkBench.Sample

def entryPoint : UInt32 := 0x80000000

def sectionLength : Nat := 0x1000

/-- The start of each text section and the name that its payload begins with. -/
def textSections : List (UInt32 × String) :=
  [(0x80000000, ".text0"), (0x80001000, ".text1"), (0x81000000, ".text2"), (0x81001000, ".text3")]

def dataSections : List (UInt32 × String) :=
  [(0x80002000, ".data0"), (0x80003000, ".data1"), (0x81002000, ".data2"), (0x81003000, ".data3")]

/-- A payload of the common length that begins with a name and is zero behind it. -/
def namedPayload (name : String) : Bytes :=
  Bytes.ofString name ++ List.replicate (sectionLength - name.utf8ByteSize) 0

def namedSections (sections : List (UInt32 × String)) : Except FormatError (List Section) :=
  sections.mapM fun (address, name) => Section.stored address (namedPayload name)

def image : Except FormatError Image := do
  Image.ofSections entryPoint (← namedSections textSections) (← namedSections dataSections)
    (some (← Section.zeroed 0x80008000 0x1000))

def symbols : List Symbol :=
  [{ mangledName := Bytes.ofString "mangled1"
     demangledName := Bytes.ofString "demangled1"
     address := 0x80000000
     size := 4
     isData := false
     sectionId := 1
     extra := 0 },
   { mangledName := Bytes.ofString "mangled2"
     demangledName := Bytes.ofString "demangled2"
     address := 0x80002000
     size := 4
     isData := true
     sectionId := 5
     extra := 1 }]

/-- The bytes of the sample executable. -/
def dol : Except FormatError Bytes := do
  Dol.encode (← image)

/-- The bytes of the sample container of a version. -/
def alf (version : Alf.Version) : Except FormatError Bytes := do
  Alf.encode version (← image) symbols

/-- Where the sample containers are. -/
structure Inputs where
  dol : Path
  alf104 : Path
  alf105 : Path
  deriving DecidableEq

namespace Inputs

/-- The file names, as seen from the directory that the files are written to. -/
def relative : Inputs where
  dol := Path.ofString "sample.dol"
  alf104 := Path.ofString "sample_104.alf"
  alf105 := Path.ofString "sample_105.alf"

def alf (inputs : Inputs) : Alf.Version → Path
  | .v104 => inputs.alf104
  | .v105 => inputs.alf105

/-- The same files as seen from elsewhere. -/
def under (inputs : Inputs) (dir : Path) : Inputs where
  dol := dir.join inputs.dol
  alf104 := dir.join inputs.alf104
  alf105 := dir.join inputs.alf105

end Inputs

end LinkBench.Sample
