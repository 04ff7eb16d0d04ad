import LinkBench.ByteText
import LinkBench.FileSystem.Operations
/-!
What would run if a file were executed. A file that begins with a mark is a program of the machine. Any
other file that can be executed is a script: its first line names the program that reads it, which may
be a script itself.
-/

namespace LinkBench.Launch.Executable

/-- What the file of a program begins with. -/
def mark : Bytes := [0x7f, 0x45, 0x4c, 0x46]

def isProgram (bytes : Bytes) : Bool := mark.isPrefixOf bytes

/-! ### The first line of a script -/

/-- How much of a file is looked at. -/
def headLength : Nat := 256

def isBlank (b : UInt8) : Bool := b == 0x20 || b == 0x09

/-- A blank ends a name, and so does the NUL behind the last byte. -/
def isTerminator (b : UInt8) : Bool := isBlank b || b == 0

def withoutBlanksAtEnd (line : Bytes) : Bytes :=
  (line.reverse.dropWhile isBlank).reverse

/-- The first line behind its mark, without the blanks at its end. Where the line does not end within
the part that is looked at, there must be the end of a name in it. -/
def firstLine? (head : Bytes) : Option Bytes :=
  let line := head.takeWhile fun b => b != 0x0a && b != 0
  if (head.drop line.length).head? = some 0x0a then
    some (withoutBlanksAtEnd line)
  else if (head.dropWhile isBlank).any isTerminator then
    some (withoutBlanksAtEnd head.dropLast)
  else
    none

/-- Whether a file names an interpreter without a name, in a line that has no end. -/
def namesNothing (bytes : Bytes) : Bool :=
  match bytes with
  | 0x23 :: 0x21 :: rest => rest.length + 2 < headLength && rest.all isBlank
  | _ => false

/-- The name of the interpreter and its option, behind the mark `#!`. -/
def interpreter? (bytes : Bytes) : Option (String × Option String) := do
  match bytes.take headLength with
  | 0x23 :: 0x21 :: rest =>
    let head := rest ++ List.replicate (headLength - 2 - rest.length) 0
    let line := (← firstLine? head).dropWhile isBlank
    let name := line.takeWhile fun b => !isTerminator b
    if name = [] then
      failure
    let behind := line.drop name.length
    let option := if behind.head?.any isBlank then
        (behind.dropWhile isBlank).takeWhile (· != 0)
      else []
    return (ByteText.ofBytes name, if option = [] then none else some (ByteText.ofBytes option))
  | _ => failure

/-! ### Loading -/

/-- The bytes of a program to run, and its arguments, the name that it is called by first. -/
structure Image where
  program : Bytes
  arguments : List String

/-- The bytes of a file that may be executed. -/
def readExecutable (files : FileSystem) (cwd : Place) (file : Path) : Except IoError Bytes := do
  match ← files.stat cwd file with
  | .file bytes true => .ok bytes
  | _ => .error .permissionDenied

/-- The number of bytes that one argument has to stay below, and all together. -/
def argumentLimit : Nat := 131072

def totalLimit : Nat := 2097152

def fits (arguments : List String) : Bool :=
  arguments.all (fun a => a.length < argumentLimit) &&
    arguments.foldl (fun n a => n + a.length + 9) 0 < totalLimit

/-- What runs if a file is executed, where `interpret` says what the interpreter of a script is. -/
def enter (files : FileSystem) (cwd : Place)
    (interpret : Path → List String → Except IoError Image) (file : Path) (arguments : List String) :
    Except IoError Image := do
  let bytes ← readExecutable files cwd file
  if isProgram bytes then
    return ⟨bytes, arguments⟩
  if namesNothing bytes then
    throw .permissionDenied
  match interpreter? bytes with
  | none => .error .execFormat
  | some (name, option) =>
    interpret (.ofString (ByteText.decode name))
      (name :: option.toList ++ ByteText.encode file.text :: arguments.drop 1)

/-- Follows scripts to the program that reads them. The fuel is the number of scripts on the way. -/
def follow (files : FileSystem) (cwd : Place) : Nat → Path → List String → Except IoError Image
  | 0 => enter files cwd fun _ _ => .error .tooManyLinks
  | fuel + 1 => enter files cwd (follow files cwd fuel)

def scriptLimit : Nat := 5

/-- What runs if a file is executed with the given arguments. -/
def load (files : FileSystem) (cwd : Place) (file : Path) (arguments : List String) :
    Except IoError Image := do
  let image ← follow files cwd scriptLimit file arguments
  if fits image.arguments then .ok image else .error .argumentsTooLong

/-! ### Finding -/

/-- The paths that a program of the given name may have: one with a slash stands for itself, any other
is looked for in each directory. -/
def candidates (directories : List Path) (name : Path) : List Path :=
  match name.segments with
  | [_] => directories.map fun dir => dir.join name
  | _ => [name]

/-- The directories of a search list; an empty one is the working directory. -/
def searchList (text : String) : List Path :=
  (splitAtEach ':' (ByteText.decode text).toList).map fun dir =>
    .ofString (if dir = [] then "." else String.ofList dir)

/-- Whether the search goes on in the next directory. -/
def isPassing (e : IoError) : Bool :=
  e == .notFound || e == .notADirectory

/-- Loads the first candidate that exists. One that may not be executed counts only if there is no
other. -/
def loadFirst (files : FileSystem) (cwd : Place) (arguments : List String) :
    Except IoError Image → List Path → Except IoError Image
  | failure, [] => failure
  | failure, candidate :: rest =>
    match load files cwd candidate arguments with
    | .ok image => .ok image
    | .error .permissionDenied => loadFirst files cwd arguments (.error .permissionDenied) rest
    | .error e => if isPassing e then loadFirst files cwd arguments failure rest else .error e

/-- What runs if a program is started by its name or path. -/
def find (files : FileSystem) (cwd : Place) (directories : List Path) (name : Path)
    (arguments : List String) : Except IoError Image :=
  match name.segments with
  | [text] =>
    if text = "" then .error .notFound
    else if FileName.sizeLimit < text.utf8ByteSize then .error .nameTooLong
    else loadFirst files cwd arguments (.error .notFound) (candidates directories name)
  | _ => load files cwd name arguments

end LinkBench.Launch.Executable
