import LinkBench.FileSystem.Operations
import LinkBench.Numeral
/-!
A tree of files as text, one line for each entry: `dir`, `file` or `exec`, the bytes of a file in
hexadecimal, and the path from the top of the tree. A path comes last, so it may hold blanks, but no line end.
-/

namespace LinkBench.Manifest

def hexByte (b : UInt8) : List Char :=
  (Nat.toDigits 16 b.toNat).leftpad 2 '0'

def hex (bytes : Bytes) : String :=
  String.ofList (bytes.flatMap hexByte)

/-- Reads two digits for each byte. -/
def unhex? : List Char → Option Bytes
  | [] => some []
  | a :: b :: rest => do
    let high ← Numeral.digitValue? 16 a
    let low ← Numeral.digitValue? 16 b
    return UInt8.ofNat (high * 16 + low) :: (← unhex? rest)
  | [_] => none

/-- The line of an entry; a device has none. -/
def line? (l : Location) (e : Entry) : Option String :=
  let path := String.intercalate "/" (l.map (·.text))
  match e with
  | .directory => some s!"dir {path}"
  | .file bytes false => some s!"file {hex bytes} {path}"
  | .file bytes true => some s!"exec {hex bytes} {path}"
  | .device _ => none

/-- The lines of what is below a location, each directory before what lies in it. -/
def lines (files : FileSystem) (l : Location) : List String :=
  files.entries.filterMap fun x =>
    if l <+: x.1 ∧ l ≠ x.1 then line? (x.1.drop l.length) x.2 else none

/-- The text before the first blank, and the text behind it. -/
def splitAtBlank (cs : List Char) : List Char × List Char :=
  (cs.takeWhile (· != ' '), (cs.dropWhile (· != ' ')).drop 1)

/-- Reads a line as the change that makes its entry. -/
def edit? (text : String) : Option Edit :=
  let (kind, rest) := splitAtBlank text.toList
  let file (executable : Bool) : Option Edit := do
    let (digits, path) := splitAtBlank rest
    return .write (.ofString (String.ofList path)) (← unhex? digits) executable
  match String.ofList kind with
  | "dir" => some (.makeDirectory (.ofString (String.ofList rest)))
  | "file" => file false
  | "exec" => file true
  | _ => none

/-- Reads the lines of a tree; the first that cannot be read is the error. -/
def read (texts : List String) : Except String (List Edit) :=
  texts.mapM fun text =>
    match edit? text with
    | some edit => .ok edit
    | none => .error text

end LinkBench.Manifest
