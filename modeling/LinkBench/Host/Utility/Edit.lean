import LinkBench.Host.Utility.Sed.Execution
import LinkBench.Host.Utility.Sed.Reader
import LinkBench.Host.Utility.Show
/-!
The stream editor as a program: its options, and the scripts that its arguments hold.
-/

namespace LinkBench.Host.Utility

open Options

namespace Sed

def flags : List Flag :=
  [flag "n" "quiet", flag "n" "silent", valued "e" "expression", valued "f" "file",
    flag "E" "regexp-extended", flag "r" "", optional "i" "in-place", flag "s" "separate",
    flag "z" "null-data", flag "u" "unbuffered", valued "l" "line-length", flag "posix" "posix",
    flag "debug" "debug", flag "sandbox" "sandbox", flag "b" "binary"]

def usage : String :=
  "Usage: sed [OPTION]... \x7bscript-only-if-no-other-script\x7d [input-file]...\n\n"

/-- A part of the script: its text, and what it is called in complaints. -/
structure Part where
  text : String
  name : Nat → String

/-- Where in a file a place is. -/
def fileLine (file : String) (text : String) (position : Nat) : String :=
  let line := ((text.toList.take position).filter (· == '\n')).length + 1
  s!"file {file} line {line}:"

/-- The parts of the script in the order of the options. -/
def parts (given : Given) : Proc (Except String (List Part)) := do
  let options := given.filter fun x => x.1 == "e" || x.1 == "f"
  let read ← options.zipIdx.mapM fun ((key, value), i) => do
    if key = "e" then
      return Except.ok ⟨value, fun n => s!"-e expression #{i + 1}, char {n}:"⟩
    else
      match ← textOf value with
      | .ok text =>
        let text := if text.endsWith "\n" then (text.dropEnd 1).toString else text
        return .ok ⟨text, fileLine value text⟩
      | .error r => return .error s!"couldn't open file {value}: {r.reason}"
  return read.mapM id

/-- The part that a place of the whole script lies in, and the place in that. -/
def locate (position : Nat) : List Part → String
  | [] => ""
  | [last] => last.name position
  | part :: rest =>
    if position ≤ part.text.length + 1 then part.name (min position part.text.length)
    else locate (position - part.text.length - 1) rest

/-- Opens the files that commands write to. -/
def openTargets (names : List String) : Proc (List (String × Nat)) :=
  names.zipIdx.mapM fun (name, i) => do
    if name = "/dev/stdout" then return (name, Proc.standardOutput)
    else if name = "/dev/stderr" then return (name, Proc.standardError)
    else
      let _ ← (Proc.request (.openAt (20 + i) (Proc.pathOf name) .write) :
        Proc (Except IoError Unit))
      return (name, 20 + i)

/-- More cycles than there are lines. -/
def cycleLimit : Nat := 1000000000

end Sed

def sed (arguments : List String) : Proc Nat := do
  let command := arguments.headD ""
  match Options.read Sed.flags true arguments.tail with
  | .error f =>
    complain command f.message
    Proc.printError Sed.usage
    return 1
  | .ok (given, operands) =>
    let hasScript := given.has "e" || given.has "f"
    if !hasScript && operands.isEmpty then
      Proc.printError Sed.usage
      return 1
    let given := if hasScript then given else ("e", operands.headD "") :: given
    let operands := if hasScript then operands else operands.tail
    match ← Sed.parts given with
    | .error text => failWith command text 4
    | .ok parts =>
      let isExtended := given.has "E" || given.has "r"
      let script := String.intercalate "\n" (parts.map (·.text))
      match Sed.readDrafts isExtended script with
      | .error f =>
        let place := if f.position = 0 then (match parts with
          | first :: _ => first.name 0
          | [] => "") else Sed.locate f.position parts
        failWith command s!"{place} {f.message}" 1
      | .ok drafts =>
        match Sed.resolve drafts with
        | .error name => failWith command s!"can't find label for jump to \x60{name}'" 4
        | .ok steps =>
          let names := (steps.flatMap fun step => step.command.targets).eraseDups
          let targets ← Sed.openTargets names
          let settings : Sed.Settings := {
            command
            isQuiet := given.has "n" || script.startsWith "#n\n"
            isSeparate := given.has "s" || given.has "i"
            inPlace := given.last? "i"
            separator := if given.has "z" then '\x00' else '\n'
            width := ((given.last? "l").bind (·.toNat?)).getD 70
            steps := steps.toArray
            targets }
          let (status, _) ← (Sed.Run.cycles settings Sed.cycleLimit true).run
            (.start (inputNames operands))
          return status

end LinkBench.Host.Utility
