import LinkBench.Host.Shell.Builtin.Variables
import LinkBench.Host.Utility.Condition
import LinkBench.Host.Utility.Printf
/-!
Commands of the shell that print, compare and move through directories. All but the last have
counterparts among the programs.
-/

namespace LinkBench.Host.Shell.Builtin

open Eval LinkBench.Host.Utility

/-- Which speaker a dialect is. -/
def speakerOf : Dialect → Speaker
  | .plain => .plain
  | .extended => .extended

/-! ### Output -/

/-- Whether an argument consists of options of `echo` in the extended dialect. -/
def isEchoOptions (a : String) : Bool :=
  match a.toList with
  | '-' :: c :: cs => (c :: cs).all fun c => c == 'n' || c == 'e' || c == 'E'
  | _ => false

def echo (arguments : List String) : Eval Nat := do
  match (← get).dialect with
  | .plain => do
    let (newline, arguments) := match arguments with
      | "-n" :: rest => (false, rest)
      | _ => (true, arguments)
    let (text, stop) := Escape.text .plainArgument (String.intercalate " " arguments)
    print (text ++ if newline && !stop then "\n" else "")
  | .extended => do
    let letters := (arguments.takeWhile isEchoOptions).flatMap String.toList
    let text := String.intercalate " " (arguments.dropWhile isEchoOptions)
    let last := (letters.filter fun c => c == 'e' || c == 'E').getLast?
    let resolves := last == some 'e' || (last.isNone && (← get).longOptions.contains "xpg_echo")
    let (text, stop) := if resolves then Escape.text .extendedEcho text else (text, false)
    print (text ++ if letters.contains 'n' || stop then "" else "\n")
  return 0

/-- Prints with a format. What is wrong is said before anything is printed. -/
def printf (arguments : List String) : Eval Nat := do
  let extended ← isExtended
  withOptions (if extended then "v:" else "") arguments fun options rest => do
    match rest with
    | [] =>
      if extended then
        printError "printf: usage: printf [-v var] format [arguments]\n"
        return 2
      else
        refuse "usage: printf format [arg ...]"
    | format :: rest => do
      let now := (← ofProc Proc.presentTime) / 1000000000
      let out := Printf.run (speakerOf (← get).dialect) now format rest
      for piece in out.pieces do
        if let .complaint text := piece then
          report text
      match options.lookup 'v' with
      | some name => setVariable name out.text
      | none => print out.text
      return out.status

/-! ### Conditions -/

/-- Whether a variable, or an element of a list, has a value. -/
def isSet (s : State) (text : String) : Bool :=
  let name := (text.takeWhile (· != '[')).toString
  match stored? s (target s referenceLimit name).1 with
  | none => (special? s text).any fun
    | .text _ => true
    | _ => false
  | some v =>
    if name.length = text.length then v.text?.isSome
    else
      let index := ((text.drop (name.length + 1)).dropEnd 1).toString
      if index = "@" ∨ index = "*" then !(elementsOf v).isEmpty
      else ((elementsOf v).lookup index).isSome

/-- What conditions are checked in. -/
def surroundings (s : State) (w : View) : Condition.Surroundings where
  view := w
  isSet := isSet s
  isOption := fun name => ((optionStates s).lookup name).getD false
  isReference := fun name => (s.bindings.find? (·.name == name)).any (·.isReference)

def test (isBracket : Bool) (arguments : List String) : Eval Nat := do
  let s ← get
  let surroundings := surroundings s (← ofProc Proc.view)
  let speaker := speakerOf s.dialect
  match Condition.run speaker surroundings isBracket arguments with
  | .ok holds => return if holds then 0 else 1
  | .error f => do
    report (f.message speaker)
    return 2

/-! ### Directories -/

/-- The path of a place, as `pwd` prints it. -/
def placeText (p : Place) : String :=
  ByteText.encode ("/" ++ String.intercalate "/" ((p.base ++ p.lost).map (·.text)))

def currentDirectory : Eval String := do
  return placeText (← ofProc Proc.view).cwd

def pwd (arguments : List String) : Eval Nat :=
  withOptions "LP" arguments fun _ _ => do
    print ((← currentDirectory) ++ "\n")
    return 0

/-- Exports a variable with a value. -/
def exportValue (name value : String) : Eval Unit := do
  setVariable name value
  exportVariable name

/-- The path that names a directory from another one, taken as text: each pair of dots takes the name
in front of it away, whether there is such a directory or not. -/
def pathFrom (directory target : String) : String :=
  let whole := if target.startsWith "/" then target else directory ++ "/" ++ target
  let names := (splitAtEach '/' whole.toList).foldl (fun (names : List (List Char)) piece =>
    if piece = [] ∨ piece = ['.'] then names
    else if piece = ['.', '.'] then names.tail
    else piece :: names) []
  "/" ++ String.ofList (List.intercalate ['/'] names.reverse)

/-- Goes to a directory, and remembers the one before. The plain dialect takes the path as text, unless
the path of the directory itself is asked for. -/
def enter (target shown : String) (isPhysical isPrinted : Bool) : Eval Nat := do
  let before ← currentDirectory
  let path := if (← isExtended) || isPhysical then target else pathFrom before target
  let result : Except IoError Unit ← ask (.changeDir (Proc.pathOf path))
  match result with
  | .ok () => do
    let after ← currentDirectory
    exportValue "OLDPWD" before
    exportValue "PWD" after
    if isPrinted then
      print (after ++ "\n")
    return 0
  | .error e =>
    if ← isExtended then
      report s!"{shown}: {e.reason}"
      return 1
    else
      refuse s!"can't cd to {shown}"

/-- Whether a directory is to be looked for in other places than the current one. -/
def isSearched (target : String) : Bool :=
  match (splitAtEach '/' target.toList) with
  | [] :: _ :: _ | ['.'] :: _ | ['.', '.'] :: _ => false
  | _ => true

/-- Where a directory of the given name lies, by the places that the user has set, and whether its
path is shown. -/
def searched (target : String) : Eval (String × Bool) := do
  let w ← ofProc Proc.view
  let path := if target = "" then "." else target
  let set? ← value? "CDPATH"
  let places := if isSearched target then set?.getD "" else ""
  let candidates := (splitAtEach ':' places.toList).map fun place =>
    if place = [] then (path, false) else (String.ofList place ++ "/" ++ path, true)
  return (candidates.find? fun x => w.files.isDirectory w.cwd (Proc.pathOf x.1)).getD (path, false)

def cd (arguments : List String) : Eval Nat := do
  let extended ← isExtended
  withOptions (if extended then "LPe@" else "LP") arguments fun options rest => do
    let isPhysical := ((options.filter fun x => x.1 = 'L' ∨ x.1 = 'P').getLast?.map (·.1)) == some 'P'
    let enterFound (target : String) (isPrinted : Bool) : Eval Nat := do
      let (path, isElsewhere) ← searched target
      enter path target isPhysical (isPrinted || isElsewhere)
    match rest with
    | [] => do
      match ← value? "HOME" with
      | some home => enterFound home false
      | none =>
        if extended then
          report "HOME not set"
          return 1
        else
          enterFound "" false
    | "-" :: _ => do
      match ← value? "OLDPWD" with
      | some old => enterFound old true
      | none =>
        if extended then
          report "OLDPWD not set"
          return 1
        else
          enterFound "" true
    | target :: more =>
      if extended ∧ more ≠ [] then
        report "too many arguments"
        return 1
      else
        enterFound target false

end LinkBench.Host.Shell.Builtin
