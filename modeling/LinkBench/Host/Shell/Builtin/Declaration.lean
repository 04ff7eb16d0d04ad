import LinkBench.Host.Shell.Builtin.Variables
/-!
Declarations of the extended dialect: marks of variables, variables of functions, and how both are
shown.
-/

namespace LinkBench.Host.Shell.Builtin

open Eval

/-- How a variable is shown with its marks. -/
def shownDeclaration (v : Variable) : String :=
  let letters := markLetters v
  let letters := if letters = "" then "-" else letters
  let value := match v.elements, v.value with
    | some elements, _ =>
      if elements.isBlank && elements.entries.isEmpty then "" else "=" ++ shownElements elements
    | none, some value => "=" ++ Quoted.double value
    | none, none => ""
  s!"declare -{letters} {v.name}{value}\n"

/-- What a declaration changes: the marks that it sets and those that it takes away. -/
structure Declared where
  command : String
  on : List Char
  off : List Char
  isLocal : Bool

/-- Splits an argument into a name, an index, whether the value is added to the old one, and the
value. -/
def splitDeclared (a : String) : String × Option String × Bool × Option String :=
  let (left, value) := splitValue a
  let isAdded := value.isSome && left.endsWith "+"
  let left := if isAdded then (left.dropEnd 1).toString else left
  let name := (left.takeWhile (· != '[')).toString
  let index := if name.length < left.length && left.endsWith "]" then
      some ((left.drop (name.length + 1)).dropEnd 1).toString
    else none
  (if index.isNone then left else name, index, isAdded, value)

/-- The variable with its marks changed. -/
def Declared.mark (d : Declared) (v : Variable) : Variable :=
  let turned (letter : Char) (now : Bool) : Bool :=
    if d.on.contains letter then true else if d.off.contains letter then false else now
  let casing (letter : Char) (kind : Casing) (now : Option Casing) : Option Casing :=
    if d.on.contains letter then some kind
    else if d.off.contains letter && now == some kind then none else now
  { v with
    isInteger := turned 'i' v.isInteger
    isReference := turned 'n' v.isReference
    isReadOnly := turned 'r' v.isReadOnly
    isExported := turned 'x' v.isExported
    casing := casing 'c' .capital (casing 'u' .upper (casing 'l' .lower v.casing)) }

/-- Makes a variable one of the running function, unless it is one already. -/
def makeLocal (name : String) : Eval Unit := do
  let s ← get
  if !s.shadowed.any (·.1 == name) then
    shadow name
    modify fun s => { s with
      bindings := s.bindings.filter (·.name != name)
      place := if name = "OPTIND" then .start else s.place }

/-- The kind of list that a variable becomes, or why it cannot. -/
def Declared.elements (d : Declared) (v : Variable) : Except String (Option Elements) :=
  let fresh (hasKeys : Bool) : Elements :=
    let entries := (v.value.map fun text => ("0", text)).toList
    ⟨hasKeys, entries, entries.isEmpty⟩
  match v.elements with
  | some elements =>
    if d.on.contains 'A' && !elements.hasKeys then
      .error "cannot convert indexed to associative array"
    else if d.on.contains 'a' && elements.hasKeys then
      .error "cannot convert associative to indexed array"
    else .ok v.elements
  | none =>
    .ok (if d.on.contains 'A' then some (fresh true)
      else if d.on.contains 'a' then some (fresh false)
      else none)

/-- Why a value cannot be the name that a reference is to. -/
def referenceFault? (name value : String) : Option String :=
  let plain := (value.takeWhile (· != '[')).toString
  if !isName plain then some s!"\x60{value}': invalid variable name for name reference"
  else if plain = name then some s!"{name}: nameref variable self references not allowed"
  else none

/-- Declares a variable, with a value if the argument has one. -/
def Declared.one (d : Declared) (a : String) : Eval Nat := do
  let (name, index, isAdded, value) := splitDeclared a
  if !isName name then
    report s!"\x60{a}': not a valid identifier"
    return 1
  let s ← get
  let name := if d.on.contains 'n' ∨ d.off.contains 'n' ∨ d.isLocal then name
    else (target s referenceLimit name).1
  let before := s.bindings.find? (·.name == name)
  let isReadOnly := before.any (·.isReadOnly)
  if isReadOnly && (value.isSome || d.off.contains 'r' || d.isLocal) then
    let text := s!"{name}: readonly variable"
    if d.command = "export" ∨ d.command = "readonly" then complain text else report text
    return 1
  if let some value := if d.on.contains 'n' then value else none then
    if let some reason := referenceFault? name value then
      report reason
      return 1
  if d.isLocal then
    makeLocal name
  let s ← get
  let v := (s.bindings.find? (·.name == name)).getD (newVariable s name)
  let d := if index.isSome && v.elements.isNone && !d.on.contains 'A' then
    { d with on := 'a' :: d.on } else d
  match d.elements v with
  | .error reason => do
    report s!"{name}: {reason}"
    return 1
  | .ok elements => do
    let marked := { d.mark v with elements, value := if elements.isSome then none else v.value }
    store { marked with isReadOnly := false }
    match value with
    | some value => do
      if marked.isReference then
        store { marked with value := some value }
      else
        let key := index <|> (if elements.isSome then some "0" else none)
        let old := match key with
          | some key => ((elements.map Elements.entries).getD []).lookup key
          | none => v.value
        let text ← if marked.isInteger then do
            let n := (← calculateStrictly s!"{d.command}: " value).toInt
            let m := if isAdded then (old.bind String.toInt?).getD 0 else 0
            pure (toString (m + n))
          else do
            pure (Casing.apply marked.casing ((if isAdded then old.getD "" else "") ++ value))
        match key with
        | some key => setElement name (← writtenKey name (← find? name) key) text
        | none => storeText name text
    | none => pure ()
    modify fun s => { s with bindings := s.bindings.map fun w =>
      if w.name = name then { w with isReadOnly := marked.isReadOnly } else w }
    return 0

/-- The letters of options that stand in front, with their signs, and the arguments left. -/
def readMarks (known : List Char) : List String → Except Char (List (Bool × Char) × List String)
  | [] => .ok ([], [])
  | "--" :: rest => .ok ([], rest)
  | a :: rest =>
    match a.toList with
    | sign :: c :: cs =>
      if sign = '-' ∨ sign = '+' then
        match (c :: cs).find? fun c => !known.contains c with
        | some c => .error c
        | none => do
          let (others, rest) ← readMarks known rest
          return ((c :: cs).map (fun c => (sign == '-', c)) ++ others, rest)
      else .ok ([], a :: rest)
    | _ => .ok ([], a :: rest)

/-- The letters of marks that a list of variables can be asked for. -/
def markChars : List Char := ['a', 'A', 'i', 'n', 'r', 'x', 'l', 'u', 'c']

def hasMarks (letters : List Char) (v : Variable) : Bool :=
  let own := (markLetters v).toList
  letters.all fun c => !markChars.contains c || own.contains c

/-- Shows variables by their names. -/
def showDeclared (names : List String) : Eval Nat :=
  names.foldlM (fun status name => do
    match stored? (← get) name with
    | some v => do print (shownDeclaration v); return status
    | none => do report s!"{name}: not found"; return 1) 0

/-- Declares what the arguments say, under the name of a command. -/
def declareAs (command : String) (known : String) (preset : List Char) (isLocal : Bool)
    (arguments : List String) : Eval Nat := do
  match readMarks known.toList arguments with
  | .error c => do
    let letter := String.singleton c
    report s!"-{letter}: invalid option"
    tellUsage
  | .ok (letters, names) => do
    let on := preset ++ (letters.filter (·.1)).map (·.2)
    let off := (letters.filter (!·.1)).map (·.2)
    let s ← get
    if on.contains 'f' ∨ on.contains 'F' then
      if command = "export" ∨ command = "readonly" then
        return ← names.foldlM (fun status name => do
          if s.functions.any (·.1 == name) then return status
          report s!"{name}: not a function"
          return 1) 0
      if names = [] then
        for name in (s.functions.map (·.1)).mergeSort do
          print s!"declare -f {name}\n"
        return 0
      return ← names.foldlM (fun status name => do
        if s.functions.any (·.1 == name) then
          print (name ++ "\n")
          return status
        else return 1) 0
    if names = [] then
      let isBare := letters.isEmpty && preset.isEmpty
      for v in sortedVariables s do
        if hasMarks on v then
          if isBare then
            match v.text? with
            | some value => print s!"{v.name}={Quoted.whereNeeded value}\n"
            | none => pure ()
          else
            print (shownDeclaration v)
      return 0
    if on.contains 'p' then
      return ← showDeclared names
    let off := if command = "export" ∧ on.contains 'n' then 'x' :: off else off
    let on := if command = "export" then on.filter fun c => c != 'n' && !(c == 'x' && off.contains 'x')
      else on
    let d : Declared := ⟨command, on, off, isLocal && !on.contains 'g'⟩
    names.foldlM (fun status a => do return max status (← d.one a)) 0

def declare (command : String) (arguments : List String) : Eval Nat := do
  declareAs command "aAcfFgiIlnprtux" [] (0 < (← get).functionDepth) arguments

def «export» (arguments : List String) : Eval Nat := do
  if ← isExtended then declareAs "export" "fnp" ['x'] false arguments else exportPlain arguments

def readonly (arguments : List String) : Eval Nat := do
  if ← isExtended then declareAs "readonly" "aAfp" ['r'] false arguments
  else readonlyPlain arguments

def «local» (arguments : List String) : Eval Nat := do
  if !(← isExtended) then
    return ← localPlain arguments
  if (← get).functionDepth = 0 then
    report "can only be used in a function"
    return 1
  if arguments = ["-"] then
    shadowOptions
    return 0
  if arguments = [] then
    let s ← get
    for v in (sortedVariables s).filter fun v => s.shadowed.any (·.1 == v.name) do
      match v.text? with
      | some value => print s!"{v.name}={Quoted.whereNeeded value}\n"
      | none => pure ()
    return 0
  declareAs "local" "aAcfFgiIlnprtux" [] true arguments

end LinkBench.Host.Shell.Builtin
