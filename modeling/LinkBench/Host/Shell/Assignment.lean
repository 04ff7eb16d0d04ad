import LinkBench.Host.Shell.Builtin.Declaration
import LinkBench.Host.Shell.Layout
/-!
Assignments: of texts, of elements, of whole lists, for the time of a command or for good. Each of them
is shown before it takes effect, if that is asked for.
-/

namespace LinkBench.Host.Shell.Eval

variable (run : Command → Eval Unit)

/-! ### Showing what is done -/

/-- What stands for a text that is read like an inline document. In the plain dialect, commands in
parentheses cannot be read there. A text that cannot be read stands for itself. -/
def promptText (text : String) : Eval String := do
  let s ← get
  let source := Source.ofText s.dialect text
  let readBody : Read Command := if s.dialect == .extended then Read.substituted Read.nestingLimit
    else Read.fail (.unexpected Mistake.endName (some "\")\""))
  match (Read.documentWord readBody text.toList).run source with
  | .error f => do
    if s.dialect == .plain then
      complain s!"Syntax error: {f.mistake.plainText}"
    return text
  | .ok (w, source) => do
    modify fun s => { s with documents := source.documents ++ s.documents }
    let shown ← documentText run w
    modify fun t => { t with status := s.status, substitutionStatus := s.substitutionStatus }
    return shown

/-- Shows a line that says what is done, if that is asked for. The extended dialect begins it with a sign
for each text that is being run. -/
def traceLine (text : String) : Eval Unit := do
  let s ← get
  if s.options.contains 'x' then
    modify fun s => { s with options := s.options.filter (· != 'x') }
    let start ← promptText run ((← value? "PS4").getD "")
    modify fun s => { s with options := 'x' :: s.options }
    let signs := if s.dialect == .plain then ""
      else String.ofList (List.replicate (s.traceDepth - 1) (start.toList.headD '+'))
    printError (signs ++ start ++ text ++ "\n")

/-- Shows an assignment of a text in the extended dialect. -/
def traceAssignment (name : String) (appended : Bool) (text : String) : Eval Unit := do
  let sign := if appended then "+=" else "="
  traceLine run (name ++ sign ++ if text = "" then "" else Quoted.traced text)

/-- Shows the words of a command in the extended dialect. -/
def traceWords (arguments : List String) : Eval Unit :=
  traceLine run (String.intercalate " " (arguments.map Quoted.traced))

/-- Assignments of the plain dialect that have been made, to show them. -/
def shownAssignments (assignments : List (String × Assignment)) : Eval (List String) :=
  assignments.mapM fun (_, a) => do
    let name := match a with
      | .scalar name .. | .list name .. => name
    return s!"{name}=" ++ (← value? name).getD ""

/-- Shows a command of the plain dialect before it runs, with the assignments in front of it. -/
def trace (assignments : List (String × Assignment)) (arguments : List String) : Eval Unit := do
  if (← get).options.contains 'x' then
    let assignments ← shownAssignments assignments
    traceLine run (String.intercalate " " (assignments ++ arguments))

/-! ### Lists -/

/-- An element of a list in the form in which it is given, with its index if it has one. -/
structure GivenElement where
  index : Option String
  isAdded : Bool
  text : String

/-- The elements that words give a list. -/
def givenElements (values : List Word) : Eval (List GivenElement) := do
  let found ← values.mapM fun w => do
    let named := match w with
      | .text s false :: rest => if s.startsWith "[" then .text ("_" ++ s) false :: rest else []
      | _ => []
    match Read.assignment? true named with
    | some (.scalar "_" (part :: subscript) isAdded value) => do
      let index ← singleText run (part :: subscript)
      let text ← assignedText run value
      return [GivenElement.mk (some index) isAdded text]
    | _ => return (← argumentsOf run [w]).map fun text => ⟨none, false, text⟩
  return found.flatten

/-- Texts without indices in pairs of a key and a value. -/
def pairedElements : List GivenElement → List GivenElement
  | key :: value :: rest => ⟨some key.text, false, value.text⟩ :: pairedElements rest
  | [key] => [⟨some key.text, false, ""⟩]
  | [] => []

/-- Puts elements into the entries of a list, those without an index behind the one before. -/
def putElements (v : Variable) (hasKeys : Bool) :
    List GivenElement → Nat → List (String × String) → Eval (List (String × String))
  | [], _, entries => return entries
  | e :: rest, next, entries => do
    let here := some { v with value := none, elements := some ⟨hasKeys, entries, false⟩ }
    let key ← match e.index with
      | some index => writtenKey v.name here index
      | none => pure (toString next)
    let old := if e.isAdded then (entries.lookup key).getD "" else ""
    let text ← acceptedText "" (some v) e.text
    putElements v hasKeys rest (key.toNat?.getD 0 + 1) (putEntry hasKeys key (old ++ text) entries)

/-- The elements of a list as a declaration shows them. -/
def shownGiven (elements : List GivenElement) : String :=
  String.intercalate " " (elements.map fun e =>
    (match e.index with
      | some index => s!"[{index}]" ++ (if e.isAdded then "+=" else "=")
      | none => "") ++ Quoted.single e.text)

/-- Gives a list elements, or adds elements to it. A declaration may write to it in any case. -/
def assignList (isDeclared : Bool) (source name : String) (appended : Bool) (values : List Word) :
    Eval Unit := do
  let found ← givenElements run values
  let sign := if appended then "+=" else "="
  traceLine run (if isDeclared then s!"{name}{sign}({shownGiven found})" else source)
  let s ← get
  let (name, _) := target s referenceLimit name
  let v ← if isDeclared then pure ((s.bindings.find? (·.name == name)).getD (newVariable s name))
    else writable name
  let hasKeys := v.elements.any (·.hasKeys)
  let found := if hasKeys && (found.head?.map (·.index)) == some none then pairedElements found
    else found
  let start := if appended then elementsOf v else []
  let next := match start.getLast? with
    | some (key, _) => key.toNat?.getD 0 + 1
    | none => 0
  let entries ← putElements v hasKeys found next start
  store { v with value := none, elements := some ⟨hasKeys, entries, false⟩ }

/-! ### Single assignments -/

/-- Makes an assignment. -/
def assign (a : String × Assignment) : Eval Unit := do
  let extended ← isExtended
  match a with
  | (_, .scalar name [] appended value) => do
    let text ← assignedText run value
    if extended then
      traceAssignment run name appended text
    if appended then
      let (own, _) := target (← get) referenceLimit name
      let old := (← value? own).getD ""
      if (← find? own).any (·.isInteger) then
        let n ← calculateStrictly "" text
        storeText own (toString ((old.toInt?.getD 0) + n.toInt))
      else
        setVariable name (old ++ text)
    else setVariable name text
  | (source, .scalar name subscript appended value) => do
    let index ← singleText run subscript
    let text ← assignedText run value
    let left := (source.takeWhile fun c => c != ']' && c != '=').toString
    traceAssignment run (left ++ "]") appended text
    let (own, _) := target (← get) referenceLimit name
    let v ← find? own
    if appended then
      let key ← writtenKey own v index
      let before := ((v.map elementsOf).getD []).lookup key
      setElement own key (before.getD "" ++ text)
    else setIndexed own index text
  | (source, .list name appended values) => assignList run false source name appended values

def assignedName : Assignment → String
  | .scalar name .. | .list name .. => name

/-- Makes assignments for a while; programs get them. The extended dialect goes on without those that
cannot be made. -/
def assignForNow (assignments : List (String × Assignment)) : Eval Unit := do
  for a in assignments do
    let made : Eval Unit := do
      Builtin.shadow (assignedName a.2)
      assign run a
      exportVariable (assignedName a.2)
    match ← attempt made with
    | none | some .discarded => pure ()
    | some j => jump j

/-! ### Arguments that are assignments -/

/-- Commands whose arguments may be assignments. -/
def isDeclaration (name : String) : Bool :=
  Read.declaring.contains name

/-- An argument that looks like an assignment, as it stands; nothing if it does not. -/
def assignmentArgument? (w : Word) : Eval (Option String) := do
  match ← isExtended, Read.assignment? (← isExtended) w with
  | true, some (.scalar name [] appended value) => do
    let sign := if appended then "+=" else "="
    return some (name ++ sign ++ (← assignedText run value))
  | true, some (.scalar name subscript appended value) => do
    let index ← singleText run subscript
    let sign := if appended then "]+=" else "]="
    return some (name ++ "[" ++ index ++ sign ++ (← assignedText run value))
  | false, some (.scalar name _ _ value) => do
    return some (name ++ "=" ++ (← assignedText run value))
  | _, _ => return none

/-- The arguments of a command; some commands take assignments as they stand. -/
def commandArguments (words : List Written) : Eval (List String) := do
  match words with
  | [] => return []
  | first :: rest => do
    let leading ← argumentsOf run [first.2]
    let isDeclaring := leading.head?.any isDeclaration
    let others ← rest.mapM fun w => do
      if isDeclaring then
        match ← assignmentArgument? run w.2 with
        | some a => return [a]
        | none => argumentsOf run [w.2]
      else argumentsOf run [w.2]
    return leading ++ others.flatten

/-- Gives lists the elements that a declaration has for them. -/
def assignDeclared (words : List Written) : Eval Unit := do
  for (_, w) in words do
    for part in w do
      match part with
      | .elements appended values => assignList run true "" (Word.plainText w) appended values
      | _ => pure ()

end LinkBench.Host.Shell.Eval
