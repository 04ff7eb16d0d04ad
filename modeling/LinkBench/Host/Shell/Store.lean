import LinkBench.Host.Shell.Calculation
/-!
Values of variables and of elements of lists: how expressions are calculated with them, how they are
given, and how they are looked up.
-/

namespace LinkBench.Host.Shell.Eval

/-! ### Expressions -/

/-- The value of a variable in expressions of the plain dialect. -/
def arithmeticValue (s : State) (name : String) : Option String :=
  match (s.bindings.find? (·.name == name)).bind Variable.text?, special? s name with
  | none, some (.text text) => some text
  | text?, _ => text?

/-- The value of an expression whose assignments are made, or what is said if it has none; `command`
stands in front of what the extended dialect says. -/
def calculateFor (command source : String) : Eval (Except String Int64) := do
  let s ← get
  match s.dialect with
  | .plain =>
    match Arithmetic.run (arithmeticValue s) source.toList with
    | .error f => return .error (f.message source)
    | .ok (n, written) => do
      for (name, text) in written do
        storeText name text
      return .ok n
  | .extended => do
    match ← calculated source with
    | .ok n => return .ok n
    | .error m => return .error (m.message command)

/-- The value of an expression inside of a word. -/
def calculate (source : String) : Eval Int64 := do
  match ← calculateFor "" source with
  | .ok n => return n
  | .error text => discard text

/-- The value of an index or of what an integer is given; a mistake there leaves more than the command
in a script that is an argument. -/
def calculateStrictly (command source : String) : Eval Int64 := do
  match ← calculateFor command source with
  | .ok n => return n
  | .error text => do
    complain text
    setStatus 1
    let s ← get
    jump (if s.readsArgument && s.subshellDepth == 0 then .exit else .discarded)

/-! ### Giving values -/

/-- The text of a value with the letters that the variable wants. -/
def Casing.apply (casing : Option Casing) (text : String) : String :=
  match casing, text.toList with
  | some .lower, cs => String.ofList (cs.map Char.toLower)
  | some .upper, cs => String.ofList (cs.map Char.toUpper)
  | some .capital, c :: cs => String.ofList (c.toUpper :: cs.map Char.toLower)
  | _, _ => text

/-- What a variable takes for a text that it is given. -/
def acceptedText (command : String) (v : Option Variable) (text : String) : Eval String := do
  match v with
  | none => return text
  | some v =>
    if v.isInteger then
      return toString (← calculateStrictly command text).toInt
    else
      return Casing.apply v.casing text

/-- The index of an element as the key that it is kept under. -/
def elementKey (name : String) (v : Option Variable) (index : String) : Eval String := do
  if (v.bind (·.elements)).any (·.hasKeys) then
    return index
  let n ← calculateStrictly "" index
  match Calculation.indexKey v n.toInt with
  | some key => return key
  | none => do
    complain s!"{name}: bad array subscript"
    return ""

/-- The key of an element that is written to. -/
def writtenKey (name : String) (v : Option Variable) (index : String) : Eval String := do
  if (v.bind (·.elements)).any (·.hasKeys) then
    if index = "" then
      discard s!"{name}[{index}]: bad array subscript"
    return index
  let n ← calculateStrictly "" index
  match Calculation.indexKey v n.toInt with
  | some key => return key
  | none => do
    complain s!"{name}[{index}]: bad array subscript"
    setStatus 1
    let s ← get
    jump (if s.readsArgument && s.subshellDepth == 0 then .exit else .discarded)

/-- Gives a variable a value, as its marks want it. -/
def setVariable (name value : String) : Eval Unit := do
  let s ← get
  if s.dialect == .plain then
    storeText name value
  else
    let (name, index) := target s referenceLimit name
    let v := s.bindings.find? (·.name == name)
    if v.any fun v => v.isReference && v.value.isNone then
      storeText name value
    else
      let text ← acceptedText "" v value
      match index with
      | none => storeText name text
      | some index => setElement name (← writtenKey name v index) text

/-- Gives an element of a list a value. -/
def setIndexed (name index value : String) : Eval Unit := do
  let (name, _) := target (← get) referenceLimit name
  let v ← find? name
  let key ← writtenKey name v index
  setElement name key (← acceptedText "" v value)

/-- Stores the elements of a list in the place of what a variable was before. -/
def setList (name : String) (texts : List String) : Eval Unit := do
  let v ← writable name
  store { v with
    value := none
    elements := some (Elements.ofTexts texts) }

/-! ### Looking up -/

/-- What the extended dialect measures when it is asked for: the process, and the time in seconds. -/
def measured? (name : String) : Eval (Option String) := do
  let s ← get
  if s.dialect == .plain || s.forgotten.contains name then
    return none
  match name with
  | "BASHPID" => do
    let id : Nat ← ask .ownId
    return some (toString id)
  | "EPOCHSECONDS" => do
    return some (toString ((← ofProc Host.Proc.presentTime) / 1000000000))
  | "EPOCHREALTIME" => do
    let micros := (← ofProc Host.Proc.presentTime) / 1000
    let fraction := String.ofList ((toString (micros % 1000000)).toList.leftpad 6 '0')
    return some s!"{micros / 1000000}.{fraction}"
  | "SRANDOM" => do
    modify fun s => { s with seed := nextRandom s.seed }
    return some (toString s.seed)
  | _ => return none

/-- What a parameter stands for, with an index if it has one. -/
def parameter (name : String) (index : Option String) : Eval Value := do
  let s ← get
  let (name, own) := if s.dialect == .plain then (name, none) else target s referenceLimit name
  match stored? s name, index <|> own with
  | some v, none =>
    return match v.text? with
      | some text => .text text
      | none => .unset
  | none, none => do
    if name = "RANDOM" then
      modify fun s => { s with seed := nextRandom s.seed }
    if let some text ← measured? name then
      return .text text
    return (special? s name).getD .unset
  | v, some "@" => return .several ((v.map elementsOf).getD [] |>.map (·.2)) false
  | v, some "*" => return .several ((v.map elementsOf).getD [] |>.map (·.2)) true
  | v, some index => do
    let key ← elementKey name v index
    return match ((v.map elementsOf).getD []).lookup key with
      | some text => .text text
      | none => .unset

end LinkBench.Host.Shell.Eval
