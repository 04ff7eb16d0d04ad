import LinkBench.Host.Shell.Builtin.Basic
import LinkBench.Host.Shell.Expansion
/-!
Commands of the shell that set variables, options, positional parameters and aliases, or show them.
-/

namespace LinkBench.Host.Shell.Builtin

open Eval

/-! ### Marks of variables -/

/-- The text before a sign of equality and the one behind it, if there is such a sign. -/
def splitValue (a : String) : String × Option String :=
  let name := (a.takeWhile (· != '=')).toString
  if name.length = a.length then (a, none) else (name, some (a.drop (name.length + 1)).toString)

/-- Checks a name that is to be assigned; `argument` is what it stands in. -/
def withName (name argument : String) (body : Eval Nat) : Eval Nat := do
  if isName name then body
  else if ← isExtended then
    report s!"\x60{argument}': not a valid identifier"
    return 1
  else
    refuse s!"{name}: bad variable name"

/-- How the plain dialect shows a variable with its marks. -/
def shownMark (command : String) (v : Variable) : String :=
  s!"{command} {v.name}" ++
    (match v.value with
      | some value => "=" ++ Quoted.alternating value
      | none => "") ++ "\n"

/-- Marks variables of the plain dialect, and gives values to those that come with one. -/
def mark (command : String) (isShown : Variable → Bool) (change : Variable → Variable)
    (arguments : List String) : Eval Nat := do
  withOptions "p" arguments fun options names => do
    if names = [] ∨ hasOption options 'p' then
      for v in (sortedVariables (← get)).filter isShown do
        print (shownMark command v)
      return 0
    else
      names.foldlM (fun status a => do
        let (name, value) := splitValue a
        let result ← withName name a do
          match value with
          | some value => setVariable name value
          | none => pure ()
          let s ← get
          let v := (s.bindings.find? (·.name == name)).getD (newVariable s name)
          store (change v)
          return 0
        return max status result) 0

def exportPlain : List String → Eval Nat :=
  mark "export" (·.isExported) fun v => { v with isExported := true }

def readonlyPlain : List String → Eval Nat :=
  mark "readonly" (·.isReadOnly) fun v => { v with isReadOnly := true }

/-- Makes the options those of the running function: they are kept like a variable. -/
def shadowOptions : Eval Unit :=
  modify fun s =>
    let kept := { newVariable s "-" with value := some (String.ofList s.options) }
    { s with shadowed := ("-", some kept) :: s.shadowed }

/-- Makes a variable one of the running function. -/
def shadow (name : String) : Eval Unit :=
  modify fun s => { s with shadowed := (name, s.bindings.find? (·.name == name)) :: s.shadowed }

/-- Variables of the running function in the plain dialect; they keep their values. -/
def localPlain (arguments : List String) : Eval Nat := do
  if (← get).functionDepth = 0 then
    return ← refuse "not in a function"
  arguments.foldlM (fun status a => do
    let (name, value) := splitValue a
    if name = "-" then
      shadowOptions
      return status
    let result ← withName name a do
      shadow name
      match value with
      | some value => setVariable name value
      | none => pure ()
      return 0
    return max status result) 0

/-- Takes an element out of a list. -/
def unsetElement (name index : String) : Eval Nat := do
  let (name, _) := target (← get) referenceLimit name
  let v ← writable name
  if index = "@" ∨ index = "*" then
    if v.elements.any (·.hasKeys) then
      store { v with elements := v.elements.map fun elements => { elements with
        entries := elements.entries.filter (·.1 != index) } }
    else
      unsetVariable name
    return 0
  let isList := v.elements.isSome
  match ← unsetKey v index with
  | none => return 1
  | some key =>
    if !isList ∧ key ≠ "0" then
      report s!"{name}: not an array variable"
      return 1
    else if !isList then
      unsetVariable name
      return 0
    else
      store { v with elements := v.elements.map fun elements =>
          { elements with entries := elements.entries.filter (·.1 != key) } }
      return 0
where
  /-- The key of an element that is to go. -/
  unsetKey (v : Variable) (index : String) : Eval (Option String) := do
    if v.elements.any (·.hasKeys) then
      return some index
    match ← calculateFor "unset: " index with
    | .error text => do
      complain text
      return none
    | .ok n =>
      match Calculation.indexKey (some v) n.toInt with
      | some key => return some key
      | none => do
        report s!"[{index}]: bad array subscript"
        return none

def unset (arguments : List String) : Eval Nat := do
  withOptions (if ← isExtended then "vfn" else "vf") arguments fun options names => do
    let extended ← isExtended
    if extended && hasOption options 'v' && hasOption options 'f' then
      report "cannot simultaneously unset a function and a variable"
      return 1
    names.foldlM (fun status name => do
      let s ← get
      let unsetFunction : Eval Nat := do
        set { s with functions := s.functions.filter (·.1 != name) }
        return status
      if hasOption options 'f' then
        unsetFunction
      else if extended && name.endsWith "]" && name.contains '[' then
        let plainName := (name.takeWhile (· != '[')).toString
        if (s.bindings.any (·.name == plainName)) then
          return max status (← unsetElement plainName
            ((name.drop (plainName.length + 1)).dropEnd 1).toString)
        else
          return status
      else if !isName name then
        if extended && s.functions.any (·.1 == name) then unsetFunction
        else withName name name (return status)
      else
        let (own, _) := if hasOption options 'n' then (name, none) else target s referenceLimit name
        match s.bindings.find? (·.name == own) with
        | some v =>
          if v.isReadOnly && extended then
            report s!"{own}: cannot unset: readonly variable"
            return 1
          else
            unsetVariable own
            return status
        | none =>
          if extended && !hasOption options 'v' then unsetFunction
          else return status) 0

/-- Values of expressions, one after the other. -/
def «let» (arguments : List String) : Eval Nat := do
  match arguments with
  | [] => do report "expression expected"; return 1
  | _ =>
    let last ← arguments.foldlM (fun (last : Option Int64) a => do
      if last.isNone then
        return none
      match ← calculateFor "let: " a with
      | .ok n => return some n
      | .error text => do
        complain text
        return none) (some 0)
    return if last == none ∨ last == some 0 then 1 else 0

/-! ### Options and positional parameters -/

def switch (letter : Char) (on : Bool) : Eval Unit :=
  modify fun s =>
    let others := s.options.filter (· != letter)
    { s with options := if on then letter :: others else others }

def switchName (name : String) (on : Bool) : Eval Unit :=
  modify fun s =>
    let others := s.longOptions.filter (· != name)
    { s with longOptions := if on then name :: others else others }

/-- Sets or unsets an option by its letter; false if there is none. -/
def setLetter (letter : Char) (on : Bool) : Eval Bool := do
  if ← isExtended then
    let known := extendedNames.any (·.2 == some letter)
    if known then
      switch letter on
    return known
  else
    let known := optionNames.any (·.2 == letter)
    if letter = 'm' ∧ on then
      complain "can't access tty; job control turned off"
    else if known then
      switch letter on
    return known

def setLongName (name : String) (on : Bool) : Eval Bool := do
  if ← isExtended then
    match extendedNames.lookup name with
    | some (some letter) => setLetter letter on
    | some none => do
      switchName name on
      return true
    | none => return false
  else
    match optionNames.lookup name with
    | some letter => setLetter letter on
    | none => do
      let known := furtherNames.contains name
      if known then
        switchName name on
      return known

/-- A name with a state in a column of its own. -/
def shownState (width : Nat) (ending name : String) (isOn : Bool) : String :=
  let blanks := String.ofList (List.replicate (width - name.length) ' ')
  name ++ blanks ++ ending ++ (if isOn then "on" else "off") ++ "\n"

/-- Shows which options are set. -/
def showOptions (asCommands : Bool) : Eval Unit := do
  let s ← get
  if !asCommands && s.dialect == .plain then
    print "Current option settings\n"
  for (name, isOn) in optionStates s do
    if asCommands then
      let sign := if isOn then "-" else "+"
      print s!"set {sign}o {name}\n"
    else if s.dialect == .plain then
      print (shownState 16 "" name isOn)
    else
      print (shownState 15 "\t" name isOn)

/-- What is left when the options in front have been set; nothing if an option is unknown. The flag
says whether the arguments become the parameters even if there are none. -/
def setOptions (refuseOption : String → Eval Unit) :
    Nat → List String → Eval (Option (List String × Bool))
  | 0, arguments => return some (arguments, false)
  | fuel + 1, arguments => do
    match arguments with
    | [] => return some ([], false)
    | "--" :: rest => return some (rest, true)
    | "-" :: rest => do
      switch 'x' false
      switch 'v' false
      return some (rest, false)
    | a :: rest =>
      match a.toList with
      | sign :: letters =>
        if (sign ≠ '-' ∧ sign ≠ '+') ∨ letters = [] then
          return some (a :: rest, false)
        else
          let on := sign == '-'
          let mut rest := rest
          let mut isGood := true
          for letter in letters do
            if isGood then
              if letter = 'o' then
                match rest with
                | name :: others =>
                  if ← setLongName name on then
                    rest := others
                  else
                    refuseOption s!"-o {name}"
                    isGood := false
                | [] => showOptions (!on)
              else if !(← setLetter letter on) then
                let shown := String.singleton letter
                refuseOption s!"-{shown}"
                isGood := false
          if isGood then setOptions refuseOption fuel rest else return none
      | [] => return some (a :: rest, false)

/-- Sets options and positional parameters, or shows all variables. -/
def «set» (arguments : List String) : Eval Nat := do
  if arguments = [] then
    let s ← get
    for v in sortedVariables s do
      match v.text? with
      | some value =>
        let shown := match s.dialect with
          | .plain => Quoted.alternating value
          | .extended => Quoted.whereNeeded value
        print s!"{v.name}={shown}\n"
      | none => pure ()
    return 0
  else
    let extended ← isExtended
    let refuseOption (text : String) : Eval Unit := do
      if extended then
        if text.startsWith "-o " then
          report s!"{text.drop 3}: invalid option name"
        else
          report s!"{text}: invalid option"
          let _ ← tellUsage
      else
        let _ ← refuse s!"Illegal option {text}"
    match ← setOptions refuseOption (arguments.length + 1) arguments with
    | none => return 2
    | some (rest, isReset) => do
      if rest ≠ [] ∨ isReset then
        modify fun s => { s with
          arguments := rest
          place := if extended then s.place else .start }
      return 0

def shift (arguments : List String) : Eval Nat :=
  withNumber (arguments.headD "1") fun n => do
    let s ← get
    if n ≤ s.arguments.length then
      modify fun s => { s with arguments := s.arguments.drop n }
      return 0
    else if s.dialect == .extended then
      if s.longOptions.contains "shift_verbose" then
        report (arguments.headD "1" ++ ": shift count out of range")
      return 1
    else
      refuse "can't shift that many"

/-! ### Aliases -/

def shownAlias (s : State) (name text : String) : String :=
  match s.dialect with
  | .plain => s!"{name}={Quoted.alternating text}\n"
  | .extended => s!"alias {name}={Quoted.single text}\n"

def «alias» (arguments : List String) : Eval Nat := do
  let s ← get
  if arguments = [] ∨ (s.dialect == .extended ∧ arguments = ["-p"]) then
    let sorted := match s.dialect with
      | .plain => s.aliases.mergeSort fun a b => decide (bucket a.1 ≤ bucket b.1)
      | .extended => s.aliases.mergeSort fun a b => decide (a.1 ≤ b.1)
    for (name, text) in sorted do
      print (shownAlias s name text)
    return 0
  else
    arguments.foldlM (fun status a => do
      match splitValue a with
      | (name, some text) => do
        modify fun s => { s with aliases := (name, text) :: s.aliases.filter (·.1 != name) }
        return status
      | (name, none) => do
        let s ← get
        match s.aliases.lookup name with
        | some text => do print (shownAlias s name text); return status
        | none =>
          if s.dialect == .extended then report s!"{name}: not found"
          else printError s!"alias: {name} not found\n"
          return 1) 0

def unalias (arguments : List String) : Eval Nat := do
  if arguments.head? = some "-a" then
    modify fun s => { s with aliases := [] }
    return 0
  else
    arguments.foldlM (fun status name => do
      let s ← get
      if s.aliases.any (·.1 == name) then
        modify fun s => { s with aliases := s.aliases.filter (·.1 != name) }
        return status
      else
        if s.dialect == .extended then report s!"{name}: not found"
        else printError s!"unalias: {name} not found\n"
        return 1) 0

end LinkBench.Host.Shell.Builtin
