import LinkBench.Host.Shell.Steps
/-!
Running commands. The fuel bounds the depth of what runs inside of what and the number of rounds of a
loop. A command is run with the knowledge whether the shell ends behind it; if so, a program takes the
place of the shell.
-/

namespace LinkBench.Host.Shell

namespace Eval

/-- The descriptor that the shell opens scripts under. -/
def scriptDescriptor : Nat := 255

/-- The bytes of a script. -/
def readScript (path : String) : Eval (Except IoError Bytes) := do
  let result : Except IoError Unit ←
    ask (.openAt scriptDescriptor (Proc.pathOf path) .read)
  match result with
  | .error e => return .error e
  | .ok () => do
    let bytes ← ofProc (Proc.readAll scriptDescriptor)
    ask (.close scriptDescriptor)
    return bytes

mutual

/-- Takes the word `command` and its options away from a command that they stand in front of. Yields
what is left, and whether the word was there. -/
def withoutCommandWord (isFunction : String → Bool) : Bool → List String → Bool × List String
  | found, [] => (found, [])
  | found, name :: rest =>
    if name = "command" ∧ !isFunction name then
      (behindCommandWord isFunction rest).getD (found, name :: rest)
    else
      (found, name :: rest)

/-- What stands behind the word, unless that is to be described. -/
def behindCommandWord (isFunction : String → Bool) : List String → Option (Bool × List String)
  | [] => none
  | "-p" :: rest => behindCommandWord isFunction rest
  | "--" :: name :: rest => some (true, name :: rest)
  | name :: rest =>
    if name.startsWith "-" ∧ name ≠ "-" then none
    else some (withoutCommandWord isFunction true (name :: rest))

end

mutual

/-- Runs the commands of a text; without any, the status is zero. -/
def commandText : Nat → Bool → Origin → Nat → String → Eval Unit
  | 0, _, _, _, _ => fatal "too many commands inside of each other"
  | fuel + 1, isLast, origin, line, text => do
    let source := Source.ofText (← get).dialect text
    withState (fun s => { s with lineShift := 0, traceDepth := s.traceDepth + 1 })
      (fun s t => { t with
        lastLine := s.lastLine, lineShift := s.lineShift, traceDepth := s.traceDepth })
      (commandsFrom fuel isLast origin false { source with line })

/-- Runs the commands that are left of a script. -/
def commandsFrom : Nat → Bool → Origin → Bool → Source → Eval Unit
  | 0, _, _, _, _ => return
  | fuel + 1, isLast, origin, hasRun, source => do
    let s ← get
    let start := { source with
      aliases := if s.dialect == .plain || s.longOptions.contains "expand_aliases" then s.aliases else []
      documents := [], nextDocument := s.nextDocument, warnings := []
      knowsGroups := s.longOptions.contains "extglob" }
    match Read.complete.run start with
    | .error f => do
      echoRead origin (start.rest.take (start.rest.length - f.left))
      if ← complainSyntax origin start.rest start.line f then
        let place := start.rest.length - f.left - 1
        let behind := ((start.rest.drop place).dropWhile (· != '\n')).drop 1
        let line := (f.offence start.rest start.line).1 + 1
        if !behind.isEmpty then
          commandsFrom fuel isLast origin true
            { start with rest := behind, line, token := none, pending := [] }
    | .ok (c, source) => do
      echoRead origin (start.rest.take (start.rest.length - source.rest.length))
      warn source.warnings
      modify fun s => { s with
        documents := source.documents ++ s.documents
        nextDocument := source.nextDocument
        lastLine := source.line }
      let isEnd := source.token matches some .endOfFile
      match c with
      | some c => do
        if s.dialect == .extended && s.subshellDepth == 0 then
          match ← attempt (command fuel (isLast && isEnd) c) with
          | none => pure ()
          | some .discarded => setStatus 1
          | some j => jump j
        else
          command fuel (isLast && isEnd) c
      | none =>
        if isEnd ∧ !hasRun then
          setStatus 0
      if !isEnd then
        commandsFrom fuel isLast origin (hasRun || c.isSome) source

/-- Runs the commands of the signals that have come in. -/
def runTraps : Nat → Eval Unit
  | 0 => return
  | fuel + 1 => do
    let _ ← Builtin.collectSignals
    let s ← get
    match s.caught with
    | [] => return
    | signal :: rest => do
      modify fun s => { s with caught := rest }
      match s.traps.lookup signal with
      | some action =>
        if action ≠ "" then
          modify fun s => { s with isGuarded := false, isHandling := true }
          commandText fuel false (.text "trap") 1 action
          modify fun t => { t with isGuarded := s.isGuarded, isHandling := s.isHandling }
          setStatus s.status
      | none => pure ()
      runTraps fuel

/-- Runs what is to be done at an event, if anything is, and gives the status back. -/
def runEvent : Nat → Nat → Eval Unit
  | 0, _ => return
  | fuel + 1, event => do
    let s ← get
    match s.traps.lookup event with
    | some action => do
      if action ≠ "" then
        set { s with
          traps := s.traps.filter (·.1 != event), isGuarded := true, isHandling := true }
        commandText fuel false (.text (eventText event)) s.line action
        modify fun t => { t with
          isGuarded := s.isGuarded
          isHandling := s.isHandling
          line := s.line
          stageStatuses := s.stageStatuses
          traps := if (t.traps.lookup event).isSome then t.traps else (event, action) :: t.traps }
        setStatus s.status
    | none => return
where
  /-- What is done at an event, in messages. -/
  eventText (event : Nat) : String :=
    if event = Signal.step then "debug trap"
    else if event = Signal.failure then "error trap"
    else "return trap"

/-- Does what is to be done behind a command that has failed, and leaves the shell if that is asked
for. -/
def checkFailure : Nat → Eval Unit
  | 0 => return
  | fuel + 1 => do
    let s ← get
    if !s.isGuarded && s.status != 0 then
      runEvent fuel Signal.failure
      if s.options.contains 'e' then
        jump .exit

/-- Runs a part as all that a process does; at its end comes what is asked for at the exit. -/
def asProcess : Nat → Eval Unit → Eval Unit
  | 0, _ => return
  | fuel + 1, body => do
    let _ ← attempt body
    let _ ← attempt (runTraps fuel)
    let s ← get
    match s.traps.lookup 0 with
    | some action => do
      set { s with traps := s.traps.filter (·.1 != 0), isGuarded := false, isHandling := true }
      match ← attempt (commandText fuel false (.text "exit trap") 1 action) with
      | some .exit => return
      | _ => setStatus s.status
    | none => return

def command : Nat → Bool → Command → Eval Unit
  | 0, _, _ => fatal "too many commands inside of each other"
  | fuel + 1, isLast, c => do
    if (← get).options.contains 'n' then
      return
    match c with
    | .skip => return
    | .simple line assignments words redirects => do
      runTraps fuel
      setLine line
      announce fuel fun documents => Layout.shownCommand documents c
      let connections := (← get).connections
      simple fuel isLast line assignments words redirects
      closeConnections connections
      modify fun s => { s with stageStatuses := [s.status] }
      checkFailure fuel
    | .group c => command fuel isLast c
    | .timed isPlain c => do
      command fuel false c
      printError (if isPlain then "real 0.00\nuser 0.00\nsys 0.00\n"
        else "\nreal\t0m0.000s\nuser\t0m0.000s\nsys\t0m0.000s\n")
    | .pipeline stages => do
      runTraps fuel
      prepareStages stages
      awaitStages (← startStages fuel none stages)
      runTraps fuel
      checkFailure fuel
    | .negate c => do
      asCondition (command fuel false c)
      setStatus (if (← get).status = 0 then 1 else 0)
    | .both first second => do
      asCondition (command fuel false first)
      if (← get).status = 0 then
        command fuel isLast second
    | .either first second => do
      asCondition (command fuel false first)
      if (← get).status ≠ 0 then
        command fuel isLast second
    | .sequence first second => do
      command fuel false first
      command fuel isLast second
    | .background c => do
      let child ← fork (do
        modify fun s => { s with isGuarded := false }
        ask (.setAction Signal.interrupt .ignore)
        ask (.setAction Signal.quit .ignore)
        let _ ← ask (.openAt Proc.standardInput (Proc.pathOf "/dev/null") .read)
        asProcess fuel (command fuel true c))
      let s ← get
      let text := if s.dialect == .plain then "" else Layout.shownCommand s.documents c
      addJob child (match c with
        | .pipeline stages => stages.length
        | _ => 1) text
    | .subshell line body redirects => do
      runTraps fuel
      setLine line
      let inner : Eval Unit := do
        match ← redirect (asProcessOf fuel) redirects with
        | none => jump .mistake
        | some _ => command fuel true body
      if isLast && !(← hasTraps) then
        modify fun s => { s with subshellDepth := s.subshellDepth + 1 }
        inner
      else
        let child ← fork (asProcess fuel inner)
        awaitChild child
        modify fun s => { s with stageStatuses := [s.status] }
        runTraps fuel
        checkFailure fuel
    | .conditional test yes no => do
      asCondition (command fuel false test)
      if (← get).status = 0 then
        command fuel isLast yes
      else
        match no with
        | some no => command fuel isLast no
        | none => setStatus 0
    | .loop untilSuccess test body => insideLoop (loop fuel untilSuccess test body 0)
    | .each line name words body => do
      setLine line
      if (← isExtended) && !isName name then
        complain s!"\x60{name}': not a valid identifier"
        return ← setStatus 1
      let texts ← listed fuel words
      setStatus 0
      insideLoop (each fuel (Layout.shownHead "for" name words) line name body texts)
    | .pick line name words body => do
      setLine line
      if !isName name then
        complain s!"\x60{name}': not a valid identifier"
        return ← setStatus 1
      let texts ← listed fuel words
      setStatus 0
      if !texts.isEmpty then
        announce fuel fun _ => Layout.shownHead "select" name words
        if ← isExtended then
          traceLine (asProcessOf fuel) (Layout.shownHead "select" name words)
        insideLoop (pick fuel name body texts true)
    | .partner line name c => do
      setLine line
      let (childReader, writer) : Nat × Nat ← ask .pipe
      let (reader, childWriter) : Nat × Nat ← ask .pipe
      let child ← fork (do
        modify fun s => { s with isGuarded := false }
        ask (.close writer)
        ask (.close reader)
        let _ ← ask (.duplicate childReader Proc.standardInput)
        ask (.close childReader)
        let _ ← ask (.duplicate childWriter Proc.standardOutput)
        ask (.close childWriter)
        asProcess fuel (command fuel true c))
      ask (.close childReader)
      ask (.close childWriter)
      let ownReader ← moveHigh reader
      let ownWriter ← moveHigh writer
      setList name [toString ownReader, toString ownWriter]
      setVariable (name ++ "_PID") (toString child)
      addJob child 1 ""
    | .choose line subject arms => do
      setLine line
      announce fuel fun _ => Layout.shownChoice subject
      if ← isExtended then
        traceLine (asProcessOf fuel) s!"case {subject.1} in"
      let text ← singleText (asProcessOf fuel) subject.2
      choose fuel isLast text arms
    | .define name body => do
      modify fun s => { s with
        functions := (name, ⟨body, (s.calls.head?.map (·.source)).getD "environment", false⟩) ::
          s.functions.filter (·.1 != name)
        status := 0 }
    | .redirected line c redirects => do
      setLine line
      let connections := (← get).connections
      withRedirects (asProcessOf fuel) redirects (command fuel false c)
      closeConnections connections
    | .compute line expression => do
      setLine line
      announce fuel fun _ => Layout.shownExpression expression.1
      let text ← singleText (asProcessOf fuel) expression.2
      traceLine (asProcessOf fuel) (Layout.shownExpression text)
      match ← calculateFor "((: " text with
      | .ok n => setStatus (if n == 0 then 1 else 0)
      | .error text => do
        complain text
        setStatus 1
      modify fun s => { s with stageStatuses := [s.status] }
      checkFailure fuel
    | .count line start test step body => do
      setLine line
      let value (w : Written) : Eval (Option Int64) := do
        announce fuel fun _ => Layout.shownExpression w.1
        let text ← singleText (asProcessOf fuel) w.2
        if !w.2.isEmpty then
          traceLine (asProcessOf fuel) (Layout.shownExpression text)
        match ← calculateFor "((: " text with
        | .ok n => return some n
        | .error text => do
          complain text
          return none
      match ← value start with
      | none => setStatus 1
      | some _ => do
        setStatus 0
        insideLoop (count fuel (value test) (value step) test.2.isEmpty body)
    | .check line condition => do
      setLine line
      announce fuel fun documents => Layout.shownCommand documents c
      let holds ← checkCondition (asProcessOf fuel) "" condition
      setStatus (match holds with
        | some true => 0
        | some false => 1
        | none => 2)
      modify fun s => { s with stageStatuses := [s.status] }
      checkFailure fuel

/-- Takes note of a command that is about to run, and does what is to be done at each step. -/
def announce : Nat → (List (Nat × Written) → String) → Eval Unit
  | 0, _ => return
  | fuel + 1, text => do
    let s ← get
    if s.dialect == .extended then
      if !s.isHandling then
        set { s with current := text s.documents }
      runEvent fuel Signal.step

/-- The texts that a loop is over. -/
def listed : Nat → Option (List Written) → Eval (List String)
  | 0, _ => return []
  | fuel + 1, words => do
    match words with
    | some words => argumentsOf (asProcessOf fuel) (words.map (·.2))
    | none => return (← get).arguments

/-- Runs a command as all that a process does. -/
def asProcessOf : Nat → Command → Eval Unit
  | 0, _ => return
  | fuel + 1, c => asProcess fuel (command fuel true c)

/-- Starts the stages of a pipeline, the first of them reading from a descriptor if one is given. -/
def startStages : Nat → Option Nat → List Command → Eval (List Nat)
  | 0, _, _ | _, _, [] => return []
  | fuel + 1, input, c :: rest => do
    -- the failure of a whole stage is an affair of the pipeline
    let asStage (body : Eval Unit) : Eval Unit := do
      if c matches .simple .. then
        modify fun s => { s with traps := s.traps.filter (·.1 != Signal.failure) }
      body
    let takeInput : Eval Unit := do
      match input with
      | some descriptor => do
        let _ ← ask (.duplicate descriptor Proc.standardInput)
        ask (.close descriptor)
      | none => return
    let dropInput : Eval Unit := do
      match input with
      | some descriptor => ask (.close descriptor)
      | none => return
    match rest with
    | [] => do
      let child ← fork (do
        takeInput
        asProcess fuel (asStage (command fuel true c)))
      dropInput
      return [child]
    | rest => do
      let (reader, writer) : Nat × Nat ← ask .pipe
      let child ← fork (do
        ask (.close reader)
        takeInput
        let _ ← ask (.duplicate writer Proc.standardOutput)
        ask (.close writer)
        asProcess fuel (asStage (command fuel true c)))
      dropInput
      ask (.close writer)
      let others ← startStages fuel (some reader) rest
      return child :: others

/-- Goes on with a loop; the status is that of the last round. -/
def loop : Nat → Bool → Command → Command → Nat → Eval Unit
  | 0, _, _, _, _ => return
  | fuel + 1, untilSuccess, test, body, last => do
    match ← attempt (asCondition (command fuel false test)) with
    | some j =>
      match loopJump j with
      | .ok true => loop fuel untilSuccess test body last
      | .ok false => setStatus last
      | .error j => jump j
    | none => do
      let isMet := (← get).status == 0
      if isMet == untilSuccess then
        setStatus last
      else if ← loopRound (command fuel false body) then
        loop fuel untilSuccess test body (← get).status

/-- Goes on with a loop over texts, whose head is shown again for each of them. -/
def each : Nat → String → Nat → String → Command → List String → Eval Unit
  | 0, _, _, _, _, _ | _, _, _, _, _, [] => return
  | fuel + 1, head, line, name, body, text :: rest => do
    if ← isExtended then
      setLine line
      announce fuel fun _ => head
      traceLine (asProcessOf fuel) head
    match ← attempt (setVariable name text) with
    | some .discarded => setStatus 1
    | some j => jump j
    | none => do
      if ← loopRound (command fuel false body) then
        each fuel head line name body rest

/-- Lets the user pick one of the texts again and again. -/
def pick : Nat → String → Command → List String → Bool → Eval Unit
  | 0, _, _, _, _ => return
  | fuel + 1, name, body, texts, showsMenu => do
    if showsMenu then
      printError (Builtin.menu texts)
    printError ((← value? "PS3").getD "#? ")
    let status ← Builtin.read []
    let reply := (← value? "REPLY").getD ""
    if status ≠ 0 then
      Eval.print "\n"
      setStatus 1
    else if reply = "" then
      pick fuel name body texts true
    else
      let number := (Arithmetic.integer reply).toOption.map Int64.toInt
      let text := match number with
        | some n => if 0 < n then (texts[n.toNat - 1]?).getD "" else ""
        | none => ""
      setVariable name text
      if ← loopRound (command fuel false body) then
        pick fuel name body texts ((← value? "REPLY").getD "" == "")

/-- Goes on with a loop over numbers. -/
def count : Nat → Eval (Option Int64) → Eval (Option Int64) → Bool → Command → Eval Unit
  | 0, _, _, _, _ => return
  | fuel + 1, test, step, isEndless, body => do
    match ← test with
    | none => setStatus 1
    | some n => do
      if isEndless || n != 0 then
        if ← loopRound (command fuel false body) then
          match ← step with
          | none => setStatus 1
          | some _ => count fuel test step isEndless body

/-- Runs the first command one of whose patterns the text has the form of, and those that it goes on
with. -/
def choose : Nat → Bool → String → List (List Written × Command × ArmEnd) → Eval Unit
  | 0, _, _, _ | _, _, _, [] => setStatus 0
  | fuel + 1, isLast, text, (patterns, c, ending) :: rest => do
    if ← fits fuel text patterns then
      arm fuel isLast text c ending rest
    else
      choose fuel isLast text rest

/-- Runs the command of an arm that has been chosen. -/
def arm : Nat → Bool → String → Command → ArmEnd → List (List Written × Command × ArmEnd) → Eval Unit
  | 0, _, _, _, _, _ => return
  | fuel + 1, isLast, text, c, ending, rest => do
    match c with
    | .skip => setStatus 0
    | c => command fuel (isLast && ending == .leave) c
    match ending, rest with
    | .fallThrough, (_, c, ending) :: rest => arm fuel isLast text c ending rest
    | .tryNext, _ :: _ => do
      let status := (← get).status
      tryRest fuel isLast text status rest
    | _, _ => return

/-- Tries further arms; if none is chosen the status stays. -/
def tryRest : Nat → Bool → String → Nat → List (List Written × Command × ArmEnd) → Eval Unit
  | 0, _, _, _, _ | _, _, _, _, [] => return
  | fuel + 1, isLast, text, status, (patterns, c, ending) :: rest => do
    if ← fits fuel text patterns then
      arm fuel isLast text c ending rest
    else
      tryRest fuel isLast text status rest

def fits : Nat → String → List Written → Eval Bool
  | 0, _, _ | _, _, [] => return false
  | fuel + 1, text, w :: rest => do
    if ← hasForm (asProcessOf fuel) false text w.2 then return true else fits fuel text rest

/-- Runs a command that is not put together of others. -/
def simple : Nat → Bool → Nat → List (String × Assignment) → List Written → List Redirect → Eval Unit
  | 0, _, _, _, _, _ => return
  | fuel + 1, isLast, line, assignments, words, redirects => do
    let run := asProcessOf fuel
    setLine line
    modify fun s => { s with substitutionStatus := none }
    let extended ← isExtended
    match ← commandArguments run words with
    | [] => do
      modify fun s => { s with lastArgument := "" }
      let assignAll : Eval Unit := do
        for a in assignments do
          assign run a
        if !extended && !assignments.isEmpty then
          trace run assignments []
      -- the extended dialect assigns before it redirects
      if extended then
        assignAll
      match ← redirect run redirects with
      | none => return
      | some saved => do
        ensuring (if extended then pure () else assignAll) (restore saved)
        setStatus ((← get).substitutionStatus.getD 0)
    | arguments => do
      let s ← get
      modify fun s => { s with lastArgument := arguments.getLast?.getD "" }
      let isFunction (name : String) : Bool := s.functions.any (·.1 == name)
      let (viaCommand, inner) := withoutCommandWord isFunction false arguments
      let (viaCommand, inner) := match extended, inner with
        | true, "builtin" :: first :: rest => (true, first :: rest)
        | _, inner => (viaCommand, inner)
      let name := inner.headD ""
      let function? := if viaCommand then none else s.functions.lookup name
      let execute : Eval Unit := do
        match function? with
        | some f => callFunction fuel name f inner.tail
        | none =>
          if isBuiltin s.dialect name && !s.disabled.contains name then
            asBuiltin name false (do
              let status ← builtin fuel name inner.tail
              if isDeclaration name then
                assignDeclared run words
              return status)
          else
            program fuel isLast viaCommand inner
      let isExec := name == "exec" && function?.isNone
      let finish (saved : Saved) : Eval Unit := if isExec then forget saved else restore saved
      let framed (body : Eval Unit) : Eval Unit :=
        if assignments.isEmpty && function?.isNone then body else inFrame body
      if extended then
        framed do
          assignForNow run assignments
          traceWords run arguments
          match ← redirect run redirects with
          | none => return
          | some saved => ensuring execute (finish saved)
      else
        let special := isSpecial s.dialect name && function?.isNone && !viaCommand
        match ← redirect run redirects with
        | none =>
          if special then
            jump .mistake
        | some saved => do
          if special then
            ensuring (do
              for a in assignments do
                assign run a
                if name = "exec" ∧ 1 < inner.length then
                  exportVariable (assignedName a.2)
              trace run assignments inner
              asBuiltin name true (builtin fuel name inner.tail))
              (finish saved)
          else
            ensuring (framed do
                assignForNow run assignments
                trace run assignments inner
                execute)
              (finish saved)

/-- Runs a function with arguments. -/
def callFunction : Nat → String → Function → List String → Eval Unit
  | 0, _, _, _ => return
  | fuel + 1, name, f, arguments => do
    if functionLimit ≤ (← get).functionDepth then
      fatal s!"Maximum function recursion depth ({functionLimit}) reached"
    asFunction ⟨name, f.source, (← get).line⟩ arguments (do
      match ← attempt (command fuel false f.body) with
      | none | some .returned => runEvent fuel Signal.return
      | some j => jump j)

/-- Runs a program and waits for its end, or becomes it. -/
def program : Nat → Bool → Bool → List String → Eval Unit
  | 0, _, _, _ => return
  | fuel + 1, isLast, viaCommand, arguments => do
    let name := arguments.headD ""
    let found ← if name.contains '/' then pure (.ok name) else locate name
    match found with
    | .error e => do
      let s ← get
      if s.dialect == .extended && !viaCommand then
        if let some f := s.functions.lookup "command_not_found_handle" then
          return ← callFunction fuel "command_not_found_handle" f arguments
      complain (match s.dialect with
        | .plain => s!"{name}: {execFault s.dialect e}"
        | .extended => s!"{name}: command not found")
      setStatus 127
    | .ok _ => do
      if isLast && !(← hasTraps) then
        become arguments
      else
        let child ← fork (become arguments)
        awaitChild child
        runTraps fuel

/-- Does what a command of the shell is asked for. -/
def builtin : Nat → String → List String → Eval Nat
  | 0, _, _ => return 2
  | fuel + 1, name, arguments => do
    let s ← get
    let extended := s.dialect == .extended
    match name with
    | "eval" => do
      let arguments := if extended ∧ arguments.head? = some "--" then arguments.tail else arguments
      commandText fuel false (.text "eval") (if extended then s.line else 1)
        (String.intercalate " " arguments)
      return (← get).status
    | "." | "source" => sourceFile fuel arguments
    | "exec" => do
      let arguments := if arguments.head? = some "--" then arguments.tail else arguments
      if !arguments.isEmpty then
        become arguments
      return 0
    | "exit" => askedStatus arguments .exit
    | "return" => do
      if extended ∧ s.functionDepth = 0 ∧ s.sourceDepth = 0 then
        report "can only \x60return' from a function or sourced script"
        return 2
      askedStatus arguments .returned
    | "break" | "continue" => leaveLoop name arguments
    | "type" => describeAll arguments
    | "hash" => hashCommands arguments
    | "enable" => enable arguments
    | "command" =>
      Builtin.withOptions "pvV" arguments fun options names => do
        (if extended then names else names.take 1).foldlM (fun status name => do
          let result ← describe (Builtin.hasOption options 'V') name
          return max status result) 0
    | "builtin" => return 0
    | _ =>
      match ordinary? s.dialect name with
      | some f => do
        let status ← f arguments
        if name = "kill" then
          setStatus status
          runTraps fuel
        return status
      | none => return 127

/-- Runs the commands of a file. -/
def sourceFile : Nat → List String → Eval Nat
  | 0, _ => return 2
  | fuel + 1, arguments => do
    let s ← get
    let extended := s.dialect == .extended
    let arguments := if arguments.head? = some "--" then arguments.tail else arguments
    match arguments with
    | [] =>
      if extended then
        report "filename argument required"
        printError ".: usage: . filename [arguments]\n"
        return 2
      else
        return 0
    | name :: rest => do
      let script : Except String (String × String) ← match ← scriptPath name with
        | .error _ => pure (.error s!"{name}: not found")
        | .ok path => do
          match ← readScript path with
          | .ok bytes => pure (.ok (path, scriptText bytes))
          | .error .isADirectory => pure (if extended then .error s!"{name}: is a directory" else .ok (path, ""))
          | .error e => pure (.error (openFault s .read name e))
      match script with
      | .error reason =>
        if extended then
          complain s!"{name}: {IoError.notFound.reason}"
          return 1
        else
          refuse reason
      | .ok (path, text) => do
        let left ← withState
          (fun s => { s with
            speaker := some path
            calls := ⟨"source", path, s.line⟩ :: s.calls
            sourceDepth := s.sourceDepth + 1
            arguments := if extended && !rest.isEmpty then rest else s.arguments })
          (fun s t => { t with
            speaker := s.speaker
            calls := s.calls
            sourceDepth := s.sourceDepth
            arguments := if extended && !rest.isEmpty then s.arguments else t.arguments })
          (attempt (commandText fuel false .file 1 text))
        match left with
        | none | some .returned => return (← get).status
        | some j => jump j

end

end Eval

end LinkBench.Host.Shell
