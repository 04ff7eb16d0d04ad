import LinkBench.Launch.Executable
import LinkBench.Host.Signal
import LinkBench.Host.Utility.Amount
/-!
Programs that start other programs: with another environment, for a limited time, or with arguments
that come from the standard input.
-/

namespace LinkBench.Host.Utility

open Options

/-! ### Becoming another program -/

/-- Where programs are looked for if the environment does not say it. -/
def defaultSearch : String := "/bin:/usr/bin"

/-- The paths that a name may stand for. -/
def searchPaths (environment : Environment) (name : String) : List Path :=
  if name.contains '/' then [Proc.pathOf name]
  else if name = "" then []
  else
    (Launch.Executable.searchList ((environment.lookup "PATH").getD defaultSearch)).map fun dir =>
      dir.join (Proc.pathOf name)

def shellPath : String := "/bin/sh"

/-- Becomes the first program that can be started; a script that names no interpreter is one of the
shell. Yields why there is none. -/
def becomeFirst (arguments : List String) (environment : Environment) :
    IoError → List Path → Proc IoError
  | e, [] => return e
  | e, path :: rest => do
    match ← Proc.exec path arguments environment with
    | .execFormat =>
      Proc.exec (.ofString shellPath)
        (shellPath :: ByteText.encode path.text :: arguments.tail) environment
    | .notFound => becomeFirst arguments environment e rest
    | .notADirectory =>
      if rest.isEmpty ∧ e = .notFound then return .notADirectory
      else becomeFirst arguments environment e rest
    | other => becomeFirst arguments environment other rest

/-- Becomes the program that the first argument names. -/
def become (arguments : List String) (environment : Environment) : Proc IoError :=
  becomeFirst arguments environment .notFound (searchPaths environment (arguments.headD ""))

/-- The status of a program that could not start another one. -/
def startStatus (e : IoError) : Nat :=
  if e = .notFound then 127 else 126

/-- Becomes another program, or complains with the given words. -/
def becomeOr (command message : String) (arguments : List String) (environment : Environment) :
    Proc Nat := do
  let e ← become arguments environment
  failWith command s!"{message}: {e.reason}" (startStatus e)

/-- Ends by a signal. -/
def endBySignal (signal : Nat) : Proc Nat := do
  (Proc.request (.setAction signal .byDefault) : Proc Unit)
  let self : Nat ← Proc.request .ownId
  let _ ← (Proc.request (.kill self signal) : Proc (Except IoError Unit))
  return 128 + signal

/-! ### The environment -/

namespace EnvironmentText

/-- A character behind a backslash; `none` ends the text. -/
def escaped (inQuotes : Bool) (c : Char) : Option (List Char) :=
  match c with
  | 'f' => some ['\x0c']
  | 'n' => some ['\n']
  | 'r' => some ['\r']
  | 't' => some ['\t']
  | 'v' => some ['\x0b']
  | '_' => some [' ']
  | 'c' => none
  | '#' | '$' | '"' | '\'' | '\\' => some [c]
  | c => some (if inQuotes then ['\\', c] else [c])

/-- The value of a parameter in braces behind a dollar sign, and what follows. -/
def parameter (environment : Environment) (cs : List Char) : List Char × List Char :=
  match cs with
  | '\x7b' :: rest =>
    let name := rest.takeWhile (· != '\x7d')
    (((environment.lookup (String.ofList name)).getD "").toList, rest.drop (name.length + 1))
  | cs => (['$'], cs)

/-- Where in a word the reader is. -/
inductive Mode
  | between
  | plain
  | single
  | double

def isBlank (c : Char) : Bool := c == ' ' || ('\t' ≤ c && c ≤ '\r')

/-- Splits a text into words: `word` is the one under way, backward. The fuel bounds the length. -/
def split (environment : Environment) : Nat → Mode → List Char → List Char → List String
  | 0, _, _, _ => []
  | fuel + 1, mode, word, cs =>
    let done (word : List Char) : List String := [String.ofList word.reverse]
    let next := split environment fuel
    match mode, cs with
    | .between, [] => []
    | .plain, [] | .single, [] | .double, [] => done word
    | .between, '#' :: _ => []
    | .between, c :: rest =>
      if isBlank c then next .between [] rest else next .plain [] (c :: rest)
    | .plain, '\'' :: rest => next .single word rest
    | .plain, '"' :: rest => next .double word rest
    | .plain, '\\' :: '_' :: rest => done word ++ next .between [] rest
    | .plain, '\\' :: c :: rest =>
      match escaped false c with
      | some shown => next .plain (shown.reverse ++ word) rest
      | none => done word
    | .plain, '$' :: rest =>
      let (value, rest) := parameter environment rest
      next .plain (value.reverse ++ word) rest
    | .plain, c :: rest =>
      if isBlank c then done word ++ next .between [] rest else next .plain (c :: word) rest
    | .single, '\'' :: rest => next .plain word rest
    | .single, '\\' :: '\'' :: rest => next .single ('\'' :: word) rest
    | .single, c :: rest => next .single (c :: word) rest
    | .double, '"' :: rest => next .plain word rest
    | .double, '\\' :: c :: rest =>
      match escaped true c with
      | some shown => next .double (shown.reverse ++ word) rest
      | none => done word
    | .double, '$' :: rest =>
      let (value, rest) := parameter environment rest
      next .double (value.reverse ++ word) rest
    | .double, c :: rest => next .double (c :: word) rest

def words (environment : Environment) (text : String) : List String :=
  split environment (2 * text.length + 2) .between [] text.toList

/-- Puts the words of a text in the place of the option that asks for it, if that comes first among
the arguments. -/
def expand (environment : Environment) (arguments : List String) : List String :=
  match arguments with
  | "-S" :: text :: rest | "--split-string" :: text :: rest => words environment text ++ rest
  | a :: rest =>
    if a.startsWith "--split-string=" then words environment (a.drop 15).toString ++ rest
    else
      match a.toList with
      | '-' :: 'S' :: text => words environment (String.ofList text) ++ rest
      | '-' :: 'v' :: 'S' :: text => words environment (String.ofList text) ++ rest
      | '-' :: 'i' :: 'S' :: text => "-i" :: (words environment (String.ofList text) ++ rest)
      | _ => arguments
  | [] => []

/-- Sets a variable; one that exists keeps its place. -/
def set (name value : String) : Environment → Environment
  | [] => [(name, value)]
  | x :: rest => if x.1 = name then (name, value) :: rest else x :: set name value rest

end EnvironmentText

/-- A name and a value that an argument gives. -/
def assignment? (a : String) : Option (String × String) :=
  let cs := a.toList
  let name := cs.takeWhile (· != '=')
  if name.length = cs.length then none
  else some (String.ofList name, String.ofList (cs.drop (name.length + 1)))

def envFlags : List Flag :=
  [flag "i" "ignore-environment", valued "u" "unset", flag "0" "null", valued "C" "chdir",
    valued "S" "split-string", flag "v" "debug"]

/-- Complains about an option of `env`; a blank among its letters hints at a line of a script. -/
def refuseEnv (command : String) (f : OptionFault) : Proc Nat := do
  complain command f.message
  if let .unknownLetter c := f then
    if EnvironmentText.isBlank c then
      complain command "use -[v]S to pass options in shebang lines"
  suggestHelp command
  return 125

def env (arguments : List String) (environment : Environment) : Proc Nat := do
  let command := arguments.headD ""
  let rest := EnvironmentText.expand environment arguments.tail
  let (isBare, rest) := if rest.head? = some "-" then (true, rest.tail) else (false, rest)
  match Options.read envFlags false rest with
  | .error f => refuseEnv command f
  | .ok (given, operands) =>
    let isBare := isBare || given.has "i" || operands.head? == some "-"
    let operands := if operands.head? = some "-" then operands.tail else operands
    let base := if isBare then [] else environment
    let base := base.filter fun x => !(given.all "u").contains x.1
    let assignments := (operands.takeWhile fun a => (assignment? a).isSome).filterMap assignment?
    let environment := assignments.foldl
      (fun e (name, value) => EnvironmentText.set name value e) base
    let words := operands.drop assignments.length
    if let some dir := given.last? "C" then
      let moved : Except IoError Unit ← Proc.request (.changeDir (Proc.pathOf dir))
      if let .error e := moved then
        return ← failWith command
          s!"cannot change directory to {Quoting.always dir}: {e.reason}" 125
    match words with
    | [] =>
      let ending := if given.has "0" then "\x00" else "\n"
      emit command (String.join (environment.map fun (name, value) =>
        s!"{name}={value}{ending}")) 0
    | name :: _ =>
      if given.has "0" then
        refuseUse command "cannot specify --null (-0) with command" 125
      else
        let e ← become words environment
        complain command s!"{Quoting.quoted name}: {e.reason}"
        if e = .notFound ∧ name.toList.any EnvironmentText.isBlank then
          complain command "use -[v]S to pass options in shebang lines"
        return startStatus e

def printenv (arguments : List String) (environment : Environment) : Proc Nat :=
  withOptions [flag "0" "null"] false 2 arguments fun command given operands => do
    let ending := if given.has "0" then "\x00" else "\n"
    if operands.isEmpty then
      emit command (String.join (environment.map fun (name, value) =>
        s!"{name}={value}{ending}")) 0
    else
      let values := operands.map fun name => environment.lookup name
      emit command (String.join (values.filterMap fun value => value.map (· ++ ending)))
        (if values.any Option.isNone then 1 else 0)

def which (arguments : List String) (environment : Environment) : Proc Nat :=
  withOptions [flag "a" ""] false 1 arguments fun command given operands => do
    let w ← Proc.view
    let isProgram (p : Path) : Bool :=
      match w.files.stat w.cwd p with
      | .ok (.file _ executable) => executable
      | _ => false
    let found := operands.map fun name => (searchPaths environment name).filter isProgram
    let shown := found.flatMap fun paths => if given.has "a" then paths else paths.take 1
    emit command (joinLines (shown.map fun p => ByteText.encode p.text))
      (if operands.isEmpty || found.any List.isEmpty then 1 else 0)

/-! ### Other conditions -/

def nice (arguments : List String) (environment : Environment) : Proc Nat := do
  let command := arguments.headD ""
  let isOld (a : String) : Bool :=
    match a.toList with
    | '-' :: d :: _ => d.isDigit
    | _ => false
  let arguments := match arguments.tail with
    | a :: rest => if isOld a then command :: "-n" :: (a.drop 1).toString :: rest else arguments
    | [] => arguments
  withOptions [valued "n" "adjustment"] false 125 arguments fun command given operands => do
    match given.last? "n" with
    | some text =>
      if text.toInt?.isNone then
        return ← failWith command s!"invalid adjustment {Quoting.quoted text}" 125
    | none => pure ()
    match operands with
    | [] =>
      if given.isEmpty then emit command "0\n" 0
      else refuseUse command "a command must be given with an adjustment" 125
    | name :: _ => becomeOr command (Quoting.quoted name) operands environment

def nohup (arguments : List String) (environment : Environment) : Proc Nat :=
  withOptions [] false 125 arguments fun command _ operands => do
    match operands with
    | [] => refuseUse command "missing operand" 125
    | name :: _ =>
      (Proc.request (.setAction Signal.hangUp .ignore) : Proc Unit)
      becomeOr command s!"failed to run command {Quoting.quoted name}" operands environment

def setsid (arguments : List String) (environment : Environment) : Proc Nat :=
  withOptions [flag "w" "wait", flag "f" "fork", flag "c" "ctty"] false 1 arguments
    fun command _ operands => do
      match operands with
      | [] => refuseUse command "no command specified" 1
      | name :: _ => becomeOr command s!"failed to execute {name}" operands environment

def stdbuf (arguments : List String) (environment : Environment) : Proc Nat :=
  let flags := [valued "i" "input", valued "o" "output", valued "e" "error"]
  withOptions flags false 125 arguments fun command given operands => do
    match operands with
    | [] => refuseUse command "missing operand" 125
    | name :: _ =>
      if given.isEmpty then
        refuseUse command "you must specify a buffering mode option" 125
      else
        becomeOr command s!"failed to run command {Quoting.quoted name}" operands environment

/-! ### A limited time -/

def sleep (arguments : List String) : Proc Nat :=
  withOptions [] true 1 arguments fun command _ operands => do
    if operands.isEmpty then
      return ← missingOperand command
    let bad := operands.filter fun a => (Amount.interval? a).isNone
    if bad.isEmpty then
      let total := (operands.filterMap Amount.interval?).foldl (fun n d => n + d.nanoseconds) 0
      (Proc.request (.sleep ⟨total⟩) : Proc Unit)
      return 0
    else
      for a in bad do
        complain command s!"invalid time interval {Quoting.quoted a}"
      suggestHelp command
      return 1

/-- Sends signals to a process when their time has come. -/
def alarm (target : Nat) : List (Duration × Nat) → Proc Nat
  | [] => return 0
  | (d, signal) :: rest => do
    (Proc.request (.sleep d) : Proc Unit)
    let _ ← (Proc.request (.kill target signal) : Proc (Except IoError Unit))
    alarm target rest

def timeout (arguments : List String) (environment : Environment) : Proc Nat :=
  let flags := [valued "s" "signal", valued "k" "kill-after", flag "v" "verbose",
    flag "foreground" "foreground", flag "preserve" "preserve-status"]
  withOptions flags false 125 arguments fun command given operands => do
    match operands with
    | [] | [_] => do
      suggestHelp command
      return 125
    | limit :: words =>
      let signal := match given.last? "s" with
        | none => some Signal.terminate
        | some text => Signal.ofName? text.toUpper <|> text.toNat?
      let extra := (given.last? "k").map fun text => (text, Amount.interval? text)
      match signal, Amount.interval? limit, extra with
      | none, _, _ =>
        refuseUse command (Quoting.quoted ((given.last? "s").getD "") ++ ": invalid signal") 125
      | _, none, _ => refuseUse command s!"invalid time interval {Quoting.quoted limit}" 125
      | _, _, some (text, none) =>
        refuseUse command s!"invalid time interval {Quoting.quoted text}" 125
      | some signal, some d, extra =>
        let name := words.headD ""
        let child ← Proc.fork
          (becomeOr command s!"failed to run command {Quoting.quoted name}" words environment)
        let second := match extra with
          | some (_, some more) => [(more, Signal.kill)]
          | _ => []
        let start : Duration ← Proc.request .now
        let clock ← if d.nanoseconds = 0 then pure none
          else some <$> Proc.fork (alarm child ((d, signal) :: second))
        let result ← Proc.waitFor child
        let finish : Duration ← Proc.request .now
        if let some clock := clock then
          let _ ← (Proc.request (.kill clock Signal.kill) : Proc (Except IoError Unit))
          let _ ← Proc.waitFor clock
        let isLate := clock.isSome && decide (start.nanoseconds + d.nanoseconds ≤ finish.nanoseconds)
        match result, isLate with
        | .exited status, false => return status
        | .signalled signal, false => endBySignal signal
        | .signalled 9, true => endBySignal Signal.kill
        | .exited status, true => return if given.has "preserve" then status else 124
        | .signalled signal, true => return if given.has "preserve" then 128 + signal else 124

/-! ### Arguments from the standard input -/

namespace Words

/-- How a text is cut into arguments. -/
inductive Cutting
  /-- At blanks and line ends, with quotes and backslashes. -/
  | quoted
  /-- At line ends, with quotes and backslashes. -/
  | quotedLines
  /-- At a character, without quotes. -/
  | at (c : Char)

inductive Fault
  | unmatched (isDouble : Bool)

def Fault.message : Fault → String
  | .unmatched isDouble =>
    let noun := if isDouble then "double" else "single"
    s!"unmatched {noun} quote; by default quotes are special to xargs unless you use the -0 option"

/-- An argument, and whether its line ends behind it. -/
abbrev Piece := String × Bool

/-- Reads arguments; `word` is the one under way, backward, if there is one. -/
def readQuoted (atBlanks : Bool) (word : Option (List Char)) (done : List Piece) :
    List Char → List Piece × Option Fault
  | [] => ((finish word false done).reverse, none)
  | '\\' :: c :: rest => readQuoted atBlanks (some (c :: word.getD [])) done rest
  | c :: rest =>
    if c = '\'' ∨ c = '"' then
      quote c (word.getD []) done rest
    else if c = '\n' then
      let done := match finish word true done with
        | [] => []
        | (text, _) :: others => (text, true) :: others
      readQuoted atBlanks none done rest
    else if (c = ' ' ∨ c = '\t') ∧ (atBlanks ∨ word.isNone) then
      readQuoted atBlanks none (finish word false done) rest
    else
      readQuoted atBlanks (some (c :: word.getD [])) done rest
where
  finish (word : Option (List Char)) (endsLine : Bool) (done : List Piece) : List Piece :=
    match word with
    | some cs => (String.ofList cs.reverse, endsLine) :: done
    | none => done
  /-- Reads up to the closing quote, which must be on the same line. -/
  quote (mark : Char) (word : List Char) (done : List Piece) :
      List Char → List Piece × Option Fault
    | [] => (done.reverse, some (.unmatched (mark == '"')))
    | '\n' :: _ => (done.reverse, some (.unmatched (mark == '"')))
    | c :: rest =>
      if c = mark then readQuoted atBlanks (some word) done rest
      else quote mark (c :: word) done rest

def read (cutting : Cutting) (text : String) : List Piece × Option Fault :=
  match cutting with
  | .quoted => readQuoted true none [] text.toList
  | .quotedLines => readQuoted false none [] text.toList
  | .at c =>
    let pieces := splitAtEach c text.toList
    let pieces := if pieces.getLast? = some [] then pieces.dropLast else pieces
    (pieces.map fun cs => (String.ofList cs, true), none)

/-- The first arguments that fit a limit, at least one, and the others. -/
def batches (count : Nat) : Nat → List String → List (List String)
  | 0, _ | _, [] => []
  | fuel + 1, words => words.take count :: batches count fuel (words.drop count)

/-- The arguments of a number of lines each. -/
def lineBatches (count : Nat) (pieces : List Piece) : List (List String) :=
  let lines := pieces.splitBy fun a _ => !a.2
  (batches count (lines.length + 1) (lines.map fun line => String.intercalate "\x00" (line.map (·.1)))).map
    fun joined => joined.flatMap fun text => (splitAtEach '\x00' text.toList).map String.ofList

end Words

/-- What becomes of the run behind the end of one program: the status so far, or the one to end with. -/
def afterRun (command name : String) (t : Termination) (status : Nat) : Proc (Nat × Bool) := do
  match t with
  | .exited 0 => return (status, true)
  | .exited 255 => do
    complain command s!"{name}: exited with status 255; aborting"
    return (124, false)
  | .exited 127 => return (127, false)
  | .exited 126 => return (126, false)
  | .exited _ => return (123, true)
  | .signalled signal => do
    complain command s!"{name}: terminated by signal {signal}"
    return (125, false)

/-- Runs the programs one after the other. -/
def runBatches (command : String) (given : Given) (environment : Environment) :
    Nat → List (List String) → Proc Nat
  | status, [] => return status
  | status, words :: rest => do
    if given.has "t" then
      Proc.printError (String.intercalate " " (words.map Quoting.named) ++ "\n")
    let name := words.headD ""
    let child ← Proc.fork do
      let _ ← (Proc.request (.openAt 0 (.ofString "/dev/null") .read) : Proc (Except IoError Unit))
      becomeOr command name words environment
    let (status, goesOn) ← afterRun command name (← Proc.waitFor child) status
    if goesOn then runBatches command given environment status rest else return status

def xargsFlags : List Flag :=
  [flag "0" "null", valued "a" "arg-file", valued "d" "delimiter", valued "E" "",
    optional "e" "eof", valued "I" "", optional "I" "replace", valued "L" "",
    optional "L" "max-lines", valued "n" "max-args", valued "P" "max-procs", flag "p" "interactive",
    flag "r" "no-run-if-empty", valued "s" "max-chars", flag "t" "verbose", flag "x" "exit"]

/-- The character that a delimiter stands for. -/
def delimiterOf (text : String) : Char :=
  match text.toList with
  | ['\\', c] =>
    match c with
    | 'n' => '\n'
    | 't' => '\t'
    | '0' => '\x00'
    | c => c
  | c :: _ => c
  | [] => '\n'

/-- A text with all places of another one replaced. -/
def replacedIn (text mark value : String) : String :=
  if mark = "" then text else String.intercalate value (text.splitOn mark)

def xargs (arguments : List String) (environment : Environment) : Proc Nat :=
  withOptions xargsFlags false 1 arguments fun command given operands => do
    let words := if operands.isEmpty then ["echo"] else operands
    let number (key : String) : Except String (Option Nat) :=
      match given.last? key with
      | none => .ok none
      | some text =>
        match text.toNat? with
        | some 0 | none => .error text
        | some n => .ok (some n)
    match number "n", number "L" with
    | .error text, _ =>
      refuseUse command s!"invalid number \"{text}\" for -n option" 1
    | _, .error text =>
      refuseUse command s!"invalid number \"{text}\" for -L option" 1
    | .ok perRun, .ok lines =>
      let mark := given.last? "I"
      let cutting : Words.Cutting := match given.last? "d" with
        | some text => .at (delimiterOf text)
        | none =>
          if given.has "0" then .at '\x00'
          else if mark.isSome then .quotedLines else .quoted
      match ← textOf ((given.last? "a").getD "-") with
      | .error r =>
        let name := (given.last? "a").getD "-"
        failWith command s!"Cannot open input file {Quoting.quoted name}: {r.reason}" 1
      | .ok text =>
        let (pieces, fault) := Words.read cutting text
        let pieces := match given.last? "E" with
          | some stop => pieces.takeWhile (·.1 != stop)
          | none => pieces
        let inputs := pieces.map (·.1)
        let runs := match mark, lines with
          | some mark, _ =>
            let mark := if mark = "" then "\x7b\x7d" else mark
            inputs.map fun value => words.map fun word => replacedIn word mark value
          | none, some n => (Words.lineBatches n pieces).map (words ++ ·)
          | none, none =>
            if inputs.isEmpty then (if given.has "r" then [] else [words])
            else (Words.batches (perRun.getD 5000) (inputs.length + 1) inputs).map (words ++ ·)
        let runs := if fault.isSome ∧ inputs.isEmpty then [] else runs
        if let some f := fault then
          complain command f.message
        let status ← runBatches command given environment 0 runs
        return if fault.isSome then 1 else status

end LinkBench.Host.Utility
