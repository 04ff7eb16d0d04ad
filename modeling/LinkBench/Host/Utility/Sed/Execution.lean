import LinkBench.Host.Utility.Options
import LinkBench.Host.Utility.Sed.Script
/-!
Running scripts of the stream editor. A cycle reads a line into the pattern space, runs the script on it
and prints it; lines are read only when they are needed.
-/

namespace LinkBench.Host.Utility.Sed

structure Settings where
  command : String
  isQuiet : Bool
  /-- Whether every file is a text of its own. -/
  isSeparate : Bool
  /-- What is put behind the name of a file that is edited, to keep its old bytes. -/
  inPlace : Option String
  separator : Char
  width : Nat
  steps : Array Step
  /-- The files that commands write to, and their descriptors. -/
  targets : List (String × Nat)

/-- What is put out at the end of a cycle. -/
inductive Waiting
  | text (s : String)
  | file (name : String)
  | line (text : String)

/-- A choice of several lines that has begun. -/
inductive Active
  /-- Ends with a line of a number. -/
  | upTo (line : Nat)
  /-- Ends with a line that its limit is for. -/
  | open

structure State where
  pattern : String
  /-- Whether the last line that was read has an end. -/
  isEnded : Bool
  hold : String
  number : Nat
  isReplaced : Bool
  waiting : List Waiting
  active : List (Nat × Active)
  lastExpression : Option Expression
  /-- The descriptors whose last line has no end yet. -/
  openLines : List Nat
  files : List String
  current : Option (String × Nat)
  name : String
  peeked : Option (String × Bool)
  status : Nat
  /-- What has been put out for the file that is edited, the last piece first. -/
  buffer : List String
  /-- How far the files are read whose lines are put in one by one. -/
  lineFiles : List (String × List String)

abbrev Run := StateT State Proc

namespace Run

def ofProc {α : Type} (p : Proc α) : Run α := fun s => do
  let a ← p
  return (a, s)

/-! ### Output -/

/-- Writes to a descriptor, or keeps for the file that is edited. -/
def put (c : Settings) (descriptor : Nat) (text : String) : Run Unit := do
  if descriptor = Proc.standardOutput ∧ c.inPlace.isSome then
    modify fun s => { s with buffer := text :: s.buffer }
  else
    let _ ← ofProc (Proc.write descriptor text)

/-- Writes a text behind the end of a line that has none yet. -/
def putText (c : Settings) (descriptor : Nat) (text : String) : Run Unit := do
  if (← get).openLines.contains descriptor then
    put c descriptor (String.singleton c.separator)
    modify fun s => { s with openLines := s.openLines.filter (· != descriptor) }
  put c descriptor text

/-- Writes a line. -/
def putLine (c : Settings) (descriptor : Nat) (text : String) (isEnded : Bool) : Run Unit := do
  putText c descriptor (if isEnded then text.push c.separator else text)
  if !isEnded then
    modify fun s => { s with openLines := descriptor :: s.openLines }

def printPattern (c : Settings) : Run Unit := do
  let s ← get
  putLine c Proc.standardOutput s.pattern s.isEnded

/-- Writes to a file that a command names. -/
def putTo (c : Settings) (name text : String) (isEnded : Bool) : Run Unit := do
  match c.targets.lookup name with
  | some descriptor => putLine c descriptor text isEnded
  | none => return

/-- Puts out what waits for the end of the cycle. -/
def flush (c : Settings) : Run Unit := do
  let waiting := (← get).waiting
  modify fun s => { s with waiting := [] }
  for w in waiting do
    match w with
    | .text text => putText c Proc.standardOutput text
    | .line text => putLine c Proc.standardOutput text true
    | .file name =>
      match ← ofProc (textOf name) with
      | .ok text => if text ≠ "" then putText c Proc.standardOutput text
      | .error _ => pure ()

/-! ### Input -/

/-- Writes the file that has been edited. -/
def finishFile (c : Settings) : Run Unit := do
  if let some ending := c.inPlace then
    let s ← get
    let path := Proc.pathOf s.name
    let text := String.join s.buffer.reverse
    if ending ≠ "" then
      let kept := if ending.contains '*' then
          String.intercalate s.name (ending.splitOn "*") else s.name ++ ending
      let _ ← ofProc <| Proc.change fun files cwd => do
        files.writeFile cwd (Proc.pathOf kept) (← files.readFile cwd path)
    let _ ← ofProc (Proc.change fun files cwd =>
      files.writeFile cwd path (ByteText.toBytes text))
    set { s with buffer := [], openLines := s.openLines.filter (· != Proc.standardOutput) }

/-- Opens the next file that can be read. -/
def openNext (c : Settings) : Nat → Run Bool
  | 0 => return false
  | fuel + 1 => do
    match (← get).files with
    | [] => return false
    | name :: rest =>
      modify fun s => { s with files := rest }
      let w ← ofProc Proc.view
      let isRegular := w.files.isFile w.cwd (Proc.pathOf name)
      match ← ofProc (Proc.openInput name) with
      | .error e =>
        ofProc (complain c.command s!"can't read {name}: {e.reason}")
        modify fun s => { s with status := 2 }
        openNext c fuel
      | .ok descriptor =>
        if c.inPlace.isSome ∧ !isRegular then
          ofProc (Proc.closeInput descriptor)
          ofProc (complain c.command s!"couldn't edit {name}: not a regular file")
          modify fun s => { s with status := 4 }
          openNext c fuel
        else
          modify fun s => { s with current := some (name, descriptor), name }
          if c.isSeparate then
            modify fun s => { s with number := 0, active := [] }
          return true

/-- Reads a line, from the next file if the current one has ended. In texts of their own, that happens
only for a new cycle. -/
def readLine (c : Settings) (mayOpen : Bool) : Nat → Run (Option (String × Bool))
  | 0 => return none
  | fuel + 1 => do
    match (← get).current with
    | none =>
      if mayOpen then
        if ← openNext c ((← get).files.length + 1) then readLine c mayOpen fuel else return none
      else
        return none
    | some (name, descriptor) =>
      let got : Except IoError Bytes ← ofProc <|
        Proc.request (.readTo descriptor (ByteText.toByte c.separator))
      match got with
      | .error e =>
        ofProc (complain c.command s!"read error on {name}: {e.reason}")
        ofProc (Proc.exit 4)
      | .ok [] =>
        if c.isSeparate ∧ !mayOpen then
          return none
        else
          ofProc (Proc.closeInput descriptor)
          finishFile c
          modify fun s => { s with current := none }
          readLine c mayOpen fuel
      | .ok bytes =>
        let text := ByteText.ofBytes bytes
        let isEnded := text.toList.getLast? == some c.separator
        return some (if isEnded then (text.dropEnd 1).toString else text, isEnded)

/-- Whether there is another line in the text. -/
def hasNext (c : Settings) : Run Bool := do
  if (← get).peeked.isSome then
    return true
  let line ← readLine c (!c.isSeparate) (2 * (← get).files.length + 4)
  modify fun s => { s with peeked := line }
  return line.isSome

/-- Takes the next line; a new cycle may begin a new text. -/
def takeLine (c : Settings) (mayOpen : Bool) : Run (Option (String × Bool)) := do
  match (← get).peeked with
  | some line =>
    modify fun s => { s with peeked := none, number := s.number + 1 }
    return some line
  | none =>
    match ← readLine c (mayOpen || !c.isSeparate) (2 * (← get).files.length + 4) with
    | some line =>
      modify fun s => { s with number := s.number + 1 }
      return some line
    | none => return none

/-! ### Choosing lines -/

/-- The expression that is meant; one that is empty is the last one used. -/
def resolved (c : Settings) (e : Expression) : Run Regex := do
  match e.regex with
  | some r =>
    modify fun s => { s with lastExpression := some e }
    return r
  | none =>
    match (← get).lastExpression.bind (·.regex) with
    | some r => return r
    | none => ofProc do
      complain c.command "no previous regular expression"
      Proc.exit 1

/-- The text to search, with the conditions of an expression. -/
def subject (e : Expression) : Run Regex.Subject := do
  let s ← get
  let flags := match e.regex with
    | some _ => e
    | none => s.lastExpression.getD e
  return ⟨s.pattern.toList.toArray, flags.ignoresCase || e.ignoresCase,
    flags.hasLines || e.hasLines⟩

def occurs (c : Settings) (e : Expression) : Run Bool := do
  let r ← resolved c e
  return r.occursIn (← subject e)

def isAt (c : Settings) : Address → Run Bool
  | .line n => return (← get).number == n
  | .step first step => do
    let n := (← get).number
    return decide (first ≤ n) && (n - first) % step == 0
  | .last => return !(← hasNext c)
  | .pattern e => occurs c e
  | .start => return false

/-- The end of a choice that begins at this line; nothing if it is only for this line. -/
def beginning (limit : Limit) (n : Nat) : Option Active :=
  match limit with
  | .line m => if m ≤ n then none else some (.upTo m)
  | .count k => if k = 0 then none else some (.upTo (n + k))
  | .multiple m =>
    let stop := if m = 0 then n else (n + m - 1) / m * m
    if stop ≤ n then none else some (.upTo stop)
  | .last | .pattern _ => some .open

def setActive (i : Nat) (a : Option Active) : Run Unit :=
  modify fun s =>
    let others := s.active.filter (·.1 != i)
    { s with active := match a with
        | some a => (i, a) :: others
        | none => others }

/-- Whether a choice of several lines that has begun is for this line. -/
def goesOn (c : Settings) (i : Nat) (limit : Limit) (a : Active) : Run Bool := do
  let n := (← get).number
  match a, limit with
  | .upTo stop, _ =>
    if stop ≤ n then
      setActive i none
    return decide (n ≤ stop)
  | .open, .pattern e =>
    if ← occurs c e then
      setActive i none
    return true
  | .open, _ =>
    if !(← hasNext c) then
      setActive i none
    return true

/-- Whether the command at a place is for this line. -/
def isChosen (c : Settings) (i : Nat) (lines : Choice) : Run Bool := do
  let chosen ← match lines.first, lines.limit with
    | none, _ => pure true
    | some first, none => isAt c first
    | some first, some limit =>
      match (← get).active.lookup i with
      | some a => goesOn c i limit a
      | none =>
        match first with
        | .start =>
          if (← get).number = 1 then
            setActive i (some .open)
            goesOn c i limit .open
          else pure false
        | first =>
          if ← isAt c first then
            setActive i (beginning limit (← get).number)
            pure true
          else pure false
  return chosen != lines.isNegated

/-! ### Replacing -/

/-- A text that is being written: backward, with the case of the letters that follow. -/
structure Writing where
  done : List Char
  lasting : Case
  once : Option Case

def Writing.char (w : Writing) (c : Char) : Writing :=
  let c := match w.once, w.lasting with
    | some .upperNext, _ => c.toUpper
    | some .lowerNext, _ => c.toLower
    | _, .upper => c.toUpper
    | _, .lower => c.toLower
    | _, _ => c
  { w with done := c :: w.done, once := none }

def Writing.text (w : Writing) (text : String) : Writing :=
  text.toList.foldl Writing.char w

/-- What a match is replaced by. -/
def replacementText (parts : List Piece) (m : Regex.Match) (s : Regex.Subject) : List Char :=
  (parts.foldl (fun (w : Writing) part =>
    match part with
    | .text text => w.text text
    | .group n => w.text (m.text s n)
    | .case .upperNext => { w with once := some .upperNext }
    | .case .lowerNext => { w with once := some .lowerNext }
    | .case k => { w with lasting := k, once := none }) ⟨[], .asIs, none⟩).done.reverse

/-- Replaces matches from a place on: `count` matches have come before, and the last one has ended at
`stop`. Yields the rest of the text, and whether anything was replaced. -/
def replaceFrom (r : Regex) (x : Substitution) (s : Regex.Subject) :
    Nat → Nat → Option Nat → Nat → List Char × Bool
  | 0, start, _, _ => (s.text.toList.drop start, false)
  | fuel + 1, start, stop, count =>
    match r.search? s start with
    | none => (s.text.toList.drop start, false)
    | some m =>
      let between (a b : Nat) : List Char := (s.text.toList.take b).drop a
      let isEmpty := m.start = m.stop
      if isEmpty ∧ stop = some m.start then
        if s.text.size ≤ m.start then (between start s.text.size, false)
        else
          let (rest, replaced) := replaceFrom r x s fuel (m.start + 1) none count
          (between start (m.start + 1) ++ rest, replaced)
      else
        let isMeant := if x.isGlobal then decide (x.least ≤ count + 1) else count + 1 == x.least
        let shown := if isMeant then replacementText x.replacement m s else between m.start m.stop
        let head := between start m.start ++ shown
        if isMeant ∧ !x.isGlobal then
          (head ++ s.text.toList.drop m.stop, true)
        else if isEmpty then
          if s.text.size ≤ m.stop then (head, isMeant)
          else
            let (rest, replaced) := replaceFrom r x s fuel (m.stop + 1) none (count + 1)
            (head ++ between m.stop (m.stop + 1) ++ rest, isMeant || replaced)
        else
          let (rest, replaced) := replaceFrom r x s fuel m.stop (some m.stop) (count + 1)
          (head ++ rest, isMeant || replaced)

def substitute (c : Settings) (x : Substitution) : Run Unit := do
  let r ← resolved c x.expression
  let s ← subject x.expression
  let (text, replaced) := replaceFrom r x s (2 * s.text.size + 4) 0 none 0
  if replaced then
    modify fun s => { s with pattern := String.ofList text, isReplaced := true }
    if x.prints then
      printPattern c
    if let some name := x.target then
      putTo c name (← get).pattern (← get).isEnded

/-! ### Showing -/

/-- A character without any doubt. -/
def plainly (c : Char) : List Char :=
  if c = '\\' then ['\\', '\\']
  else if ' ' ≤ c && c ≤ '~' then [c]
  else
    match [('\x07', 'a'), ('\x08', 'b'), ('\x0c', 'f'), ('\n', 'n'), ('\r', 'r'), ('\t', 't'),
        ('\x0b', 'v')].lookup c with
    | some letter => ['\\', letter]
    | none => '\\' :: (Nat.toDigits 8 c.toNat).leftpad 3 '0'

/-- Breaks shown characters into lines of a width. -/
def folded (width : Nat) : Nat → List (List Char) → List Char
  | _, [] => ['$']
  | column, shown :: rest =>
    if 1 < width ∧ width - 1 < column + shown.length then
      '\\' :: '\n' :: shown ++ folded width shown.length rest
    else
      shown ++ folded width (column + shown.length) rest

/-! ### Running -/

/-- How a cycle goes on behind a command. -/
inductive Next
  | step (place : Nat)
  /-- Prints the pattern space and begins a new cycle. -/
  | ends
  /-- Begins a new cycle without printing. -/
  | drops
  /-- Begins a new cycle without printing or reading. -/
  | restarts
  | quits (status : Nat) (prints : Bool)

def firstLine (text : String) : String :=
  String.ofList (text.toList.takeWhile (· != '\n'))

/-- The next line of a file whose lines are put in one by one. -/
def nextLineOf (name : String) : Run (Option String) := do
  let lines ← match (← get).lineFiles.lookup name with
    | some lines => pure lines
    | none =>
      match ← ofProc (textOf name) with
      | .ok text => pure (splitLines text).1
      | .error _ => pure []
  modify fun s => { s with
    lineFiles := (name, lines.tail) :: s.lineFiles.filter (·.1 != name) }
  return lines.head?

/-- Runs a command. -/
def perform (c : Settings) (i : Nat) (step : Step) : Run Next := do
  let next := Next.step (i + 1)
  let s ← get
  match step.command with
  | .block _ | .nothing => return next
  | .append text =>
    set { s with waiting := s.waiting ++ [Waiting.text text] }
    return next
  | .insert text =>
    putText c Proc.standardOutput text
    return next
  | .change text =>
    if step.choice.limit.isNone ∨ step.choice.isNegated ∨ (s.active.lookup i).isNone then
      putText c Proc.standardOutput text
    return .drops
  | .jump .always target => return .step target
  | .jump .replaced target =>
    set { s with isReplaced := false }
    return if s.isReplaced then .step target else next
  | .jump .notReplaced target =>
    set { s with isReplaced := false }
    return if s.isReplaced then next else .step target
  | .delete => return .drops
  | .deleteFirst =>
    let first := firstLine s.pattern
    if first.length = s.pattern.length then return .drops
    else
      set { s with pattern := (s.pattern.drop (first.length + 1)).toString }
      return .restarts
  | .print =>
    printPattern c
    return next
  | .printFirst =>
    putLine c Proc.standardOutput (firstLine s.pattern) true
    return next
  | .get =>
    set { s with pattern := s.hold }
    return next
  | .getAppend =>
    set { s with pattern := s.pattern ++ "\n" ++ s.hold }
    return next
  | .hold =>
    set { s with hold := s.pattern }
    return next
  | .holdAppend =>
    set { s with hold := s.hold ++ "\n" ++ s.pattern }
    return next
  | .exchange =>
    set { s with hold := s.pattern, pattern := s.hold }
    return next
  | .next =>
    if ← hasNext c then
      if !c.isQuiet then
        printPattern c
      flush c
      if let some (text, isEnded) ← takeLine c false then
        modify fun s => { s with pattern := text, isEnded }
      return next
    else
      return .quits (← get).status true
  | .nextAppend =>
    if ← hasNext c then
      flush c
      if let some (text, isEnded) ← takeLine c false then
        modify fun s => { s with pattern := s.pattern ++ "\n" ++ text, isEnded }
      return next
    else
      return .quits (← get).status true
  | .lineNumber =>
    putText c Proc.standardOutput s!"{s.number}\n"
    return next
  | .fileName =>
    putText c Proc.standardOutput (s.name ++ "\n")
    return next
  | .list width =>
    let shown := s.pattern.toList.map plainly
    putText c Proc.standardOutput
      (String.ofList (folded (width.getD c.width) 0 shown) ++ "\n")
    return next
  | .quit status => return .quits status true
  | .quitSilently status => return .quits status false
  | .readFile name =>
    set { s with waiting := s.waiting ++ [Waiting.file name] }
    return next
  | .readLine name =>
    if let some line ← nextLineOf name then
      modify fun s => { s with waiting := s.waiting ++ [Waiting.line line] }
    return next
  | .writeFile name =>
    putTo c name s.pattern s.isEnded
    return next
  | .writeFirst name =>
    putTo c name (firstLine s.pattern) true
    return next
  | .substitute x =>
    substitute c x
    return next
  | .translate table =>
    set { s with pattern := s.pattern.map fun ch => (table.lookup ch).getD ch }
    return next
  | .zap =>
    set { s with pattern := "" }
    return next

/-- Runs the script from a place on. -/
def steps (c : Settings) : Nat → Nat → Run Next
  | 0, _ => return .ends
  | fuel + 1, i => do
    match c.steps[i]? with
    | none => return .ends
    | some step =>
      let chosen ← isChosen c i step.choice
      let result ← match step.command, chosen with
        | .block behind, false => pure (.step behind)
        | _, false => pure (.step (i + 1))
        | _, true => perform c i step
      match result with
      | .step place =>
        if place ≤ i then
          let _ ← ofProc (Proc.request .tick : Proc (List Nat))
        steps c fuel place
      | other => return other

/-- More commands than any cycle runs. -/
def stepLimit : Nat := 1000000000

/-- Runs cycles; `reads` says whether a cycle begins with a new line. -/
def cycles (c : Settings) : Nat → Bool → Run Nat
  | 0, _ => return (← get).status
  | fuel + 1, reads => do
    let goesOn ← if reads then do
        match ← takeLine c true with
        | some (text, isEnded) =>
          modify fun s => { s with pattern := text, isEnded }
          pure true
        | none => pure false
      else pure true
    if !goesOn then
      return (← get).status
    if reads then
      modify fun s => { s with isReplaced := false }
    match ← steps c stepLimit 0 with
    | .drops =>
      flush c
      cycles c fuel true
    | .restarts =>
      flush c
      cycles c fuel false
    | .quits status prints =>
      if prints ∧ !c.isQuiet then
        printPattern c
      flush c
      if c.inPlace.isSome then
        passRest c
      return status
    | _ =>
      if !c.isQuiet then
        printPattern c
      flush c
      cycles c fuel true
where
  /-- Keeps the rest of the file that is edited. -/
  passRest (c : Settings) : Run Unit := do
    if let some (text, isEnded) := (← get).peeked then
      putLine c Proc.standardOutput text isEnded
    if let some (_, descriptor) := (← get).current then
      match ← ofProc (Proc.readAll descriptor) with
      | .ok bytes => putText c Proc.standardOutput (ByteText.ofBytes bytes)
      | .error _ => pure ()
    finishFile c

end Run

/-- The state before the first cycle. -/
def State.start (files : List String) : State where
  pattern := ""
  isEnded := true
  hold := ""
  number := 0
  isReplaced := false
  waiting := []
  active := []
  lastExpression := none
  openLines := []
  files := files
  current := none
  name := "-"
  peeked := none
  status := 0
  buffer := []
  lineFiles := []

end LinkBench.Host.Utility.Sed
