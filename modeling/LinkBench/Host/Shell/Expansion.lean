import LinkBench.Host.Shell.Braces
import LinkBench.Host.Shell.Fields
import LinkBench.Host.Shell.Quoted
import LinkBench.Host.Shell.Store
import LinkBench.Host.Signal
import LinkBench.Host.Utility.Escape
/-!
What words stand for. The parts of a word become items, which are cut into fields; fields that are
patterns become paths. A command inside of a word runs in a process of its own, by the function `run`
that is passed down; it leaves its exit status in the state.
-/

namespace LinkBench.Host.Shell

/-! ### Tildes -/

/-- Puts home directories in the place of tildes in a piece that begins a word. -/
def tildePiece (home : String → Option String) (isWhole : Bool) (piece : String) : Word :=
  match piece.toList with
  | '~' :: cs =>
    let user := cs.takeWhile (· != '/')
    let behind := cs.drop user.length
    match if behind ≠ [] || isWhole then home (String.ofList user) else none with
    | some text => [.text text true, .text (String.ofList behind) false]
    | none => [.text piece false]
  | _ => [.text piece false]

/-- Puts home directories in the place of tildes where a word begins; in the value of a variable also
behind each colon. -/
def withHomes (home : String → Option String) (isValue : Bool) : Bool → Word → Word
  | atStart, .text s false :: rest =>
    let pieces := if isValue then s.splitOn ":" else [s]
    let last := pieces.length - 1
    let replaced := pieces.zipIdx.map fun (piece, i) =>
      if atStart || 0 < i then tildePiece home (i < last || rest.isEmpty) piece
      else [.text piece false]
    List.intercalate [.text ":" false] replaced ++
      withHomes home isValue (isValue && s.endsWith ":") rest
  | _, part :: rest => part :: withHomes home isValue false rest
  | _, [] => []

namespace Eval

/-- The home directory of a user; that of nobody else is known than of the one at work. -/
def homeOf (s : State) (user : String) : Option String :=
  if user = "" then (s.bindings.find? (·.name == "HOME")).bind Variable.text?
  else if user = "root" then some "/root"
  else none

/-! ### Parameters -/

/-- The characters at which fields are cut. -/
def separators : Eval (List Char) := do
  match ← value? "IFS" with
  | some text => return text.toList
  | none => return [' ', '\t', '\n']

/-- What stands between texts that are joined. -/
def joint : Eval String := do
  match ← value? "IFS" with
  | some text => return String.ofList (text.toList.take 1)
  | none => return " "

/-- Complains about a parameter without a value, if that is asked for. -/
def requireSet (name : String) : Value → Eval Unit
  | .unset => do
    let s ← get
    if s.options.contains 'u' then
      match s.dialect with
      | .plain => fatal s!"{name}: parameter not set"
      | .extended =>
        let shown := if name.toList.all (·.isDigit) then "$" ++ name else name
        fatal s!"{shown}: unbound variable"
  | _ => return

/-- Makes a change to each text that a parameter stands for. The plain dialect makes it to the row of
the texts, or to one text if they are joined. -/
def mapValue (f : String → String) (full quoted : Bool) (value : Value) : Eval Value := do
  let isWide ← isExtended
  let widely (text : String) : String :=
    if isWide then
      String.ofList (ByteText.narrow (f (String.ofList (ByteText.widen text.toList))).toList)
    else f text
  match value with
  | .unset => return .text (f "")
  | .text s => return .text (widely s)
  | .several texts joins =>
    if ← isExtended then
      return .several (texts.map widely) joins
    else if full && !(quoted && joins) then
      let row := f (String.intercalate (String.singleton Pattern.rowMark) texts)
      return .several ((splitAtEach Pattern.rowMark row.toList).map String.ofList) joins
    else
      return .text (f (String.intercalate (← joint) texts))

/-- The items of a value. Where no fields are cut, several texts are joined. -/
def valueItems (full quoted : Bool) (value : Value) : Eval (List Item) := do
  let ofText (text : String) : List Item :=
    if quoted then text.toList.map fun c => .char c true false else Item.ofUnquoted text
  match value with
  | .unset => return []
  | .text s => return ofText s
  | .several texts joins =>
    if full && !quoted then
      return List.intercalate [.split] (texts.map ofText)
    else if full && !joins then
      return List.intercalate [.split] (texts.map Item.ofQuoted)
    else
      let between ← if !joins && (← isExtended) then pure " " else joint
      return ofText (String.intercalate between texts)

/-- Whether an operand takes the place of a value. -/
def isMissing (orEmpty : Bool) (value : Value) : Eval Bool := do
  let isUnset := match value with
    | .unset => true
    | .text _ => false
    | .several texts _ => texts.isEmpty
  if isUnset && (!value.isSeveral || (← isExtended)) then
    return true
  else
    return orEmpty && String.intercalate " " value.texts == ""

/-- The part of a row from an offset on, of a length if there is one. Negative numbers count from the
end. -/
def slice {α : Type} (offset : Int) (length : Option Int) (row : List α) : List α :=
  let size := Int.ofNat row.length
  let start := if offset < 0 then size + offset else offset
  if start < 0 then []
  else
    let behind := row.drop start.toNat
    match length with
    | none => behind
    | some n => if n < 0 then behind.take (size - start + n).toNat else behind.take n.toNat

/-- Changes the first letter that has the form of a pattern, or all of them. -/
def changeCase (change : Char → Char) (p : Pattern) (all : Bool) (text : String) : String :=
  let fits (c : Char) : Bool := p.isEmpty || p.matchesAll [c]
  match all, text.toList with
  | true, cs => String.ofList (cs.map fun c => if fits c then change c else c)
  | false, c :: cs => String.ofList ((if fits c then change c else c) :: cs)
  | false, [] => ""

/-- Puts a text in the place of what has the form of a pattern; the text may hold what it takes the
place of. -/
def replaced (p : Pattern) (replacement : List Char → List Char) (everywhere : Bool)
    (anchor : Option Char) (text : String) : String :=
  let cs := text.toList
  match anchor with
  | some '#' =>
    match (p.matchingLengths cs).getLast? with
    | some n => String.ofList (replacement (cs.take n) ++ cs.drop n)
    | none => text
  | some _ =>
    let kept := p.dropEnd true cs
    if kept.length < cs.length ∨ p.matchesAll [] then
      String.ofList (kept ++ replacement (cs.drop kept.length))
    else text
  | none => String.ofList (p.replaceIn replacement everywhere cs.length cs)

/-- Capital letters for small ones and the other way round. -/
def swapCase (c : Char) : Char := if c.isUpper then c.toLower else c.toUpper

/-! ### Commands -/

/-- Lets signals end the process again that the shell had asked for. -/
def forgetTraps (traps : List (Nat × String)) : Eval Unit := do
  for (signal, action) in traps do
    if signal ≠ 0 ∧ signal < Signal.bound ∧ action ≠ "" then
      ask (.setAction signal .byDefault)

/-- Whether a process that does a part of the shell's work keeps what is to be done at an event: at
failures and steps if that is asked for. -/
def keepsTrap (s : State) (event : Nat) : Bool :=
  (event == Signal.failure && s.options.contains 'E') ||
    ((event == Signal.step || event == Signal.return) && s.options.contains 'T')

/-- Starts a process that does a part of the shell's work in a state of its own. What was to be done
at signals is no affair of it. -/
def fork (body : Eval Unit) : Eval Nat := fun s => do
  let child := { s with
    traps := s.traps.filter fun x => x.2 == "" || keepsTrap s x.1
    outerTraps := if s.dialect == .extended then s.traps ++ s.outerTraps else []
    jobs := []
    caught := []
    subshellDepth := s.subshellDepth + 1 }
  let id ← Proc.fork (do
    let (_, t) ← (do
      forgetTraps s.traps
      body : Eval Unit) child
    return t.status)
  return (.ok id, s)

/-- The exit status of a shell command that has ended. -/
def statusOf : Termination → Nat
  | .exited code => code
  | .signalled signal => 128 + signal

/-- What the bytes that a command has written mean in a word: no zeros, and no line ends behind. -/
def outputText (bytes : Bytes) : String :=
  ByteText.ofBytes ((((bytes.filter (· != 0)).reverse).dropWhile (· == 0x0a)).reverse)

/-- What a command writes, less the line ends behind it. -/
def outputOf (run : Command → Eval Unit) (body : Command) : Eval String := do
  if let .skip := body then
    return ""
  let (reader, writer) : Nat × Nat ← ask .pipe
  let child ← fork (do
    modify fun s => { s with
      isGuarded := false
      traceDepth := s.traceDepth + 1
      lineShift := match s.dialect, body.line? with
        | .extended, some line => Int.ofNat s.line - Int.ofNat line
        | _, _ => s.lineShift
      options := if s.dialect == .extended && !s.longOptions.contains "inherit_errexit" then
          s.options.filter (· != 'e')
        else s.options }
    ask (.close reader)
    let _ ← ask (.duplicate writer Proc.standardOutput)
    ask (.close writer)
    run body)
  ask (.close writer)
  let written ← ofProc (Proc.readAll reader)
  ask (.close reader)
  let t ← ofProc (Proc.waitFor child)
  modify fun s => { s with
    substitutionStatus := some (statusOf t)
    status := if s.dialect == .extended then statusOf t else s.status }
  return outputText (written.toOption.getD [])

/-- The text of a file, as if a command had written it. -/
def fileText (name : String) : Eval String := do
  let finish (status : Nat) : Eval Unit :=
    modify fun s => { s with substitutionStatus := some status, status }
  let failed (e : IoError) : Eval String := do
    complain s!"{name}: {e.reason}"
    finish 1
    return ""
  let descriptor := 62
  let opened : Except IoError Unit ← ask (.openAt descriptor (Proc.pathOf name) .read)
  match opened with
  | .error e => failed e
  | .ok () => do
    let bytes ← ofProc (Proc.readAll descriptor)
    ask (.close descriptor)
    match bytes with
    | .error e => failed e
    | .ok bytes => do
      finish 0
      return outputText bytes

/-- The file whose text takes the place of a command that only leads from it; only in the extended
dialect. -/
def readFile? : Command → Option Word
  | .simple _ [] [] [.file (.number 0) .read target] => some target.2
  | _ => none

/-- The descriptors that connections to commands are kept under. -/
def connectionDescriptors : List Nat := (List.range 54).map fun n => 63 - n

def freeConnection : List Nat → Eval (Option Nat)
  | [] => return none
  | n :: rest => do
    let isUsed : Bool ← ask (.isOpen n)
    if isUsed then freeConnection rest else return some n

/-- The name of a file that leads to a command or comes from it. -/
def connect (run : Command → Eval Unit) (isWriter : Bool) (body : Command) : Eval String := do
  match ← freeConnection connectionDescriptors with
  | none => fatal "cannot make pipe for process substitution: Too many open files"
  | some descriptor => do
    let (reader, writer) : Nat × Nat ← ask .pipe
    let (own, other) := if isWriter then (writer, reader) else (reader, writer)
    let _ ← fork (do
      modify fun s => { s with traceDepth := s.traceDepth + 1 }
      ask (.close own)
      let _ ← ask (.duplicate other
        (if isWriter then Proc.standardInput else Proc.standardOutput))
      ask (.close other)
      run body)
    ask (.close other)
    let _ ← ask (.duplicate own descriptor)
    ask (.close own)
    modify fun s => { s with connections := descriptor :: s.connections }
    return s!"/dev/fd/{descriptor}"

/-- Closes the descriptors that lead to commands, but for some older ones. -/
def closeConnections (older : List Nat) : Eval Unit := do
  for descriptor in (← get).connections do
    if !older.contains descriptor then
      ask (.close descriptor)
  modify fun s => { s with connections := older }

/-! ### Words -/

/-- Whether a part is a row of texts that stay apart inside of quotes. -/
def isRow : Part → Bool
  | .parameter "@" [] false .value _ true => true
  | .parameter _ [.text "@" false] _ _ _ true => true
  | .parameter "@" [] false (.slice) _ true => true
  | _ => false

def isQuotedPart : Part → Bool
  | .text _ quoted | .parameter _ _ _ _ _ quoted | .command _ quoted | .arithmetic _ quoted => quoted
  | _ => false

/-- Quotes around nothing but a row make no field of their own. -/
def withoutRowQuotes : Word → Word
  | .quotes :: part :: rest =>
    if isRow part && !(rest.head?.any isQuotedPart) then part :: withoutRowQuotes rest
    else .quotes :: withoutRowQuotes (part :: rest)
  | part :: rest => part :: withoutRowQuotes rest
  | [] => []

/-- How patterns are read. -/
def patternRules : Eval PatternRules := do
  let s ← get
  return match s.dialect with
    | .plain => .plain
    | .extended => ⟨true, s.longOptions.contains "extglob", true⟩

/-- What a replacement stands for: the characters of its items, where an ampersand that is not quoted
is what it replaces. Inside of quotes a backslash quotes it. -/
def replacementOf (isQuoted marksMatch : Bool) (taken : List Char) : Field → List Char
  | [] => []
  | [(c, quoted)] => if marksMatch && c == '&' && (isQuoted || !quoted) then taken else [c]
  | (c, quoted) :: (d, q) :: rest =>
    if marksMatch && isQuoted && c == '\\' && d == '&' then
      '&' :: replacementOf isQuoted marksMatch taken rest
    else if marksMatch && c == '&' && (isQuoted || !quoted) then
      taken ++ replacementOf isQuoted marksMatch taken ((d, q) :: rest)
    else
      c :: replacementOf isQuoted marksMatch taken ((d, q) :: rest)

/-- The marks of a variable, as letters. -/
def markLetters (v : Variable) : String :=
  (match v.elements with
    | some elements => if elements.hasKeys then "A" else "a"
    | none => "") ++ (if v.isInteger then "i" else "") ++ (if v.isReference then "n" else "") ++
    (if v.isReadOnly then "r" else "") ++ (if v.isExported then "x" else "") ++
    match v.casing with
    | some .lower => "l"
    | some .upper => "u"
    | some .capital => "c"
    | none => ""

/-- The elements of a list between parentheses. -/
def shownElements (elements : Elements) : String :=
  let shown := elements.entries.map fun (key, text) =>
    let key := if elements.hasKeys then Quoted.keyed key else key
    s!"[{key}]={Quoted.double text}"
  "(" ++ String.intercalate " " shown ++ (if elements.hasKeys && !shown.isEmpty then " )" else ")")

/-- Another form of what a parameter stands for; nothing if there is no such form. -/
def formed? (s : State) (name : String) (v : Option Variable) (letter : Char) (value : Value) :
    Option Value :=
  let each (f : String → String) : Option Value :=
    some <| match value with
      | .unset => .text ""
      | .text s => .text (f s)
      | .several texts joins => .several (texts.map f) joins
  let widely (f : List Char → List Char) (text : String) : String :=
    String.ofList (ByteText.narrow (f (ByteText.widen text.toList)))
  let letters := (v.map markLetters).getD ""
  match letter, value with
  | 'Q', .unset => some (.text "")
  | 'Q', _ => each Quoted.reusable
  | 'U', _ => each (widely (·.map Char.toUpper))
  | 'L', _ => each (widely (·.map Char.toLower))
  | 'u', _ => each (widely fun
      | c :: cs => c.toUpper :: cs
      | [] => [])
  | 'E', _ => each fun text => (Utility.Escape.text .extendedQuote text).1
  | 'P', _ => some value
  | 'a', .several texts joins => some (.several (texts.map fun _ => letters) joins)
  | 'a', _ => some (.text letters)
  | 'A', .several texts _ =>
    match v with
    | some v =>
      some (.text (s!"declare -{letters} {name}" ++ match v.elements with
        | some elements => "=" ++ shownElements elements
        | none => ""))
    | none => some (.text ("set -- " ++ String.intercalate " " (texts.map Quoted.reusable)))
  | 'A', .text text =>
    some (.text ((if letters = "" then "" else s!"declare -{letters} ") ++
      s!"{name}={Quoted.reusable text}"))
  | 'A', .unset => some (.text (if letters = "" then "" else s!"declare -{letters} {name}"))
  | 'K', .several _ joins | 'k', .several _ joins =>
    let entries := (v.map elementsOf).getD (Elements.ofTexts s.arguments).entries
    if letter = 'k' then
      some (.several (entries.flatMap fun (key, text) => [key, text]) joins)
    else
      some (.text (String.intercalate " " (entries.map fun (key, text) =>
        s!"{key} {Quoted.double text}")))
  | 'K', _ | 'k', _ => each Quoted.reusable
  | _, _ => none

variable (run : Command → Eval Unit)

mutual

/-- The items of a word. The fuel bounds how deep words are nested; `full` says that the word will be
cut into fields. -/
def items : Nat → Bool → Word → Eval (List Item)
  | 0, _, _ => fatal "Bad substitution"
  | fuel + 1, full, w => do
    let pieces ← (withoutRowQuotes w).mapM (partItems fuel full)
    return pieces.flatten

def partItems : Nat → Bool → Part → Eval (List Item)
  | 0, _, _ => fatal "Bad substitution"
  | fuel + 1, full, part =>
    match part with
    | .text s quoted => return s.toList.map fun c => .char c quoted false
    | .quotes => return [.quotes]
    | .command body quoted => do
      let text ← match ← isExtended, readFile? body with
        | true, some target => do fileText (← joinedText fuel target)
        | _, _ => outputOf run body
      valueItems full quoted (.text text)
    | .arithmetic expression quoted => do
      let n ← calculate (← joinedText fuel expression)
      valueItems full quoted (.text (toString n.toInt))
    | .connection isWriter body => do
      return Item.ofQuoted (← connect run isWriter body)
    | .elements _ _ => return []
    | .parameter name subscript isIndirect usage operands quoted => do
      let index ← if subscript.isEmpty then pure none
        else do pure (some (← joinedText fuel subscript))
      if isIndirect then
        match ← indirect name index usage with
        | .ok (name, index) => reference fuel full name index usage operands quoted
        | .error text => valueItems full quoted (.text text)
      else
        reference fuel full name index usage operands quoted

/-- The text of a word that is not cut into fields. -/
def joinedText : Nat → Word → Eval String
  | 0, _ => fatal "Bad substitution"
  | fuel + 1, w => do
    return Field.text (Item.joined [] (← items fuel false w))

/-- The pattern that a word stands for. -/
def patternOf (rules : PatternRules) : Nat → Word → Eval Pattern
  | 0, _ => fatal "Bad substitution"
  | fuel + 1, w => do
    return Pattern.read rules (Item.joined [] (← items fuel false w))

/-- The parameter that another one names, with its index. A reference to a name stands for the name
itself. -/
def indirect (name : String) (index : Option String) (usage : Usage) :
    Eval (Except String (String × Option String)) := do
  match (← get).bindings.find? (·.name == name) with
  | some v =>
    if v.isReference && index.isNone then
      return .error (v.value.getD "")
  | none => pure ()
  match ← parameter name index with
  | .unset =>
    match usage with
    | .orDefault _ | .alternative _ | .orAssign _ => return .ok ("", none)
    | _ => discard s!"{name}: invalid indirect expansion"
  | value =>
    let text := String.intercalate " " value.texts
    let plain := (text.takeWhile isNameChar).toString
    let behind := (text.drop plain.length).toString
    if isName text ∨ (special? (← get) text).isSome then
      return .ok (text, none)
    else if isName plain ∧ behind.startsWith "[" ∧ behind.endsWith "]" then
      return .ok (plain, some ((behind.drop 1).dropEnd 1).toString)
    else
      discard s!"{text}: invalid variable name"

/-- The items of a reference. -/
def reference : Nat → Bool → String → Option String → Usage → List Word → Bool → Eval (List Item)
  | 0, _, _, _, _, _, _ => fatal "Bad substitution"
  | fuel + 1, full, name, index, usage, operands, quoted => do
    let rules ← patternRules
    let first := operands.headD []
    let shownName := match index with
      | some index => s!"{name}[{index}]"
      | none => name
    let operandItems : Eval (List Item) := do
      let w := withHomes (homeOf (← get)) false (!quoted) first
      let found ← items fuel full w
      return if quoted then found else found.map Item.splitting
    let yieldOf (value : Value) : Eval (List Item) := valueItems full quoted value
    let changed (f : String → String) : Eval (List Item) := do
      let value ← parameter name index
      requireSet shownName value
      yieldOf (← mapValue f full quoted value)
    match usage with
    | .invalid =>
      let text ← joinedText fuel first
      discard (if ← isExtended then s!"$\x7b{text}\x7d: bad substitution" else "Bad substitution")
    | .value => do
      let value ← parameter name index
      requireSet shownName value
      yieldOf value
    | .length => do
      let value ← parameter name index
      let extended ← isExtended
      requireSet shownName value
      let n ← match value with
        | .several texts _ => do
          if extended then pure texts.length
          else pure (String.intercalate (← joint) texts).length
        | value =>
          let cs := (String.join value.texts).toList
          pure (if extended then (ByteText.widen cs).length else cs.length)
      yieldOf (.text (toString n))
    | .orDefault orEmpty => do
      let value ← parameter name index
      if ← isMissing orEmpty value then operandItems else yieldOf value
    | .alternative orEmpty => do
      let value ← parameter name index
      if ← isMissing orEmpty value then return [] else operandItems
    | .orAssign orEmpty => do
      let value ← parameter name index
      if ← isMissing orEmpty value then
        if !isName name then
          if ← isExtended then discard s!"${name}: cannot assign in this way"
          else fatal s!"{name}: bad variable name"
        let text := Field.text (Item.joined [] (← items fuel false
          (withHomes (homeOf (← get)) false (!quoted) first)))
        match index with
        | some index => setIndexed name index text
        | none => setVariable name text
        if ← isExtended then
          yieldOf (← parameter name index)
        else
          yieldOf (.text text)
      else
        yieldOf value
    | .orFail orEmpty => do
      let value ← parameter name index
      if ← isMissing orEmpty value then
        let text := Field.text (Item.joined [] (← operandItems))
        let extended ← isExtended
        let reason := if !first.isEmpty then text
          else if !orEmpty then "parameter not set"
          else if extended then "parameter null or not set"
          else "parameter not set or null"
        fatal s!"{shownName}: {reason}"
      else
        yieldOf value
    | .withoutStart longest => do
      let p ← patternOf rules fuel first
      changed fun text => String.ofList (p.dropStart longest text.toList)
    | .withoutEnd longest => do
      let p ← patternOf rules fuel first
      changed fun text => String.ofList (p.dropEnd longest text.toList)
    | .replace everywhere anchor => do
      let p ← patternOf rules fuel first
      let found := Item.joined [] (← items fuel false (operands.getD 1 []))
      let found := Pattern.widened found
      let marks := (← get).longOptions.contains "patsub_replacement"
      if p.isEmpty ∧ anchor.isNone then
        changed id
      else
        changed (replaced p (fun taken => replacementOf quoted marks taken found) everywhere anchor)
    | .upper all => do
      let p ← patternOf rules fuel first
      changed (changeCase Char.toUpper p all)
    | .lower all => do
      let p ← patternOf rules fuel first
      changed (changeCase Char.toLower p all)
    | .swapCase all => do
      let p ← patternOf rules fuel first
      changed (changeCase swapCase p all)
    | .form letter => do
      let value ← parameter name index
      requireSet shownName value
      let s ← get
      let (own, _) := target s referenceLimit name
      match value, formed? s own (stored? s own) letter value with
      | _, some value => yieldOf value
      | .unset, none => return []
      | _, none => fatal s!"$\x7b{shownName}@{letter}\x7d: bad substitution"
    | .slice => do
      let offset := (← calculate (← joinedText fuel first)).toInt
      let (length, shown) ← match operands[1]? with
        | some w => do
          let text ← joinedText fuel w
          pure (some (← calculate text).toInt, text)
        | none => pure (none, "")
      let value ← parameter name index
      requireSet shownName value
      match value with
      | .several texts joins => do
        if length.any (· < 0) && !texts.isEmpty then
          discard s!"{shown}: substring expression < 0"
        let s ← get
        let v := stored? s name
        match index, v with
        | some _, some v =>
          let entries := elementsOf v
          let past := match entries.getLast? with
            | some (key, _) => key.toNat?.getD 0 + 1
            | none => 0
          let start := if offset < 0 then Int.ofNat past + offset else offset
          let kept := if start < 0 then [] else entries.filter fun (key, _) =>
            (v.elements.any (·.hasKeys)) || start ≤ Int.ofNat (key.toNat?.getD 0)
          yieldOf (.several (slice 0 length (kept.map (·.2))) joins)
        | _, _ => yieldOf (.several (slice offset length (s.name :: texts)) joins)
      | value =>
        let cs := ByteText.widen (String.join value.texts).toList
        let size := Int.ofNat cs.length
        let start := if offset < 0 then size + offset else offset
        if length.any (fun n => n < 0 ∧ size + n < start) && 0 ≤ start && start ≤ size && 0 < size then
          discard s!"{shown}: substring expression < 0"
        yieldOf (.text (String.ofList (ByteText.narrow (slice offset length cs))))
    | .names => do
      let names := ((← get).bindings.map (·.name)).filter (·.startsWith name)
      yieldOf (.several (names.mergeSort fun a b => decide (a ≤ b)) (index == some "*"))
    | .keys => do
      let s ← get
      let (own, _) := target s referenceLimit name
      let keys := match stored? s own with
        | some v => (elementsOf v).map (·.1)
        | none => []
      yieldOf (.several keys (index == some "*"))

end

/-- How deep words can be nested. -/
def nestingLimit : Nat := 1000

/-- The text of a word where no fields are cut, such as the subject of a choice. -/
def singleText (w : Word) : Eval String := do
  joinedText run nestingLimit (withHomes (homeOf (← get)) false true w)

/-- The text of an inline document, in which tildes mean nothing. -/
def documentText (w : Word) : Eval String :=
  joinedText run nestingLimit w

/-- The value that a word gives a variable. -/
def assignedText (w : Word) : Eval String := do
  joinedText run nestingLimit (withHomes (homeOf (← get)) true true w)

/-- Whether a text has the form of a pattern that a word stands for. -/
def hasForm (knowsGroups : Bool) (text : String) (w : Word) : Eval Bool := do
  let rules ← patternRules
  let rules := { rules with groups := rules.groups || (knowsGroups && rules.isWide) }
  let found ← items run nestingLimit false (withHomes (homeOf (← get)) false true w)
  let foldsCase := (← get).longOptions.contains "nocasematch"
  let globbing : Field.Globbing := ⟨rules, false, false, false, foldsCase⟩
  return globbing.fits (globbing.pattern (Item.joined [] found)) text

/-- Whether the extended dialect treats a word like an assignment. -/
def looksAssigned : Word → Bool
  | .text s false :: _ => (splitAssignment? s).isSome
  | _ => false

/-- Puts home directories into an argument. -/
def withArgumentHomes (s : State) (w : Word) : Word :=
  let w := withHomes (homeOf s) false true w
  if s.dialect == .extended && looksAssigned w then
    match w with
    | .text text false :: rest =>
      let name := (text.takeWhile (· != '=')).toString
      .text (name ++ "=") false ::
        withHomes (homeOf s) true true (.text (text.drop (name.length + 1)).toString false :: rest)
    | w => w
  else
    w

/-- The fields of one word: the arguments that it stands for. -/
def fieldsOf (w : Word) : Eval (List String) := do
  let found ← items run nestingLimit true (withArgumentHomes (← get) w)
  let fields := Item.fields (← separators) found
  let s ← get
  if s.options.contains 'f' then
    return fields.map Field.text
  let has (name : String) : Bool := s.longOptions.contains name
  let globbing : Field.Globbing ← if s.dialect == .plain then pure Field.Globbing.plain else do
    pure ⟨← patternRules, has "dotglob", !has "globskipdots", has "globstar", has "nocaseglob"⟩
  if fields.all fun f => !(globbing.pattern f).isActive then
    return fields.map Field.text
  let workspace ← ofProc Proc.view
  let found ← fields.mapM fun f => do
    match f.paths globbing workspace.files workspace.cwd with
    | [] =>
      if (globbing.pattern f).isActive then
        if has "failglob" then
          discard s!"no match: {f.text}"
        return if has "nullglob" then [] else [f.text]
      else
        return [f.text]
    | paths => return paths
  return found.flatten

/-- The arguments that words stand for. -/
def argumentsOf (words : List Word) : Eval (List String) := do
  let words := if (← get).options.contains 'B' then words.flatMap Braces.expand else words
  return (← words.mapM (fieldsOf run)).flatten

end Eval

end LinkBench.Host.Shell
