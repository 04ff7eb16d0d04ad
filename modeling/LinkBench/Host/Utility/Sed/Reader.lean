import LinkBench.Host.Utility.Sed.Script
/-!
Reading scripts of the stream editor. A fault says what is wrong and how much of the script had been
read by then.
-/

namespace LinkBench.Host.Utility.Sed

structure Fault where
  message : String
  /-- The number of characters that had been read. -/
  position : Nat

structure Position where
  rest : List Char
  read : Nat

/-- A command whose jumps go to names yet. -/
inductive Draft
  | done (c : Command)
  | opening
  | closing
  | label (name : String)
  | jump (c : Condition) (name : String)

abbrev Read := StateT Position (Except Fault)

namespace Read

def fail {α : Type} (message : String) : Read α := fun p => .error ⟨message, p.read⟩

def failAtStart {α : Type} (message : String) : Read α := fun _ => .error ⟨message, 0⟩

def peek? : Read (Option Char) := do return (← get).rest.head?

def next? : Read (Option Char) := do
  match (← get).rest with
  | [] => return none
  | c :: rest =>
    modify fun p => ⟨rest, p.read + 1⟩
    return some c

def takeWhile (keep : Char → Bool) : Read (List Char) := do
  let taken := (← get).rest.takeWhile keep
  modify fun p => ⟨p.rest.drop taken.length, p.read + taken.length⟩
  return taken

def isBlank (c : Char) : Bool := c == ' ' || c == '\t'

def isSpace (c : Char) : Bool := c == ' ' || ('\t' ≤ c && c ≤ '\r')

def skipBlanks : Read Unit := do
  let _ ← takeWhile isBlank

def skipSpaces : Read Unit := do
  let _ ← takeWhile isSpace

def number : Read Nat := do
  return Nat.ofDigitChars 10 (← takeWhile (·.isDigit)) 0

/-- Reads up to a closing mark. A backslash takes the meaning from a mark, and stays before any other
character. Nothing if the mark does not come. -/
def upTo (mark : Char) (isRegex : Bool) : Nat → List Char → Read (Option (List Char))
  | 0, _ => return none
  | fuel + 1, done => do
    match ← next? with
    | none => return none
    | some c =>
      if c = mark then return some done.reverse
      else if c = '\\' then
        match ← next? with
        | none => return none
        | some d =>
          if d = mark ∧ d ≠ '\\' then upTo mark isRegex fuel (d :: done)
          else if d = 'n' ∧ isRegex then upTo mark isRegex fuel ('n' :: '\\' :: done)
          else if d = '\n' ∧ isRegex then upTo mark isRegex fuel ('\n' :: done)
          else upTo mark isRegex fuel (d :: '\\' :: done)
      else if c = '\n' ∧ isRegex then return none
      else upTo mark isRegex fuel (c :: done)

def closed (mark : Char) (isRegex : Bool) : Read (Option (List Char)) := do
  upTo mark isRegex ((← get).rest.length + 1) []

/-! ### Expressions and addresses -/

/-- Reads the expression of a text, and the number of its groups. -/
def expression (isExtended : Bool) (text : List Char) (ignoresCase hasLines : Bool) :
    Read (Expression × Option Nat) := do
  if text = [] then
    return (⟨none, ignoresCase, hasLines⟩, none)
  match Regex.read ⟨isExtended, true⟩ (String.ofList text) with
  | .ok (r, groups) => return (⟨some r, ignoresCase, hasLines⟩, some groups)
  | .error f => fail f.message

/-- The letters behind an expression in an address. -/
def addressFlags : Nat → Bool → Bool → Read (Bool × Bool)
  | 0, i, m => return (i, m)
  | fuel + 1, i, m => do
    match ← peek? with
    | some 'I' =>
      let _ ← next?
      addressFlags fuel true m
    | some 'M' =>
      let _ ← next?
      addressFlags fuel i true
    | _ => return (i, m)

def patternAddress (isExtended : Bool) (mark : Char) : Read Expression := do
  match ← closed mark true with
  | none => fail "unterminated address regex"
  | some text =>
    let (i, m) ← addressFlags 8 false false
    return (← expression isExtended text i m).1

/-- Reads an address, if there is one. -/
def address? (isExtended : Bool) : Read (Option Address) := do
  match ← peek? with
  | some '$' =>
    let _ ← next?
    return some .last
  | some '/' =>
    let _ ← next?
    return some (.pattern (← patternAddress isExtended '/'))
  | some '\\' =>
    let _ ← next?
    match ← next? with
    | some mark => return some (.pattern (← patternAddress isExtended mark))
    | none => fail "unexpected \x60,'"
  | some c =>
    if c.isDigit then
      let n ← number
      skipBlanks
      if (← peek?) = some '~' then
        let _ ← next?
        let step ← number
        return some (if step = 0 then .line n else .step n step)
      else
        return some (if n = 0 then .start else .line n)
    else
      return none
  | none => return none

/-- Reads what stands behind the comma of a choice. -/
def limit (isExtended : Bool) : Read Limit := do
  skipBlanks
  match ← peek? with
  | some '+' =>
    let _ ← next?
    return .count (← number)
  | some '~' =>
    let _ ← next?
    return .multiple (← number)
  | _ =>
    match ← address? isExtended with
    | some (.line n) => return .line n
    | some (.step n _) => return .line n
    | some .last => return .last
    | some (.pattern e) => return .pattern e
    | some .start => return .line 0
    | none =>
      let _ ← next?
      fail "unexpected \x60,'"

def choice (isExtended : Bool) : Read Choice := do
  let first ← address? isExtended
  skipBlanks
  let limit ← if first.isSome ∧ (← peek?) = some ',' then do
      let _ ← next?
      pure (some (← limit isExtended))
    else pure none
  match first, limit with
  | some .start, some (.pattern _) => pure ()
  | some .start, _ => fail "invalid usage of line address 0"
  | _, _ => pure ()
  skipBlanks
  let isNegated := (← peek?) = some '!'
  if isNegated then
    let _ ← takeWhile fun c => c == '!' || isBlank c
  return ⟨first, limit, isNegated⟩

/-! ### Parts of commands -/

/-- What may stand behind a command: nothing but a separator. -/
def ending : Read Unit := do
  skipBlanks
  match ← peek? with
  | none | some '}' | some '#' => return
  | some c =>
    let _ ← next?
    if c = ';' ∨ c = '\n' then return else fail "extra characters after command"

def fileName : Read String := do
  skipBlanks
  let name ← takeWhile (· != '\n')
  if name = [] then
    fail "missing filename in r/R/w/W commands"
  else
    return String.ofList name

def labelName (stops : Char → Bool) : Read String := do
  skipBlanks
  return String.ofList (← takeWhile fun c => !stops c)

/-- The character of a code in letters, if a backslash and they stand for one. -/
def controlOf? : Char → Option Char
  | 'a' => some '\x07'
  | 'f' => some '\x0c'
  | 'n' => some '\n'
  | 'r' => some '\r'
  | 't' => some '\t'
  | 'v' => some '\x0b'
  | _ => none

/-- A character by its code, and what follows. -/
def coded? (letter : Char) (rest : List Char) : Option (Char × List Char) :=
  let read (base count : Nat) (isDigit : Char → Bool) : Option (Char × List Char) :=
    let digits := (rest.take count).takeWhile isDigit
    if digits = [] then none
    else
      let value := digits.foldl (fun n c =>
        n * base + (if c.isDigit then c.toNat - 48 else c.toLower.toNat - 87)) 0
      some (Char.ofNat (value % 256), rest.drop digits.length)
  match letter with
  | 'd' => read 10 3 (·.isDigit)
  | 'o' => read 8 3 fun c => '0' ≤ c && c ≤ '7'
  | 'x' => read 16 2 fun c => c.isDigit || ('a' ≤ c && c ≤ 'f') || ('A' ≤ c && c ≤ 'F')
  | _ => none

/-- Reads the lines of a text up to one that does not end in a backslash. -/
def textLines : Nat → List Char → Read String
  | 0, done => return String.ofList done.reverse
  | fuel + 1, done => do
    match ← next? with
    | none | some '\n' => return String.ofList ('\n' :: done).reverse
    | some '\\' =>
      match ← next? with
      | none => return String.ofList ('\n' :: done).reverse
      | some c =>
        let rest := (← get).rest
        match controlOf? c, coded? c rest with
        | some control, _ => textLines fuel (control :: done)
        | none, some (meant, behind) =>
          modify fun p => ⟨behind, p.read + (rest.length - behind.length)⟩
          textLines fuel (meant :: done)
        | none, none => textLines fuel (c :: done)
    | some c => textLines fuel (c :: done)

/-- Reads the text of a command that puts lines in. -/
def text : Read String := do
  skipSpaces
  match ← peek? with
  | none => fail "expected \\ after \x60a', \x60c' or \x60i'"
  | some '\\' =>
    let _ ← next?
    skipBlanks
    match ← peek? with
    | none => return ""
    | some '\n' =>
      let _ ← next?
      textLines ((← get).rest.length + 1) []
    | some _ => textLines ((← get).rest.length + 1) []
  | some _ => textLines ((← get).rest.length + 1) []

/-- The pieces of a replacement; `word` is the text under way, backward. -/
def pieces : Nat → List Char → List Char → List Piece
  | 0, word, _ => flush word
  | _, word, [] => flush word
  | fuel + 1, word, '&' :: rest => flush word ++ .group 0 :: pieces fuel [] rest
  | fuel + 1, word, '\\' :: c :: rest =>
    let case' (k : Case) : List Piece := flush word ++ .case k :: pieces fuel [] rest
    match c with
    | 'U' => case' .upper
    | 'L' => case' .lower
    | 'u' => case' .upperNext
    | 'l' => case' .lowerNext
    | 'E' => case' .asIs
    | c =>
      if c.isDigit then flush word ++ .group (c.toNat - 48) :: pieces fuel [] rest
      else
        match controlOf? c, coded? c rest with
        | some control, _ => pieces fuel (control :: word) rest
        | none, some (meant, behind) => pieces fuel (meant :: word) behind
        | none, none => pieces fuel (c :: word) rest
  | fuel + 1, word, c :: rest => pieces fuel (c :: word) rest
where
  flush (word : List Char) : List Piece :=
    if word = [] then [] else [.text (String.ofList word.reverse)]

/-- The options behind a substitution. -/
structure Flags where
  least : Nat
  isGlobal : Bool
  prints : Bool
  ignoresCase : Bool
  hasLines : Bool
  target : Option String

def substitutionFlags : Nat → Flags → Read Flags
  | 0, f => return f
  | fuel + 1, f => do
    match ← peek? with
    | none | some '}' | some '#' => return f
    | some c =>
      if c.isDigit then
        let n ← number
        if n = 0 then
          fail "number option to \x60s' command may not be zero"
        else
          substitutionFlags fuel { f with least := n }
      else
        let _ ← next?
        match c with
        | 'g' =>
          if f.isGlobal then fail "multiple \x60g' options to \x60s' command"
          else substitutionFlags fuel { f with isGlobal := true }
        | 'p' =>
          if f.prints then fail "multiple \x60p' options to \x60s' command"
          else substitutionFlags fuel { f with prints := true }
        | 'i' | 'I' => substitutionFlags fuel { f with ignoresCase := true }
        | 'm' | 'M' => substitutionFlags fuel { f with hasLines := true }
        | 'w' => return { f with target := some (← fileName) }
        | ';' | '\n' => return f
        | ' ' | '\t' => substitutionFlags fuel f
        | _ => fail "unknown option to \x60s'"

def substitution (isExtended : Bool) : Read Command := do
  let failed : Read Command := fail "unterminated \x60s' command"
  match ← next? with
  | none => failed
  | some mark =>
    if mark = '\n' ∨ mark = '\\' then
      failed
    else
      match ← closed mark true with
      | none => failed
      | some source =>
        match ← closed mark false with
        | none => failed
        | some replacement =>
          let f ← substitutionFlags ((← get).rest.length + 1)
            ⟨1, false, false, false, false, none⟩
          let (e, groups) ← expression isExtended source f.ignoresCase f.hasLines
          let parts := pieces (replacement.length + 1) [] replacement
          let most := (parts.map fun p =>
            match p with
            | .group n => n
            | _ => 0).foldl max 0
          if let some groups := groups then
            if groups < most then
              fail s!"invalid reference \\{most} on \x60s' command's RHS"
          return .substitute ⟨e, parts, f.least, f.isGlobal, f.prints, f.target⟩

/-- The characters of a translation, escapes resolved. -/
def plainChars : List Char → List Char
  | '\\' :: '\\' :: rest => '\\' :: plainChars rest
  | '\\' :: c :: rest =>
    match controlOf? c with
    | some control => control :: plainChars rest
    | none => '\\' :: c :: plainChars rest
  | c :: rest => c :: plainChars rest
  | [] => []

def translation : Read Command := do
  let failed : Read Command := fail "unterminated \x60y' command"
  match ← next? with
  | none => failed
  | some mark =>
    match ← closed mark false with
    | none => failed
    | some first =>
      match ← closed mark false with
      | none => failed
      | some second =>
        let a := plainChars first
        let b := plainChars second
        if a.length ≠ b.length then
          fail "strings for \x60y' command are different lengths"
        else
          ending
          return .translate (a.zip b)

/-- A number behind a command, if there is one. -/
def optionalNumber : Read (Option Nat) := do
  skipBlanks
  let digits ← takeWhile (·.isDigit)
  return if digits = [] then none else some (Nat.ofDigitChars 10 digits 0)

/-! ### Commands -/

def simpleCommands : List (Char × Command) :=
  [('d', .delete), ('D', .deleteFirst), ('p', .print), ('P', .printFirst), ('g', .get),
    ('G', .getAppend), ('h', .hold), ('H', .holdAppend), ('x', .exchange), ('n', .next),
    ('N', .nextAppend), ('=', .lineNumber), ('F', .fileName), ('z', .zap)]

/-- Reads a command behind its choice of lines. -/
def command (isExtended : Bool) (lines : Choice) : Read Draft := do
  let onlyOne : Read Unit := do
    if lines.limit.isSome then fail "command only uses one address"
  match ← next? with
  | none => fail "missing command"
  | some c =>
    match simpleCommands.lookup c with
    | some simple =>
      ending
      return .done simple
    | none =>
      match c with
      | '{' => return .opening
      | '}' =>
        if lines.first.isSome then fail "\x7d doesn't want any addresses"
        ending
        return .closing
      | '#' =>
        if lines.first.isSome then fail "comments don't accept any addresses"
        let _ ← takeWhile (· != '\n')
        return .done .nothing
      | ':' =>
        if lines.first.isSome then fail ": doesn't want any addresses"
        let name ← labelName fun c => c == '\n' || c == ';'
        let name := String.ofList ((name.toList.reverse.dropWhile isSpace).reverse)
        if name = "" then fail "\":\" lacks a label"
        return .label name
      | 'b' | 't' | 'T' =>
        let name ← labelName fun c => isSpace c || c == ';' || c == '}'
        ending
        return .jump (if c = 'b' then .always else if c = 't' then .replaced else .notReplaced) name
      | 'a' => return .done (.append (← text))
      | 'i' => return .done (.insert (← text))
      | 'c' => return .done (.change (← text))
      | 'q' =>
        onlyOne
        let n ← optionalNumber
        ending
        return .done (.quit (n.getD 0))
      | 'Q' =>
        onlyOne
        let n ← optionalNumber
        ending
        return .done (.quitSilently (n.getD 0))
      | 'l' =>
        let n ← optionalNumber
        ending
        return .done (.list n)
      | 'L' =>
        let _ ← optionalNumber
        ending
        return .done .nothing
      | 'r' => return .done (.readFile (← fileName))
      | 'R' => return .done (.readLine (← fileName))
      | 'w' => return .done (.writeFile (← fileName))
      | 'W' => return .done (.writeFirst (← fileName))
      | 's' => return .done (← substitution isExtended)
      | 'y' => return .done (← translation)
      | 'v' =>
        let _ ← takeWhile fun c => c != '\n' && c != ';'
        return .done .nothing
      | c => fail s!"unknown command: \x60{String.singleton c}'"

/-- Reads commands up to the end. The fuel bounds their number. -/
def drafts (isExtended : Bool) : Nat → Nat → Read (List (Choice × Draft))
  | 0, _ => return []
  | fuel + 1, depth => do
    let _ ← takeWhile fun c => isSpace c || c == ';'
    if (← peek?).isNone then
      if 0 < depth then failAtStart "unmatched \x60\x7b'" else return []
    else
      let lines ← choice isExtended
      let draft ← command isExtended lines
      let depth ← match draft with
        | .opening => pure (depth + 1)
        | .closing =>
          match depth with
          | 0 => fail "unexpected \x60\x7d'"
          | n + 1 => pure n
        | _ => pure depth
      return (lines, draft) :: (← drafts isExtended fuel depth)

end Read

/-- The place behind the closing of a block, of which so many are open. -/
def placeBehind : Nat → Nat → List Draft → Nat
  | _, place, [] => place
  | depth, place, .opening :: rest => placeBehind (depth + 1) (place + 1) rest
  | 0, place, .closing :: _ => place + 1
  | depth + 1, place, .closing :: rest => placeBehind depth (place + 1) rest
  | depth, place, _ :: rest => placeBehind depth (place + 1) rest

/-- The place of a label. -/
def placeOfLabel? (name : String) (ds : List Draft) : Option Nat :=
  ds.findIdx? fun d =>
    match d with
    | .label other => other == name
    | _ => false

/-- Puts places in the place of names; a name that no label has is the error. -/
def resolve (ds : List (Choice × Draft)) : Except String (List Step) :=
  let all := ds.map (·.2)
  ds.zipIdx.mapM fun ((lines, d), i) =>
    match d with
    | .done c => .ok ⟨lines, c⟩
    | .closing | .label _ => .ok ⟨lines, .nothing⟩
    | .opening => .ok ⟨lines, .block (placeBehind 0 (i + 1) (all.drop (i + 1)))⟩
    | .jump c name =>
      if name = "" then .ok ⟨lines, .jump c all.length⟩
      else
        match placeOfLabel? name all with
        | some place => .ok ⟨lines, .jump c place⟩
        | none => .error name

/-- Reads a script. -/
def readDrafts (isExtended : Bool) (script : String) : Except Fault (List (Choice × Draft)) :=
  match (Read.drafts isExtended (script.length + 1) 0).run ⟨script.toList, 0⟩ with
  | .ok (ds, _) => .ok ds
  | .error f => .error f

end LinkBench.Host.Utility.Sed
