import LinkBench.Host.Shell.Fault
import LinkBench.Host.Utility.Escape
/-!
Reading characters and words of a script. A backslash before a line end joins two lines almost
everywhere. Words are read in a context that says which characters mean something; a command inside
of a word is read by the reader of whole commands, which is passed down.
-/

namespace LinkBench.Host.Shell

/-- An inline document whose text is still to come. -/
structure PendingDocument where
  number : Nat
  delimiter : List Char
  /-- Whether tabs at the start of lines are dropped. -/
  strips : Bool
  /-- Whether the text stands for itself. -/
  isQuoted : Bool
  line : Nat

inductive Token
  | word (w : Written)
  | keyword (text : String)
  | operator (text : String)
  | redirect (descriptor : Option Descriptor) (arrow : String)
  /-- An assignment of a list, which only the extended dialect has. -/
  | listAssignment (a : String × Assignment)
  | lineEnd
  | endOfFile

/-- A token in messages. -/
def Token.shown : Token → String
  | .word _ | .listAssignment _ => "word"
  | .keyword text | .operator text => s!"\"{text}\""
  | .redirect .. => "redirection"
  | .lineEnd => "newline"
  | .endOfFile => "end of file"

/-- A token as the extended dialect shows it. -/
def Token.spelled : Token → String
  | .word w => w.1
  | .listAssignment a => a.1
  | .redirect _ arrow => arrow
  | .operator text => text
  | t => t.shown

/-- An alias whose text has taken the place of its name. -/
structure ActiveAlias where
  name : String
  /-- How many characters stand behind its text. -/
  behind : Nat
  /-- Whether its text ends in a blank, so that the next word may be an alias too. -/
  endsBlank : Bool

/-- How far a script has been read. -/
structure Source where
  rest : List Char
  line : Nat
  dialect : Dialect
  /-- A token that was read and put back. -/
  token : Option Token
  pending : List PendingDocument
  /-- The texts of the documents that were read. -/
  documents : List (Nat × Written)
  nextDocument : Nat
  aliases : List (String × String)
  /-- The aliases whose text is being read, the inner ones first. -/
  activeAliases : List ActiveAlias
  /-- Whether words may hold alternatives between parentheses. -/
  knowsGroups : Bool
  /-- What is said about documents that have no end, each with the number of a line. -/
  warnings : List (Nat × String)

def Source.ofText (dialect : Dialect) (text : String) : Source where
  rest := text.toList
  line := 1
  dialect := dialect
  token := none
  pending := []
  documents := []
  nextDocument := 0
  aliases := []
  activeAliases := []
  knowsGroups := false
  warnings := []

abbrev Read (α : Type) := StateT Source (Except Fault) α

namespace Read

/-- More than the number of steps that reading any text takes. -/
def longest : Nat := 1000000000

def fail {α : Type} (mistake : Mistake) : Read α := do
  let s ← get
  throw ⟨s.line, mistake, none, .command, s.rest.length⟩

/-- Reads something that may have no end; a fault tells where it began. -/
def opened {α : Type} (body : Read α) : Read α := do
  let line := (← get).line
  tryCatch body fun f => throw { f with opening := f.opening <|> some line }

/-- Reads something where faults are of a kind of their own. -/
def placed {α : Type} (place : FaultPlace) (body : Read α) : Read α :=
  tryCatch body fun f =>
    throw { f with place := if f.place = .command then place else f.place }

def isExtended : Read Bool := do
  return (← get).dialect == .extended

/-- Joins lines in front of the next character. -/
def skipJoined : Nat → Nat → List Char → Nat × List Char
  | fuel + 1, line, '\\' :: '\n' :: rest => skipJoined fuel (line + 1) rest
  | _, line, cs => (line, cs)

/-- The next character, which stays. -/
def peek : Read (Option Char) := fun s =>
  match s.rest with
  | '\\' :: '\n' :: _ =>
    let (line, rest) := skipJoined longest s.line s.rest
    .ok (rest.head?, { s with rest, line })
  | rest => .ok (rest.head?, s)

/-- Takes the next character as it stands. -/
def takeRaw : Read (Option Char) := fun s =>
  match s.rest with
  | [] => .ok (none, s)
  | '\n' :: rest => .ok (some '\n', { s with rest, line := s.line + 1 })
  | c :: rest => .ok (some c, { s with rest })

def take : Read (Option Char) := do
  let _ ← peek
  takeRaw

/-- Whether the given text stands next. -/
def looksAt (text : String) : Read Bool := do
  let _ ← peek
  return text.toList.isPrefixOf (← get).rest

/-- Takes the given text if it stands next. -/
def takeIf (text : String) : Read Bool := do
  if ← looksAt text then
    modify fun s => { s with rest := s.rest.drop text.length }
    return true
  else
    return false

def takeWhileChar (p : Char → Bool) : Nat → List Char → Read (List Char)
  | 0, taken => return taken.reverse
  | fuel + 1, taken => do
    match ← peek with
    | some c =>
      if p c then
        let _ ← takeRaw
        takeWhileChar p fuel (c :: taken)
      else
        return taken.reverse
    | none => return taken.reverse

/-- The longest run of characters with a property. -/
def takeRun (p : Char → Bool) : Read String := do
  return String.ofList (← takeWhileChar p longest [])

/-- Adds a character to parts that are in backward order. -/
def push (quoted : Bool) (c : Char) (parts : List Part) : List Part :=
  match parts with
  | .text s q :: rest =>
    if q = quoted then .text (s.push c) q :: rest
    else .text (String.singleton c) quoted :: parts
  | _ => .text (String.singleton c) quoted :: parts

end Read

/-- What surrounds the characters of a word. -/
inductive Context
  | bare
  /-- A word that ends an inline document, in which no dollar sign means anything. -/
  | delimiter
  | double
  /-- Between the braces of a reference, which may itself be inside of quotes; `inner` tells of a
  pair of quotes opened since then. -/
  | braces (quoted : Bool) (inner : Bool)
  | document
  /-- An arithmetic expression in so many parentheses of its own. -/
  | arithmetic (depth : Nat)
  /-- The index of a list, up to its bracket. -/
  | subscript
  /-- The pattern at the right of a condition, in so many parentheses. -/
  | expression (depth : Nat)
  /-- Alternatives of a pattern, in so many parentheses of their own. -/
  | group (depth : Nat)
  /-- A part of a slice or a replacement, up to one of these characters or the brace. -/
  | pieceOf (quoted : Bool) (endings : List Char)
  deriving DecidableEq

namespace Context

/-- Whether characters in the context are safe from splitting and patterns. -/
def isQuoted : Context → Bool
  | .double | .document | .braces true _ | .pieceOf true _ => true
  | _ => false

/-- The characters that end a word outside of quotes. -/
def isWordEnd (c : Char) : Bool :=
  c ∈ [' ', '\t', '\n', ';', '&', '|', '<', '>', '(', ')']

/-- The characters that a backslash quotes where most characters are quoted already. -/
def escapable : Context → List Char
  | .document => ['$', '\x60', '\\']
  | .braces true _ | .pieceOf true _ => ['$', '\x60', '\\', '"', '\x7d']
  | _ => ['$', '\x60', '\\', '"']

end Context

namespace Read

/-- The text of a command between back quotes, whose backslashes quote few characters. -/
def backquoted (inDouble : Bool) : Nat → List Char → Read (List Char)
  | 0, _ => fail .endInBackquotes
  | fuel + 1, taken => do
    match ← takeRaw with
    | none => fail .endInBackquotes
    | some '\x60' => return taken.reverse
    | some '\\' =>
      match ← takeRaw with
      | none => fail .endInBackquotes
      | some '\n' => backquoted inDouble fuel taken
      | some c =>
        if c = '\x60' ∨ c = '\\' ∨ c = '$' ∨ (c = '"' ∧ inDouble) then
          backquoted inDouble fuel (c :: taken)
        else
          backquoted inDouble fuel (c :: '\\' :: taken)
    | some c => backquoted inDouble fuel (c :: taken)

def singleQuoted : Nat → List Part → Read (List Part)
  | 0, _ => fail (.unterminatedQuote '\'')
  | fuel + 1, parts => do
    match ← takeRaw with
    | none => fail (.unterminatedQuote '\'')
    | some '\'' => return parts
    | some c => singleQuoted fuel (push true c parts)

/-- The text between quotes in which backslashes begin escapes, in backward order. -/
def escapedText : Nat → List Char → Read (List Char)
  | 0, _ => fail (.unterminatedQuote '\'')
  | fuel + 1, text => do
    match ← takeRaw with
    | none => fail (.unterminatedQuote '\'')
    | some '\'' => return text
    | some '\\' =>
      match ← takeRaw with
      | none => fail (.unterminatedQuote '\'')
      | some c => escapedText fuel (c :: '\\' :: text)
    | some c => escapedText fuel (c :: text)

/-- Quotes of the extended dialect in which backslashes begin escapes; a zero byte ends the text. -/
def escapeQuoted (parts : List Part) : Read (List Part) := do
  let text := (← escapedText longest []).reverse
  let (resolved, _) := Utility.Escape.resolve .extendedQuote (text.length + 1) text
  return (resolved.takeWhile (· != '\x00')).foldl (fun parts c => push true c parts) parts

/-- The characters that name a parameter of their own. -/
def specialParameters : List Char := ['@', '*', '#', '?', '-', '$', '!']

/-- The operators of a reference, and what they mean without and with a colon before them. -/
def substitutions : List (Char × (Bool → Usage)) :=
  [('-', .orDefault), ('=', .orAssign), ('?', .orFail), ('+', .alternative)]

variable (readBody : Read Command)

/-- Complains about a token. -/
def unexpected {α : Type} (found : Token) (expected : Option String) : Read α := do
  fail (.unexpected (if ← isExtended then found.spelled else found.shown) expected)

/-- Reads a command inside of parentheses, up to and including the closing one. -/
def commandInParentheses : Read Command := do
  let before ← get
  let inner : Read Command := do
    set { before with token := none, pending := [] }
    let body ← readBody
    let after ← get
    match after.token with
    | some (.operator ")") =>
      set { after with token := before.token, pending := before.pending }
      return body
    | found => unexpected (found.getD .endOfFile) (some "\")\"")
  if before.dialect == .plain then inner
  else
    placed .substitution <| tryCatch inner fun f =>
      throw (match f.mistake with
        | .unexpected found _ =>
          if found = Mistake.endName then { f with mistake := .endInSubstitution } else f
        | _ => f)

/-- Reads a command from a text of its own, whose lines are counted from one. -/
def commandInText (text : List Char) : Read Command := do
  let before ← get
  set { before with rest := text, line := 1, token := none, pending := [] }
  let body ← readBody
  modify fun s => { before with documents := s.documents, nextDocument := s.nextDocument }
  return body

/-- Whether alternatives begin with a character that stands next. -/
def startsGroup (context : Context) (c : Char) : Read Bool := do
  if c ∈ ['?', '*', '+', '@', '!'] ∧ context = .bare ∧ (← get).knowsGroups then
    looksAt (String.ofList [c, '('])
  else
    return false

mutual

/-- Reads parts up to the end that the context waits for. The parts read so far are in backward
order. -/
def parts : Nat → Context → List Part → Read (List Part)
  | 0, _, _ => fail .missingBrace
  | fuel + 1, context, done => do
    let quoted := context.isQuoted
    let goOn (c : Char) : Read (List Part) := do
      let _ ← takeRaw
      parts fuel context (push quoted c done)
    match ← peek with
    | none =>
      match context with
      | .bare | .delimiter | .document | .expression _ => return done.reverse
      | .double => fail (.unterminatedQuote '"')
      | .braces true _ | .pieceOf true _ =>
        fail (if ← isExtended then .missingBrace else .unterminatedQuote '"')
      | .arithmetic _ => fail .missingParentheses
      | .group _ => fail (.unterminatedQuote ')')
      | .braces false _ | .subscript | .pieceOf false _ => fail .missingBrace
    | some c =>
      match context, c with
      | .bare, '(' | .bare, ')' | .delimiter, _ | .bare, _ =>
        if ← startsGroup context c then
          modify fun s => { s with rest := s.rest.drop 2 }
          let inner ← opened (parts fuel (.group 0) (push false '(' (push false c done)))
          parts fuel context inner
        else if Context.isWordEnd c then
          if (c = '<' ∨ c = '>') ∧ (← isExtended) ∧ context = .bare then
            if ← looksAt (String.ofList [c, '(']) then
              modify fun s => { s with rest := s.rest.drop 2 }
              let body ← commandInParentheses readBody
              parts fuel context (.connection (c == '>') body :: done)
            else
              return done.reverse
          else
            return done.reverse
        else
          ordinary fuel context c done
      | .double, '"' =>
        let _ ← takeRaw
        return done.reverse
      | .braces true inner, '"' =>
        let _ ← takeRaw
        parts fuel (.braces true (!inner)) (.quotes :: done)
      | .braces _ false, '\x7d' =>
        let _ ← takeRaw
        return done.reverse
      | .subscript, ']' =>
        let _ ← takeRaw
        return done.reverse
      | .pieceOf _ endings, c =>
        if c = '\x7d' ∨ c ∈ endings then return done.reverse else ordinary fuel context c done
      | .arithmetic depth, '(' =>
        let _ ← takeRaw
        parts fuel (.arithmetic (depth + 1)) (push quoted c done)
      | .arithmetic depth, ')' =>
        let _ ← takeRaw
        if 0 < depth then
          parts fuel (.arithmetic (depth - 1)) (push quoted c done)
        else if ← takeIf ")" then
          return done.reverse
        else
          parts fuel context (push quoted c done)
      | .group depth, '(' =>
        let _ ← takeRaw
        parts fuel (.group (depth + 1)) (push false c done)
      | .group depth, ')' =>
        let _ ← takeRaw
        if depth = 0 then return push false c done
        else parts fuel (.group (depth - 1)) (push false c done)
      | .expression depth, '(' =>
        let _ ← takeRaw
        parts fuel (.expression (depth + 1)) (push quoted c done)
      | .expression depth, c =>
        if c = ')' ∧ 0 < depth then
          let _ ← takeRaw
          parts fuel (.expression (depth - 1)) (push quoted c done)
        else if depth = 0 ∧ (c = ' ' ∨ c = '\t' ∨ c = '\n' ∨ c = ')' ∨ c = '&') then
          return done.reverse
        else
          ordinary fuel context c done
      | .document, '"' => goOn c
      | _, _ => ordinary fuel context c done

/-- Reads a character that does not end the context. -/
def ordinary : Nat → Context → Char → List Part → Read (List Part)
  | 0, _, _, _ => fail .missingBrace
  | fuel + 1, context, c, done => do
    let quoted := context.isQuoted
    let _ ← takeRaw
    let isPlace := context == .delimiter
    if c = '\\' then
      match ← takeRaw with
      | none => parts fuel context (push true '\\' done)
      | some d =>
        if quoted && !(context.escapable).contains d then
          parts fuel context (push true d (push true '\\' done))
        else
          parts fuel context (push true d done)
    else if c = '$' ∧ !isPlace then
      let found ← dollar fuel quoted
      parts fuel context (found ++ done)
    else if c = '\x60' ∧ !isPlace then
      let text ← opened (backquoted quoted longest [])
      let body ← commandInText readBody text
      parts fuel context (.command body quoted :: done)
    else if c = '\'' ∧ !quoted ∧ !(context matches .arithmetic _) then
      let inner ← opened (singleQuoted longest (.quotes :: done))
      parts fuel context inner
    else if c = '"' ∧ !quoted ∧ !(context matches .arithmetic _) then
      let inner ← opened (parts fuel .double [])
      parts fuel context (inner.reverse ++ .quotes :: done)
    else
      parts fuel context (push quoted c done)

/-- Reads what a dollar sign begins, in backward order; the sign stands for itself if nothing fits. -/
def dollar : Nat → Bool → Read (List Part)
  | 0, _ => fail .missingBrace
  | fuel + 1, quoted => do
    match ← peek with
    | some '(' =>
      let _ ← takeRaw
      if ← takeIf "(" then
        let expression ← opened (parts fuel (.arithmetic 0) [])
        return [.arithmetic expression quoted]
      else
        let body ← commandInParentheses readBody
        return [.command body quoted]
    | some '\x7b' =>
      let _ ← takeRaw
      return [← opened (reference fuel quoted)]
    | some c =>
      if isNameStart c then
        let name ← takeRun isNameChar
        return [.parameter name [] false .value [] quoted]
      else if c.isDigit ∨ c ∈ specialParameters then
        let _ ← takeRaw
        return [.parameter (String.singleton c) [] false .value [] quoted]
      else if (← isExtended) ∧ !quoted ∧ c = '\'' then
        let _ ← takeRaw
        return ← opened (escapeQuoted [.quotes])
      else if (← isExtended) ∧ !quoted ∧ c = '"' then
        let _ ← takeRaw
        let inner ← opened (parts fuel .double [])
        return inner.reverse ++ [.quotes]
      else
        return [.text "$" quoted]
    | none => return [.text "$" quoted]

/-- Reads a reference behind its opening brace. -/
def reference : Nat → Bool → Read Part
  | 0, _ => fail .missingBrace
  | fuel + 1, quoted => do
    let nonsense : Read Part := do
      let rest ← parts fuel (.braces quoted false) []
      return .parameter "" [] false .invalid [rest] quoted
    let extended ← isExtended
    let start := (← get).rest
    let (usage, isIndirect, name) : Usage × Bool × String ← do
      if ← looksAt "#\x7d" then
        let _ ← takeRaw
        pure (.value, false, "#")
      else if ← looksAt "#" then
        let _ ← takeRaw
        match ← peek with
        | some c =>
          if isNameChar c then
            pure (.length, false, ← if c.isDigit then takeRun (·.isDigit) else takeRun isNameChar)
          else if c ∈ specialParameters then
            let _ ← takeRaw
            if ← looksAt "\x7d" then pure (.length, false, String.singleton c)
            else do
              modify fun s => { s with rest := c :: s.rest }
              pure (.value, false, "#")
          else pure (.value, false, "#")
        | none => pure (.value, false, "#")
      else
        let isIndirect ← if extended ∧ !(← looksAt "!\x7d") then takeIf "!" else pure false
        match ← peek with
        | some c =>
          let name ← if isNameStart c then takeRun isNameChar
            else if c.isDigit then takeRun (·.isDigit)
            else if c ∈ specialParameters then do
              let _ ← takeRaw
              pure (String.singleton c)
            else pure ""
          pure (.value, isIndirect, name)
        | none => pure (.value, false, "")
    if name = "" then
      return ← nonsense
    let subscript ← if extended then
        if ← takeIf "[" then parts fuel .subscript [] else pure []
      else pure []
    let finish (usage : Usage) (operands : List Word) : Part :=
      .parameter name subscript isIndirect usage operands quoted
    -- a reference that makes no sense is told as a whole
    let nonsense : Read Part := do
      if extended then
        modify fun s => { s with rest := start }
      nonsense
    if ← takeIf "\x7d" then
      let isWhole := match subscript with
        | [.text "@" false] | [.text "*" false] => true
        | _ => false
      if isIndirect && isWhole then
        return .parameter name subscript false .keys [] quoted
      return finish usage []
    match usage with
    | .length => nonsense
    | _ =>
      let isNames := isIndirect && ((← looksAt "*\x7d") || (← looksAt "@\x7d"))
      if isNames then
        let kind ← take
        let _ ← take
        return .parameter name [.text (String.singleton (kind.getD '@')) false] false .names [] quoted
      else
        operated fuel quoted extended finish nonsense

/-- Reads the operator of a reference and its operands. -/
def operated : Nat → Bool → Bool → (Usage → List Word → Part) → Read Part → Read Part
  | 0, _, _, _, _ => fail .missingBrace
  | fuel + 1, quoted, extended, finish, nonsense => do
    let pattern (usage : Usage) : Read Part := do
      return finish usage [← parts fuel (.braces false false) []]
    -- the plain dialect drops a character that is no operator, and does not count the line it ends
    let dropped : Read Part := do
      if !extended then
        modify fun s => { s with rest := s.rest.drop 1 }
      nonsense
    let orEmpty ← takeIf ":"
    match ← peek with
    | none => nonsense
    | some c =>
      match substitutions.lookup c with
      | some usage =>
        let _ ← takeRaw
        return finish (usage orEmpty) [← parts fuel (.braces quoted false) []]
      | none =>
        if orEmpty then
          if extended then
            let start ← parts fuel (.pieceOf quoted [':']) []
            let operands ← if ← takeIf ":" then do
                pure [start, ← parts fuel (.pieceOf quoted []) []]
              else pure [start]
            let _ ← take
            return finish .slice operands
          else dropped
        else if c = '#' then
          let _ ← takeRaw
          pattern (.withoutStart (← takeIf "#"))
        else if c = '%' then
          let _ ← takeRaw
          pattern (.withoutEnd (← takeIf "%"))
        else if extended ∧ c = '/' then
          let _ ← takeRaw
          let everywhere ← takeIf "/"
          let anchor ← if everywhere then pure none
            else if ← takeIf "#" then pure (some '#')
            else if ← takeIf "%" then pure (some '%')
            else pure none
          let wanted ← parts fuel (.pieceOf false ['/']) []
          let replacement ← if ← takeIf "/" then parts fuel (.pieceOf quoted []) [] else pure []
          let _ ← take
          return finish (.replace everywhere anchor) [wanted, replacement]
        else if extended ∧ c = '^' then
          let _ ← takeRaw
          pattern (.upper (← takeIf "^"))
        else if extended ∧ c = ',' then
          let _ ← takeRaw
          pattern (.lower (← takeIf ","))
        else if extended ∧ c = '~' then
          let _ ← takeRaw
          pattern (.swapCase (← takeIf "~"))
        else if extended ∧ c = '@' then
          let _ ← takeRaw
          match ← takeRaw with
          | some letter =>
            if letter.isAlpha ∧ (← takeIf "\x7d") then return finish (.form letter) []
            else nonsense
          | none => nonsense
        else
          dropped

end

/-- Reads a word that begins here. -/
def word (context : Context) : Read Word := do
  parts readBody longest context []

/-- What was read of a text since it was as given, without joined lines. The plain dialect has no use
for it. -/
def sourceSince (before : List Char) : Read String := do
  let s ← get
  if s.dialect == .plain then return ""
  else
    let text := String.ofList (before.take (before.length - s.rest.length))
    return if text.contains '\\' then text.replace "\\\n" "" else text

/-- Reads a word that begins here, with its text. -/
def written (context : Context) : Read Written := do
  let before := (← get).rest
  let w ← word readBody context
  return (← sourceSince before, w)

/-- The text of an inline document as a word. -/
def documentWord (text : List Char) : Read Word := do
  let before ← get
  set { before with rest := text, token := none, pending := [] }
  let w ← parts readBody longest .document []
  modify fun s => { before with documents := s.documents, nextDocument := s.nextDocument }
  return w

/-- Lines up to the one that reads `delimiter`, joined, with the number of lines taken and the text
behind, if there is such a line. -/
def takeDocument (delimiter : List Char) (strips : Bool) :
    Nat → List Char → List Char → Nat → List Char × Nat × Option (List Char)
  | 0, taken, cs, lines => (taken, lines, some cs)
  | _, taken, [], lines => (taken, lines, none)
  | fuel + 1, taken, cs, lines =>
    let cs := if strips then cs.dropWhile (· == '\t') else cs
    let line := cs.takeWhile (· != '\n')
    let behind := cs.drop line.length
    if line = delimiter then
      (taken, lines + 1, some (behind.drop 1))
    else
      takeDocument delimiter strips fuel (taken ++ line ++ behind.take 1) (behind.drop 1) (lines + 1)

/-- Reads the documents that begin on the line that has just ended. -/
def readDocuments : Read Unit := do
  let waiting := (← get).pending
  modify fun s => { s with pending := [] }
  for d in waiting do
    let s ← get
    let (text, lines, rest?) := takeDocument d.delimiter d.strips longest [] s.rest 0
    let delimiter := String.ofList d.delimiter
    let warning := s!"here-document at line {d.line} delimited by end-of-file (wanted \x60{delimiter}')"
    let source := String.ofList text
    let w : Word ← if d.isQuoted then pure [.text source true] else documentWord readBody text
    modify fun s => { s with
      rest := rest?.getD []
      line := s.line + lines
      warnings := if rest?.isSome then s.warnings
        else s.warnings ++ [(s.line + lines - 1, warning)]
      documents := (d.number, source, w) :: s.documents }

end Read

end LinkBench.Host.Shell
