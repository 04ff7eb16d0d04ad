import LinkBench.Host.Shell.Reader
/-!
Reading commands. A script is read one complete command at a time, up to the end of its line, so what
stands before a mistake on a later line is still run. The fuel of the readers bounds how deep commands
are nested and how long lists are.
-/

namespace LinkBench.Host.Shell

namespace Token

/-- Whether a list of commands ends before the token. -/
def endsList : Token → Bool
  | .keyword text =>
    text ∈ ["do", "done", "elif", "else", "esac", "fi", "then", "\x7d"]
  | .operator text => text ∈ [")", ";;", ";&", ";;&"]
  | .endOfFile => true
  | _ => false

end Token

/-- What a token may be where it is read. -/
structure Expectation where
  skipsLines : Bool
  keywords : Bool
  aliases : Bool

namespace Expectation

def plain : Expectation := ⟨false, false, false⟩

/-- Where a command begins. -/
def command : Expectation := ⟨false, true, true⟩

/-- Where a command begins, perhaps on a later line. -/
def laterCommand : Expectation := ⟨true, true, true⟩

end Expectation

def keywords : List String :=
  ["!", "case", "do", "done", "elif", "else", "esac", "fi", "for", "if", "in", "then", "until",
    "while", "\x7b", "\x7d"]

/-- Further keywords of the extended dialect. -/
def extendedKeywords : List String := ["[[", "]]", "coproc", "function", "select", "time"]

namespace Read

def pushBack (t : Token) : Read Unit :=
  modify fun s => { s with token := some t }

variable (readBody : Read Command)

/-! ### Tokens -/

def skipComment : Read Unit :=
  modify fun s => { s with rest := s.rest.dropWhile (· != '\n') }

/-- The arrows of redirections, longer ones before their beginnings. -/
def arrows (extended : Bool) : List String :=
  (if extended then ["<<<", "&>>", "&>"] else []) ++
    ["<<-", "<<", "<&", "<>", "<", ">>", ">|", ">&", ">"]

def takeArrow : List String → Read (Option String)
  | [] => return none
  | arrow :: rest => do
    if ← takeIf arrow then return some arrow else takeArrow rest

def takeOperator : List String → Read (Option String)
  | [] => return none
  | operator :: rest => do
    if ← takeIf operator then return some operator else takeOperator rest

/-- The operators between commands, longer ones before their beginnings. -/
def operators (extended : Bool) : List String :=
  (if extended then [";;&", ";&", "|&"] else []) ++ ["&&", "||", ";;", ";", "&", "|", "(", ")"]

/-- The name and the sign with which a list assignment begins. -/
def listStart? (w : Word) : Option (String × Bool) := do
  let text ← Word.bareText? w
  let (left, value) ← splitAssignment? (text.replace "+=" "=")
  if value = "" then some (left, text.endsWith "+=") else none

/-- The words of a list, up to its parenthesis. -/
def listWords : Nat → List Word → Read (List Word)
  | 0, _ => fail .missingParentheses
  | fuel + 1, done => do
    match ← peek with
    | none => fail (.unterminatedQuote ')')
    | some c =>
      if c = ' ' ∨ c = '\t' ∨ c = '\n' then
        let _ ← takeRaw
        listWords fuel done
      else if c = ')' then
        let _ ← takeRaw
        return done.reverse
      else if c = '#' then
        skipComment
        listWords fuel done
      else
        let w ← word readBody .bare
        if w.isEmpty then
          let _ ← takeRaw
          fail (.unexpected (String.singleton c) none)
        else
          listWords fuel (w :: done)

/-- The descriptor that the text in front of an arrow means: a number, or the name of a variable
between braces. -/
def descriptor? (extended : Bool) (text : String) : Option Descriptor :=
  let cs := text.toList
  if cs ≠ [] ∧ cs.all (·.isDigit) then
    if cs.length = 1 ∨ extended then text.toNat?.map .number else none
  else if extended ∧ cs.head? = some '\x7b' ∧ cs.getLast? = some '\x7d' then
    let name := String.ofList (cs.tail.dropLast)
    if isName name then some (.variable name) else none
  else none

/-- Reads the next token from the characters. -/
def freshToken : Nat → Read Token
  | 0 => return .endOfFile
  | fuel + 1 => do
    let extended ← isExtended
    match ← peek with
    | none => return .endOfFile
    | some c =>
      if c = ' ' ∨ c = '\t' then
        let _ ← takeRaw
        freshToken fuel
      else if c = '#' then
        skipComment
        freshToken fuel
      else if c = '\n' then
        let _ ← takeRaw
        return .lineEnd
      else if (c = '<' ∨ c = '>') ∧
          !(extended ∧ (← looksAt (String.ofList [c, '(']))) then
        match ← takeArrow (arrows extended) with
        | some arrow => return .redirect none arrow
        | none => return .endOfFile
      else if extended ∧ (← looksAt "&>") then
        match ← takeArrow (arrows extended) with
        | some arrow => return .redirect none arrow
        | none => return .endOfFile
      else
        match ← takeOperator (operators extended) with
        | some operator => return .operator operator
        | none =>
          let before := (← get).rest
          let w ← written readBody .bare
          let next ← peek
          match w.2, next with
          | [.text start false], some d =>
            if d = '<' ∨ d = '>' then
              match descriptor? extended start with
              | some descriptor =>
                match ← takeArrow (arrows extended) with
                | some arrow => return .redirect (some descriptor) arrow
                | none => return .word w
              | none => return .word w
            else if extended ∧ d = '(' then
              match listStart? w.2 with
              | some (name, appended) =>
                let values ← placed .elements <| opened do
                  let _ ← takeRaw
                  listWords readBody longest []
                return .listAssignment (← sourceSince before, .list name appended values)
              | none => return .word w
            else
              return .word w
          | _, _ => return .word w

/-- The text of an alias takes the place of its name, except inside of that text. -/
def replaceAlias (name : String) : Read Bool := do
  let s ← get
  match s.aliases.lookup name with
  | some text =>
    let behind := s.rest.length
    let active := s.activeAliases.filter fun a => decide (a.behind ≤ behind)
    if active.any (·.name == name) then
      return false
    else
      let endsBlank := text.endsWith " " || text.endsWith "\t"
      set { s with
        rest := text.toList ++ s.rest
        activeAliases := ⟨name, behind, endsBlank⟩ :: active }
      return true
  | none => return false

/-- Reads the next token from the characters, and says whether the text of an alias that ends in a
blank came to its end in front of it. -/
def freshTokenBehindAliases : Read (Token × Bool) := do
  let active := (← get).activeAliases
  if active.isEmpty then
    return (← freshToken readBody longest, false)
  let before := (← get).rest.length
  let t ← freshToken readBody longest
  let after := (← get).rest.length
  return (t, active.any fun a => a.endsBlank && decide (a.behind < before ∧ after ≤ a.behind))

/-- Reads a token as what it is expected to be. -/
def token : Nat → Expectation → Read Token
  | 0, _ => return .endOfFile
  | fuel + 1, e => do
    let (t, isBehindAlias) ← match (← get).token with
      | some t => do
        modify fun s => { s with token := none }
        pure (t, false)
      | none => freshTokenBehindAliases readBody
    let e := { e with aliases := e.aliases || isBehindAlias }
    match t with
    | .lineEnd =>
      if e.skipsLines then
        readDocuments readBody
        token fuel e
      else
        return t
    | .word w =>
      match Word.bareText? w.2 with
      | some text =>
        let known := if ← isExtended then keywords ++ extendedKeywords else keywords
        if e.keywords ∧ text ∈ known then
          return .keyword text
        let isReplaced ← if e.aliases then replaceAlias text else pure false
        if isReplaced then token fuel e else return t
      | none => return t
    | _ => return t

def next (e : Expectation) : Read Token := do
  token readBody (longest) e

def shownKeyword (text : String) : String := s!"\"{text}\""

/-- Reads a keyword that has to come. -/
def expectKeyword (text : String) (e : Expectation) : Read Unit := do
  match ← next readBody e with
  | .keyword found =>
    if found = text then return else unexpected (.keyword found) (some (shownKeyword text))
  | t => unexpected t (some (shownKeyword text))

/-! ### Redirections -/

/-- Reads the target of a redirection behind its arrow. -/
def redirectTarget (descriptor : Option Descriptor) (arrow : String) : Read Redirect := do
  let input := descriptor.getD (.number 0)
  let output := descriptor.getD (.number 1)
  if arrow = "<<" ∨ arrow = "<<-" then
    match ← peek with
    | some ' ' | some '\t' => let _ ← takeRun fun c => c == ' ' || c == '\t'
    | _ => pure ()
    let w ← written readBody .delimiter
    if w.2.isEmpty then
      let t ← next readBody .plain
      unexpected t none
    let s ← get
    let d : PendingDocument := {
      number := s.nextDocument
      delimiter := (Word.plainText w.2).toList
      strips := arrow = "<<-"
      isQuoted := Word.isQuoted w.2
      line := s.line }
    set { s with pending := s.pending ++ [d], nextDocument := s.nextDocument + 1 }
    return .document input d.number w.1 d.strips
  else
    match ← next readBody .plain with
    | .word w =>
      match arrow with
      | "<<<" => return .word input w
      | "<" => return .file input .read w
      | "<>" => return .file input .readWrite w
      | "<&" => return .file input (.duplicate false) w
      | ">>" => return .file output .append w
      | ">&" => return .file output (.duplicate true) w
      | ">|" => return .file output .overwrite w
      | "&>" => return .file (.number 1) .writeBoth w
      | "&>>" => return .file (.number 1) .appendBoth w
      | _ => return .file output .write w
    | t => unexpected t none

/-- The redirections behind a command that is put together of others. -/
def redirects : Nat → List Redirect → Read (List Redirect)
  | 0, done => return done.reverse
  | fuel + 1, done => do
    match ← next readBody ⟨false, true, true⟩ with
    | .redirect descriptor arrow =>
      let r ← redirectTarget readBody descriptor arrow
      redirects fuel (r :: done)
    | t =>
      pushBack t
      return done.reverse

/-! ### Simple commands -/

/-- The commands of the plain dialect whose names no function can take. -/
def specialNames : List String :=
  [".", ":", "break", "continue", "eval", "exec", "exit", "export", "local", "readonly", "return",
    "set", "shift", "times", "trap", "unset"]

/-- Splits the index off that an assignment has between its name and its sign. -/
def splitSubscript (parts : Word) (taken : Word) : Option (Word × Bool × Word) :=
  match parts with
  | [] => none
  | .text s false :: rest =>
    let cs := s.toList
    let inner := cs.takeWhile (· != ']')
    match cs.drop inner.length with
    | ']' :: '=' :: value =>
      some ((.text (String.ofList inner) false :: taken).reverse, false,
        .text (String.ofList value) false :: rest)
    | ']' :: '+' :: '=' :: value =>
      some ((.text (String.ofList inner) false :: taken).reverse, true,
        .text (String.ofList value) false :: rest)
    | [] => splitSubscript rest (.text s false :: taken)
    | _ => none
  | part :: rest => splitSubscript rest (part :: taken)

/-- A word of the form `name=value` as an assignment. -/
def assignment? (extended : Bool) : Word → Option Assignment
  | .text s false :: rest =>
    let cs := s.toList
    let name := cs.takeWhile isNameChar
    let value (cs : List Char) : Word :=
      if cs = [] then rest else .text (String.ofList cs) false :: rest
    if !(name.head?.any isNameStart) then
      none
    else
      match cs.drop name.length with
      | '=' :: cs => some (.scalar (String.ofList name) [] false (value cs))
      | '+' :: '=' :: cs =>
        if extended then some (.scalar (String.ofList name) [] true (value cs)) else none
      | '[' :: cs =>
        if extended then
          (splitSubscript (.text (String.ofList cs) false :: rest) []).map
            fun (subscript, appended, value) =>
              .scalar (String.ofList name) subscript appended value
        else none
      | _ => none
  | _ => none

/-- What a simple command is made of so far, in backward order. -/
structure SimpleParts where
  line : Nat
  assignments : List (String × Assignment)
  words : List Written
  redirects : List Redirect

/-- Whether nothing has been read but one word. -/
def SimpleParts.isOneWord (p : SimpleParts) : Bool :=
  p.words.length == 1 && p.assignments.isEmpty && p.redirects.isEmpty

/-- Commands of the extended dialect whose arguments may assign lists. -/
def declaring : List String := ["declare", "typeset", "local", "export", "readonly"]

/-- Whether the words so far say that further assignments are arguments. -/
def isDeclaring (words : List Written) : Bool :=
  match words.getLast?.bind fun w => Word.bareText? w.2 with
  | some name => declaring.contains name
  | none => false

variable (readCommand : Read Command)

/-- Reads the words and redirections of a simple command, or a function that begins like one. -/
def simple : Nat → SimpleParts → Read Command
  | 0, _ => fail .missingParentheses
  | fuel + 1, p => do
    let extended ← isExtended
    let before := (← get).line
    let t ← next readBody ⟨false, false, p.words.isEmpty⟩
    -- the extended dialect counts the line when it knows what follows the first word
    let now := (← get).line
    let line := match t with
      | .lineEnd => before
      | _ => now
    let p := if extended && p.isOneWord then { p with line } else p
    match t with
    | .word w =>
      match p.words, assignment? extended w.2 with
      | [], some a => simple fuel { p with assignments := (w.1, a) :: p.assignments }
      | _, _ => simple fuel { p with words := w :: p.words }
    | .listAssignment a =>
      if p.words.isEmpty then
        simple fuel { p with assignments := a :: p.assignments }
      else if isDeclaring p.words then
        match a with
        | (source, .list name appended values) =>
          let w : Written := (source, [.text name false, .elements appended values])
          simple fuel { p with words := w :: p.words }
        | _ => simple fuel p
      else
        fail (.unexpected "\"(\"" none)
    | .redirect descriptor arrow =>
      let r ← redirectTarget readBody descriptor arrow
      simple fuel { p with redirects := r :: p.redirects }
    | .operator "(" =>
      match p.words, p.assignments, p.redirects with
      | [w], [], [] =>
        match ← next readBody .plain with
        | .operator ")" =>
          let name := Word.plainText w.2
          let isGood := if extended then true
            else (Word.bareText? w.2).any isName && !specialNames.contains name
          if !isGood then
            fail .badFunctionName
          let body ← (do
            let t ← next readBody .laterCommand
            pushBack t
            readCommand)
          return .define name body
        | t => unexpected t (some "\")\"")
      | _, _, _ =>
        pushBack (.operator "(")
        finish p
    | t =>
      pushBack t
      finish p
where
  finish (p : SimpleParts) : Read Command :=
    return .simple p.line p.assignments.reverse p.words.reverse p.redirects.reverse

/-! ### Conditions of the extended dialect -/

def skipBlanks (lines : Bool) : Read Unit := do
  let _ ← takeRun fun c => c == ' ' || c == '\t' || (lines && c == '\n')

def binaryTests : List String :=
  ["==", "=", "!=", "=~", "<", ">", "-eq", "-ne", "-lt", "-le", "-gt", "-ge", "-nt", "-ot", "-ef"]

/-- The operators of one operand. -/
def unaryTests : List String :=
  "abcdefghknoprstuvwxzGLNORS".toList.map fun c => String.ofList ['-', c]

/-- A word of a condition; the signs of order are words there. -/
def conditionWord : Read (Option Written) := do
  skipBlanks true
  if ← takeIf "<" then return some ("<", [.text "<" false])
  if ← takeIf ">" then return some (">", [.text ">" false])
  let w ← written readBody .bare
  return if w.2.isEmpty then none else some w

/-- Complains about what stands next in a condition. -/
def badCondition {α : Type} (reason : String → String) : Read α := do
  match ← conditionWord readBody with
  | some w => fail (.badCondition (reason w.1) w.1)
  | none =>
    match ← takeOperator (operators true) with
    | some operator => fail (.badCondition (reason operator) operator)
    | none => fail .endInCondition

mutual

def condition : Nat → Read Condition
  | 0 => fail .missingParentheses
  | fuel + 1 => do
    let a ← conditionBoth fuel
    skipBlanks true
    if ← takeIf "||" then return .either a (← condition fuel) else return a

def conditionBoth : Nat → Read Condition
  | 0 => fail .missingParentheses
  | fuel + 1 => do
    let a ← conditionPrimary fuel
    skipBlanks true
    if ← takeIf "&&" then return .both a (← conditionBoth fuel) else return a

def conditionPrimary : Nat → Read Condition
  | 0 => fail .missingParentheses
  | fuel + 1 => do
    skipBlanks true
    if ← takeIf "(" then
      let inner ← condition fuel
      skipBlanks true
      if ← takeIf ")" then return .group inner else fail (.unterminatedQuote ')')
    match ← conditionWord readBody with
    | none => badCondition readBody fun token => s!"unexpected token \x60{token}' in conditional command"
    | some w =>
      match Word.bareText? w.2 with
      | some "!" => return .negation (← conditionPrimary fuel)
      | some "]]" => fail (.badCondition s!"unexpected token \x60]]' in conditional command" "]]")
      | some text =>
        if unaryTests.contains text then
          match ← conditionWord readBody with
          | some operand =>
            if Word.bareText? operand.2 = some "]]" then
              fail (.badCondition "unexpected argument \x60]]' to conditional unary operator" "]]")
            return .unary text operand
          | none =>
            badCondition readBody fun token =>
              s!"unexpected argument \x60{token}' to conditional unary operator"
        else
          conditionRest w
      | none => conditionRest w

def conditionRest (w : Written) : Read Condition := do
  let before ← get
  let alone : Read Condition := do
    set before
    return .word w
  match ← conditionWord readBody with
  | some operator =>
    match Word.bareText? operator.2 with
    | some "]]" => alone
    | some text =>
      if text ∈ binaryTests then
        skipBlanks true
        let b ← if text = "=~" then written readBody (.expression 0)
          else do
            let knowsGroups := (← get).knowsGroups
            modify fun s => { s with knowsGroups := knowsGroups || text ∈ ["==", "=", "!="] }
            let w ← conditionWord readBody
            modify fun s => { s with knowsGroups }
            pure (w.getD ("", []))
        let reason (token : String) : String :=
          s!"unexpected argument \x60{token}' to conditional binary operator"
        if b.2.isEmpty then
          badCondition readBody reason
        if Word.bareText? b.2 = some "]]" then
          fail (.badCondition (reason "]]") "]]")
        return .binary text w b
      else
        fail (.badCondition "conditional binary operator expected" operator.1)
    | none => fail (.badCondition "conditional binary operator expected" operator.1)
  | none => alone

end

/-- The parts of an expression in two parentheses, cut at the semicolons outside of others. -/
def arithmeticPieces : Nat → Nat → List (List Char) → List Char → Read (List (List Char))
  | 0, _, _, _ => fail .missingParentheses
  | fuel + 1, depth, done, current => do
    match ← takeRaw with
    | none => fail .missingParentheses
    | some '(' => arithmeticPieces fuel (depth + 1) done ('(' :: current)
    | some ')' =>
      if 0 < depth then
        arithmeticPieces fuel (depth - 1) done (')' :: current)
      else if ← takeIf ")" then
        return (current.reverse :: done).reverse
      else
        fail .missingParentheses
    | some ';' =>
      if depth = 0 then arithmeticPieces fuel depth (current.reverse :: done) []
      else arithmeticPieces fuel depth done (';' :: current)
    | some c => arithmeticPieces fuel depth done (c :: current)

/-! ### Commands made of others -/

/-- The name of the parameter and the words of a loop over words. -/
def loopWords : Nat → List Written → Read (List Written)
  | 0, done => return done.reverse
  | fuel + 1, done => do
    match ← next readBody .plain with
    | .word w => loopWords fuel (w :: done)
    | .lineEnd =>
      readDocuments readBody
      return done.reverse
    | .operator ";" => return done.reverse
    | t => unexpected t none

/-- The patterns of an arm of a choice, up to the parenthesis. -/
def armPatterns : Nat → Token → List Written → Read (List Written)
  | 0, t, _ => unexpected t none
  | fuel + 1, t, done => do
    let w ← match t with
      | .word w => pure w
      | .keyword text => pure (text, [.text text false])
      | .endOfFile => unexpected t (some "\")\"")
      | _ => do
        if ← isExtended then unexpected t none
        pure ("", [])
    match ← next readBody .plain with
    | .operator "|" => armPatterns fuel (← next readBody .plain) (w :: done)
    | .operator ")" => return (w :: done).reverse
    | found => unexpected found (some "\")\"")

mutual

/-- Commands up to a token that ends the list. At the top, the end of a line ends the list. -/
def list : Nat → Bool → Bool → Option Command → Read (Option Command)
  | 0, _, _, done => return done
  | fuel + 1, top, canEnd, done => do
    let t ← next readBody (if top then .command else .laterCommand)
    match t with
    | .lineEnd =>
      readDocuments readBody
      return done
    | .endOfFile =>
      readDocuments readBody
      pushBack t
      return done
    | _ =>
      pushBack t
      if canEnd && !top && t.endsList then
        return done
      let first ← andOr fuel
      let t ← next readBody .plain
      let first := match t with
        | .operator "&" => .background first
        | _ => first
      let done := match done with
        | none => first
        | some before => .sequence before first
      match t with
      | .endOfFile =>
        readDocuments readBody
        pushBack t
        return some done
      | .lineEnd =>
        pushBack t
        list fuel top true (some done)
      | .operator "&" | .operator ";" => list fuel top true (some done)
      | _ =>
        if top then
          unexpected t none
        else
          pushBack t
          return some done

/-- A list that has to hold a command. -/
def body : Nat → Read Command
  | 0 => return .skip
  | fuel + 1 => do return (← list fuel false false none).getD .skip

/-- Pipelines between double operators. -/
def andOr : Nat → Read Command
  | 0 => return .skip
  | fuel + 1 => do andOrRest fuel (← pipeline fuel .plain)

def andOrRest : Nat → Command → Read Command
  | 0, first => return first
  | fuel + 1, first => do
    match ← next readBody .plain with
    | .operator "&&" =>
      let second ← pipeline fuel .laterCommand
      andOrRest fuel (.both first second)
    | .operator "||" =>
      let second ← pipeline fuel .laterCommand
      andOrRest fuel (.either first second)
    | t =>
      pushBack t
      return first

/-- Commands between pipes, with an optional negation in front. -/
def pipeline : Nat → Expectation → Read Command
  | 0, _ => return .skip
  | fuel + 1, e => do
    match ← next readBody e with
    | .keyword "!" =>
      return .negate (← negated fuel)
    | .keyword "time" =>
      match ← next readBody .command with
      | .word ("-p", _) => return .timed true (← pipeline fuel .command)
      | t =>
        pushBack t
        return .timed false (← pipeline fuel .command)
    | t =>
      pushBack t
      stages fuel

/-- What stands behind a negation; the extended dialect takes several of them. -/
def negated : Nat → Read Command
  | 0 => return .skip
  | fuel + 1 => do
    let t ← next readBody .command
    pushBack t
    if ← isExtended then pipeline fuel .command else stages fuel

def stages : Nat → Read Command
  | 0 => return .skip
  | fuel + 1 => do
    let first ← command fuel
    match ← moreStages fuel first with
    | [only] => return only
    | all => return .pipeline all

/-- The stages from one on that has been read already. -/
def moreStages : Nat → Command → Read (List Command)
  | 0, first => return [first]
  | fuel + 1, first => do
    let line := (← get).line
    match ← next readBody .plain with
    | .operator "|" =>
      let t ← next readBody .laterCommand
      pushBack t
      let c ← command fuel
      return first :: (← moreStages fuel c)
    | .operator "|&" =>
      let t ← next readBody .laterCommand
      pushBack t
      let c ← command fuel
      return first.withErrors line :: (← moreStages fuel c)
    | t =>
      pushBack t
      return [first]

/-- One command with its redirections. -/
def command : Nat → Read Command
  | 0 => return .skip
  | fuel + 1 => do
    let line := (← get).line
    let redirected (c : Command) : Read Command := do
      let rs ← redirects readBody fuel []
      return if rs.isEmpty then c else .redirected line c rs
    match ← next readBody .plain with
    | .keyword "if" =>
      let c ← conditional fuel
      redirected c
    | .keyword "while" => redirected (← loop fuel false)
    | .keyword "until" => redirected (← loop fuel true)
    | .keyword "for" => redirected (← forLoop fuel line)
    | .keyword "case" => redirected (← choice fuel line)
    | .keyword "\x7b" =>
      let c ← body fuel
      expectKeyword readBody "\x7d" .plain
      redirected (.group c)
    | .keyword "[[" =>
      let c ← opened (condition readBody fuel)
      skipBlanks true
      if ← takeIf "]]" then
        redirected (.check line c)
      else
        opened (badCondition readBody fun token => s!"unexpected token \x60{token}' in conditional command")
    | .keyword "function" =>
      match ← next readBody .plain with
      | .word w =>
        let t ← next readBody .laterCommand
        match t with
        | .operator "(" =>
          let _ ← next readBody .plain
          let t ← next readBody .laterCommand
          pushBack t
        | _ => pushBack t
        return .define (Word.plainText w.2) (← command fuel)
      | t => unexpected t none
    | .keyword "select" => redirected (← selection fuel line)
    | .keyword "coproc" =>
      let t ← next readBody .command
      match t with
      | .word (_, [.text name false]) =>
        let behind ← next readBody .command
        pushBack behind
        let isNamed := match behind with
          | .keyword text => (["do", "done", "then", "fi"].contains text) == false
          | .operator "(" => true
          | _ => false
        if isNamed then
          return .partner line name (← command fuel)
        else
          let c ← simple readBody (command fuel) fuel ⟨line, [], [(name, [.text name false])], []⟩
          return .partner line "COPROC" c
      | t =>
        pushBack t
        return .partner line "COPROC" (← command fuel)
    | .operator "(" =>
      let isComputed ← if ← isExtended then takeIf "(" else pure false
      if isComputed then
        let pieces ← opened (arithmeticPieces longest 0 [] [])
        let text := List.intercalate [';'] pieces
        let w ← arithmeticWord fuel text
        redirected (.compute line w)
      else
        let c ← body fuel
        match ← next readBody .plain with
        | .operator ")" =>
          let rs ← redirects readBody fuel []
          return .subshell line c rs
        | t => unexpected t (some "\")\"")
    | .word w =>
      pushBack (.word w)
      simple readBody (command fuel) fuel ⟨line, [], [], []⟩
    | .listAssignment a =>
      pushBack (.listAssignment a)
      simple readBody (command fuel) fuel ⟨line, [], [], []⟩
    | .redirect descriptor arrow =>
      pushBack (.redirect descriptor arrow)
      simple readBody (command fuel) fuel ⟨line, [], [], []⟩
    | t => unexpected t none

/-- The text of an arithmetic expression as a word. -/
def arithmeticWord : Nat → List Char → Read Written
  | 0, _ => return ("", [])
  | _ + 1, text => do
    let before ← get
    set { before with rest := text ++ [')', ')'], token := none, pending := [] }
    let w ← parts readBody longest (.arithmetic 0) []
    modify fun s => { before with documents := s.documents, nextDocument := s.nextDocument }
    return (String.ofList text, w)

/-- What follows `if` or `elif`. -/
def conditional : Nat → Read Command
  | 0 => return .skip
  | fuel + 1 => do
    let test ← body fuel
    expectKeyword readBody "then" .plain
    let yes ← body fuel
    match ← next readBody .plain with
    | .keyword "elif" => return .conditional test yes (some (← conditional fuel))
    | .keyword "else" =>
      let no ← body fuel
      expectKeyword readBody "fi" .plain
      return .conditional test yes (some no)
    | .keyword "fi" => return .conditional test yes none
    | t => unexpected t (some "\"fi\"")

def doneBody : Nat → Read Command
  | 0 => return .skip
  | fuel + 1 => do
    let c ← body fuel
    expectKeyword readBody "done" .plain
    return c

def loop : Nat → Bool → Read Command
  | 0, _ => return .skip
  | fuel + 1, untilSuccess => do
    let test ← body fuel
    expectKeyword readBody "do" .plain
    return .loop untilSuccess test (← doneBody fuel)

def forLoop : Nat → Nat → Read Command
  | 0, _ => return .skip
  | fuel + 1, line => do
    if (← isExtended) then
      skipBlanks false
      if ← takeIf "((" then
        let pieces ← opened (arithmeticPieces longest 0 [] [])
        match pieces with
        | [start, test, step] =>
          let start ← arithmeticWord fuel start
          let test ← arithmeticWord fuel test
          let step ← arithmeticWord fuel step
          match ← next readBody .laterCommand with
          | .operator ";" => pure ()
          | t => pushBack t
          return .count line start test step (← loopBody fuel)
        | pieces =>
          let text := String.ofList (List.intercalate [';'] pieces)
          fail (.badCounting (if pieces.length < 3 then "arithmetic expression required"
            else "\x60;' unexpected") s!"(({text}))")
    let (name, words) ← overWords fuel
    return .each line name words (← loopBody fuel)

/-- The variable of a loop over words, and the words unless they are the positional parameters. -/
def overWords : Nat → Read (String × Option (List Written))
  | 0 => return ("", none)
  | _ + 1 => do
    let extended ← isExtended
    match ← next readBody .plain with
    | .word w =>
      let name := if extended then some w.1 else Word.bareText? w.2
      match name with
      | some name =>
        if !extended && !isName name then
          fail (.badLoopVariable name)
        match ← next readBody .laterCommand with
        | .keyword "in" =>
          return (name, some (← loopWords readBody longest []))
        | t =>
          match t with
          | .operator ";" => pure ()
          | _ => pushBack t
          return (name, none)
      | none => fail (.badLoopVariable (Word.plainText w.2))
    | t =>
      if extended then unexpected t none
      fail (.badLoopVariable "")

/-- The body of a loop over words; the extended dialect also takes one between braces. -/
def loopBody : Nat → Read Command
  | 0 => return .skip
  | fuel + 1 => do
    match ← isExtended, ← next readBody .laterCommand with
    | true, .keyword "\x7b" =>
      let c ← body fuel
      expectKeyword readBody "\x7d" .plain
      return c
    | _, t =>
      pushBack t
      expectKeyword readBody "do" .laterCommand
      doneBody fuel

def selection : Nat → Nat → Read Command
  | 0, _ => return .skip
  | fuel + 1, line => do
    let (name, words) ← overWords fuel
    return .pick line name words (← loopBody fuel)

def choice : Nat → Nat → Read Command
  | 0, _ => return .skip
  | fuel + 1, line => do
    match ← next readBody .plain with
    | .word subject =>
      expectKeyword readBody "in" .laterCommand
      return .choose line subject (← arms fuel)
    | t => unexpected t (some "word")

def arms : Nat → Read (List (List Written × Command × ArmEnd))
  | 0 => return []
  | fuel + 1 => do
    match ← next readBody ⟨true, true, false⟩ with
    | .keyword "esac" => return []
    | t =>
      let t ← match t with
        | .operator "(" => next readBody .plain
        | _ => pure t
      let patterns ← armPatterns readBody fuel t []
      let c := (← list fuel false true none).getD .skip
      match ← next readBody ⟨true, true, false⟩ with
      | .keyword "esac" => return [(patterns, c, .leave)]
      | .operator ";;" => return (patterns, c, .leave) :: (← arms fuel)
      | .operator ";&" => return (patterns, c, .fallThrough) :: (← arms fuel)
      | .operator ";;&" => return (patterns, c, .tryNext) :: (← arms fuel)
      | t => unexpected t (some "\";;\"")

end

/-- Reads the commands inside of a substitution. The fuel bounds how deep these are nested. -/
def substituted : Nat → Read Command
  | 0 => fail .missingParentheses
  | fuel + 1 => do
    let c ← list (substituted fuel) longest false true none
    return c.getD .skip

def nestingLimit : Nat := 200

/-- Reads the next complete command; there is none at the end. -/
def complete : Read (Option Command) := do
  modify fun s => { s with token := none, pending := [] }
  list (substituted nestingLimit) longest true false none

/-- Whether the end was met behind a command. -/
def isFinished : Read Bool := do
  return (← get).token matches some .endOfFile

end Read

end LinkBench.Host.Shell
