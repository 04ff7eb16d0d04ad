import LinkBench.Host.Utility.Awk.Grammar
/-!
Reading the statements, rules and functions of programs.
-/

namespace LinkBench.Host.Utility.Awk

/-- Where a statement stands. -/
structure Surroundings where
  isInFunction : Bool
  isInLoop : Bool
  /-- Whether the rule is for what is before the first line or behind the last one. -/
  isInMargin : Bool

namespace Read

/-- Reads something, or goes back if that is not possible. -/
def attempt {α : Type} (p : Read α) : Read (Option α) := fun r =>
  match p r with
  | .ok (a, r) => .ok (some a, r)
  | .error _ => .ok (none, r)

/-- Whether nothing more of a statement stands next. -/
def isAtEnd : Read Bool := do
  match ← peek with
  | .newline | .finish | .sign ";" | .sign "\x7d" => return true
  | _ => return false

/-- Reads the end of a statement: a semicolon, a line end, or the brace behind it. -/
def finishStatement : Read Unit := do
  match ← peek with
  | .newline | .sign ";" => skip
  | .sign "\x7d" => pure ()
  | _ => unexpected

def depth : Read Nat := do return 32 * ((← get).rest.length + 2)

def whole : Read Expr := do expression false (← depth)

def wholeOrNone : Read (Option Expr) := do
  if ← isAtEnd then return none else some <$> whole

/-- The signs in front of where output goes. -/
def outputs : List (String × OutputKind) := [(">", .file), (">>", .append), ("|", .command)]

/-- Reads what is to be printed, if it stands between parentheses. -/
def grouped : Read (List Expr) := do
  need "("
  skipLines
  let as ← list false (← depth)
  skipLines
  need ")"
  if (← isAtEnd) || (← operator? outputs).isSome then return as else unexpected

/-- Reads what is to be printed and where it goes. -/
def printing : Read (List Expr × Option (OutputKind × Expr)) := do
  let isEmpty := (← isAtEnd) || (← operator? outputs).isSome
  let as ← if isEmpty then pure []
    else
      match ← attempt grouped with
      | some as => pure as
      | none => list true (← depth)
  match ← operator? outputs with
  | some kind =>
    skip
    return (as, some (kind, ← whole))
  | none => return (as, none)

/-- Reads a statement without others in it, up to its end. -/
def simple (s : Surroundings) : Read Statement := do
  let line ← line
  if ← takes "print" then
    let (as, target) ← printing
    return .print as target
  if ← takes "printf" then
    let (as, target) ← printing
    if as.isEmpty then failAt line "no arguments in call to printf"
    return .printf as target
  if ← takes "next" then
    if s.isInMargin ∨ s.isInFunction then failAt line "improper use of next"
    return .next
  if ← takes "nextfile" then
    if s.isInMargin ∨ s.isInFunction then failAt line "improper use of nextfile"
    return .nextFile
  if ← takes "exit" then
    return .exit (← wholeOrNone)
  if ← takes "return" then
    if !s.isInFunction then failAt line "return outside function body"
    return .give (← wholeOrNone)
  if ← takes "break" then
    if !s.isInLoop then failAt line "break statement outside of loop"
    return .leave
  if ← takes "continue" then
    if !s.isInLoop then failAt line "continue statement outside of loop"
    return .again
  if ← takes "delete" then
    let array ← arrayName
    if ← takes "[" then
      let keys ← list false (← depth)
      need "]"
      return .delete array keys
    return .delete array []
  return .expression (← whole)

/-- Reads the head of a loop over the keys of an array, behind the parenthesis. -/
def keysHead : Read (String × String) := do
  let key ← name
  need "in"
  let array ← name
  need ")"
  learn key .variable
  learn array .array
  return (key, array)

/-- Reads the part of the head of a loop up to a sign. -/
def headPart (s : Surroundings) (ending : String) : Read Statement := do
  if ← sees ending then return .block [] else simple s

mutual

/-- Reads a statement with its end. The fuel bounds the depth. -/
def statement (s : Surroundings) : Nat → Read Statement
  | 0 => unexpected
  | fuel + 1 => do
    let inLoop : Surroundings := { s with isInLoop := true }
    if ← sees "\x7b" then return ← block s fuel
    if ← sees "\x7d" then return .block []
    if ← takes ";" then return .block []
    if ← takes "if" then
      let condition ← condition
      let yes ← statement s fuel
      match ← attempt (do
          skipEnds
          need "else") with
      | some () =>
        skipLines
        return .ifElse condition yes (← statement s fuel)
      | none => return .ifElse condition yes (.block [])
    if ← takes "while" then
      let condition ← condition
      return .whileLoop condition (← statement inLoop fuel)
    if ← takes "do" then
      skipLines
      let body ← statement inLoop fuel
      skipEnds
      need "while"
      need "("
      let condition ← whole
      need ")"
      finishStatement
      return .doLoop body condition
    if ← takes "for" then
      need "("
      match ← attempt keysHead with
      | some (key, array) =>
        skipLines
        return .forKeys key array (← statement inLoop fuel)
      | none =>
        let start ← headPart s ";"
        need ";"
        skipLines
        let test? ← if ← sees ";" then pure none else some <$> whole
        need ";"
        skipLines
        let step ← headPart s ")"
        need ")"
        skipLines
        return .forLoop start test? step (← statement inLoop fuel)
    let found ← simple s
    finishStatement
    return found
where
  /-- Reads a condition between parentheses. -/
  condition : Read Expr := do
    need "("
    skipLines
    let e ← whole
    skipLines
    need ")"
    skipLines
    return e

/-- Reads statements between braces. -/
def block (s : Surroundings) : Nat → Read Statement
  | 0 => unexpected
  | fuel + 1 => do
    need "\x7b"
    let found ← statements s fuel
    need "\x7d"
    return .block found

/-- Reads statements up to the brace behind them. -/
def statements (s : Surroundings) : Nat → Read (List Statement)
  | 0 => unexpected
  | fuel + 1 => do
    skipEnds
    if ← sees "\x7d" then return []
    let first ← statement s fuel
    return first :: (← statements s fuel)

end

def action (s : Surroundings) : Read Statement := do block s (← depth)

def forLines : Surroundings := ⟨false, false, false⟩

def forMargin : Surroundings := ⟨false, false, true⟩

/-- Reads the names between the parentheses of a function. -/
def parameters : Nat → Read (List String)
  | 0 => unexpected
  | fuel + 1 => do
    skipLines
    if ← sees ")" then return []
    let first ← name
    if ← takes "," then return first :: (← parameters fuel)
    return [first]

/-- The name that stands behind an equal one, if one does. -/
def repeated? : List String → Option String
  | [] => none
  | a :: as => if as.contains a then some a else repeated? as

def function : Read Function := do
  let called ← match ← peek with
    | .name s | .call s =>
      skip
      pure s
    | _ => unexpected
  match ← kindOf called with
  | none => learn called .function
  | some .function => pure ()
  | some k => failAt (← line) s!"illegal reference to {k.shown} {called}"
  need "("
  let names ← parameters (← depth)
  need ")"
  match repeated? names with
  | some s => blame (← line) s!"{s} is duplicated in argument list"
  | none => pure ()
  skipLines
  modify fun r => { r with locals := names.map (·, none) }
  let body ← action ⟨true, false, false⟩
  modify fun r => { r with locals := [] }
  return ⟨called, names, body⟩

def rule : Read Rule := do
  if ← takes "BEGIN" then return ⟨.start, some (← action forMargin)⟩
  if ← takes "END" then return ⟨.finish, some (← action forMargin)⟩
  if ← sees "\x7b" then return ⟨.always, some (← action forLines)⟩
  let first ← whole
  let condition ← if ← takes "," then
      skipLines
      pure (Condition.range first (← whole))
    else pure (Condition.when first)
  if ← sees "\x7b" then return ⟨condition, some (← action forLines)⟩
  match ← peek with
  | .newline | .sign ";" | .finish => return ⟨condition, none⟩
  | _ => unexpected

/-- Reads rules and functions to the end, behind the functions that have been read. The fuel bounds their
number. -/
def parts : Nat → List String → Read (List (Rule ⊕ Function))
  | 0, _ => unexpected
  | fuel + 1, known => do
    skipEnds
    match ← peek with
    | .finish => return []
    | _ => pure ()
    if ← takes "function" then
      let line ← line
      let f ← function
      if known.contains f.name then
        blame line s!"redefinition of {f.name}"
      return .inr f :: (← parts fuel (f.name :: known))
    else return .inl (← rule) :: (← parts fuel known)

end Read

/-- What is wrong with the calls of functions: a function that is not there, or too many arguments. -/
def CallSite.fault? (functions : List Function) (lastLine : Nat) (c : CallSite) :
    Option SyntaxFault :=
  match functions.find? (·.name == c.function) with
  | none => some (.refused lastLine s!"function {c.function} never defined")
  | some f =>
    if f.parameters.length < c.count then
      some (.refused c.line s!"too many arguments in call to {c.function}")
    else none

/-- Reads a program, or says what is wrong with it. -/
def Program.read (text : String) : Except (List SyntaxFault) Program := do
  let tokens ← (Token.readAll text).mapError fun f => [f]
  let (tokens, extras) := Token.closed 0 0 tokens
  let isBlank := tokens.all fun p => match p.token with
    | .newline | .finish => true
    | _ => false
  let lastLine := (tokens.getLast?.map (·.line)).getD 0
  if isBlank ∧ extras ≠ [] then
    throw (extras ++ [.refused (lastLine - 1) "syntax error at or near end of line"])
  match (Read.parts (tokens.length + 1) []).run (.start tokens extras) with
  | .error (f, r) => throw (r.faults ++ [f])
  | .ok (found, r) =>
    let functions := found.filterMap fun
      | .inr f => some f
      | .inl _ => none
    let rules := found.filterMap fun
      | .inl r => some r
      | .inr _ => none
    let faults := if r.faults = [] then r.called.filterMap (·.fault? functions lastLine) else r.faults
    if faults = [] then return ⟨rules, functions⟩ else throw faults

end LinkBench.Host.Utility.Awk
