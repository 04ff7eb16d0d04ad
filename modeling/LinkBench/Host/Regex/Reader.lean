import LinkBench.Host.Regex
/-!
Reading regular expressions, in the basic and in the extended spelling. They differ in which signs
need a backslash to mean something.
-/

namespace LinkBench.Host.Regex

inductive Fault
  | invalidPattern
  | unmatchedBracket
  | unmatchedOpening
  | unmatchedClosing
  | unmatchedBrace
  | invalidCount
  | invalidPreceding
  | invalidRange
  | invalidClass
  | invalidReference
  | trailingBackslash
  deriving DecidableEq, Repr

def Fault.message : Fault → String
  | .invalidPattern => "Invalid regular expression"
  | .unmatchedBracket => "Unmatched [, [^, [:, [., or [="
  | .unmatchedOpening => "Unmatched ( or \\("
  | .unmatchedClosing => "Unmatched ) or \\)"
  | .unmatchedBrace => "Unmatched \\\x7b"
  | .invalidCount => "Invalid content of \\\x7b\\\x7d"
  | .invalidPreceding => "Invalid preceding regular expression"
  | .invalidRange => "Invalid range end"
  | .invalidClass => "Invalid character class name"
  | .invalidReference => "Invalid back reference"
  | .trailingBackslash => "Trailing backslash"

/-- The spelling of an expression. -/
structure Spelling where
  /-- Whether signs mean something without a backslash. -/
  isExtended : Bool
  /-- Whether letters behind a backslash stand for control characters. -/
  hasControls : Bool

/-- How far an expression has been read. -/
structure Position where
  rest : List Char
  /-- The number of groups that have begun. -/
  groups : Nat
  /-- The groups that are complete. -/
  complete : List Nat

abbrev Read (α : Type) := StateT Position (Except Fault) α

namespace Read

def fail {α : Type} (f : Fault) : Read α := fun _ => .error f

def advance (n : Nat) : Read Unit :=
  modify fun p => { p with rest := p.rest.drop n }

/-- A sign of the spelling that stands next: with a backslash in the basic spelling only. -/
def looksAt (spelling : Spelling) (sign : Char) : Read Bool := do
  match spelling.isExtended, (← get).rest with
  | true, c :: _ => return c == sign
  | false, '\\' :: c :: _ => return c == sign
  | _, _ => return false

def signLength (spelling : Spelling) : Nat := if spelling.isExtended then 1 else 2

def controls : List (Char × Char) :=
  [('n', '\n'), ('t', '\t'), ('f', '\x0c'), ('v', '\x0b'), ('a', '\x07'), ('r', '\r')]

/-! ### Sets -/

/-- Reads what is between `[:` and `:]` or the like. -/
def named? (mark : Char) (cs : List Char) : Option (String × List Char) :=
  let name := cs.takeWhile (· != mark)
  match cs.drop name.length with
  | _ :: ']' :: rest => some (String.ofList name, rest)
  | _ => none

/-- One character of a set, which may stand between marks of its own. -/
def setChar (spelling : Spelling) : List Char → Except Fault (Char × List Char)
  | '[' :: mark :: rest =>
    if mark = '.' ∨ mark = '=' then
      match named? mark rest with
      | some (name, rest) => .ok (name.toList.headD ' ', rest)
      | none => .error .unmatchedBracket
    else .ok ('[', mark :: rest)
  | '\\' :: c :: rest =>
    match if spelling.hasControls then controls.lookup c else none with
    | some control => .ok (control, rest)
    | none => .ok ('\\', c :: rest)
  | c :: rest => .ok (c, rest)
  | [] => .error .unmatchedBracket

/-- The members of a set up to its closing bracket, which may also be its first member. The fuel bounds
their number. -/
def members (spelling : Spelling) :
    Nat → Bool → List Char → Except Fault (List SetMember × List Char)
  | 0, _, _ | _, _, [] => .error .unmatchedBracket
  | fuel + 1, isFirst, c :: rest =>
    if c = ']' ∧ !isFirst then
      .ok ([], rest)
    else
      let keep (m : SetMember) (rest : List Char) : Except Fault (List SetMember × List Char) := do
        let (others, rest) ← members spelling fuel false rest
        return (m :: others, rest)
      match c, rest with
      | '[', ':' :: inner =>
        match named? ':' inner with
        | some (name, rest) =>
          match CharClass.names.lookup name with
          | some k => keep (.ofClass k) rest
          | none => .error .invalidClass
        | none => .error .unmatchedBracket
      | _, _ => do
        let (first, rest) ← setChar spelling (c :: rest)
        match rest with
        | '-' :: d :: behind =>
          if d = ']' then
            keep (.range first first) rest
          else
            let (last, rest) ← setChar spelling (d :: behind)
            if last < first then .error .invalidRange else keep (.range first last) rest
        | _ => keep (.range first first) rest

def bracket (spelling : Spelling) : Read Regex := do
  let rest := (← get).rest
  let negated := rest.head? = some '^'
  let inner := if negated then rest.tail else rest
  if inner = [] then
    return ← fail .invalidPattern
  match members spelling (inner.length + 1) true inner with
  | .error f => fail f
  | .ok (found, rest) => do
    modify fun p => { p with rest }
    return .set negated found

/-! ### Repetitions -/

/-- Reads the numbers between braces, and the sign that ends them. -/
def counts? (spelling : Spelling) (cs : List Char) : Option (Nat × Option Nat × List Char) := do
  let first := cs.takeWhile (·.isDigit)
  let least := Nat.ofDigitChars 10 first 0
  let ending (cs : List Char) : Option (List Char) :=
    match spelling.isExtended, cs with
    | true, '\x7d' :: rest => some rest
    | false, '\\' :: '\x7d' :: rest => some rest
    | _, _ => none
  match cs.drop first.length with
  | ',' :: rest =>
    let second := rest.takeWhile (·.isDigit)
    let most := if second = [] then none else some (Nat.ofDigitChars 10 second 0)
    return (least, most, ← ending (rest.drop second.length))
  | rest =>
    if first = [] then failure
    return (least, some least, ← ending rest)

/-- Puts the repetitions around an expression that follow it. -/
def repetitions (spelling : Spelling) : Nat → Regex → Read Regex
  | 0, r => return r
  | fuel + 1, r => do
    match (← get).rest with
    | '*' :: _ => do
      advance 1
      repetitions spelling fuel (.repeated 0 none r)
    | _ =>
      if ← looksAt spelling '+' then
        advance (signLength spelling)
        repetitions spelling fuel (.repeated 1 none r)
      else if ← looksAt spelling '?' then
        advance (signLength spelling)
        repetitions spelling fuel (.repeated 0 (some 1) r)
      else if ← looksAt spelling '\x7b' then
        match counts? spelling ((← get).rest.drop (signLength spelling)) with
        | some (least, most, rest) =>
          if most.any (· < least) then
            fail .invalidCount
          modify fun p => { p with rest }
          repetitions spelling fuel (.repeated least most r)
        | none =>
          if spelling.isExtended then return r
          else if (← get).rest.contains '\x7d' then fail .invalidCount
          else fail .unmatchedBrace
      else
        return r

/-! ### Parts -/

def wordSet : List SetMember := [.ofClass .alnum, .range '_' '_']

/-- What a backslash and the character behind it stand for. -/
def escaped (spelling : Spelling) (c : Char) : Read Regex := do
  match c with
  | 'w' => return .set false wordSet
  | 'W' => return .set true wordSet
  | 's' => return .set false [.ofClass .space]
  | 'S' => return .set true [.ofClass .space]
  | 'b' => return .wordEdge
  | 'B' => return .notWordEdge
  | '<' => return .wordStart
  | '>' => return .wordEnd
  | '\x60' => return .textStart
  | '\'' => return .textEnd
  | c =>
    if '1' ≤ c ∧ c ≤ '9' then
      let n := c.toNat - 48
      if (← get).complete.contains n then return .reference n else fail .invalidReference
    else
      match if spelling.hasControls then controls.lookup c else none with
      | some control => return .char control
      | none => return .char c

/-- Whether an anchor for the end stands at the end of a branch. -/
def isAtEnd (spelling : Spelling) (rest : List Char) : Bool :=
  match spelling.isExtended, rest with
  | _, [] => true
  | false, '\\' :: c :: _ => c == ')' || c == '|'
  | _, _ => false

mutual

/-- Branches, of which one has to match. The fuel bounds how deep expressions are nested. -/
def branches (spelling : Spelling) : Nat → Nat → Read Regex
  | 0, _ => fail .unmatchedOpening
  | fuel + 1, depth => do
    let first ← branch spelling fuel depth true .empty
    if ← looksAt spelling '|' then
      advance (signLength spelling)
      return .either first (← branches spelling fuel depth)
    else
      return first

/-- A row of parts up to the end of a branch. -/
def branch (spelling : Spelling) : Nat → Nat → Bool → Regex → Read Regex
  | 0, _, _, done => return done
  | fuel + 1, depth, isFirst, done => do
    let rest := (← get).rest
    let isBar ← looksAt spelling '|'
    let isClosing ← looksAt spelling ')'
    if rest = [] ∨ isBar then
      return done
    else if isClosing then
      if depth = 0 then fail .unmatchedClosing else return done
    else
      let isAnchor := rest.head? = some '^' && (isFirst || spelling.isExtended)
      let part ← piece spelling fuel depth isFirst
      let next := match done with
        | .empty => part
        | done => .sequence done part
      branch spelling fuel depth (isAnchor && !spelling.isExtended) next

/-- One part with its repetitions. -/
def piece (spelling : Spelling) : Nat → Nat → Bool → Read Regex
  | 0, _, _ => fail .unmatchedOpening
  | fuel + 1, depth, isFirst => do
    let repeating (r : Regex) : Read Regex := do repetitions spelling (← get).rest.length r
    if ← looksAt spelling '(' then
      advance (signLength spelling)
      let n := (← get).groups + 1
      modify fun p => { p with groups := n }
      let inner ← branches spelling fuel (depth + 1)
      if ← looksAt spelling ')' then
        advance (signLength spelling)
        modify fun p => { p with complete := n :: p.complete }
        return ← repeating (.group n inner)
      else
        fail .unmatchedOpening
    match (← get).rest with
    | '\\' :: c :: _ => do
      let isCount := spelling.isExtended == false && c == '\x7b'
      if isCount && isFirst then
        fail .invalidPreceding
      advance 2
      repeating (← escaped spelling c)
    | ['\\'] => fail .trailingBackslash
    | '.' :: _ => do
      advance 1
      repeating .any
    | '[' :: _ => do
      advance 1
      repeating (← bracket spelling)
    | '^' :: _ => do
      advance 1
      if spelling.isExtended then repeating .textStart
      else if isFirst then return .textStart
      else repeating (.char '^')
    | '$' :: rest => do
      advance 1
      if spelling.isExtended || isAtEnd spelling rest then return .textEnd
      else repeating (.char '$')
    | '*' :: _ => do
      advance 1
      if spelling.isExtended ∧ !isFirst then fail .invalidPreceding
      else repeating (.char '*')
    | c :: _ => do
      if spelling.isExtended ∧ isFirst ∧ (c = '+' ∨ c = '?') then
        fail .invalidPreceding
      advance 1
      repeating (.char c)
    | [] => return .empty

end

end Read

/-- Reads an expression; yields it with the number of its groups. -/
def read (spelling : Spelling) (text : String) : Except Fault (Regex × Nat) :=
  let cs := text.toList
  match (Read.branches spelling (4 * cs.length + 8) 0).run ⟨cs, 0, []⟩ with
  | .ok (r, p) => .ok (r, p.groups)
  | .error f => .error f

end LinkBench.Host.Regex
