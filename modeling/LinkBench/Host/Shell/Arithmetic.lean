import LinkBench.Host.Shell.Command
/-!
Integer expressions of the plain dialect: their tree, the reader and the value of a tree. Numbers
are words of 64 bits that wrap around. Variables stand for the integers that they hold, and an
assignment inside an expression changes them.
-/

namespace LinkBench.Host.Shell.Arithmetic

inductive Fault
  | expectedPrimary
  | expectedEnd
  | expectedColon
  | expectedParenthesis
  | divisionByZero
  /-- A variable holds a text that is no integer. -/
  | illegalNumber (text : String)
  deriving DecidableEq, Repr

/-- What the shell says about an expression that has no value. -/
def Fault.message (source : String) : Fault → String
  | expectedPrimary => s!"arithmetic expression: expecting primary: \"{source}\""
  | expectedEnd => s!"arithmetic expression: expecting EOF: \"{source}\""
  | expectedColon => s!"arithmetic expression: expecting ':': \"{source}\""
  | expectedParenthesis => s!"arithmetic expression: expecting ')': \"{source}\""
  | divisionByZero => s!"arithmetic expression: division by zero: \"{source}\""
  | illegalNumber text => s!"Illegal number: {text}"

inductive Expression
  | literal (n : Int64)
  | «variable» (name : String)
  | negate (a : Expression)
  | complement (a : Expression)
  | isZero (a : Expression)
  | binary (operator : String) (a b : Expression)
  | conditional (test yes no : Expression)
  /-- Assigns a value, joined with the old one by the operator if there is one. -/
  | assign (name : String) (operator : Option String) (a : Expression)

/-! ### Values -/

def ofBool (b : Bool) : Int64 := if b then 1 else 0

/-- The value of an operator that needs both of its operands. -/
def apply (operator : String) (a b : Int64) : Except Fault Int64 :=
  match operator with
  | "|" => .ok (a ||| b)
  | "^" => .ok (a ^^^ b)
  | "&" => .ok (a &&& b)
  | "==" => .ok (ofBool (a == b))
  | "!=" => .ok (ofBool (a != b))
  | "<=" => .ok (ofBool (a ≤ b))
  | ">=" => .ok (ofBool (b ≤ a))
  | "<" => .ok (ofBool (a < b))
  | ">" => .ok (ofBool (b < a))
  | "<<" => .ok (a <<< b)
  | ">>" => .ok (a >>> b)
  | "+" => .ok (a + b)
  | "-" => .ok (a - b)
  | "*" => .ok (a * b)
  | "/" => if b = 0 then .error .divisionByZero else .ok (a / b)
  | "%" => if b = 0 then .error .divisionByZero else .ok (a % b)
  | _ => .error .expectedEnd

/-- The value of digits; two leading characters may say that they are hexadecimal, one that they are
octal. -/
def readNumber (cs : List Char) : Nat × List Char :=
  let digit (c : Char) : Nat :=
    if c.isDigit then c.toNat - '0'.toNat
    else if 'a' ≤ c ∧ c ≤ 'f' then c.toNat - 'a'.toNat + 10
    else if 'A' ≤ c ∧ c ≤ 'F' then c.toNat - 'A'.toNat + 10
    else 16
  let (radix, cs) := match cs with
    | '0' :: x :: d :: rest => if (x = 'x' ∨ x = 'X') ∧ digit d < 16 then (16, d :: rest) else (8, cs)
    | '0' :: _ => (8, cs)
    | _ => (10, cs)
  let digits := cs.takeWhile fun c => digit c < radix
  (digits.foldl (fun n c => n * radix + digit c) 0, cs.drop digits.length)

/-- The largest number of the range. -/
def largest : Nat := 9223372036854775807

/-- The largest number of the range stands for all that are too large. -/
def literal (n : Nat) : Int64 := Int64.ofNat (min n largest)

/-- The integer that a variable holds. Nothing stands for zero. -/
def integer (text : String) : Except Fault Int64 :=
  let cs := text.trimAscii.toString.toList
  let (negative, digits) := match cs with
    | '-' :: rest => (true, rest)
    | '+' :: rest => (false, rest)
    | _ => (false, cs)
  let (n, rest) := readNumber digits
  if cs = [] then .ok 0
  else if digits = [] ∨ rest ≠ [] ∨ largest < n then .error (.illegalNumber text)
  else .ok (if negative then -literal n else literal n)

/-- What variables hold: what an expression has written, and what was there before. -/
structure Store where
  lookup : String → Option String
  /-- The last assignment first. -/
  written : List (String × String)

abbrev Eval := StateT Store (Except Fault)

def value (name : String) : Eval Int64 := do
  let s ← get
  match s.written.lookup name <|> s.lookup name with
  | some text => integer text
  | none => return 0

def assignValue (name : String) (n : Int64) : Eval Unit :=
  modify fun s => { s with written := (name, toString n.toInt) :: s.written }

def Expression.evaluate : Expression → Eval Int64
  | literal n => return n
  | «variable» name => value name
  | negate a => do return -(← a.evaluate)
  | complement a => do return ~~~(← a.evaluate)
  | isZero a => do return ofBool ((← a.evaluate) == 0)
  | binary "||" a b => do
    if (← a.evaluate) != 0 then return 1 else return ofBool ((← b.evaluate) != 0)
  | binary "&&" a b => do
    if (← a.evaluate) == 0 then return 0 else return ofBool ((← b.evaluate) != 0)
  | binary operator a b => do
    let m ← a.evaluate
    let n ← b.evaluate
    apply operator m n
  | conditional test yes no => do
    if (← test.evaluate) != 0 then yes.evaluate else no.evaluate
  | assign name operator a => do
    let n ← a.evaluate
    let result ← match operator with
      | some operator => do apply operator (← value name) n
      | none => pure n
    assignValue name result
    return result

/-! ### Reading -/

/-- The operators by level, from the loosest to the tightest. -/
def levels : List (List String) :=
  [["||"], ["&&"], ["|"], ["^"], ["&"], ["==", "!="], ["<=", ">=", "<", ">"], ["<<", ">>"],
    ["+", "-"], ["*", "/", "%"]]

/-- The operators of an assignment, less the sign of equality at their end. -/
def assignmentOperators : List String :=
  ["<<", ">>", "+", "-", "*", "/", "%", "&", "|", "^"]

def skipBlanks (cs : List Char) : List Char :=
  cs.dropWhile fun c => c == ' ' || c == '\t' || c == '\n'

/-- An operator of a level, unless a longer one of another level stands there. -/
def operatorAt? (level : List String) (cs : List Char) : Option String := do
  let standing := levels.flatten.filter fun operator => operator.toList.isPrefixOf cs
  let longest ← standing.find? fun operator => standing.all fun other => other.length ≤ operator.length
  if longest ∈ level then return longest else failure

/-- The beginning of an assignment: a name, an operator and a sign of equality. -/
def assignmentAt? (cs : List Char) : Option (String × Option String × List Char) := do
  let name := cs.takeWhile isNameChar
  if !(name.head?.any isNameStart) then
    failure
  let rest := skipBlanks (cs.drop name.length)
  match rest with
  | '=' :: after => if after.head? = some '=' then failure else return (String.ofList name, none, after)
  | _ =>
    let operator ← assignmentOperators.find? fun operator =>
      (operator.toList ++ ['=']).isPrefixOf rest
    return (String.ofList name, some operator, rest.drop (operator.length + 1))

abbrev Read (α : Type) := List Char → Except Fault (α × List Char)

mutual

/-- An assignment or a choice. The fuel bounds depth and length together. -/
def readWhole : Nat → Read Expression
  | 0, _ => .error .expectedEnd
  | fuel + 1, cs => do
    let cs := skipBlanks cs
    match assignmentAt? cs with
    | some (name, operator, rest) =>
      let (a, rest) ← readWhole fuel rest
      return (.assign name operator a, rest)
    | none =>
      let (test, rest) ← readLevel fuel levels cs
      match skipBlanks rest with
      | '?' :: rest =>
        let (yes, rest) ← readWhole fuel rest
        match skipBlanks rest with
        | ':' :: rest =>
          let (no, rest) ← readWhole fuel rest
          return (.conditional test yes no, rest)
        | _ => .error .expectedColon
      | rest => return (test, rest)

/-- Operands joined by operators of the given levels. -/
def readLevel : Nat → List (List String) → Read Expression
  | 0, _, _ => .error .expectedEnd
  | fuel + 1, [], cs => readOperand fuel (skipBlanks cs)
  | fuel + 1, level :: tighter, cs => do
    let (a, rest) ← readLevel fuel tighter cs
    readMore fuel level tighter a rest

def readMore :
    Nat → List String → List (List String) → Expression → Read Expression
  | 0, _, _, _, _ => .error .expectedEnd
  | fuel + 1, level, tighter, a, cs => do
    let cs := skipBlanks cs
    match operatorAt? level cs with
    | none => return (a, cs)
    | some operator =>
      let (b, rest) ← readLevel fuel tighter (cs.drop operator.length)
      readMore fuel level tighter (.binary operator a b) rest

/-- A number, a variable, an expression in parentheses, or one of these behind a sign. -/
def readOperand : Nat → Read Expression
  | 0, _ => .error .expectedEnd
  | fuel + 1, cs => do
    let signed (make : Expression → Expression) (rest : List Char) := do
      let (a, rest) ← readOperand fuel (skipBlanks rest)
      return (make a, rest)
    match cs with
    | '(' :: rest =>
      let (a, rest) ← readWhole fuel rest
      match skipBlanks rest with
      | ')' :: rest => return (a, rest)
      | _ => .error .expectedParenthesis
    | '-' :: rest => signed .negate rest
    | '+' :: rest => signed id rest
    | '!' :: rest => signed .isZero rest
    | '~' :: rest => signed .complement rest
    | c :: _ =>
      if c.isDigit then
        let (n, rest) := readNumber cs
        return (.literal (literal n), rest)
      else if isNameStart c then
        let name := String.ofList (cs.takeWhile isNameChar)
        return (.variable name, cs.dropWhile isNameChar)
      else
        .error .expectedPrimary
    | [] => .error .expectedPrimary

end

/-- Reads a whole expression. -/
def read (cs : List Char) : Except Fault Expression := do
  let (a, rest) ← readWhole (16 * cs.length + 64) cs
  if skipBlanks rest = [] then return a else .error .expectedEnd

/-- The value of an expression and the assignments that it makes, in order. -/
def run (lookup : String → Option String) (cs : List Char) :
    Except Fault (Int64 × List (String × String)) := do
  let e ← read cs
  let (n, store) ← e.evaluate.run ⟨lookup, []⟩
  return (n, store.written.reverse)

end LinkBench.Host.Shell.Arithmetic
