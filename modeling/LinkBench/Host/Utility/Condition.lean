import LinkBench.ByteText
import LinkBench.Host.Facts
import LinkBench.Host.Utility.Quoting
/-!
Conditions in arguments: comparisons of texts and numbers, properties of files, and what joins them.
An operator counts as such only where its operands are there. Texts have one character for each byte.
-/

namespace LinkBench.Host.Utility.Condition

inductive Fault
  | illegalNumber (text : String)
  | unexpectedOperator (before : String) (found : String)
  | argumentExpected (operator : String)
  /-- A parenthesis is missing, perhaps where something else stands. -/
  | parenthesisExpected (found : Option String)
  | missingBracket
  | unaryExpected (found last : String)
  | binaryExpected (found : String)

def Fault.message : Speaker → Fault → String
  | .plain, .illegalNumber text => s!"Illegal number: {text}"
  | .extended, .illegalNumber text => s!"{text}: integer expression expected"
  | .program, .illegalNumber text => "invalid integer " ++ Quoting.quoted text
  | .plain, .unexpectedOperator before _ => s!"{before}: unexpected operator"
  | .extended, .unexpectedOperator .. => "too many arguments"
  | .program, .unexpectedOperator _ found => "extra argument " ++ Quoting.quoted found
  | .plain, .argumentExpected operator => s!"{operator}: argument expected"
  | .extended, .argumentExpected _ => "argument expected"
  | .program, .argumentExpected operator => "missing argument after " ++ Quoting.quoted operator
  | .plain, .parenthesisExpected _ => "closing paren expected"
  | .extended, .parenthesisExpected _ => "\x60)' expected"
  | .program, .parenthesisExpected found? =>
    Quoting.quoted ")" ++ " expected" ++
      String.join (found?.toList.map fun found => ", found " ++ Quoting.quoted found)
  | .plain, .missingBracket => "missing ]"
  | .extended, .missingBracket => "missing \x60]'"
  | .program, .missingBracket => "missing " ++ Quoting.quoted "]"
  | .plain, .unaryExpected found _ => s!"{found}: unexpected operator"
  | .extended, .unaryExpected found _ => s!"{found}: unary operator expected"
  | .program, .unaryExpected found _ => Quoting.quoted found ++ ": unary operator expected"
  | .plain, .binaryExpected found => s!"{found}: unexpected operator"
  | .extended, .binaryExpected found => s!"{found}: binary operator expected"
  | .program, .binaryExpected found => Quoting.quoted found ++ ": binary operator expected"

/-- What a condition is checked in. -/
structure Surroundings where
  view : View
  /-- Whether a variable of the shell has a value. -/
  isSet : String → Bool
  /-- Whether an option of the shell is set. -/
  isOption : String → Bool
  /-- Whether a variable of the shell stands for another one. -/
  isReference : String → Bool

def unaryOperators : List String :=
  ["-r", "-w", "-x", "-e", "-f", "-d", "-c", "-b", "-p", "-u", "-g", "-k", "-s", "-t", "-z", "-n",
    "-h", "-O", "-G", "-L", "-S"]

/-- The unary operators of a speaker. -/
def unaryOf : Speaker → List String
  | .extended => unaryOperators ++ ["-v", "-a", "-o", "-N", "-R"]
  | .program => unaryOperators ++ ["-N"]
  | .plain => unaryOperators

def numeric : List String := ["-eq", "-ne", "-lt", "-le", "-gt", "-ge"]

def binaryOperators : List String :=
  ["=", "!=", "-nt", "-ot", "-ef"] ++ numeric

def binaryOf : Speaker → List String
  | .plain => binaryOperators ++ ["<", ">"]
  | .extended => binaryOperators ++ ["==", "<", ">"]
  | .program => binaryOperators ++ ["=="]

def isBlank (c : Char) : Bool := c == ' ' || ('\t' ≤ c && c ≤ '\r')

def largest : Nat := 9223372036854775807

/-- Reads an integer, with blanks around it. Only the program takes numbers of any size. -/
def integer (speaker : Speaker) (text : String) : Except Fault Int :=
  let cs := ((text.toList.dropWhile isBlank).reverse.dropWhile isBlank).reverse
  let (negative, digits) := match cs with
    | '-' :: rest => (true, rest)
    | '+' :: rest => (false, rest)
    | _ => (false, cs)
  let n := Nat.ofDigitChars 10 digits 0
  if digits = [] ∨ !digits.all (·.isDigit) ∨ (speaker ≠ .program ∧ largest < n) then
    .error (.illegalNumber text)
  else
    .ok (if negative then -Int.ofNat n else n)

def pathOf (text : String) : Path := .ofString (ByteText.decode text)

def standing? (s : Surroundings) (text : String) : Option Facts :=
  if text = "" then none else (Facts.ofPath s.view (pathOf text)).toOption

/-- Whether the first of two entries was changed behind the second. -/
def isNewer (speaker : Speaker) (a b : Option Facts) : Bool :=
  match a, b with
  | some f, some g => decide (g.attributes.modified < f.attributes.modified)
  | some _, none => speaker ≠ .plain
  | none, _ => false

def unary (s : Surroundings) (operator a : String) : Bool :=
  match operator with
  | "-n" => a != ""
  | "-z" => a == ""
  | "-v" => s.isSet a
  | "-R" => s.isReference a
  | "-o" => s.isOption a
  | "-t" | "-h" | "-L" | "-b" | "-p" | "-S" | "-N" => false
  | _ =>
    match standing? s a with
    | none => false
    | some f =>
      match operator, f.entry with
      | "-f", e => e.isRegular
      | "-d", e => e.isDirectory
      | "-c", .device _ => true
      | "-c", _ => false
      | "-s", .file [] _ | "-s", .device _ => false
      | "-x", .directory => true
      | "-x", _ => Mode.isExecutable f.mode
      | "-u", _ => f.mode.testBit 11
      | "-g", _ => f.mode.testBit 10
      | "-k", _ => f.mode.testBit 9
      | _, _ => true

/-- The value of a unary operator. Only the extended dialect takes what is no descriptor for one that
leads nowhere. -/
def checkedUnary (speaker : Speaker) (s : Surroundings) (operator a : String) : Except Fault Bool := do
  if operator = "-t" ∧ speaker ≠ .extended then
    let _ ← integer speaker a
  return unary s operator a

/-- Whether two paths lead to one place. -/
def isSamePlace (s : Surroundings) (a b : String) : Bool :=
  let place? (text : String) : Option (Location × List FileName) := do
    let _ ← standing? s text
    let place ← (s.view.files.resolve s.view.cwd (pathOf text)).toOption
    return (place.base, place.lost)
  match place? a, place? b with
  | some p, some q => p == q
  | _, _ => false

def binary (speaker : Speaker) (s : Surroundings) (a operator b : String) : Except Fault Bool :=
  match operator with
  | "=" | "==" => .ok (a == b)
  | "!=" => .ok (a != b)
  | "<" => .ok (decide (a < b))
  | ">" => .ok (decide (b < a))
  | "-ef" => .ok (isSamePlace s a b)
  | "-nt" => .ok (isNewer speaker (standing? s a) (standing? s b))
  | "-ot" => .ok (isNewer speaker (standing? s b) (standing? s a))
  | _ => do
    let m ← integer speaker a
    let n ← integer speaker b
    match operator with
    | "-eq" => return m == n
    | "-ne" => return m != n
    | "-lt" => return decide (m < n)
    | "-le" => return decide (m ≤ n)
    | "-gt" => return decide (n < m)
    | _ => return decide (n ≤ m)

/-- Whether a unary operator in front of these arguments is an operand instead. -/
def isOperand (speaker : Speaker) : List String → Bool
  | [] => true
  | [_] => false
  | second :: _ => (binaryOf speaker).contains second

/-- Whether the arguments begin with a unary operator. -/
def startsUnary (speaker : Speaker) : List String → Bool
  | first :: rest => (unaryOf speaker).contains first && !isOperand speaker rest
  | [] => false

mutual

/-- Conditions of which one has to hold; the rest of the arguments is what follows them. -/
def either (speaker : Speaker) (s : Surroundings) :
    Nat → List String → Except Fault (Bool × List String)
  | 0, arguments => .ok (false, arguments)
  | fuel + 1, arguments => do
    let (a, rest) ← both speaker s fuel arguments
    match rest with
    | "-o" :: rest =>
      let (b, rest) ← either speaker s fuel rest
      return (a || b, rest)
    | _ => return (a, rest)

/-- Conditions that all have to hold. -/
def both (speaker : Speaker) (s : Surroundings) :
    Nat → List String → Except Fault (Bool × List String)
  | 0, arguments => .ok (false, arguments)
  | fuel + 1, arguments => do
    let (a, rest) ← negated speaker s fuel arguments
    match rest with
    | "-a" :: rest =>
      let (b, rest) ← both speaker s fuel rest
      return (a && b, rest)
    | _ => return (a, rest)

def negated (speaker : Speaker) (s : Surroundings) :
    Nat → List String → Except Fault (Bool × List String)
  | 0, arguments => .ok (false, arguments)
  | fuel + 1, arguments =>
    match arguments with
    | ["!"] => .ok (true, [])
    | "!" :: rest => do
      let (a, rest) ← negated speaker s fuel rest
      return (!a, rest)
    | _ => primary speaker s fuel arguments

def primary (speaker : Speaker) (s : Surroundings) :
    Nat → List String → Except Fault (Bool × List String)
  | 0, arguments => .ok (false, arguments)
  | fuel + 1, arguments =>
    match arguments with
    | [] => .ok (false, [])
    | a :: rest =>
      if a = "(" ∧ rest ≠ [] then
        match rest with
        | ")" :: rest => .ok (false, rest)
        | _ => do
          let (value, rest) ← either speaker s fuel rest
          match rest with
          | ")" :: rest => return (value, rest)
          | _ => .error (.parenthesisExpected none)
      else if startsUnary speaker arguments then
        match rest with
        | b :: rest => do return (← checkedUnary speaker s a b, rest)
        | [] => .error (.argumentExpected a)
      else
        match rest with
        | operator :: rest =>
          if (binaryOf speaker).contains operator then
            match rest with
            | b :: rest => do return (← binary speaker s a operator b, rest)
            | [] => .error (.argumentExpected operator)
          else
            .ok (a != "", operator :: rest)
        | [] => .ok (a != "", [])

end

/-- The value of all arguments. -/
def whole (speaker : Speaker) (s : Surroundings) (arguments : List String) : Except Fault Bool := do
  let (value, rest) ← either speaker s (4 * arguments.length + 8) arguments
  match rest with
  | [] => return value
  | found :: _ =>
    -- what stands before the place where the condition ends
    let before := (arguments.take (arguments.length - rest.length)).getLast?.getD found
    .error (.unexpectedOperator before found)

/-- Decides a condition; few arguments are read by their number. The fuel bounds the number of
negations. -/
def decideFor (speaker : Speaker) (s : Surroundings) : Nat → List String → Except Fault Bool
  | 0, _ => .ok false
  | fuel + 1, arguments =>
    let isStrict := speaker != .plain
    match arguments with
    | [] => .ok false
    | [a] => .ok (a != "")
    | [a, b] =>
      if isStrict then
        if a = "!" then (decideFor speaker s fuel [b]).map (!·)
        else if (unaryOf speaker).contains a then checkedUnary speaker s a b
        else .error (.unaryExpected a b)
      else
        whole speaker s arguments
    | [a, operator, b] =>
      if (binaryOf speaker).contains operator then binary speaker s a operator b
      else if isStrict ∧ operator = "-a" then .ok (a != "" && b != "")
      else if isStrict ∧ operator = "-o" then .ok (a != "" || b != "")
      else if a = "(" ∧ b = ")" then decideFor speaker s fuel [operator]
      else if a = "!" then (decideFor speaker s fuel [operator, b]).map (!·)
      else if isStrict then .error (.binaryExpected operator)
      else whole speaker s arguments
    | [a, b, c, d] =>
      if a = "(" ∧ d = ")" then whole speaker s [b, c]
      else if a = "!" then (decideFor speaker s fuel [b, c, d]).map (!·)
      else whole speaker s arguments
    | _ => whole speaker s arguments

/-- Decides the condition of a command, which may be called by the bracket that has to be closed. -/
def run (speaker : Speaker) (s : Surroundings) (isBracket : Bool) (arguments : List String) :
    Except Fault Bool :=
  let bound := arguments.length + 1
  if isBracket then
    if arguments.getLast? = some "]" then decideFor speaker s bound arguments.dropLast
    else .error .missingBracket
  else
    decideFor speaker s bound arguments

end LinkBench.Host.Utility.Condition
