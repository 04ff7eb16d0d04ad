import LinkBench.Host.Utility.Condition
/-!
Conditions in the arguments of a program. Up to four arguments are read by their number, more of them by
what joins them; the reader takes the arguments one by one and says which one is missing or not wanted.
-/

namespace LinkBench.Host.Utility.Proposition

open Condition

/-- What a condition is decided in, and the last argument, which complaints name. -/
structure Setting where
  surroundings : Surroundings
  last : String

/-- A reader of the arguments that are left. -/
abbrev Read := StateT (List String) (Except Fault)

def missing (c : Setting) {α : Type} : Read α := throw (.argumentExpected c.last)

/-- Takes an argument. -/
def next (c : Setting) : Read String := do
  match ← get with
  | a :: rest =>
    set rest
    return a
  | [] => missing c

/-- Passes over an argument behind which another one has to follow. -/
def pass (c : Setting) : Read Unit := do
  let _ ← next c
  if (← get).isEmpty then missing c

def isText (c : Setting) : Read Bool := do return (← next c) != ""

/-- Whether an argument looks like a unary operator. -/
def isSwitch (a : String) : Bool := a.length == 2 && a.startsWith "-"

def isBinary (a? : Option String) : Bool := a?.any (binaryOf .program).contains

def readUnary (c : Setting) : Read Bool := do
  let operator ← next c
  if (unaryOf .program).contains operator then
    StateT.lift (checkedUnary .program c.surroundings operator (← next c))
  else throw (.unaryExpected operator c.last)

def readBinary (c : Setting) : Read Bool := do
  let a ← next c
  let operator ← next c
  StateT.lift (binary .program c.surroundings a operator (← next c))

def ofTwo (c : Setting) : Read Bool := do
  let a := (← get).headD ""
  if a = "!" then
    let _ ← next c
    return !(← isText c)
  else if isSwitch a then readUnary c
  else missing c

mutual

/-- Conditions of which one has to hold. -/
def either (c : Setting) : Nat → Read Bool
  | 0 => return false
  | fuel + 1 => do
    let a ← both c fuel
    if (← get).head? = some "-o" then
      let _ ← next c
      return (← either c fuel) || a
    else return a

/-- Conditions that all have to hold. -/
def both (c : Setting) : Nat → Read Bool
  | 0 => return false
  | fuel + 1 => do
    let a ← term c fuel
    if (← get).head? = some "-a" then
      let _ ← next c
      return (← both c fuel) && a
    else return a

def term (c : Setting) : Nat → Read Bool
  | 0 => return false
  | fuel + 1 => do
    let arguments ← get
    match arguments with
    | [] => missing c
    | "!" :: _ =>
      pass c
      return !(← term c fuel)
    | "(" :: rest =>
      pass c
      let inner := rest.tail.takeWhile (· != ")")
      let count := if 3 < inner.length then rest.length else inner.length + 1
      let holds ← counted c fuel count
      match ← get with
      | [] => throw (.parenthesisExpected none)
      | ")" :: behind =>
        set behind
        return holds
      | found :: _ => throw (.parenthesisExpected (some found))
    | a :: rest =>
      if 2 ≤ rest.length ∧ isBinary rest.head? then readBinary c
      else if isSwitch a then readUnary c
      else isText c

def ofThree (c : Setting) : Nat → Read Bool
  | 0 => return false
  | fuel + 1 => do
    let arguments ← get
    let operator := (arguments[1]?).getD ""
    if isBinary arguments[1]? then readBinary c
    else if arguments.head? = some "!" then
      pass c
      return !(← ofTwo c)
    else if arguments.head? = some "(" ∧ arguments[2]? = some ")" then
      let _ ← next c
      let holds ← isText c
      let _ ← next c
      return holds
    else if operator = "-a" ∨ operator = "-o" then either c fuel
    else throw (.binaryExpected operator)

/-- Reads a condition of a number of arguments. -/
def counted (c : Setting) : Nat → Nat → Read Bool
  | 0, _ => return false
  | fuel + 1, count => do
    let arguments ← get
    match count with
    | 1 => isText c
    | 2 => ofTwo c
    | 3 => ofThree c fuel
    | 4 =>
      if arguments.head? = some "!" then
        pass c
        return !(← ofThree c fuel)
      else if arguments.head? = some "(" ∧ arguments[3]? = some ")" then
        let _ ← next c
        let holds ← ofTwo c
        let _ ← next c
        return holds
      else either c fuel
    | _ => either c fuel

end

/-- Decides the condition of all arguments; no argument at all does not hold. -/
def decideAll (s : Surroundings) (arguments : List String) : Except Fault Bool :=
  if arguments = [] then .ok false
  else do
    let c : Setting := ⟨s, arguments.getLastD ""⟩
    let (holds, rest) ← (counted c (8 * arguments.length + 8) arguments.length).run arguments
    match rest with
    | [] => return holds
    | found :: _ => throw (.unexpectedOperator "" found)

/-- Decides the condition of a program, which may be called by the bracket that has to be closed. -/
def run (s : Surroundings) (isBracket : Bool) (arguments : List String) : Except Fault Bool :=
  if !isBracket then decideAll s arguments
  else if arguments.getLast? = some "]" then decideAll s arguments.dropLast
  else throw .missingBracket

end LinkBench.Host.Utility.Proposition
