import LinkBench.Host.Regex.Reader
import LinkBench.Host.Utility.Options
/-!
Calculating with arguments: numbers, texts and patterns, with operators of six ranks.
-/

namespace LinkBench.Host.Utility

namespace Expression

/-- Why there is no value. -/
structure Fault where
  message : String

/-- The arguments that are left, and the last one that was read. -/
structure Reader where
  rest : List String
  last : String

abbrev Read := StateT Reader (Except Fault)

def fail {α : Type} (message : String) : Read α := fun _ => .error ⟨message⟩

def peek? : Read (Option String) := do return (← get).rest.head?

def skip : Read Unit :=
  modify fun r =>
    match r.rest with
    | [] => r
    | a :: rest => ⟨rest, a⟩

/-- The next argument, which must be there. -/
def need : Read String := do
  match (← get).rest with
  | [] => fail s!"syntax error: missing argument after {Quoting.quoted (← get).last}"
  | a :: _ =>
    skip
    return a

/-- Whether a value counts as false: nothing, or a row of zeros. -/
def isNull (value : String) : Bool :=
  let cs := value.toList
  let digits := if cs.head? = some '-' then cs.tail else cs
  cs.isEmpty || (!digits.isEmpty && digits.all (· == '0'))

def integer? (value : String) : Option Int :=
  let cs := value.toList
  let digits := if cs.head? = some '-' then cs.tail else cs
  if digits.isEmpty || !digits.all (·.isDigit) then none
  else
    let n := Int.ofNat (Nat.ofDigitChars 10 digits 0)
    some (if cs.head? = some '-' then -n else n)

def integer (value : String) : Read Int :=
  match integer? value with
  | some n => return n
  | none => fail "non-integer argument"

/-- The part of a text that a pattern at its beginning means: its first group, or the number of
characters. -/
def matchText (text pattern : String) : Read String := do
  match Regex.read ⟨false, false⟩ pattern with
  | .error f => fail f.message
  | .ok (r, groups) =>
    let subject : Regex.Subject := ⟨text.toList.toArray, false, false⟩
    match r.matchAt? subject 0 with
    | some m => return if 0 < groups then m.text subject 1 else toString (m.stop - m.start)
    | none => return if 0 < groups then "" else "0"

def compareTexts (operator : String) (a b : String) : Bool :=
  let result := match integer? a, integer? b with
    | some x, some y => compare x y
    | _, _ => compare a b
  match operator with
  | "<" => result == .lt
  | "<=" => result != .gt
  | "=" | "==" => result == .eq
  | "!=" => result != .eq
  | ">=" => result != .lt
  | _ => result == .gt

/-- The operators of each rank that joins two values, the weakest first. -/
def ranks : List (List String) :=
  [["|"], ["&"], ["<", "<=", "=", "==", "!=", ">=", ">"], ["+", "-"], ["*", "/", "%"], [":"]]

/-- Joins two values. -/
def join (operator a b : String) : Read String := do
  match operator with
  | "|" => return if !isNull a then a else if !isNull b then b else "0"
  | "&" => return if isNull a || isNull b then "0" else a
  | ":" => matchText a b
  | "+" | "-" | "*" | "/" | "%" =>
    let x ← integer a
    let y ← integer b
    match operator with
    | "+" => return toString (x + y)
    | "-" => return toString (x - y)
    | "*" => return toString (x * y)
    | "/" => if y = 0 then fail "division by zero" else return toString (x.tdiv y)
    | _ => if y = 0 then fail "division by zero" else return toString (x.tmod y)
  | _ => return if compareTexts operator a b then "1" else "0"

/-- Words that are functions in front of their arguments. -/
def functions : List String := ["match", "substr", "index", "length"]

mutual

/-- Reads values with operators of a rank between them. -/
def ranked : Nat → List (List String) → Read String
  | 0, _ => fail "syntax error"
  | fuel + 1, [] => primary fuel
  | fuel + 1, operators :: stronger => do
    let first ← ranked fuel stronger
    chain fuel operators stronger first

/-- Reads what follows a value. -/
def chain : Nat → List String → List (List String) → String → Read String
  | 0, _, _, value => return value
  | fuel + 1, operators, stronger, value => do
    match ← peek? with
    | some operator =>
      if operators.contains operator then
        skip
        let other ← ranked fuel stronger
        let value ← join operator value other
        chain fuel operators stronger value
      else
        return value
    | none => return value

def primary : Nat → Read String
  | 0 => fail "syntax error"
  | fuel + 1 => do
    match ← need with
    | "+" => need
    | "(" =>
      let value ← ranked fuel ranks
      match ← peek? with
      | some ")" =>
        skip
        return value
      | some _ | none =>
        fail s!"syntax error: expecting ')' after {Quoting.quoted (← get).last}"
    | ")" => fail "syntax error: unexpected ')'"
    | "length" => return toString (← primary fuel).length
    | "match" =>
      let text ← primary fuel
      matchText text (← primary fuel)
    | "index" =>
      let text ← primary fuel
      let chars ← primary fuel
      let place := text.toList.findIdx? fun c => chars.toList.contains c
      return toString (place.elim 0 (· + 1))
    | "substr" =>
      let text ← primary fuel
      let start ← primary fuel
      let count ← primary fuel
      match integer? start, integer? count with
      | some i, some n =>
        if i ≤ 0 ∨ n ≤ 0 then return ""
        else return String.ofList ((text.toList.drop (i.toNat - 1)).take n.toNat)
      | _, _ => return ""
    | value => return value

end

/-- The value of arguments. -/
def value (arguments : List String) : Except Fault String := do
  let fuel := 8 * arguments.length + 32
  let (value, r) ← (ranked fuel ranks).run ⟨arguments, ""⟩
  match r.rest with
  | [] => return value
  | extra :: _ => .error ⟨s!"syntax error: unexpected argument {Quoting.quoted extra}"⟩

end Expression

def expr (arguments : List String) : Proc Nat := do
  let command := arguments.headD ""
  let operands := if arguments.tail.head? = some "--" then arguments.tail.tail else arguments.tail
  if operands.isEmpty then
    refuseUse command "missing operand" 2
  else
    match Expression.value operands with
    | .error f => failWith command f.message 2
    | .ok value => emit command (value ++ "\n") (if Expression.isNull value then 1 else 0)

end LinkBench.Host.Utility
