import LinkBench.Host.Regex
/-!
Reading regular expressions as they are written in programs: signs mean something without a backslash,
braces stand for themselves, and a backslash may stand before a letter or digits that mean a character,
also between brackets.
-/

namespace LinkBench.Host.Utility.Awk.Pattern

inductive Fault
  | unmatchedParenthesis
  | missingOperand
  | unmatchedBracket
  deriving DecidableEq

/-- What is said about a text that is no expression. -/
def Fault.message (f : Fault) (text : String) : String :=
  let cause := match f with
    | .unmatchedParenthesis => "missing ')'"
    | .missingOperand => "missing operand"
    | .unmatchedBracket => "bad class -- [], [^] or ["
  s!"regular expression compile failed ({cause})\n{text}"

/-- The characters that letters stand for behind a backslash. -/
def letters : List (Char × Char) :=
  [('n', '\n'), ('t', '\t'), ('f', '\x0c'), ('v', '\x0b'), ('a', '\x07'), ('r', '\r'), ('b', '\x08')]

def octal (c : Char) : Bool := '0' ≤ c && c ≤ '7'

/-- The character behind a backslash, and what follows. -/
def escaped (cs : List Char) : Char × List Char :=
  match cs with
  | [] => ('\\', [])
  | c :: rest =>
    if octal c then
      let digits := (cs.take 3).takeWhile octal
      (Char.ofNat (Nat.ofDigitChars 8 digits 0 % 256), cs.drop digits.length)
    else (((letters.lookup c).getD c), rest)

/-- Reads the name of a class behind an opening bracket and a colon. -/
def named? (cs : List Char) : Option (CharClass × List Char) :=
  let name := cs.takeWhile (·.isAlpha)
  match cs.drop name.length with
  | ':' :: ']' :: rest => (CharClass.names.lookup (String.ofList name)).map (·, rest)
  | _ => none

/-- One character of a set. -/
def member (c : Char) (rest : List Char) : Char × List Char :=
  if c = '\\' then escaped rest else (c, rest)

/-- Reads the members of a set up to the bracket that closes it; one that stands first does not. The fuel
bounds the length. -/
def members : Nat → Bool → List Char → Option (List SetMember × List Char)
  | 0, _, _ | _, _, [] => none
  | fuel + 1, isFirst, c :: cs =>
    if c = ']' ∧ !isFirst then some ([], cs)
    else
      let afterNamed := match c, cs with
        | '[', ':' :: rest => named? rest
        | _, _ => none
      match afterNamed with
      | some (k, rest) => (members fuel false rest).map fun (ms, rest) => (.ofClass k :: ms, rest)
      | none =>
        let (first, rest) := member c cs
        match rest with
        | '-' :: d :: more =>
          if d = ']' then (members fuel false rest).map fun (ms, rest) => (.range first first :: ms, rest)
          else
            let (last, more) := member d more
            (members fuel false more).map fun (ms, rest) => (.range first last :: ms, rest)
        | _ => (members fuel false rest).map fun (ms, rest) => (.range first first :: ms, rest)

/-- What stands behind a part to say how often it comes. The fuel bounds the length. -/
def repeating : Nat → Regex → List Char → Regex × List Char
  | fuel + 1, r, '*' :: rest => repeating fuel (.repeated 0 none r) rest
  | fuel + 1, r, '+' :: rest => repeating fuel (.repeated 1 none r) rest
  | fuel + 1, r, '?' :: rest => repeating fuel (.repeated 0 (some 1) r) rest
  | _, r, rest => (r, rest)

def isEmpty : Regex → Bool
  | .empty => true
  | _ => false

mutual

/-- Reads alternatives. The fuel bounds the depth and the length. -/
def either : Nat → List Char → Except Fault (Regex × List Char)
  | 0, cs => .ok (.empty, cs)
  | fuel + 1, cs => do
    let (r, rest) ← sequence fuel .empty cs
    match rest with
    | '|' :: rest =>
      let (r', rest) ← either fuel rest
      return (.either r r', rest)
    | rest => return (r, rest)

/-- Reads one part after the other, behind those that have been read. -/
def sequence : Nat → Regex → List Char → Except Fault (Regex × List Char)
  | 0, r, cs => .ok (r, cs)
  | fuel + 1, before, cs =>
    let go (r : Regex) (rest : List Char) : Except Fault (Regex × List Char) := do
      let (r, rest) := repeating (rest.length + 1) r rest
      sequence fuel (if isEmpty before then r else .sequence before r) rest
    match cs with
    | [] => .ok (before, [])
    | '|' :: _ | ')' :: _ => .ok (before, cs)
    | '(' :: ')' :: rest => go .empty rest
    | '(' :: rest => do
      let (r, rest) ← either fuel rest
      match rest with
      | ')' :: rest => go (.group 0 r) rest
      | _ => throw .unmatchedParenthesis
    | '[' :: '^' :: rest =>
      match members (rest.length + 1) true rest with
      | some (ms, rest) => go (.set true ms) rest
      | none => throw .unmatchedBracket
    | '[' :: rest =>
      match members (rest.length + 1) true rest with
      | some (ms, rest) => go (.set false ms) rest
      | none => throw .unmatchedBracket
    | '.' :: rest => go .any rest
    | '^' :: rest => go .textStart rest
    | '$' :: rest => go .textEnd rest
    | '\\' :: rest =>
      let (c, rest) := escaped rest
      go (.char c) rest
    | c :: rest =>
      if isEmpty before ∧ c ∈ ['*', '+', '?'] then throw .missingOperand else go (.char c) rest

end

/-- The expression that a text is. -/
def read (text : String) : Except Fault Regex := do
  let cs := text.toList
  let (r, rest) ← either (2 * cs.length + 2) cs
  if rest = [] then return r else throw .unmatchedParenthesis

end LinkBench.Host.Utility.Awk.Pattern
