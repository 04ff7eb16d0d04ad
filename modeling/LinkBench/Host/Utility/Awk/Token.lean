import LinkBench.Host.Utility.Awk.Program
/-!
The words and signs of programs. A slash begins an expression where no operand stands before it, and
divides where one does. Line ends are signs too; one behind a backslash is none.
-/

namespace LinkBench.Host.Utility.Awk

inductive Token
  | number (x : Float) (source : String)
  | text (s source : String)
  | regex (source : String)
  | name (s : String)
  /-- A name right before an opening parenthesis. -/
  | call (s : String)
  | builtin (s : String)
  | keyword (s : String)
  | sign (s : String)
  | newline
  | finish
  deriving Inhabited

/-- Why a text is no program. -/
inductive SyntaxFault
  | refused (line : Nat) (message : String)
  /-- A character that no token begins with. -/
  | unexpectedCharacter (line : Nat) (c : Char)
  deriving DecidableEq

/-- What is said about a fault. -/
def SyntaxFault.shown : SyntaxFault → String
  | .refused line message => s!"line {line}: {message}"
  | .unexpectedCharacter line c =>
    let shown := String.singleton c
    s!"{line}: unexpected character '{shown}'"

namespace Token

/-- How a token is shown where the program breaks a rule. -/
def shown : Token → String
  | .number _ source => source
  | .text _ source => source
  | .regex source => s!"/{source}/"
  | .name s | .call s | .builtin s | .keyword s | .sign s => s
  | .newline => "end of line"
  | .finish => "end of file"

/-- Whether an operand ends with the token, so that a slash behind it divides. -/
def endsOperand : Token → Bool
  | .number .. | .text .. | .regex _ | .name _ | .builtin _ => true
  | .sign s => s ∈ [")", "]", "++", "--"]
  | _ => false

def keywords : List String :=
  ["BEGIN", "END", "function", "if", "else", "while", "for", "do", "break", "continue", "next",
    "nextfile", "exit", "return", "delete", "in", "getline", "print", "printf"]

/-- The signs, those of more characters first. -/
def signs : List String :=
  ["&&", "||", "==", "!=", "<=", ">=", ">>", "++", "--", "+=", "-=", "*=", "/=", "%=", "^=", "!~",
    "\x7b", "\x7d", "(", ")", "[", "]", ";", ",", "+", "-", "*", "/", "%", "^", "!", ">", "<", "|",
    "?", ":", "~", "$", "="]

def isNameStart (c : Char) : Bool := c.isAlpha || c == '_'

def isNameChar (c : Char) : Bool := c.isAlphanum || c == '_'

/-- Cuts off a numeral. -/
def numeral (cs : List Char) : List Char × List Char :=
  let whole := cs.takeWhile (·.isDigit)
  let rest := cs.drop whole.length
  let fraction := match rest with
    | '.' :: more => '.' :: more.takeWhile (·.isDigit)
    | _ => []
  let rest := rest.drop fraction.length
  let exponent := match rest with
    | e :: more =>
      if e = 'e' ∨ e = 'E' then
        let sign := more.takeWhile fun c => c == '+' || c == '-'
        let digits := (more.drop sign.length).takeWhile (·.isDigit)
        if sign.length ≤ 1 ∧ digits ≠ [] then e :: sign ++ digits else []
      else []
    | [] => []
  (whole ++ fraction ++ exponent, rest.drop exponent.length)

/-- The characters that letters stand for in a text, behind a backslash. -/
def textLetters : List (Char × Char) :=
  [('"', '"'), ('\\', '\\'), ('n', '\n'), ('t', '\t'), ('f', '\x0c'), ('v', '\x0b'),
    ('a', '\x07'), ('r', '\r'), ('b', '\x08')]

/-- A text with its escapes replaced. -/
def unescaped : List Char → List Char
  | '\\' :: '/' :: rest => '\\' :: '/' :: unescaped rest
  | '\\' :: '\n' :: rest => unescaped rest
  | '\\' :: c :: rest =>
    match textLetters.lookup c with
    | some letter => letter :: unescaped rest
    | none =>
      if '0' ≤ c ∧ c ≤ '7' then
        match rest with
        | d :: e :: more =>
          let isOctal (x : Char) : Bool := '0' ≤ x && x ≤ '7'
          if isOctal d && isOctal e then
            Char.ofNat (Nat.ofDigitChars 8 [c, d, e] 0 % 256) :: unescaped more
          else if isOctal d then Char.ofNat (Nat.ofDigitChars 8 [c, d] 0) :: unescaped (e :: more)
          else Char.ofNat (Nat.ofDigitChars 8 [c] 0) :: unescaped (d :: e :: more)
        | [d] =>
          if '0' ≤ d ∧ d ≤ '7' then [Char.ofNat (Nat.ofDigitChars 8 [c, d] 0)]
          else Char.ofNat (Nat.ofDigitChars 8 [c] 0) :: [d]
        | [] => [Char.ofNat (Nat.ofDigitChars 8 [c] 0)]
      else '\\' :: c :: unescaped rest
  | c :: rest => c :: unescaped rest
  | [] => []

/-- Cuts off what stands up to an unescaped sign on the same line. -/
def upTo (ending : Char) : List Char → Option (List Char × List Char)
  | '\\' :: c :: rest => (upTo ending rest).map fun (found, rest) => ('\\' :: c :: found, rest)
  | c :: rest =>
    if c = ending then some ([], rest)
    else if c = '\n' then none
    else (upTo ending rest).map fun (found, rest) => (c :: found, rest)
  | [] => none

/-- Cuts off what stands up to the slash behind an expression; one between brackets is none. -/
def regexUpTo : Bool → List Char → Option (List Char × List Char)
  | inSet, '\\' :: c :: rest =>
    (regexUpTo inSet rest).map fun (found, rest) =>
      if c = '/' then ('/' :: found, rest) else ('\\' :: c :: found, rest)
  | inSet, c :: rest =>
    if c = '/' ∧ !inSet then some ([], rest)
    else if c = '\n' then none
    else
      let inSet := if c = '[' then true else if c = ']' then false else inSet
      (regexUpTo inSet rest).map fun (found, rest) => (c :: found, rest)
  | _, [] => none

/-- A text or an expression without its end, as it is shown. -/
def runaway (kind : String) (cs : List Char) : String :=
  let shown := (cs.takeWhile (· != '\n')).take 11
  s!"runaway {kind} {String.ofList shown} ..."

/-- The word that stands next. -/
def word (cs : List Char) : Token × List Char :=
  let name := cs.takeWhile isNameChar
  let rest := cs.drop name.length
  let s := String.ofList name
  if keywords.contains s then (.keyword s, rest)
  else if (Builtin.table.lookup s).isSome then (.builtin s, rest)
  else if rest.head? = some '(' then (.call s, rest)
  else (.name s, rest)

/-- The next token with what follows; nothing for blanks and remarks. -/
def next? (before : Token) (line : Nat) (cs : List Char) :
    Except SyntaxFault (Option Token × List Char) :=
  match cs with
  | [] => .ok (none, [])
  | '\n' :: rest => .ok (some .newline, rest)
  | '\\' :: '\n' :: rest => .ok (none, rest)
  | '#' :: rest => .ok (none, rest.dropWhile (· != '\n'))
  | '"' :: rest =>
    match upTo '"' rest with
    | some (found, rest) =>
      .ok (some (.text (String.ofList (unescaped found)) (String.ofList ('"' :: found ++ ['"']))),
        rest)
    | none => .error (.refused line (runaway "string constant" ('"' :: rest)))
  | '/' :: rest =>
    if before.endsOperand then
      match rest with
      | '=' :: rest => .ok (some (.sign "/="), rest)
      | rest => .ok (some (.sign "/"), rest)
    else
      match regexUpTo false rest with
      | some (found, rest) => .ok (some (.regex (String.ofList found)), rest)
      | none => .error (.refused line (runaway "regular expression" ('/' :: rest)))
  | c :: rest =>
    let startsNumeral := c.isDigit || (c == '.' && rest.head?.any (·.isDigit))
    if c = ' ' ∨ c = '\t' ∨ c = '\r' ∨ c = '\x0b' ∨ c = '\x0c' then .ok (none, rest)
    else if startsNumeral then
      let (found, rest) := numeral (c :: rest)
      let source := String.ofList found
      .ok (some (.number (Value.numberOf source) source), rest)
    else if isNameStart c then
      let (t, rest) := word (c :: rest)
      .ok (some t, rest)
    else
      match signs.find? fun s => s.toList.isPrefixOf (c :: rest) with
      | some s => .ok (some (.sign s), (c :: rest).drop s.length)
      | none => .error (.unexpectedCharacter line c)

/-- A token with the number of the line that it stands on. -/
structure Placed where
  token : Token
  line : Nat
  deriving Inhabited

/-- Leaves out the signs that close more than has been opened, and says what they are. -/
def closed (parens braces : Nat) : List Placed → List Placed × List SyntaxFault
  | [] => ([], [])
  | p :: rest =>
    let extra (sign : String) (parens braces : Nat) : List Placed × List SyntaxFault :=
      let (found, faults) := closed parens braces rest
      (found, .refused p.line s!"extra '{sign}'" :: faults)
    let keep (parens braces : Nat) : List Placed × List SyntaxFault :=
      let (found, faults) := closed parens braces rest
      (p :: found, faults)
    match p.token with
    | .sign "(" => keep (parens + 1) braces
    | .sign "\x7b" => keep parens (braces + 1)
    | .sign ")" => if parens = 0 then extra ")" 0 braces else keep (parens - 1) braces
    | .sign "\x7d" => if braces = 0 then extra "\x7d" parens 0 else keep parens (braces - 1)
    | _ => keep parens braces

/-- The tokens of a text from a line on. The fuel bounds the length. -/
def readFrom : Nat → Token → Nat → List Char → Except SyntaxFault (List Placed)
  | 0, _, line, _ | _, _, line, [] => .ok [⟨.finish, line⟩]
  | fuel + 1, before, line, cs => do
    match ← next? before line cs with
    | (none, rest) =>
      let isContinued := cs.head? == some '\\'
      readFrom fuel before (if isContinued then line + 1 else line) rest
    | (some t, rest) =>
      let after := match t with
        | .newline => line + 1
        | _ => line
      return ⟨t, line⟩ :: (← readFrom fuel t after rest)

/-- The tokens of a program. -/
def readAll (text : String) : Except SyntaxFault (List Placed) :=
  let text := if text.endsWith "\n" then text else text ++ "\n"
  readFrom (text.length + 1) .newline 1 text.toList

end Token

end LinkBench.Host.Utility.Awk
