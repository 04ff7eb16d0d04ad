import LinkBench.Host.Utility.Awk.Pattern
import LinkBench.Host.Utility.Awk.Token
/-!
Reading programs. Operators have ranks, and texts that stand side by side are put together. In front of
where output goes, a sign for greater is none.
-/

namespace LinkBench.Host.Utility.Awk

/-- What a name stands for all over a program, or all over the function that it belongs to. -/
inductive NameKind
  | variable
  | array
  | function
  deriving DecidableEq

def NameKind.shown : NameKind → String
  | .variable => "variable"
  | .array => "array"
  | .function => "function"

/-- A function that is called, and with how many arguments. -/
structure CallSite where
  function : String
  count : Nat
  line : Nat

/-- The tokens that are left, and how many parentheses and braces are open. -/
structure Reader where
  rest : List Token.Placed
  parens : Nat
  braces : Nat
  /-- The functions of the program's own that are called. -/
  called : List CallSite
  kinds : List (String × NameKind)
  /-- The names that belong to the function that is being read. -/
  locals : List (String × Option NameKind)
  /-- What has been found to be wrong without an end to the reading. -/
  faults : List SyntaxFault

/-- What a reader begins with. -/
def Reader.start (tokens : List Token.Placed) (faults : List SyntaxFault) : Reader :=
  let known := ["NR", "FNR", "NF", "FS", "OFS", "RS", "ORS", "FILENAME", "SUBSEP", "RSTART",
    "RLENGTH", "CONVFMT", "OFMT", "ARGC"]
  { rest := tokens
    parens := 0
    braces := 0
    called := []
    kinds := [("ENVIRON", .array), ("ARGV", .array)] ++ known.map (·, .variable)
    locals := []
    faults }

abbrev Read := StateT Reader (Except (SyntaxFault × Reader))

namespace Read

def peek : Read Token := do
  return ((← get).rest.head?.map (·.token)).getD .finish

def line : Read Nat := do
  return ((← get).rest.head?.map (·.line)).getD 0

def failAt {α : Type} (line : Nat) (message : String) : Read α := do
  throw (.refused line message, ← get)

/-- Finds something to be wrong without an end to the reading. -/
def blame (line : Nat) (message : String) : Read Unit :=
  modify fun r => { r with faults := r.faults ++ [.refused line message] }

/-- What is said about a token that may not stand where it does. -/
def complaint (r : Reader) : Token → String
  | .finish =>
    if 0 < r.parens then "missing ) near end of file"
    else if 0 < r.braces then "missing \x7d near end of file"
    else "syntax error at or near end of file"
  | .newline =>
    if 0 < r.parens then "missing ) near end of line" else "syntax error at or near end of line"
  | .sign s =>
    if s = "\x7d" ∧ 0 < r.parens then "missing ) near \x7d"
    else if s = "\x7d" ∧ r.braces = 0 then "extra '\x7d'"
    else if s = ";" ∧ 0 < r.parens then "missing ) near ;"
    else if s = ")" ∧ r.parens = 0 then "extra ')'"
    else s!"syntax error at or near {s}"
  | t => s!"syntax error at or near {t.shown}"

/-- Complains about the token that stands next. -/
def unexpected {α : Type} : Read α := do
  failAt (← line) (complaint (← get) (← peek))

def skip : Read Unit :=
  modify fun r =>
    let sign : String := match r.rest.head?.map Token.Placed.token with
      | some (Token.sign s) => s
      | _ => ""
    let count (opening closing : String) (n : Nat) : Nat :=
      if sign = opening then n + 1 else if sign = closing then n - 1 else n
    { r with rest := r.rest.tail, parens := count "(" ")" r.parens,
             braces := count "\x7b" "\x7d" r.braces }

def sees (s : String) : Read Bool := do
  match ← peek with
  | .sign t | .keyword t => return t == s
  | _ => return false

/-- Takes a sign or a keyword if it stands next. -/
def takes (s : String) : Read Bool := do
  if ← sees s then
    skip
    return true
  return false

def need (s : String) : Read Unit := do
  if !(← takes s) then
    unexpected

/-- Skips line ends. The fuel bounds their number. -/
def skipLinesFrom : Nat → Read Unit
  | 0 => pure ()
  | fuel + 1 => do
    match ← peek with
    | .newline =>
      skip
      skipLinesFrom fuel
    | _ => pure ()

def skipLines : Read Unit := do skipLinesFrom (← get).rest.length

/-- Skips line ends and semicolons. -/
def skipEndsFrom : Nat → Read Unit
  | 0 => pure ()
  | fuel + 1 => do
    match ← peek with
    | .newline | .sign ";" =>
      skip
      skipEndsFrom fuel
    | _ => pure ()

def skipEnds : Read Unit := do skipEndsFrom (← get).rest.length

def name : Read String := do
  match ← peek with
  | .name s =>
    skip
    return s
  | _ => unexpected

/-- Whether the token that stands next begins an operand, and no sign that calculates. -/
def startsOperand : Read Bool := do
  match ← peek with
  | .number .. | .text .. | .regex _ | .name _ | .call _ | .builtin _ => return true
  | .keyword s => return s == "getline"
  | .sign s => return s ∈ ["$", "!", "(", "-", "+", "++", "--"]
  | _ => return false

/-- What a name is known to stand for. -/
def kindOf (s : String) : Read (Option NameKind) := do
  let r ← get
  match r.locals.lookup s with
  | some k => return k
  | none => return r.kinds.lookup s

/-- Learns what a name stands for; a name stands for one thing. -/
def learn (s : String) (kind : NameKind) : Read Unit := do
  let r ← get
  let isLocal := (r.locals.lookup s).isSome
  match ← kindOf s with
  | some known =>
    if known ≠ kind then
      let place := if isLocal then "local " else ""
      blame (← line) s!"illegal reference to {place}{known.shown} {s}"
  | none =>
    if isLocal then
      let known := r.locals.map fun (t, k) => if t = s then (t, some kind) else (t, k)
      set { r with locals := known }
    else
      set { r with kinds := r.kinds ++ [(s, kind)] }

/-- Reads the name of an array. -/
def arrayName : Read String := do
  let s ← name
  learn s .array
  return s

/-- The name that stands alone as an argument, if one does. -/
def loneName? : Read (Option String) := do
  match (← get).rest.map Token.Placed.token with
  | .name s :: .sign ending :: _ => return if ending ∈ [",", ")"] then some s else none
  | _ => return none

def target? : Expr → Option Target
  | .value t => some t
  | _ => none

def assignments : List (String × Option Calculation) :=
  [("=", none), ("+=", some .add), ("-=", some .subtract), ("*=", some .multiply),
    ("/=", some .divide), ("%=", some .remainder), ("^=", some .power)]

def relations : List (String × Value.Relation) :=
  [("<", .less), ("<=", .atMost), ("==", .equal), ("!=", .unequal), (">", .greater), (">=", .atLeast)]

/-- What a sign of a table means, if it stands next. -/
def operator? {α : Type} (table : List (String × α)) : Read (Option α) := do
  match ← peek with
  | .sign s => return table.lookup s
  | _ => return none

/-- The expression of a text between slashes. -/
def compiled (source : String) : Read Expr := do
  match Pattern.read source with
  | .ok r => return .pattern r
  | .error f => failAt (← line) (f.message source)

/-- Refuses a constant text that is no expression, where one is looked for. -/
def checkPattern (e : Expr) : Read Unit := do
  match e with
  | .text source =>
    match Pattern.read source with
    | .ok _ => pure ()
    | .error f => failAt (← line) (f.message source)
  | _ => pure ()

mutual

/-- Reads an expression; `isPrint` says that it stands in front of where output goes. The fuel bounds the
length. -/
def expression (isPrint : Bool) : Nat → Read Expr
  | 0 => unexpected
  | fuel + 1 => do
    let condition ← either isPrint fuel
    if ← takes "?" then
      skipLines
      let a ← expression isPrint fuel
      skipLines
      need ":"
      skipLines
      return .choose condition a (← expression isPrint fuel)
    return condition

def either (isPrint : Bool) : Nat → Read Expr
  | 0 => unexpected
  | fuel + 1 => do eitherFrom isPrint fuel (← both isPrint fuel)

def eitherFrom (isPrint : Bool) : Nat → Expr → Read Expr
  | 0, _ => unexpected
  | fuel + 1, a => do
    if ← takes "||" then
      skipLines
      eitherFrom isPrint fuel (.either a (← both isPrint fuel))
    else return a

def both (isPrint : Bool) : Nat → Read Expr
  | 0 => unexpected
  | fuel + 1 => do bothFrom isPrint fuel (← membership isPrint fuel)

def bothFrom (isPrint : Bool) : Nat → Expr → Read Expr
  | 0, _ => unexpected
  | fuel + 1, a => do
    if ← takes "&&" then
      skipLines
      bothFrom isPrint fuel (.both a (← membership isPrint fuel))
    else return a

def membership (isPrint : Bool) : Nat → Read Expr
  | 0 => unexpected
  | fuel + 1 => do membershipFrom fuel (← search isPrint fuel)

def membershipFrom : Nat → Expr → Read Expr
  | 0, _ => unexpected
  | fuel + 1, a => do
    if ← takes "in" then membershipFrom fuel (.isIn [a] (← arrayName)) else return a

def search (isPrint : Bool) : Nat → Read Expr
  | 0 => unexpected
  | fuel + 1 => do searchFrom isPrint fuel (← relation isPrint fuel)

def searchFrom (isPrint : Bool) : Nat → Expr → Read Expr
  | 0, _ => unexpected
  | fuel + 1, a => do
    match ← operator? [("~", false), ("!~", true)] with
    | some isNegated =>
      skip
      let pattern ← relation isPrint fuel
      checkPattern pattern
      searchFrom isPrint fuel (.finds isNegated a pattern)
    | none => return a

def relation (isPrint : Bool) : Nat → Read Expr
  | 0 => unexpected
  | fuel + 1 => do relationFrom isPrint fuel (← sideBySide isPrint fuel)

def relationFrom (isPrint : Bool) : Nat → Expr → Read Expr
  | 0, _ => unexpected
  | fuel + 1, a => do
    if isPrint && (← sees ">") then return a
    match ← operator? relations with
    | some r =>
      skip
      relationFrom isPrint fuel (.relation r a (← sideBySide isPrint fuel))
    | none => return a

/-- Reads an assignment, or operands side by side. -/
def sideBySide (isPrint : Bool) : Nat → Read Expr
  | 0 => unexpected
  | fuel + 1 => do
    let a ← sum isPrint fuel
    match target? a, ← operator? assignments with
    | some t, some calculation =>
      skip
      skipLines
      return .assign t calculation (← expression isPrint fuel)
    | _, _ => sideBySideFrom isPrint fuel a

def sideBySideFrom (isPrint : Bool) : Nat → Expr → Read Expr
  | 0, _ => unexpected
  | fuel + 1, a => do
    if ← startsOperand then sideBySideFrom isPrint fuel (.concat a (← sum isPrint fuel)) else return a

def sum (isPrint : Bool) : Nat → Read Expr
  | 0 => unexpected
  | fuel + 1 => do sumFrom isPrint fuel (← product isPrint fuel)

def sumFrom (isPrint : Bool) : Nat → Expr → Read Expr
  | 0, _ => unexpected
  | fuel + 1, a => do
    match ← operator? [("+", Calculation.add), ("-", .subtract)] with
    | some c =>
      skip
      sumFrom isPrint fuel (.calculate c a (← product isPrint fuel))
    | none => return a

def product (isPrint : Bool) : Nat → Read Expr
  | 0 => unexpected
  | fuel + 1 => do productFrom isPrint fuel (← signed isPrint fuel)

def productFrom (isPrint : Bool) : Nat → Expr → Read Expr
  | 0, _ => unexpected
  | fuel + 1, a => do
    match ← operator? [("*", Calculation.multiply), ("/", .divide), ("%", .remainder)] with
    | some c =>
      skip
      productFrom isPrint fuel (.calculate c a (← signed isPrint fuel))
    | none => return a

def signed (isPrint : Bool) : Nat → Read Expr
  | 0 => unexpected
  | fuel + 1 => do
    if ← takes "!" then return .not (← signed isPrint fuel)
    if ← takes "-" then return .negate (← signed isPrint fuel)
    if ← takes "+" then return .plus (← signed isPrint fuel)
    pipedFrom fuel (← power isPrint fuel)

/-- Reads what takes lines from the command that has been read. -/
def pipedFrom : Nat → Expr → Read Expr
  | 0, _ => unexpected
  | fuel + 1, a => do
    match (← get).rest.map Token.Placed.token with
    | Token.sign "|" :: Token.keyword "getline" :: _ =>
      skip
      skip
      let t ← optionalTarget fuel
      pipedFrom fuel (.getline (.command a) t)
    | _ => return a

def power (isPrint : Bool) : Nat → Read Expr
  | 0 => unexpected
  | fuel + 1 => do
    let a ← counted isPrint fuel
    if ← takes "^" then
      let isSigned := (← sees "-") || (← sees "+") || (← sees "!")
      let b ← if isSigned then signed isPrint fuel else power isPrint fuel
      return .calculate .power a b
    return a

/-- Reads an operand that may be counted up or down behind it. -/
def counted (isPrint : Bool) : Nat → Read Expr
  | 0 => unexpected
  | fuel + 1 => do
    let a ← operand isPrint fuel
    match target? a with
    | some t =>
      if ← takes "++" then return .count t true true
      if ← takes "--" then return .count t false true
      return a
    | none => return a

/-- Reads what can be given a value. -/
def target : Nat → Read Target
  | 0 => unexpected
  | fuel + 1 => do
    match target? (← operand false fuel) with
    | some t => return t
    | none => unexpected

def optionalTarget : Nat → Read (Option Target)
  | 0 => unexpected
  | fuel + 1 => do
    match ← peek with
    | .name _ | .sign "$" => return some (← target fuel)
    | _ => return none

/-- Reads the field that stands behind its sign. -/
def field : Nat → Read Expr
  | 0 => unexpected
  | fuel + 1 => do
    if ← takes "-" then return .negate (← operand false fuel)
    if ← takes "+" then return .plus (← operand false fuel)
    if ← takes "!" then return .not (← operand false fuel)
    operand false fuel

/-- Reads expressions between commas. -/
def list (isPrint : Bool) : Nat → Read (List Expr)
  | 0 => unexpected
  | fuel + 1 => do
    let a ← expression isPrint fuel
    if ← takes "," then
      skipLines
      return a :: (← list isPrint fuel)
    return [a]

/-- Reads the arguments behind an opening parenthesis. -/
def arguments : Nat → Read (List Expr)
  | 0 => unexpected
  | fuel + 1 => do
    need "("
    skipLines
    if ← takes ")" then return []
    let as ← list false fuel
    skipLines
    need ")"
    return as

/-- Reads arguments of which a name alone may be an array or a variable. -/
def namesOrValues : Nat → Read (List Expr)
  | 0 => unexpected
  | fuel + 1 => do
    let a ← match ← loneName? with
      | some s =>
        skip
        pure (Expr.value (.variable s))
      | none => expression false fuel
    if ← takes "," then
      skipLines
      return a :: (← namesOrValues fuel)
    return [a]

/-- Reads the arguments of a function of the program's own. -/
def ownArguments : Nat → Read (List Expr)
  | 0 => unexpected
  | fuel + 1 => do
    need "("
    skipLines
    if ← takes ")" then return []
    let as ← namesOrValues fuel
    skipLines
    need ")"
    return as

def ownCall (s : String) : Nat → Read Expr
  | 0 => unexpected
  | fuel + 1 => do
    learn s .function
    let as ← ownArguments fuel
    let site : CallSite := ⟨s, as.length, ← line⟩
    modify fun r => { r with called := r.called ++ [site] }
    return .call s as

/-- Reads the arguments of the function that cuts a text into the elements of an array. -/
def splitArguments : Nat → Read (List Expr)
  | 0 => unexpected
  | fuel + 1 => do
    need "("
    let a ← expression false fuel
    need ","
    skipLines
    let array ← arrayName
    let more ← if ← takes "," then
        skipLines
        pure [← expression false fuel]
      else pure []
    need ")"
    return a :: .value (.variable array) :: more

/-- Reads the argument of the function that measures a text or an array, if there is one. -/
def lengthArguments : Nat → Read (List Expr)
  | 0 => unexpected
  | fuel + 1 => do
    if ← takes "(" then
      if ← takes ")" then return []
      match ← loneName? with
      | some s =>
        skip
        need ")"
        return [.value (.variable s)]
      | none =>
        let a ← expression false fuel
        need ")"
        return [a]
    else return []

/-- Reads the arguments of a function that replaces: the last one can be given a value. -/
def replacing : Nat → Read (List Expr)
  | 0 => unexpected
  | fuel + 1 => do
    need "("
    let pattern ← expression false fuel
    checkPattern pattern
    need ","
    skipLines
    let replacement ← expression false fuel
    let more ← if ← takes "," then
        skipLines
        pure [Expr.value (← target fuel)]
      else pure []
    need ")"
    return pattern :: replacement :: more

/-- Reads the keys of an element, if some stand behind the name that has been read. -/
def variableOrElement (s : String) : Nat → Read Expr
  | 0 => unexpected
  | fuel + 1 => do
    if ← takes "[" then
      learn s .array
      let keys ← list false fuel
      need "]"
      return .value (.element s keys)
    learn s .variable
    return .value (.variable s)

def operand (isPrint : Bool) : Nat → Read Expr
  | 0 => unexpected
  | fuel + 1 => do
    match ← peek with
    | .number x _ =>
      skip
      return .number x
    | .text s _ =>
      skip
      return .text s
    | .regex source =>
      let r ← compiled source
      skip
      return r
    | .sign "$" =>
      skip
      return .value (.field (← field fuel))
    | .sign "++" =>
      skip
      return .count (← target fuel) true false
    | .sign "--" =>
      skip
      return .count (← target fuel) false false
    | .sign "(" =>
      skip
      skipLines
      let as ← list false fuel
      skipLines
      need ")"
      match as with
      | [a] => return a
      | as =>
        if ← takes "in" then return .isIn as (← arrayName) else unexpected
    | .name s =>
      skip
      let kind ← kindOf s
      if kind = some .function then
        if ← sees "(" then return ← ownCall s fuel
        unexpected
      variableOrElement s fuel
    | .call s =>
      skip
      match ← kindOf s with
      | none | some .function => ownCall s fuel
      | some _ => variableOrElement s fuel
    | .builtin s =>
      let line ← line
      skip
      match Builtin.table.lookup s with
      | none => unexpected
      | some (f, least, most) =>
        let as ← match f with
          | .length => lengthArguments fuel
          | .split => splitArguments fuel
          | .sub | .gsub => replacing fuel
          | _ => arguments fuel
        if as.length < least ∨ most < as.length then
          failAt line s!"wrong number of arguments in call to {s}"
        return .builtin f as
    | .keyword "getline" =>
      skip
      let t ← optionalTarget fuel
      if ← takes "<" then return .getline (.file (← power isPrint fuel)) t
      return .getline .main t
    | _ => unexpected

end

end Read

end LinkBench.Host.Utility.Awk
