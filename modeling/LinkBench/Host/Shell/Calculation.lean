import LinkBench.Host.Shell.Arithmetic
import LinkBench.Host.Shell.Parameter
/-!
Integer expressions as the extended dialect calculates them. Values come about while the expression is
read, so that what is read before a mistake has its effects. A name stands for the value of the
expression that its variable holds. Operators whose value cannot matter are read silently.
-/

namespace LinkBench.Host.Shell.Calculation

open Eval

/-- What stands at a place of an expression. -/
inductive Sign
  | finish
  | number
  | name
  | operator (text : String)
  /-- A sign of equality, behind an operator if there is one. -/
  | assign (operator : Option String)
  deriving DecidableEq

/-- Why an expression has no value. -/
structure Mistake where
  expression : List Char
  reason : String
  /-- The text from the place of the mistake on. -/
  place : List Char

/-- A variable, or an element of a list by its key. -/
structure Place where
  name : String
  key : Option String

/-- How far an expression has been read. -/
structure Reading where
  expression : List Char
  rest : List Char
  /-- The text from the last sign on. -/
  last : List Char
  sign : Sign
  previous : Sign
  value : Int64
  /-- The name that was read last, with the text of its index, and the place that it has been looked
  up under. -/
  named : Option (String × Option String)
  place : Option Place
  /-- How many times over nothing is to be looked up or changed. -/
  silence : Nat

def Reading.start (text : List Char) (silence : Nat) : Reading where
  expression := text
  rest := text
  last := []
  sign := .finish
  previous := .finish
  value := 0
  named := none
  place := none
  silence := silence

abbrev Calc := StateT Reading (ExceptT Mistake Eval)

def fail {α : Type} (reason : String) : Calc α := do
  let r ← get
  throw ⟨r.expression, reason, r.last⟩

def isBlank (c : Char) : Bool := c == ' ' || c == '\t' || c == '\n'

/-! ### Numbers -/

/-- The value of a character as a digit of large radixes. -/
def digitValue (radix : Nat) (c : Char) : Nat :=
  if c.isDigit then c.toNat - 48
  else if c.isLower then c.toNat - 87
  else if c.isUpper then c.toNat - (if radix ≤ 36 then 55 else 29)
  else if c = '@' then 62
  else 63

def isDigitChar (c : Char) : Bool := c.isAlphanum || c == '@' || c == '_'

/-- The value of digits in a radix. -/
def digits (radix : Nat) : Int64 → List Char → Except String Int64
  | n, [] => .ok n
  | n, c :: rest =>
    let d := digitValue radix c
    if radix ≤ d then .error "value too great for base"
    else digits radix (n * Int64.ofNat radix + Int64.ofNat d) rest

/-- The value of a number, whose radix may stand in front of a hash sign. -/
def number (cs : List Char) : Except String Int64 :=
  match cs with
  | '0' :: x :: rest =>
    if rest.contains '#' ∨ x = '#' then .error "invalid number"
    else if x = 'x' ∨ x = 'X' then digits 16 0 rest
    else digits 8 0 (x :: rest)
  | cs =>
    let front := cs.takeWhile (· != '#')
    match cs.drop front.length with
    | _ :: behind => do
      let radix ← digits 10 0 front
      if radix < 2 ∨ 64 < radix then throw "invalid arithmetic base"
      else if behind.contains '#' then throw "invalid number"
      else if !(behind.head?.any isDigitChar) then throw "invalid integer constant"
      else digits radix.toInt.toNat 0 behind
    | [] => digits 10 0 front

/-- A power by repeated squaring; the fuel bounds the number of binary digits of the exponent. -/
def power : Nat → Int64 → Nat → Int64
  | 0, _, _ => 1
  | fuel + 1, base, exponent =>
    if exponent = 0 then 1
    else
      let rest := power fuel (base * base) (exponent / 2)
      if exponent % 2 = 1 then rest * base else rest

/-! ### Variables -/

/-- The text of a place. -/
def Place.text? (s : State) (p : Place) : Option String :=
  match stored? s p.name, p.key with
  | some v, none => v.text?
  | some v, some key => (elementsOf v).lookup key
  | none, none =>
    match special? s p.name with
    | some (.text text) => some text
    | _ => none
  | none, some _ => none

/-- The index that a number means in a list. -/
def indexKey (v : Option Variable) (n : Int) : Option String :=
  if 0 ≤ n then some (toString n)
  else
    let past := match ((v.map elementsOf).getD []).getLast? with
      | some (key, _) => key.toNat?.getD 0 + 1
      | none => 0
    if 0 ≤ Int.ofNat past + n then some (toString (Int.ofNat past + n)) else none

/-- Gives a place the value of an expression. -/
def Place.put (p : Place) (value : String) : Eval Unit :=
  match p.key with
  | none => Eval.storeText p.name value
  | some key => setElement p.name key value

/-! ### Signs -/

/-- The value of an operator of two operands; that of a division by zero does not matter. -/
def combine (operator : String) (a b : Int64) : Int64 :=
  match Arithmetic.apply operator a b with
  | .ok n => n
  | .error _ => 0

/-- The operators of two characters. -/
def pairs : List String := ["==", "!=", ">=", "<=", "&&", "||", "**"]

def singles : List Char :=
  ['=', '>', '<', '+', '-', '*', '/', '%', '!', '(', ')', '&', '|', '^', '~', '?', ':', ',']

/-- Splits the index off that stands in brackets behind a name. -/
def takeIndex : Nat → List Char → List Char → Option (List Char × List Char)
  | _, _, [] => none
  | depth, taken, c :: rest =>
    if c = ']' ∧ depth = 0 then some (taken.reverse, rest)
    else takeIndex (if c = '[' then depth + 1 else if c = ']' then depth - 1 else depth)
      (c :: taken) rest

/-- The operator that stands in front, and what follows it. -/
def operatorAt (r : Reading) (c : Char) (rest : List Char) : Except String (Sign × List Char) :=
  let two := String.ofList (c :: rest.take 1)
  let isStep := (c = '+' ∨ c = '-') ∧ rest.head? = some c
  if two = "<<" ∨ two = ">>" then
    match rest with
    | _ :: '=' :: rest => .ok (.assign (some two), rest)
    | _ => .ok (.operator two, rest.drop 1)
  else if pairs.contains two then .ok (.operator two, rest.drop 1)
  else if isStep ∧ r.sign = .name then
    .ok (.operator ("post" ++ two), rest.drop 1)
  else if isStep ∧ r.sign = .number ∧
      (r.previous = .operator "pre++" ∨ r.previous = .operator "pre--") then
    .error s!"{two}: assignment requires lvalue"
  else if isStep ∧ (((rest.drop 1).dropWhile isBlank).head?.any isNameStart) then
    .ok (.operator ("pre" ++ two), rest.drop 1)
  else if rest.head? = some '=' ∧ ['*', '/', '%', '+', '-', '&', '^', '|'].contains c then
    .ok (.assign (some (String.singleton c)), rest.drop 1)
  else if !singles.contains c then
    match r.sign with
    | .number | .name => .error "syntax error: invalid arithmetic operator"
    | _ => .error "syntax error: operand expected"
  else if c = '=' then .ok (.assign none, rest)
  else .ok (.operator (String.singleton c), rest)

/-- How many expressions may be held by variables inside of each other. -/
def nestingLimit : Nat := 1024

mutual

/-- The value of a whole expression of its own. The fuel bounds all that happens in it. -/
def whole : Nat → Nat → List Char → Nat → ExceptT Mistake Eval Int64
  | 0, _, text, _ => throw ⟨text, "expression recursion level exceeded", text⟩
  | fuel + 1, depth, text, silence => do
    if text.all isBlank then
      return 0
    if nestingLimit ≤ depth then
      throw ⟨text, "expression recursion level exceeded", text⟩
    let body : Calc Int64 := do
      readSign fuel depth
      let n ← row fuel depth
      if (← get).sign ≠ .finish then
        fail "syntax error in expression"
      return n
    return (← body.run (.start text silence)).1

/-- Reads the next sign. -/
def readSign : Nat → Nat → Calc Unit
  | 0, _ => fail "expression recursion level exceeded"
  | fuel + 1, depth => do
    let r ← get
    match r.rest.dropWhile isBlank with
    | [] => set { r with rest := [], previous := r.sign, sign := .finish }
    | c :: rest => do
      let here := c :: rest
      set { r with last := here, rest := here }
      if isNameStart c then
        let name := here.takeWhile isNameChar
        let behind := here.drop name.length
        let (index, behind) ← match behind with
          | '[' :: inner =>
            match takeIndex 0 [] inner with
            | some (index, behind) => pure (some (String.ofList index), behind)
            | none => fail "bad array subscript"
          | _ => pure (none, behind)
        let named := (String.ofList name, index)
        let atName := { r with last := here, rest := behind, named := some named, place := none }
        set { atName with sign := .name, silence := r.silence + 1 }
        readSign fuel depth
        let isStepped := r.sign = .operator "pre++" ∨ r.sign = .operator "pre--"
        let isAssigned := (← get).sign = .assign none ∧ !isStepped
        set atName
        let value ← if isAssigned then pure 0 else lookUp fuel depth named
        modify fun t => { t with value, previous := r.sign, sign := .name }
      else if c.isDigit then
        let digits := here.takeWhile fun c => isDigitChar c || c == '#'
        match number digits with
        | .error reason => fail reason
        | .ok n =>
          set { r with
            last := here
            rest := here.drop digits.length
            value := n
            previous := r.sign
            sign := .number }
      else
        match operatorAt r c rest with
        | .error reason => fail reason
        | .ok (sign, rest) => set { r with last := here, rest, previous := r.sign, sign }

/-- The value of a name, whose place is kept. -/
def lookUp : Nat → Nat → String × Option String → Calc Int64
  | 0, _, _ => fail "expression recursion level exceeded"
  | fuel + 1, depth, named => do
    if 0 < (← get).silence then
      return 0
    let place ← placeOf fuel depth named
    let s ← (get : Eval State)
    modify fun r => { r with place := some place }
    match place.text? s with
    | some text => do
      if place.name = "RANDOM" then
        (modify fun s => { s with seed := nextRandom s.seed } : Eval Unit)
      whole fuel (depth + 1) text.toList 0
    | none => do
      if s.options.contains 'u' then
        (fatal s!"{place.name}: unbound variable" : Eval Unit)
      return 0

/-- The place that a name with an index means. -/
def placeOf : Nat → Nat → String × Option String → Calc Place
  | 0, _, _ => fail "expression recursion level exceeded"
  | fuel + 1, depth, (name, index) => do
    let s ← (get : Eval State)
    let (name, own) := target s referenceLimit name
    match index <|> own with
    | none => return ⟨name, none⟩
    | some index =>
      let v := stored? s name
      if (v.bind (·.elements)).any (·.hasKeys) then
        return ⟨name, some index⟩
      let n ← whole fuel (depth + 1) index.toList 0
      match indexKey v n.toInt with
      | some key => return ⟨name, some key⟩
      | none => do
        (complain s!"{name}: bad array subscript" : Eval Unit)
        return ⟨name, some ""⟩

/-- Expressions in a row, of which the last counts. -/
def row : Nat → Nat → Calc Int64
  | 0, _ => fail "expression recursion level exceeded"
  | fuel + 1, depth => do
    let n ← assignment fuel depth
    if (← get).sign = .operator "," then
      readSign fuel depth
      row fuel depth
    else
      return n

def assignment : Nat → Nat → Calc Int64
  | 0, _ => fail "expression recursion level exceeded"
  | fuel + 1, depth => do
    let old ← choice fuel depth
    let r ← get
    match r.sign with
    | .assign operator => do
      if r.previous ≠ .name then
        fail "attempted assignment to non-variable"
      readSign fuel depth
      let n ← assignment fuel depth
      let isSilent := 0 < (← get).silence
      let n ← match operator with
        | none => pure n
        | some operator =>
          if (operator = "/" ∨ operator = "%") ∧ n = 0 then
            if isSilent then pure 1 else fail "division by 0"
          else pure (combine operator old n)
      if !isSilent then
        match r.named with
        | some named => do
          let place ← match r.place with
            | some place => pure place
            | none => placeOf fuel depth named
          (place.put (toString n.toInt) : Eval Unit)
        | none => pure ()
      return n
    | _ => return old

/-- A choice between two expressions by a third one. -/
def choice : Nat → Nat → Calc Int64
  | 0, _ => fail "expression recursion level exceeded"
  | fuel + 1, depth => do
    let test ← level fuel depth (Arithmetic.levels)
    if (← get).sign ≠ .operator "?" then
      return test
    let silently (isSilent : Bool) (body : Calc Int64) : Calc Int64 := do
      let n := if isSilent then 1 else 0
      modify fun r => { r with silence := r.silence + n }
      readSign fuel depth
      if (← get).sign = .finish then
        fail "expression expected"
      let value ← body
      modify fun r => { r with silence := r.silence - n }
      return value
    let yes ← silently (test == 0) (row fuel depth)
    if (← get).sign ≠ .operator ":" then
      fail "\x60:' expected for conditional expression"
    let no ← silently (test != 0) (choice fuel depth)
    modify fun r => { r with previous := .operator "?" }
    return if test != 0 then yes else no

/-- Operands joined by operators of the given levels. -/
def level : Nat → Nat → List (List String) → Calc Int64
  | 0, _, _ => fail "expression recursion level exceeded"
  | fuel + 1, depth, [] => powers fuel depth
  | fuel + 1, depth, operators :: tighter => do
    let a ← level fuel depth tighter
    more fuel depth operators tighter a

/-- Goes on with the operators of a level. -/
def more : Nat → Nat → List String → List (List String) → Int64 → Calc Int64
  | 0, _, _, _, _ => fail "expression recursion level exceeded"
  | fuel + 1, depth, operators, tighter, a => do
    match (← get).sign with
    | .operator text => do
      if !operators.contains text then
        return a
      else if text = "||" ∨ text = "&&" then
        let isSilent := (a != 0) == (text == "||")
        let n := if isSilent then 1 else 0
        modify fun r => { r with silence := r.silence + n }
        readSign fuel depth
        let b ← level fuel depth tighter
        modify fun r => { r with silence := r.silence - n, previous := .operator text }
        let value := if text = "||" then a != 0 || b != 0 else a != 0 && b != 0
        more fuel depth operators tighter (if value then 1 else 0)
      else
        let behind := (← get).rest
        readSign fuel depth
        let b ← level fuel depth tighter
        modify fun r => { r with previous := .number }
        if (text = "/" ∨ text = "%") ∧ b = 0 then
          if (← get).silence = 0 then
            modify fun r => { r with last := behind.dropWhile isBlank }
            fail "division by 0"
          more fuel depth operators tighter a
        else
          more fuel depth operators tighter (combine text a b)
    | _ => return a

def powers : Nat → Nat → Calc Int64
  | 0, _ => fail "expression recursion level exceeded"
  | fuel + 1, depth => do
    let a ← signed fuel depth
    if (← get).sign = .operator "**" then
      readSign fuel depth
      let b ← powers fuel depth
      modify fun r => { r with previous := .number }
      if b < 0 then
        fail "exponent less than 0"
      return power 64 a b.toInt.toNat
    else
      return a

/-- An operand behind signs of its own. -/
def signed : Nat → Nat → Calc Int64
  | 0, _ => fail "expression recursion level exceeded"
  | fuel + 1, depth => do
    let behind (change : Int64 → Int64) : Calc Int64 := do
      readSign fuel depth
      let n ← signed fuel depth
      modify fun r => { r with previous := .number }
      return change n
    match (← get).sign with
    | .operator "!" => behind fun n => if n == 0 then 1 else 0
    | .operator "~" => behind (~~~ ·)
    | .operator "-" => behind (- ·)
    | .operator "+" => behind id
    | _ => operand fuel depth

/-- A number, a name perhaps with steps, or an expression in parentheses. -/
def operand : Nat → Nat → Calc Int64
  | 0, _ => fail "expression recursion level exceeded"
  | fuel + 1, depth => do
    let r ← get
    let step (operator : String) (old : Int64) : Calc Int64 := do
      let r ← get
      let n := if operator.endsWith "+" then old + 1 else old - 1
      if r.silence = 0 then
        match r.place with
        | some place => (place.put (toString n.toInt) : Eval Unit)
        | none => pure ()
      return n
    match r.sign with
    | .operator "(" => do
      readSign fuel depth
      let n ← row fuel depth
      if (← get).sign ≠ .operator ")" then
        fail "missing \x60)'"
      readSign fuel depth
      return n
    | .operator text => do
      if text = "pre++" ∨ text = "pre--" then
        readSign fuel depth
        let n ← step text (← get).value
        modify fun r => { r with sign := .number }
        readSign fuel depth
        return n
      else
        fail "syntax error: operand expected"
    | .number => do
      readSign fuel depth
      return r.value
    | .name => do
      modify fun r => { r with silence := r.silence + 1 }
      readSign fuel depth
      let after ← get
      match after.sign with
      | .operator "post++" | .operator "post--" => do
        set { r with rest := after.rest, last := after.last, previous := .name }
        let _ ← step (match after.sign with | .operator text => text | _ => "") r.value
        modify fun r => { r with sign := .number }
      | _ => set r
      readSign fuel depth
      return r.value
    | _ => fail "syntax error: operand expected"

end

/-- Bounds the number of steps of a calculation. -/
def stepLimit : Nat := 1000000

/-- What is said about an expression that has no value, behind the name of the command. -/
def Mistake.message (command : String) (m : Mistake) : String :=
  let shown := String.ofList (m.expression.dropWhile fun c => c == ' ' || c == '\t')
  let place := String.ofList m.place
  s!"{command}{shown}: {m.reason} (error token is \"{place}\")"

end LinkBench.Host.Shell.Calculation

namespace LinkBench.Host.Shell

namespace Eval

/-- The value of an expression, or why it has none. -/
def calculated (source : String) : Eval (Except Calculation.Mistake Int64) :=
  (Calculation.whole Calculation.stepLimit 0 source.toList 0).run

end Eval

end LinkBench.Host.Shell
