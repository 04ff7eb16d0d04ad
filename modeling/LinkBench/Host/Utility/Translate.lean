import LinkBench.Host.CharSet
import LinkBench.Host.Utility.Options
/-!
Replacing, deleting and squeezing characters. The characters are given by two strings, in which
ranges, classes and repetitions stand for many.
-/

namespace LinkBench.Host.Utility

namespace Translate

/-- An element of a string, escapes resolved. -/
inductive Element
  | char (c : Char)
  | range (first last : Char)
  | class (c : CharClass)
  | equivalent (c : Char)
  /-- A character over and over; without a number, as often as needed. -/
  | repeated (c : Char) (count : Nat)
  deriving DecidableEq

/-- A character as it was written: whether a backslash stood before it. -/
abbrev Written := Char × Bool

/-- What is said about an octal number that is too large for a byte. -/
def octalWarning (digits : List Char) : String :=
  let all := String.ofList digits
  let first := String.ofList (digits.take 2)
  let last := String.ofList (digits.drop 2)
  s!"warning: the ambiguous octal escape \\{all} is being\n\t" ++
    s!"interpreted as the 2-byte sequence \\0{first}, {last}"

/-- Resolves escapes; what may surprise in one is said beside it. -/
def resolve : Nat → List Char → List (Written × Option String)
  | 0, _ | _, [] => []
  | _ + 1, ['\\'] =>
    [(('\\', true), some "warning: an unescaped backslash at end of string is not portable")]
  | fuel + 1, '\\' :: c :: cs =>
    let digits := ((c :: cs).take 3).takeWhile fun d => '0' ≤ d && d ≤ '7'
    if digits ≠ [] then
      let isTooLarge := 255 < Nat.ofDigitChars 8 digits 0
      let kept := if isTooLarge then digits.take 2 else digits
      ((Char.ofNat (Nat.ofDigitChars 8 kept 0), true),
          if isTooLarge then some (octalWarning digits) else none) ::
        resolve fuel (cs.drop (kept.length - 1))
    else
      let meant := match c with
        | 'a' => '\x07'
        | 'b' => '\x08'
        | 'f' => '\x0c'
        | 'n' => '\n'
        | 'r' => '\r'
        | 't' => '\t'
        | 'v' => '\x0b'
        | c => c
      ((meant, true), none) :: resolve fuel cs
  | fuel + 1, c :: rest => ((c, false), none) :: resolve fuel rest

/-- A character in a complaint. -/
def shown (c : Char) : String :=
  if c = '\\' then "\\\\"
  else if Quoting.isPrintable c then String.singleton c
  else "\\" ++ Quoting.escapeCode c

def shownText (ws : List Written) : String := String.join (ws.map fun w => shown w.1)

/-- What stands between an opening and a closing mark, and what follows. -/
def enclosed? (mark : Char) : List Written → Option (List Written × List Written)
  | (m, false) :: (']', false) :: rest => if m = mark then some ([], rest) else
      (enclosed? mark ((']', false) :: rest)).map fun (inner, rest) => ((m, false) :: inner, rest)
  | w :: rest => (enclosed? mark rest).map fun (inner, rest) => (w :: inner, rest)
  | [] => none

/-- The number of a repetition: octal behind a zero. -/
def count? (cs : List Char) : Option Nat :=
  match cs with
  | [] => some 0
  | '0' :: _ => if cs.all fun d => '0' ≤ d && d ≤ '7' then some (Nat.ofDigitChars 8 cs 0) else none
  | _ => if cs.all (·.isDigit) then some (Nat.ofDigitChars 10 cs 0) else none

/-- Reads a repetition behind its bracket, if there is one. -/
def repetition? : List Written → Except String (Option (Element × List Written))
  | (c, _) :: ('*', false) :: rest =>
    let inner := rest.takeWhile fun w => !w.2 && w.1 != ']'
    match rest.drop inner.length with
    | (']', false) :: behind =>
      match count? (inner.map (·.1)) with
      | some n => .ok (some (.repeated c n, behind))
      | none =>
        .error s!"invalid repeat count {Quoting.quoted (shownText inner)} in [c*n] construct"
    | _ => .ok none
  | _ => .ok none

/-- Reads what is in brackets behind the first one, if it is a class, an equivalence or a repetition. -/
def bracketed? : List Written → Except String (Option (Element × List Written))
  | (':', false) :: rest =>
    match enclosed? ':' rest with
    | some ([], _) => .error "missing character class name '[::]'"
    | some (inner, behind) =>
      match CharClass.names.lookup (String.ofList (inner.map (·.1))) with
      | some c => .ok (some (.class c, behind))
      | none => .error s!"invalid character class {Quoting.quoted (shownText inner)}"
    | none => repetition? ((':', false) :: rest)
  | ('=', false) :: rest =>
    match enclosed? '=' rest with
    | some ([], _) => .error "missing equivalence class character '[==]'"
    | some ([(c, _)], behind) => .ok (some (.equivalent c, behind))
    | some (inner, _) =>
      .error s!"{shownText inner}: equivalence class operand must be a single character"
    | none => repetition? (('=', false) :: rest)
  | rest => repetition? rest

/-- Reads a range or a character. -/
def ordinary (w : Written) : List Written → Except String (Element × List Written)
  | ('-', false) :: last :: behind =>
    if last.1 < w.1 then
      .error s!"range-endpoints of '{shown w.1}-{shown last.1}' are in reverse collating sequence order"
    else
      .ok (.range w.1 last.1, behind)
  | rest => .ok (.char w.1, rest)

/-- Reads a string. The fuel bounds its length. -/
def elements : Nat → List Written → Except String (List Element)
  | 0, _ | _, [] => .ok []
  | fuel + 1, w :: rest => do
    let found ← if w = ('[', false) ∧ 2 ≤ rest.length then bracketed? rest else .ok none
    match found with
    | some (e, behind) => return e :: (← elements fuel behind)
    | none =>
      let (e, behind) ← ordinary w rest
      return e :: (← elements fuel behind)

/-- The elements of a string, and the warnings about it. -/
def read (text : String) : List String × Except String (List Element) :=
  let resolved := resolve (text.length + 1) text.toList
  (resolved.filterMap (·.2), elements (resolved.length + 1) (resolved.map (·.1)))

/-- All characters of a byte, in order. -/
def allChars : List Char := (List.range 256).map Char.ofNat

/-- The characters that an element stands for; a repetition without a number fills up `missing`. -/
def Element.chars (missing : Nat) : Element → List Char
  | .char c | .equivalent c => [c]
  | .range a b => allChars.filter fun c => a ≤ c && c ≤ b
  | .class k => allChars.filter k.holds
  | .repeated c 0 => List.replicate missing c
  | .repeated c n => List.replicate n c

def charsOf (missing : Nat) (es : List Element) : List Char := es.flatMap (Element.chars missing)

def Element.isClass : Element → Bool
  | .class _ => true
  | _ => false

/-- Whether an element is one of the two classes that stand for each other. -/
def Element.isCase : Element → Bool
  | .class .lower | .class .upper => true
  | _ => false

def Element.isEquivalent : Element → Bool
  | .equivalent _ => true
  | _ => false

/-- Whether an element fills up what is missing. -/
def Element.isEndless : Element → Bool
  | .repeated _ 0 => true
  | _ => false

/-- The number of characters in front of each class of letters. -/
def casePlaces (missing : Nat) : Nat → List Element → List Nat
  | _, [] => []
  | place, e :: rest =>
    let others := casePlaces missing (place + (e.chars missing).length) rest
    if e.isCase then place :: others else others

/-- The strings of a translation: the characters that are replaced, and what both consist of. -/
structure Strings where
  first : List Element
  second : List Element
  isComplement : Bool

namespace Strings

/-- The characters that are replaced. -/
def source (x : Strings) : List Char :=
  let members := charsOf 0 x.first
  if x.isComplement then allChars.filter fun c => !members.contains c else members

/-- How many characters the second string lacks. -/
def missing (x : Strings) : Nat := x.source.length - (charsOf 0 x.second).length

/-- The characters that take the place of others. -/
def target (x : Strings) : List Char := charsOf x.missing x.second

/-- What is wrong with the strings of a translation. -/
def fault? (x : Strings) (truncates : Bool) : Option String :=
  let isShort := x.target.length < x.source.length && !truncates
  let last := x.target.getLast?.getD ' '
  let isUniform := x.target.all (· == last) && (isShort || x.target.length == x.source.length)
  if x.second.any Element.isEquivalent then
    some "[=c=] expressions may not appear in string2 when translating"
  else if x.second.any fun e => e.isClass && !e.isCase then
    some ("when translating, the only character classes that may appear in\n" ++
      "string2 are 'upper' and 'lower'")
  else if !x.isComplement && (casePlaces x.missing 0 x.second).any
      fun place => !(casePlaces 0 0 x.first).contains place then
    some "misaligned [:upper:] and/or [:lower:] construct"
  else if isShort && x.target = [] then
    some "when not truncating set1, string2 must be non-empty"
  else if isShort && x.second.getLast?.any Element.isClass then
    some ("when translating with string1 longer than string2,\n" ++
      "the latter string must not end with a character class")
  else if x.isComplement && x.first.any Element.isClass && !isUniform then
    some ("when translating with complemented character classes,\n" ++
      "string2 must map all characters in the domain to one")
  else none

/-- The pairs of characters that a translation puts in place of each other; the last pair of a character
counts. -/
def table (x : Strings) (truncates : Bool) : List (Char × Char) :=
  let target := if truncates then x.target
    else x.target.rightpad x.source.length (x.target.getLast?.getD ' ')
  (x.source.zip target).reverse

end Strings

/-- What is done with the characters of a text. -/
structure Style where
  replaces : List (Char × Char)
  deletes : List Char
  squeezes : List Char

/-- Treats a piece of a text behind the given character. -/
def Style.piece (s : Style) (last : Option Char) (cs : List Char) : List Char × Option Char :=
  let replacement := Array.ofFn fun i : Fin 256 =>
    (s.replaces.lookup (Char.ofNat i)).getD (Char.ofNat i)
  let deleted := Array.ofFn fun i : Fin 256 => s.deletes.contains (Char.ofNat i)
  let squeezed := Array.ofFn fun i : Fin 256 => s.squeezes.contains (Char.ofNat i)
  let (kept, last) := cs.foldl (fun (kept, last) c =>
    if deleted.getD c.toNat false then (kept, last)
    else
      let c := replacement.getD c.toNat c
      if squeezed.getD c.toNat false && last == some c then (kept, last)
      else (c :: kept, some c)) (([] : List Char), last)
  (kept.reverse, last)

/-- Treats the standard input piece by piece. -/
def Style.loop (s : Style) (command : String) : Nat → Option Char → Proc Nat
  | 0, _ => return 0
  | fuel + 1, last => do
    let got : Except IoError Bytes ← Proc.request (.read Proc.standardInput Proc.blockSize)
    match got with
    | .error e => failWith command s!"read error: {e.reason}" 1
    | .ok [] => return 0
    | .ok bytes =>
      let (cs, last) := s.piece last (bytes.map ByteText.ofByte)
      match ← emit command (String.ofList cs) 0 with
      | 0 => s.loop command fuel last
      | failure => return failure

/-- What options and strings ask for. -/
def style (given : Given) (a : List Element) (b : Option (List Element)) : Except String Style := do
  let x : Strings := ⟨a, b.getD [], given.has "c"⟩
  let translates := b.isSome && !given.has "d"
  if a.any Element.isEndless then
    throw "the [c*] repeat construct may not appear in string1"
  if 1 < (x.second.filter Element.isEndless).length then
    throw "only one [c*] repeat construct may appear in string2"
  if !translates && x.second.any Element.isEndless then
    throw "the [c*] construct may appear in string2 only when translating"
  if given.has "d" then
    return ⟨[], x.source, if given.has "s" then charsOf 0 x.second else []⟩
  else if !translates then
    return ⟨[], [], x.source⟩
  else
    if let some fault := x.fault? (given.has "t") then
      throw fault
    return ⟨x.table (given.has "t"), [], if given.has "s" then x.target else []⟩

/-- Reads the strings, one after the other, and says what is to be said about them. -/
def readStrings (command : String) : List String → Proc (Except String (List (List Element)))
  | [] => return .ok []
  | text :: rest => do
    let (warnings, result) := read text
    for warning in warnings do
      complain command warning
    match result with
    | .error fault => return .error fault
    | .ok es => return (← readStrings command rest).map (es :: ·)

def flags : List Flag :=
  [Options.flag "c" "", Options.flag "C" "", Options.flag "c" "complement",
    Options.flag "d" "delete", Options.flag "s" "squeeze-repeats",
    Options.flag "t" "truncate-set1"]

end Translate

def tr : List String → Proc Nat := fun arguments =>
  withOptions Translate.flags false 1 arguments fun command given operands => do
    let given : Given := given.map fun (key, value) => (if key = "C" then "c" else key, value)
    let deletes := given.has "d"
    let squeezes := given.has "s"
    let least := if deletes = squeezes then 2 else 1
    let most := if deletes && !squeezes then 1 else 2
    match operands with
    | [] => missingOperand command
    | first :: _ =>
      if operands.length < least then
        complain command s!"missing operand after {Quoting.quoted first}"
        Proc.printError (if squeezes then
            "Two strings must be given when both deleting and squeezing repeats.\n"
          else "Two strings must be given when translating.\n")
        suggestHelp command
        return 1
      else if most < operands.length then
        complain command ("extra operand " ++ Quoting.quoted (operands.getD most ""))
        if operands.length = 2 then
          Proc.printError
            "Only one string may be given when deleting without squeezing repeats.\n"
        suggestHelp command
        return 1
      else
        match ← Translate.readStrings command operands with
        | .error text => failWith command text 1
        | .ok strings =>
          match Translate.style given (strings.headD []) strings[1]? with
          | .error text => failWith command text 1
          | .ok style => style.loop command passLimit none

end LinkBench.Host.Utility
