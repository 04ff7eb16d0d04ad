import LinkBench.ByteText
import LinkBench.Host.CharSet
/-!
Patterns of the shell language: text with `*` for any characters, `?` for one character and sets of
characters in brackets; some readers also know groups of alternatives. Quoted characters stand for
themselves. What a pattern does to a text is told by the remainders that it can leave of the text.
-/

namespace LinkBench.Host.Shell

/-- How often one of the alternatives of a group has to fit. -/
inductive GroupKind
  | once
  | optional
  | repeated
  | atLeastOnce
  /-- Anything fits that no alternative does. -/
  | excluded
  deriving DecidableEq, Repr

inductive PatternItem
  | any
  | one
  | char (c : Char)
  | set (negated : Bool) (members : List SetMember)
  | group (kind : GroupKind) (alternatives : List (List PatternItem))

abbrev Pattern := List PatternItem

/-- What a reader of patterns knows. -/
structure PatternRules where
  /-- Whether a caret excludes the members of a set, like an exclamation mark. -/
  carets : Bool
  groups : Bool
  /-- Whether characters may have several bytes. -/
  isWide : Bool

namespace PatternRules

/-- Patterns of bytes without groups. -/
def plain : PatternRules := ⟨false, false, false⟩

end PatternRules

namespace Pattern

/-- A character and whether it is quoted. -/
abbrev QuotedChar := Char × Bool

/-- Reads the name of a class behind `[:`, up to and including `:]`. -/
def readClass (cs : List QuotedChar) : Option (CharClass × List QuotedChar) := do
  let name := cs.takeWhile fun x => x.1.isLower
  match cs.drop name.length with
  | (':', _) :: (']', _) :: rest =>
    return (← CharClass.names.lookup (String.ofList (name.map (·.1))), rest)
  | _ => failure

/-- The members of a set, up to its closing bracket, which may also be its first member. The fuel
bounds their number. -/
def readMembers : Nat → Bool → List QuotedChar → Option (List SetMember × List QuotedChar)
  | 0, _, _ | _, _, [] => none
  | fuel + 1, first, (c, quoted) :: rest =>
    let keep (m : SetMember) (rest : List QuotedChar) :=
      (readMembers fuel false rest).map fun (members, rest) => (m :: members, rest)
    if c = ']' ∧ !quoted ∧ !first then
      some ([], rest)
    else
      let named := match rest with
        | (':', false) :: inner => if c = '[' ∧ !quoted then readClass inner else none
        | _ => none
      match named, rest with
      | some (k, rest), _ => keep (.ofClass k) rest
      | none, ('-', false) :: (b, q) :: after =>
        if b = ']' ∧ !q then keep (.range c c) rest else keep (.range c b) after
      | none, _ => keep (.range c c) rest

/-- Reads a set behind its opening bracket. -/
def readSet (carets : Bool) (cs : List QuotedChar) : Option (PatternItem × List QuotedChar) :=
  let negated := match cs with
    | ('!', false) :: _ => true
    | ('^', false) :: _ => carets
    | _ => false
  (readMembers (cs.length + 1) true (if negated then cs.tail else cs)).map fun (members, rest) =>
    (.set negated members, rest)

/-- The kind of a group by the character in front of its parenthesis. -/
def groupKind? : Char → Option GroupKind
  | '@' => some .once
  | '?' => some .optional
  | '*' => some .repeated
  | '+' => some .atLeastOnce
  | '!' => some .excluded
  | _ => none

/-- Splits the alternatives of a group off, up to its closing parenthesis, and yields what follows. The
current alternative is in backward order. -/
def splitGroup : Nat → List QuotedChar → List QuotedChar →
    Option (List (List QuotedChar) × List QuotedChar)
  | _, _, [] => none
  | depth, current, (c, quoted) :: rest =>
    let keep (depth : Nat) := splitGroup depth ((c, quoted) :: current) rest
    if quoted then keep depth
    else if c = '(' then keep (depth + 1)
    else if c = ')' then
      if depth = 0 then some ([current.reverse], rest) else keep (depth - 1)
    else if c = '|' ∧ depth = 0 then
      (splitGroup 0 [] rest).map fun (others, rest) => (current.reverse :: others, rest)
    else keep depth

/-- The group that begins a text, as its kind, its alternatives and what follows. -/
def group? (rules : PatternRules) : List QuotedChar →
    Option (GroupKind × List (List QuotedChar) × List QuotedChar)
  | (c, false) :: ('(', false) :: rest =>
    if rules.groups then do
      let kind ← groupKind? c
      let (alternatives, rest) ← splitGroup 0 [] rest
      return (kind, alternatives, rest)
    else none
  | _ => none

/-- Reads a pattern; the fuel bounds its length. A bracket that is not closed stands for itself, and a
backslash that has come out of a parameter quotes the next character. -/
def readItems (rules : PatternRules) : Nat → List QuotedChar → Pattern
  | 0, _ | _, [] => []
  | fuel + 1, (c, quoted) :: rest =>
    match group? rules ((c, quoted) :: rest) with
    | some (kind, alternatives, rest) =>
      .group kind (alternatives.map (readItems rules fuel)) :: readItems rules fuel rest
    | none =>
      match (c, quoted), rest with
      | ('*', false), rest => .any :: readItems rules fuel rest
      | ('?', false), rest => .one :: readItems rules fuel rest
      | ('\\', false), (c, _) :: rest => .char c :: readItems rules fuel rest
      | ('[', false), rest =>
        match readSet rules.carets rest with
        | some (item, rest) => item :: readItems rules fuel rest
        | none => .char '[' :: readItems rules fuel rest
      | (c, _), rest => .char c :: readItems rules fuel rest

/-- Makes one character of the bytes of each character. Bytes of one character are quoted alike. -/
def widened (cs : List QuotedChar) : List QuotedChar :=
  ByteText.widenFrom (·.1) (fun c x => (c, x.2)) cs.length cs

def read (rules : PatternRules) (cs : List QuotedChar) : Pattern :=
  let cs := if rules.isWide then widened cs else cs
  readItems rules cs.length cs

/-- The pattern of a text in which nothing is quoted but by backslashes. -/
def ofText (text : String) : Pattern :=
  read ⟨true, false, true⟩ (text.toList.map fun c => (c, false))

/-- Whether an item is more than text. -/
def isActiveItem : PatternItem → Bool
  | .char _ => false
  | _ => true

/-- Whether the pattern is more than text. -/
def isActive (p : Pattern) : Bool := p.any isActiveItem

/-- Whether the pattern begins with a dot. -/
def startsWithDot : Pattern → Bool
  | .char c :: _ => c == '.'
  | _ => false

/-! ### Remainders -/

/-- Ends of one text, longer ones first. -/
abbrev Remainders := List (List Char)

/-- Puts remainders of one text together. -/
def union (a b : Remainders) : Remainders :=
  ((a ++ b).mergeSort fun x y => decide (y.length ≤ x.length)).splitBy
    (fun x y => x.length == y.length) |>.filterMap List.head?

/-- Adds what `step` leaves of the remainders, again and again. The fuel bounds how often. -/
def closure (step : Remainders → Remainders) : Nat → Remainders → Remainders → Remainders
  | 0, reached, _ => reached
  | fuel + 1, reached, latest =>
    let fresh := (step latest).filter fun x => !reached.any (·.length == x.length)
    if fresh = [] then reached else closure step fuel (union reached fresh) fresh

/-- All ends of a text, longest first. -/
def suffixes : List Char → Remainders
  | [] => [[]]
  | c :: cs => (c :: cs) :: suffixes cs

mutual

/-- What a pattern can leave of texts when it is taken off their starts. -/
def leaves : List PatternItem → Remainders → Remainders
  | [], reached => reached
  | item :: rest, reached => leaves rest (leavesOfItem item reached)

def leavesOfItem : PatternItem → Remainders → Remainders
  | .any, reached => (reached.head?.map suffixes).getD []
  | .one, reached => reached.filterMap List.tail?
  | .char a, reached => reached.filterMap fun cs =>
    match cs with
    | c :: rest => if a == c then some rest else none
    | [] => none
  | .set negated members, reached => reached.filterMap fun cs =>
    match cs with
    | c :: rest => if members.any (·.holds c) != negated then some rest else none
    | [] => none
  | .group kind alternatives, reached =>
    let step := leavesOfAny alternatives
    let bound := (reached.head?.getD []).length + 1
    match kind with
    | .once => step reached
    | .optional => union reached (step reached)
    | .repeated => closure step bound reached reached
    | .atLeastOnce => let first := step reached; closure step bound first first
    | .excluded => reached.foldl (fun all cs =>
        let fitting := step [cs]
        union all ((suffixes cs).filter fun x => !fitting.any (·.length == x.length))) []

def leavesOfAny : List (List PatternItem) → Remainders → Remainders
  | [], _ => []
  | p :: others, reached => union (leaves p reached) (leavesOfAny others reached)

end

/-- Whether the whole text has the form of the pattern. -/
def matchesAll (p : Pattern) (cs : List Char) : Bool :=
  (leaves p [cs]).any List.isEmpty

/-- What stands between the texts of a row that is treated as one text. Nothing behind it is seen by
a pattern. -/
def rowMark : Char := '\x00'

/-- Whether a text has the form of the pattern, up to the end of its first part if it is a row. -/
def matchesFirst (p : Pattern) (cs : List Char) : Bool :=
  matchesAll p (cs.takeWhile (· != rowMark))

/-- The lengths of the beginnings of a text that have the form of the pattern, shortest first. -/
def matchingLengths (p : Pattern) (cs : List Char) : List Nat :=
  if cs.contains rowMark then
    (List.range (cs.length + 1)).filter fun n => matchesFirst p (cs.take n)
  else
    (leaves p [cs]).map fun rest => cs.length - rest.length

/-- The text without its shortest or longest beginning of the form of the pattern. -/
def dropStart (p : Pattern) (longest : Bool) (cs : List Char) : List Char :=
  let lengths := matchingLengths p cs
  cs.drop ((if longest then lengths.getLast? else lengths.head?).getD 0)

/-- The text without its shortest or longest end of the form of the pattern. -/
def dropEnd (p : Pattern) (longest : Bool) (cs : List Char) : List Char :=
  let lengths := (List.range (cs.length + 1)).filter fun n => matchesFirst p (cs.drop n)
  match if longest then lengths.head? else lengths.getLast? with
  | some n => cs.take n
  | none => cs

/-- Puts a text in the place of the longest match at each place, or only at the first. -/
def replaceIn (p : Pattern) (replacement : List Char → List Char) (everywhere : Bool) :
    Nat → List Char → List Char
  | 0, cs => cs
  | _, [] => []
  | fuel + 1, c :: cs =>
    match ((matchingLengths p (c :: cs)).filter (0 < ·)).getLast? with
    | some n =>
      let rest := (c :: cs).drop n
      replacement ((c :: cs).take n) ++
        (if everywhere then replaceIn p replacement everywhere fuel rest else rest)
    | none => c :: replaceIn p replacement everywhere fuel cs

end Pattern

end LinkBench.Host.Shell
