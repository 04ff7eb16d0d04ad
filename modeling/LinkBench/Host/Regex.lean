import LinkBench.Host.CharSet
/-!
Regular expressions and where they match. A match begins as far to the left as possible and is then as
long as possible. All ends of matches from one place are found at once, part by part; what the groups
hold is found for the longest one by trying the ways to it in order. Texts have one character for each
byte.
-/

namespace LinkBench.Host

inductive Regex
  | empty
  | char (c : Char)
  | any
  | set (negated : Bool) (members : List SetMember)
  | textStart
  | textEnd
  /-- The border of a word: its beginning, its end, either, or neither. -/
  | wordStart
  | wordEnd
  | wordEdge
  | notWordEdge
  | group (number : Nat) (r : Regex)
  | sequence (a b : Regex)
  | either (a b : Regex)
  | repeated (least : Nat) (most : Option Nat) (r : Regex)
  /-- What a group has matched before. -/
  | reference (number : Nat)
  deriving Repr

namespace Regex

/-- What a match is sought in. -/
structure Subject where
  text : Array Char
  ignoresCase : Bool
  /-- Whether the beginning and the end of each line count as those of the text. -/
  hasLines : Bool

namespace Subject

def isWordChar (c : Char) : Bool := c.isAlphanum || c == '_'

def charAt? (s : Subject) (i : Nat) : Option Char := s.text[i]?

def isStart (s : Subject) (i : Nat) : Bool :=
  i == 0 || (s.hasLines && s.charAt? (i - 1) == some '\n')

def isEnd (s : Subject) (i : Nat) : Bool :=
  i == s.text.size || (s.hasLines && s.charAt? i == some '\n')

def isWordAt (s : Subject) (i : Nat) : Bool := (s.charAt? i).any isWordChar

def isWordBefore (s : Subject) (i : Nat) : Bool := 0 < i && s.isWordAt (i - 1)

def startsWord (s : Subject) (i : Nat) : Bool := !s.isWordBefore i && s.isWordAt i

def endsWord (s : Subject) (i : Nat) : Bool := s.isWordBefore i && !s.isWordAt i

def agree (s : Subject) (a b : Char) : Bool :=
  a == b || (s.ignoresCase && a.toLower == b.toLower)

def holds (s : Subject) (negated : Bool) (members : List SetMember) (c : Char) : Bool :=
  let isIn := members.any (·.holds c) ||
    (s.ignoresCase && (members.any (·.holds c.toLower) || members.any (·.holds c.toUpper)))
  isIn != negated

end Subject

/-- What groups have matched: number, beginning and end. -/
abbrev Captures := List (Nat × Nat × Nat)

/-- Whether the expression refers to its own groups. -/
def hasReference : Regex → Bool
  | reference _ => true
  | group _ r | repeated _ _ r => r.hasReference
  | sequence a b | either a b => a.hasReference || b.hasReference
  | _ => false

/-- Whether the expression is met at a place without taking a character; nothing if it is none of
those. -/
def condition? (s : Subject) (i : Nat) : Regex → Option Bool
  | empty => some true
  | textStart => some (s.isStart i)
  | textEnd => some (s.isEnd i)
  | wordStart => some (s.startsWord i)
  | wordEnd => some (s.endsWord i)
  | wordEdge => some (s.startsWord i || s.endsWord i)
  | notWordEdge => some !(s.startsWord i || s.endsWord i)
  | _ => none

/-- Whether the expression takes one character at a place; nothing if it is none of those. -/
def single? (s : Subject) (i : Nat) : Regex → Option Bool
  | char c => some ((s.charAt? i).any (s.agree c))
  | any => some (s.charAt? i).isSome
  | set negated members => some ((s.charAt? i).any (s.holds negated members))
  | _ => none

/-! ### Ends -/

/-- Adds numbers to a list that is in order and holds none twice. -/
def merge : Nat → List Nat → List Nat → List Nat
  | 0, a, _ => a
  | _, [], b => b
  | _, a, [] => a
  | fuel + 1, x :: a, y :: b =>
    if x < y then x :: merge fuel a (y :: b)
    else if y < x then y :: merge fuel (x :: a) b
    else x :: merge fuel a b

def union (a b : List Nat) : List Nat := merge (a.length + b.length) a b

/-- All places that a step leads to from some places. -/
def reach (step : Nat → List Nat) (places : List Nat) : List Nat :=
  places.foldl (fun found i => union found (step i)) []

/-- The places that at most so many steps lead to. -/
def closure (step : Nat → List Nat) : Nat → List Nat → List Nat → List Nat
  | 0, _, found => found
  | _, [], found => found
  | fuel + 1, places, found =>
    let next := (reach step places).filter fun i => !found.contains i
    closure step fuel next (union found next)

/-- The places that exactly so many steps lead to. -/
def iterate (step : Nat → List Nat) : Nat → List Nat → List Nat
  | 0, places => places
  | n + 1, places => iterate step n (reach step places)

/-- The ends of the matches that begin at a place, in order. -/
def ends (s : Subject) : Regex → Nat → List Nat
  | group _ r, i => r.ends s i
  | sequence a b, i => reach (b.ends s) (a.ends s i)
  | either a b, i => union (a.ends s i) (b.ends s i)
  | repeated least most r, i =>
    let places := iterate (r.ends s) least [i]
    let further := match most with
      | some most => most - least
      | none => s.text.size + 1
    closure (r.ends s) further places places
  | r, i =>
    match r.condition? s i, r.single? s i with
    | some true, _ => [i]
    | _, some true => [i + 1]
    | _, _ => []

/-! ### Groups -/

/-- Repeats a step, as often as possible first. The count is of the repetitions so far; a repetition
that takes nothing is not repeated. -/
def greedy (step : Nat → Captures → (Nat → Captures → Option Captures) → Option Captures)
    (least : Nat) (most : Option Nat) (next : Nat → Captures → Option Captures) :
    Nat → Nat → Nat → Captures → Option Captures
  | 0, _, i, captures => next i captures
  | fuel + 1, count, i, captures =>
    let mayGoOn : Bool := match most with
      | some most => decide (count < most)
      | none => true
    let further := if mayGoOn then
        step i captures fun j captures =>
          if j = i ∧ least ≤ count then none
          else greedy step least most next fuel (count + 1) j captures
      else none
    match further with
    | some result => some result
    | none => if least ≤ count then next i captures else none

/-- Whether the same text stands at two places. -/
def repeats (s : Subject) (first i : Nat) : Nat → Bool
  | 0 => true
  | n + 1 =>
    (match s.charAt? (first + n), s.charAt? (i + n) with
      | some a, some b => s.agree a b
      | _, _ => false) && repeats s first i n

/-- Tries the ways through the expression in order until what follows accepts one. -/
def attempt (s : Subject) : Regex → Nat → Captures → (Nat → Captures → Option Captures) →
    Option Captures
  | group n r, i, captures, next =>
    r.attempt s i captures fun j captures =>
      next j ((n, i, j) :: captures.filter (·.1 != n))
  | sequence a b, i, captures, next =>
    a.attempt s i captures fun j captures => b.attempt s j captures next
  | either a b, i, captures, next =>
    match a.attempt s i captures next with
    | some result => some result
    | none => b.attempt s i captures next
  | repeated least most r, i, captures, next =>
    greedy (r.attempt s) least most next (s.text.size + least + 2) 0 i captures
  | reference n, i, captures, next =>
    match captures.lookup n with
    | some (first, last) =>
      if repeats s first i (last - first) then next (i + (last - first)) captures else none
    | none => none
  | r, i, captures, next =>
    match r.condition? s i, r.single? s i with
    | some true, _ => next i captures
    | _, some true => next (i + 1) captures
    | _, _ => none

/-- The part of a text that an expression has matched, and the parts of its groups. -/
structure Match where
  start : Nat
  stop : Nat
  captures : Captures

/-- The longest match that begins at a place. -/
def matchAt? (r : Regex) (s : Subject) (i : Nat) : Option Match :=
  if r.hasReference then
    (r.attempt s i [] fun j captures => some ((0, i, j) :: captures)).map fun captures =>
      match captures with
      | (_, start, stop) :: captures => ⟨start, stop, captures⟩
      | [] => ⟨i, i, []⟩
  else
    (r.ends s i).getLast?.map fun stop =>
      let captures := r.attempt s i [] fun j captures => if j = stop then some captures else none
      ⟨i, stop, captures.getD []⟩

/-- The first match that begins at one of so many places. -/
def searchFrom? (r : Regex) (s : Subject) : Nat → Nat → Option Match
  | 0, _ => none
  | count + 1, i =>
    match r.matchAt? s i with
    | some found => some found
    | none => r.searchFrom? s count (i + 1)

/-- The first match that does not begin before a place. -/
def search? (r : Regex) (s : Subject) (start : Nat) : Option Match :=
  r.searchFrom? s (s.text.size + 1 - start) start

def occursIn (r : Regex) (s : Subject) : Bool :=
  (List.range (s.text.size + 1)).any fun i =>
    if r.hasReference then (r.matchAt? s i).isSome else !(r.ends s i).isEmpty

/-- The text of a group in a match; the whole match has number zero. -/
def Match.text (m : Match) (s : Subject) (number : Nat) : String :=
  let cut (start stop : Nat) : String := String.ofList ((s.text.toList.take stop).drop start)
  if number = 0 then cut m.start m.stop
  else
    match m.captures.lookup number with
    | some (start, stop) => cut start stop
    | none => ""

end Regex

end LinkBench.Host
