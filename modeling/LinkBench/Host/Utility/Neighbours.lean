import LinkBench.Host.Utility.Amount
import LinkBench.Host.Utility.Options
import LinkBench.Host.Utility.Show
/-!
Programs for lines in order: one that treats neighbours that are equal, and one that tells which lines
two texts share.
-/

namespace LinkBench.Host.Utility

/-! ### Equal neighbours -/

/-- Where empty lines stand around groups of lines. -/
inductive Margin
  | none
  | before
  | after
  | between
  | both
  deriving DecidableEq

/-- Which lines of a group are shown. -/
structure UniqStyle where
  counts : Bool
  /-- Lines without an equal neighbour. -/
  showsSingle : Bool
  /-- One line of those that are equal. -/
  showsFirst : Bool
  /-- The other lines of those that are equal, with empty lines around them. -/
  showsOthers : Option Margin
  /-- All lines, with empty lines around groups. -/
  groups : Option Margin
  ignoresCase : Bool
  skippedFields : Nat
  skippedChars : Nat
  comparedChars : Option Nat

namespace UniqStyle

def start : UniqStyle where
  counts := false
  showsSingle := true
  showsFirst := true
  showsOthers := none
  groups := none
  ignoresCase := false
  skippedFields := 0
  skippedChars := 0
  comparedChars := none

def isBlank (c : Char) : Bool := c == ' ' || c == '\t' || c == '\n'

def withoutFields : Nat → List Char → List Char
  | 0, cs => cs
  | n + 1, cs => withoutFields n ((cs.dropWhile isBlank).dropWhile fun c => !isBlank c)

/-- What of a line is compared. -/
def key (s : UniqStyle) (line : String) : List Char :=
  let rest := (withoutFields s.skippedFields line.toList).drop s.skippedChars
  let rest := match s.comparedChars with
    | some n => rest.take n
    | none => rest
  if s.ignoresCase then rest.map (·.toLower) else rest

/-- Neighbours that are equal. -/
def grouped (s : UniqStyle) (lines : List String) : List (List String) :=
  lines.splitBy fun a b => s.key a == s.key b

/-- The lines of a group that are shown, other than in whole groups. -/
def chosen (s : UniqStyle) (group : List String) : List String :=
  let first := group.headD ""
  let label := if s.counts then rightAligned 7 (toString group.length) ++ " " else ""
  if group.length ≤ 1 then (if s.showsSingle then [label ++ first] else [])
  else if s.showsOthers.isSome then (if s.showsFirst then group else group.dropLast)
  else if s.showsFirst then [label ++ first]
  else []

/-- Groups with empty lines around them. -/
def spaced (margin : Margin) (groups : List (List String)) : List String :=
  let inner := match margin with
    | .none => groups.flatten
    | .before => groups.flatMap ("" :: ·)
    | .after => groups.flatMap (· ++ [""])
    | .between | .both => [""].intercalate groups
  if margin = .both ∧ groups ≠ [] then "" :: inner ++ [""] else inner

/-- The lines that are shown. -/
def shown (s : UniqStyle) (lines : List String) : List String :=
  let groups := s.grouped lines
  match s.groups, s.showsOthers with
  | some margin, _ => spaced margin groups
  | none, some margin => spaced margin ((groups.map s.chosen).filter (· ≠ []))
  | none, none => groups.flatMap s.chosen

def repeatedMargins : Choices Margin := [("none", .none), ("prepend", .before), ("separate", .between)]

def groupMargins : Choices Margin :=
  [("prepend", .before), ("append", .after), ("separate", .between), ("both", .both)]

inductive Fault
  | plain (text : String)
  | usage (text : String)

/-- A number that may be too large to matter. -/
def number (noun text : String) : Except Fault Nat :=
  match Amount.read "" text with
  | .ok n => .ok n
  | .error .tooLarge => .ok Amount.tooMany
  | .error _ => .error (.plain s!"{text}: invalid number of {noun}")

/-- The style with one more option. -/
def adding (s : UniqStyle) (option : String × String) : Except Fault UniqStyle := do
  let (key, value) := option
  let word (choices : Choices Margin) (name : String) (usual : Margin) : Except Fault Margin :=
    if value = "" then .ok usual
    else
      match choices.find value with
      | .ok margin => .ok margin
      | .error f => .error (.usage (choices.complaint name value f))
  match key with
  | "c" => return { s with counts := true }
  | "d" => return { s with showsSingle := false }
  | "D" =>
    let margin ← word repeatedMargins "--all-repeated" .none
    return { s with showsSingle := false, showsOthers := some margin }
  | "group" => return { s with groups := some (← word groupMargins "--group" .between) }
  | "u" => return { s with showsFirst := false }
  | "i" => return { s with ignoresCase := true }
  | "f" => return { s with skippedFields := ← number "fields to skip" value }
  | "s" => return { s with skippedChars := ← number "bytes to skip" value }
  | "w" => return { s with comparedChars := some (← number "bytes to compare" value) }
  | _ => return s

/-- The style that options ask for. -/
def ofGiven (given : Given) : Except Fault UniqStyle := do
  let s ← given.foldlM UniqStyle.adding start
  if s.groups.isSome ∧ (s.counts ∨ !s.showsSingle ∨ !s.showsFirst) then
    throw (.usage "--group is mutually exclusive with -c/-d/-D/-u")
  if s.showsOthers.isSome ∧ s.counts then
    throw (.usage "printing all duplicated lines and repeat counts is meaningless")
  return s

end UniqStyle

def uniqFlags : List Flag :=
  [Options.flag "c" "count", Options.flag "d" "repeated", Options.flag "D" "",
    Options.optional "D" "all-repeated", Options.optional "group" "group",
    Options.flag "i" "ignore-case", Options.flag "u" "unique", Options.valued "f" "skip-fields",
    Options.valued "s" "skip-chars", Options.valued "w" "check-chars",
    Options.flag "z" "zero-terminated"]

def uniq : List String → Proc Nat := fun arguments =>
  withOptions uniqFlags true 1 arguments fun command given operands => do
    match UniqStyle.ofGiven given, operands with
    | _, _ :: _ :: extra :: _ => extraOperand command extra
    | .error (.plain text), _ => failWith command text 1
    | .error (.usage text), _ => refuseUse command text 1
    | .ok style, operands =>
      let name := operands.headD "-"
      match ← textOf name with
      | .error (.opening e) => failWith command s!"{Quoting.named name}: {e.reason}" 1
      | .error (.reading e) => failWith command s!"error reading {Quoting.always name}: {e.reason}" 1
      | .ok text =>
        let ending := given.recordEnd
        let shown := Records.joined ending (style.shown (Records.split ending text).1)
        match operands[1]? with
        | none | some "-" => emit command shown 0
        | some target =>
          let opened : Except IoError Unit ←
            Proc.request (.openAt Proc.standardOutput (Proc.pathOf target) .write)
          match opened with
          | .ok () => emit command shown 0
          | .error e => failWith command s!"{Quoting.named target}: {e.reason}" 1

/-! ### Lines of two texts -/

/-- Which of two texts a line is in. -/
inductive Side
  | left
  | right
  | both
  deriving DecidableEq

namespace Side

def column : Side → Nat
  | .left => 0
  | .right => 1
  | .both => 2

end Side

/-- When the order of lines is looked at: always, as soon as a line stands in one text only, or never. -/
inductive OrderCheck
  | always
  | whenUnpaired
  | never
  deriving DecidableEq

/-- A comparison under way: the last two lines that were read of each text, whether a line without a
partner was seen, and which texts are known to be out of order. -/
structure Comparison where
  left : List String
  right : List String
  hasUnpaired : Bool
  leftIsBad : Bool
  rightIsBad : Bool

namespace Comparison

def start : Comparison := ⟨[], [], false, false, false⟩

/-- Whether the last of two lines comes before the one in front of it. -/
def isBroken : List String → Bool
  | last :: before :: _ => decide (last < before)
  | _ => false

/-- Takes note of the line that follows in the first text; at its end the lines in front of it are looked
at once more. -/
def readLeft (check : OrderCheck) (c : Comparison) (next : Option String) : Comparison :=
  let lines := match next with
    | some line => line :: c.left
    | none => c.left
  let looks := check = .always || (check = .whenUnpaired && c.hasUnpaired)
  { c with
    left := lines.take 2
    leftIsBad := c.leftIsBad || (looks && isBroken lines) }

def readRight (check : OrderCheck) (c : Comparison) (next : Option String) : Comparison :=
  let lines := match next with
    | some line => line :: c.right
    | none => c.right
  let looks := check = .always || (check = .whenUnpaired && c.hasUnpaired)
  { c with
    right := lines.take 2
    rightIsBad := c.rightIsBad || (looks && isBroken lines) }

/-- Whether the comparison ends here. -/
def stops (check : OrderCheck) (c : Comparison) : Bool :=
  check = .always && (c.leftIsBad || c.rightIsBad)

/-- Tells of each line which texts it is in. The fuel bounds the number of lines. -/
def run (check : OrderCheck) :
    Nat → Comparison → List String → List String → List (Side × String) × Comparison
  | 0, c, _, _ | _, c, [], [] => ([], c)
  | fuel + 1, c, as, bs =>
    let isLeft (a b : String) : Bool := decide (a < b)
    let (side, line) := match as, bs with
      | a :: _, [] => (Side.left, a)
      | [], b :: _ => (.right, b)
      | a :: _, b :: _ => if a = b then (.both, a) else if isLeft a b then (.left, a) else (.right, b)
      | [], [] => (.both, "")
    let c := if side = .both then c else { c with hasUnpaired := true }
    let as := if side = .right then as else as.tail
    let bs := if side = .left then bs else bs.tail
    let c := if side = .right then c else c.readLeft check as.head?
    let c := if side = .left ∨ c.stops check then c else c.readRight check bs.head?
    if c.stops check then ([(side, line)], c)
    else
      let (others, c) := run check fuel c as bs
      ((side, line) :: others, c)

/-- The comparison of two texts. -/
def ofTexts (check : OrderCheck) (as bs : List String) : List (Side × String) × Comparison :=
  run check (as.length + bs.length + 1) { start with left := as.take 1, right := bs.take 1 } as bs

end Comparison

def commFlags : List Flag :=
  [Options.flag "1" "", Options.flag "2" "", Options.flag "3" "",
    Options.flag "check-order" "check-order", Options.flag "nocheck-order" "nocheck-order",
    Options.valued "output-delimiter" "output-delimiter", Options.flag "total" "total",
    Options.flag "z" "zero-terminated"]

/-- Shows the lines of two texts in columns. -/
def commTexts (command : String) (given : Given) (a b : String) : Proc Nat := do
  let ending := given.recordEnd
  let check : OrderCheck := match given.lastOf? ["check-order", "nocheck-order"] with
    | some "check-order" => .always
    | some _ => .never
    | none => .whenUnpaired
  let separator := match given.last? "output-delimiter" with
    | some "" => "\x00"
    | some text => text
    | none => "\t"
  let isHidden (column : Nat) : Bool := given.has (toString (column + 1))
  let margin (column : Nat) : String :=
    String.join (((List.range column).filter fun k => !isHidden k).map fun _ => separator)
  let (merged, c) := Comparison.ofTexts check (Records.split ending a).1 (Records.split ending b).1
  let shown := merged.filterMap fun (side, line) =>
    if isHidden side.column then none else some (margin side.column ++ line)
  Proc.print (Records.joined ending shown)
  if c.leftIsBad then complain command "file 1 is not in sorted order"
  if c.rightIsBad then complain command "file 2 is not in sorted order"
  if c.stops check then
    return 1
  if given.has "total" then
    let count (side : Side) : String := toString (merged.filter (·.1 = side)).length
    let fields := [count .left, count .right, count .both, "total"]
    Proc.print (Records.joined ending [String.intercalate separator fields])
  if c.leftIsBad ∨ c.rightIsBad then failWith command "input is not in sorted order" 1
  else return 0

def comm : List String → Proc Nat := fun arguments =>
  withOptions commFlags true 1 arguments fun command given operands => do
    let separators := given.all "output-delimiter"
    if separators.any fun text => some text ≠ separators.head? then
      return ← failWith command "multiple output delimiters specified" 1
    match operands with
    | [] => missingOperand command
    | [one] => missingAfter command one
    | _ :: _ :: extra :: _ => extraOperand command extra
    | [left, right] =>
      match ← textOf left with
      | .error r => failWith command s!"{Quoting.named left}: {r.reason}" 1
      | .ok a =>
        match ← textOf right with
        | .error r => failWith command s!"{Quoting.named right}: {r.reason}" 1
        | .ok b => commTexts command given a b

end LinkBench.Host.Utility
