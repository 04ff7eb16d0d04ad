import LinkBench.Host.Regex
import LinkBench.Host.Utility.Edits
import LinkBench.Host.Utility.Listing
import LinkBench.Host.Utility.Records
/-!
Differences of two texts by lines, and the forms in which they are written: for readers, with or without
the lines around them or side by side, and as commands that make the second text of the first one.
-/

namespace LinkBench.Host.Utility

open LinkBench

/-! ### Lines -/

/-- A line without its end, and whether it has one. -/
structure DiffLine where
  text : String
  isEnded : Bool
  deriving DecidableEq

namespace DiffLine

/-- What of the blanks in a line is compared. -/
inductive Blanks
  | all
  /-- Tabs are the blanks up to the next stop. -/
  | expanded
  /-- Blanks at the end are not. -/
  | beforeEnd
  | expandedBeforeEnd
  /-- Only where there are some, and none at the end. -/
  | places
  | none
  deriving DecidableEq

def isBlank (c : Char) : Bool := c == ' ' || ('\t' ≤ c && c ≤ '\r')

/-- Runs of blanks as one, and none at the end. -/
def squeezed : List Char → List Char
  | [] => []
  | c :: rest =>
    if isBlank c then
      match squeezed rest with
      | [] => []
      | ' ' :: more => ' ' :: more
      | more => ' ' :: more
    else c :: squeezed rest

def withoutEnd (cs : List Char) : List Char := (cs.reverse.dropWhile isBlank).reverse

/-- A line with blanks for its tabs, from a column on. -/
def expandedFrom (tabSize : Nat) : Nat → List Char → List Char
  | _, [] => []
  | column, c :: rest =>
    if c = '\t' then
      let count := tabSize - column % tabSize
      List.replicate count ' ' ++ expandedFrom tabSize (column + count) rest
    else if c = '\x08' then c :: expandedFrom tabSize (column - 1) rest
    else if c = '\r' then c :: expandedFrom tabSize 0 rest
    else c :: expandedFrom tabSize (column + 1) rest

/-- How lines are compared. -/
structure Comparison where
  ignoresCase : Bool
  blanks : Blanks
  tabSize : Nat
  /-- Whether it matters that a text does not end in a line end. -/
  marksEnds : Bool

/-- What of a line is compared. -/
def key (c : Comparison) (l : DiffLine) : String :=
  let cs := if c.ignoresCase then l.text.toList.map (·.toLower) else l.text.toList
  let cs := match c.blanks with
    | .all => cs
    | .expanded => expandedFrom c.tabSize 0 cs
    | .beforeEnd => withoutEnd cs
    | .expandedBeforeEnd => expandedFrom c.tabSize 0 (withoutEnd cs)
    | .places => squeezed cs
    | .none => cs.filter fun x => !isBlank x
  let isMarked := c.marksEnds && !l.isEnded && (c.blanks = .all || c.blanks = .expanded)
  String.ofList (if isMarked then cs ++ ['\n'] else cs)

def ofText (text : String) : List DiffLine :=
  let (lines, isEnded) := splitLines text
  lines.dropLast.map (⟨·, true⟩) ++ (lines.getLast?.toList.map (⟨·, isEnded⟩))

end DiffLine

/-! ### Differences -/

/-- What the lines of two texts are, and how the first becomes the second. -/
structure Differences where
  left : Array DiffLine
  right : Array DiffLine
  replacements : List Edits.Replacement

namespace Differences

open Edits

/-- How many lines two texts begin with that are the same. -/
def commonStart : List DiffLine → List DiffLine → Nat
  | a :: as, b :: bs => if a = b then commonStart as bs + 1 else 0
  | _, _ => 0

/-- Compares two texts. Lines that are the same at both ends are left out of the search, but for so many
as are shown around differences; a minimal search leaves out nothing else. -/
def between (c : DiffLine.Comparison) (isMinimal : Bool) (horizon : Nat)
    (left right : List DiffLine) : Differences :=
  let unmarked (ls : List DiffLine) : List DiffLine :=
    if c.marksEnds then ls else ls.map fun l => { l with isEnded := true }
  let (as, bs) := (unmarked left, unmarked right)
  let before := commonStart as bs
  let after := commonStart (as.drop before).reverse (bs.drop before).reverse
  let (before, after) := (before - horizon, after - horizon)
  let keys (ls : List DiffLine) : List String :=
    ((ls.drop before).take (ls.length - before - after)).map (·.key c)
  ⟨left.toArray, right.toArray,
    (Edits.replacements isMinimal (keys as) (keys bs)).map (·.shifted before)⟩

/-- Lines from a place on. -/
def linesIn (lines : Array DiffLine) (start count : Nat) : List DiffLine :=
  (lines.extract start (start + count)).toList

def removed (d : Differences) (r : Replacement) : List DiffLine := linesIn d.left r.left r.removed

def added (d : Differences) (r : Replacement) : List DiffLine := linesIn d.right r.right r.added

end Differences

/-! ### Forms -/

/-- The form of differences. -/
inductive DiffForm
  | plain
  /-- Both texts around each difference, one behind the other. -/
  | context
  /-- Both texts around each difference in one. -/
  | unified
  /-- Commands for an editor, from the last difference on. -/
  | script
  /-- Commands for an editor from the first difference on, which none understands. -/
  | forwardScript
  /-- Commands with numbers of lines. -/
  | counted
  | columns
  /-- Forms of the user's own. -/
  | custom
  deriving DecidableEq

/-- Which differences are shown, and how. -/
structure DiffStyle where
  form : DiffForm
  context : Nat
  comparison : DiffLine.Comparison
  ignoresEmpty : Bool
  /-- Differences are not shown if this is found in all their lines. -/
  ignored : List Regex
  /-- The last line before a difference in which this is found is shown with it. -/
  landmarks : List Regex
  expandsTabs : Bool
  startsWithTab : Bool
  width : Nat
  hidesRightOfCommon : Bool
  hidesCommon : Bool
  hidesBlanksOfEmpty : Bool
  labels : List String

namespace DiffStyle

open Edits Differences

def finds (rs : List Regex) (l : DiffLine) : Bool :=
  let subject : Regex.Subject := ⟨l.text.toList.toArray, false, false⟩
  rs.any fun r => r.occursIn subject

/-- Whether a difference may be left out for a line of it. -/
def isTrivial (s : DiffStyle) (l : DiffLine) : Bool :=
  let cs := l.text.toList
  let isEmpty := match s.comparison.blanks with
    | .all | .expanded => cs.isEmpty
    | _ => cs.all DiffLine.isBlank
  (s.ignoresEmpty && isEmpty) || finds s.ignored l

/-- Whether a difference counts. -/
def counts (s : DiffStyle) (d : Differences) (r : Replacement) : Bool :=
  if !s.ignoresEmpty && s.ignored.isEmpty then true
  else (d.removed r ++ d.added r).any fun l => !s.isTrivial l

/-- A line with a mark in front of it. -/
def line (s : DiffStyle) (mark : String) (l : DiffLine) : String :=
  let text := if s.expandsTabs then
      String.ofList (DiffLine.expandedFrom s.comparison.tabSize 0 l.text.toList)
    else l.text
  text |> (mark ++ ·) |> (· ++ if l.isEnded then "\n" else "\n\\ No newline at end of file\n")

/-- A mark with the blank behind it. -/
def marked (s : DiffStyle) (mark : String) (l : DiffLine) : String :=
  if s.hidesBlanksOfEmpty ∧ l.text = "" then s.line mark.trimAsciiEnd.toString l
  else s.line (if s.startsWithTab then mark ++ "\t" else mark ++ " ") l

/-- A range of lines: the number before it if it is empty. -/
def range (separator : String) (start count : Nat) : String :=
  if count = 0 then toString start
  else if count = 1 then toString (start + 1)
  else s!"{start + 1}{separator}{start + count}"

/-- The letter of a difference. -/
def letter (r : Replacement) : String :=
  if r.removed = 0 then "a" else if r.added = 0 then "d" else "c"

def plain (s : DiffStyle) (d : Differences) (r : Replacement) : String :=
  let separator := if r.removed = 0 ∨ r.added = 0 then "" else "---\n"
  range "," r.left r.removed ++ letter r ++ range "," r.right r.added ++ "\n" ++
    String.join ((d.removed r).map (s.marked "<")) ++ separator ++
    String.join ((d.added r).map (s.marked ">"))

/-- The lines that an editor is to add. A line with a dot alone would end them. -/
def typed (s : DiffStyle) : Bool → List DiffLine → String
  | isTyping, [] => if isTyping then ".\n" else ""
  | isTyping, l :: ls =>
    let start := if isTyping then "" else "a\n"
    if l.text = "." then start ++ "..\n.\ns/.//\n" ++ typed s false ls
    else start ++ s.line "" { l with isEnded := true } ++ typed s true ls

def script (s : DiffStyle) (d : Differences) (r : Replacement) : String :=
  range "," r.left r.removed ++ letter r ++ "\n" ++
    if r.added = 0 then "" else s.typed true (d.added r)

def forwardScript (s : DiffStyle) (d : Differences) (r : Replacement) : String :=
  let lines := (d.added r).map fun l => s.line "" { l with isEnded := true }
  letter r ++ range " " r.left r.removed ++ "\n" ++
    if r.added = 0 then "" else String.join lines ++ ".\n"

def counted (s : DiffStyle) (d : Differences) (r : Replacement) : String :=
  let bare (l : DiffLine) : String :=
    s.line "" { l with isEnded := true } |> fun text =>
      if l.isEnded then text else String.ofList text.toList.dropLast
  (if r.removed = 0 then "" else s!"d{r.left + 1} {r.removed}\n") ++
    if r.added = 0 then ""
    else s!"a{r.leftStop} {r.added}\n" ++ String.join ((d.added r).map bare)

/-! ### With the lines around them -/

/-- Differences that are shown in one piece. One that does not count is nearer to the one before it. -/
def pieces (s : DiffStyle) (d : Differences) : List (List Replacement) :=
  d.replacements.splitBy fun a b =>
    let distance := b.left - a.leftStop
    if s.counts d b then distance < 2 * s.context + 1 else distance < s.context

/-- The lines of both texts that a piece takes up: the first ones and the numbers of lines. -/
structure Window where
  left : Nat
  leftCount : Nat
  right : Nat
  rightCount : Nat

def window (s : DiffStyle) (d : Differences) (first last : Replacement) : Window :=
  let before := min s.context first.left
  let before' := min s.context first.right
  let leftStop := min (last.leftStop + s.context) d.left.size
  let rightStop := min (last.rightStop + s.context) d.right.size
  ⟨first.left - before, leftStop - (first.left - before),
    first.right - before', rightStop - (first.right - before')⟩

/-- The last line before a place that is a landmark, shortened. -/
def landmark (s : DiffStyle) (d : Differences) (place : Nat) : String :=
  if s.landmarks.isEmpty then ""
  else
    match (linesIn d.left 0 place).reverse.find? (finds s.landmarks) with
    | some l =>
      " " ++ String.ofList (DiffLine.withoutEnd ((l.text.toList.dropWhile DiffLine.isBlank).take 40))
    | none => ""

/-- A range of lines with its length. -/
def sizedRange (start count : Nat) : String :=
  if count = 1 then toString (start + 1)
  else if count = 0 then s!"{start},0"
  else s!"{start + 1},{count}"

/-- A line behind its mark, with no blank between them. -/
def unifiedLine (s : DiffStyle) (mark : String) (l : DiffLine) : String :=
  if s.hidesBlanksOfEmpty ∧ l.text = "" then s.line mark.trimAsciiEnd.toString l
  else if s.startsWithTab then s.line (mark.trimAsciiEnd.toString ++ "\t") l
  else s.line mark l

/-- The lines of a piece, from a place in the first text on. -/
def unifiedLines (s : DiffStyle) (d : Differences) (stop : Nat) : Nat → List Replacement → String
  | place, [] => String.join ((linesIn d.left place (stop - place)).map (s.unifiedLine " "))
  | place, r :: rs =>
    String.join ((linesIn d.left place (r.left - place)).map (s.unifiedLine " ")) ++
      String.join ((d.removed r).map (s.unifiedLine "-")) ++
      String.join ((d.added r).map (s.unifiedLine "+")) ++ unifiedLines s d stop r.leftStop rs

def unified (s : DiffStyle) (d : Differences) (piece : List Replacement) : String :=
  match piece.head?, piece.getLast? with
  | some first, some last =>
    let w := s.window d first last
    s!"@@ -{sizedRange w.left w.leftCount} +{sizedRange w.right w.rightCount} @@" ++
      s.landmark d w.left ++ "\n" ++
      s.unifiedLines d (w.left + w.leftCount) w.left piece
  | _, _ => ""

/-- The range of a window: the last line alone if there are no others. -/
def endRange (start count : Nat) : String :=
  if count ≤ 1 then toString (start + count) else s!"{start + 1},{start + count}"

/-- The lines of one text in a piece, from a place on; the changed parts have their places, numbers
and marks. -/
def contextLines (s : DiffStyle) (lines : Array DiffLine) (stop : Nat) :
    Nat → List (Nat × Nat × String) → String
  | place, [] => String.join ((linesIn lines place (stop - place)).map (s.marked " "))
  | place, (start, count, mark) :: rest =>
    String.join ((linesIn lines place (start - place)).map (s.marked " ")) ++
      String.join ((linesIn lines start count).map (s.marked mark)) ++
      contextLines s lines stop (start + count) rest

def inContext (s : DiffStyle) (d : Differences) (piece : List Replacement) : String :=
  match piece.head?, piece.getLast? with
  | some first, some last =>
    let w := s.window d first last
    let removals := piece.map fun r => (r.left, r.removed, if 0 < r.added then "!" else "-")
    let additions := piece.map fun r => (r.right, r.added, if 0 < r.removed then "!" else "+")
    "***************" ++ s.landmark d w.left ++ "\n" ++
      s!"*** {endRange w.left w.leftCount} ****\n" ++
      (if piece.any (0 < ·.removed) then
        s.contextLines d.left (w.left + w.leftCount) w.left removals else "") ++
      s!"--- {endRange w.right w.rightCount} ----\n" ++
      (if piece.any (0 < ·.added) then
        s.contextLines d.right (w.right + w.rightCount) w.right additions else "")
  | _, _ => ""

/-! ### Side by side -/

/-- The width between the columns. -/
def gutter : Nat := 3

/-- The column that the second text begins in, and the width of either text. -/
def columns (s : DiffStyle) : Nat × Nat :=
  let unit := if s.expandsTabs then 1 else s.comparison.tabSize
  let both := unit + gutter
  let place := s.width / 2 + both / 2 + (if s.width % 2 = 1 ∧ both % 2 = 1 then 1 else 0)
  let place := place - place % unit
  let half := if place ≤ gutter ∨ s.width ≤ place then 0 else min (place - gutter) (s.width - place)
  (if half = 0 then s.width else place, half)

/-- What leads from a column to another one. The fuel bounds the number of tabs. -/
def leadFrom (s : DiffStyle) : Nat → Nat → Nat → String
  | 0, _, _ => ""
  | fuel + 1, column, target =>
    let stop := column + (s.comparison.tabSize - column % s.comparison.tabSize)
    if !s.expandsTabs ∧ stop ≤ target then "\t" ++ leadFrom s fuel stop target
    else String.ofList (List.replicate (target - column) ' ')

def lead (s : DiffStyle) (column target : Nat) : String := s.leadFrom (target + 1) column target

/-- A line as far as it fits in a column, and the place behind it: the place that it would have without
a bound, and the one that it has. -/
def halfLine (s : DiffStyle) (indent bound : Nat) : Nat → Nat → List Char → String × Nat
  | _, place, [] => ("", place)
  | wanted, place, c :: rest =>
    let tabSize := s.comparison.tabSize
    let after (text : String) (wanted place : Nat) : String × Nat :=
      let (others, last) := s.halfLine indent bound wanted place rest
      (text ++ others, last)
    if c = '\t' then
      let spaces := tabSize - wanted % tabSize
      if wanted = place then
        let stop := place + spaces
        if s.expandsTabs then
          let stop := min stop bound
          after (String.ofList (List.replicate (stop - place) ' ')) (wanted + spaces) stop
        else if stop < bound then after "\t" (wanted + spaces) stop
        else after "" (wanted + spaces) place
      else after "" (wanted + spaces) place
    else if c = '\r' then after ("\r" ++ s.lead 0 indent) 0 0
    else if c = '\x08' then
      if wanted ≠ 0 ∧ wanted - 1 < bound then
        if place ≤ wanted - 1 then
          after (String.ofList (List.replicate (wanted - 1 - place) ' ')) (wanted - 1) (wanted - 1)
        else after "\x08" (wanted - 1) (wanted - 1)
      else after "" (wanted - 1) place
    else if wanted < bound then after (String.singleton c) (wanted + 1) (wanted + 1)
    else after "" (wanted + 1) place

/-- Two lines in columns with a sign between them. -/
def besides (s : DiffStyle) (left right : Option DiffLine) (sign : Char) : String :=
  let (start, half) := s.columns
  let (leftText, column) := match left with
    | some l => s.halfLine 0 half 0 0 l.text.toList
    | none => ("", 0)
  let hasEnd (l : Option DiffLine) : Bool := l.any (·.isEnded)
  let sign := if sign = '|' ∧ hasEnd left ≠ hasEnd right then
      if hasEnd left then '/' else '\\'
    else sign
  let (signText, column) := if sign = ' ' then ("", column)
    else
      let place := (half + start - 1) / 2
      (s.lead column place ++ String.singleton sign, place + 1)
  let rightText := match right with
    | some r =>
      if r.text = "" ∧ r.isEnded then ""
      else s.lead column start ++ (s.halfLine start half 0 0 r.text.toList).1
    | none => ""
  leftText ++ signText ++ rightText ++ if hasEnd left || hasEnd right then "\n" else ""

/-- Lines that both texts have, up to a place in either. -/
def commonLines (s : DiffStyle) (lefts rights : List DiffLine) : String :=
  if s.hidesCommon then ""
  else if s.hidesRightOfCommon then String.join (lefts.map fun l => s.besides (some l) none '(')
  else
    String.join ((lefts.zip rights).map fun (l, r) => s.besides (some l) (some r) ' ') ++
      String.join ((rights.drop lefts.length).map fun r => s.besides none (some r) ')') ++
      String.join ((lefts.drop rights.length).map fun l => s.besides (some l) none '(')

def differingLines (s : DiffStyle) (d : Differences) (r : Replacement) : String :=
  let (lefts, rights) := (d.removed r, d.added r)
  String.join ((lefts.zip rights).map fun (a, b) => s.besides (some a) (some b) '|') ++
    String.join ((rights.drop lefts.length).map fun b => s.besides none (some b) '>') ++
    String.join ((lefts.drop rights.length).map fun a => s.besides (some a) none '<')

/-- All lines of two texts in columns, from two places on. -/
def besidesAll (s : DiffStyle) (d : Differences) : Nat → Nat → List Replacement → String
  | i, j, [] => s.commonLines (linesIn d.left i d.left.size) (linesIn d.right j d.right.size)
  | i, j, r :: rs =>
    if s.counts d r then
      s.commonLines (linesIn d.left i (r.left - i)) (linesIn d.right j (r.right - j)) ++
        s.differingLines d r ++ besidesAll s d r.leftStop r.rightStop rs
    else besidesAll s d i j rs

/-! ### All differences -/

/-- The differences of two texts as they are shown. -/
def shown (s : DiffStyle) (d : Differences) : String :=
  let each (f : Replacement → String) (rs : List Replacement) : String :=
    String.join ((rs.filter (s.counts d)).map f)
  let eachPiece (f : List Replacement → String) : String :=
    String.join (((s.pieces d).filter (·.any (s.counts d))).map f)
  match s.form with
  | .plain => each (s.plain d) d.replacements
  | .context => eachPiece (s.inContext d)
  | .unified => eachPiece (s.unified d)
  | .script => each (s.script d) d.replacements.reverse
  | .forwardScript => each (s.forwardScript d) d.replacements
  | .counted => each (s.counted d) d.replacements
  | .columns => s.besidesAll d 0 0 d.replacements
  | .custom => ""

end DiffStyle

end LinkBench.Host.Utility
