import LinkBench.Host.Regex.Reader
import LinkBench.Host.Utility.Amount
import LinkBench.Host.Utility.Show
/-!
Numbers in front of lines. A text has pages of three sections, each of which has a rule for the lines that
get numbers; lines of delimiters begin the sections.
-/

namespace LinkBench.Host.Utility

namespace Numbering

/-- Which lines of a section have numbers. -/
inductive Rule
  | all
  | filled
  | none
  | matching (r : Regex)

inductive Section
  | header
  | body
  | footer
  deriving DecidableEq

/-- Where a number stands in its room. -/
inductive Alignment
  | left
  | right
  | zeros
  deriving DecidableEq

structure Style where
  header : Rule
  body : Rule
  footer : Rule
  start : Int
  step : Int
  /-- Of so many empty lines, the last one counts as a line. -/
  joined : Nat
  width : Nat
  alignment : Alignment
  separator : String
  delimiter : String
  renumbers : Bool

def Style.initial : Style where
  header := .none
  body := .filled
  footer := .none
  start := 1
  step := 1
  joined := 1
  width := 6
  alignment := .right
  separator := "\t"
  delimiter := "\\:"
  renumbers := true

def Style.rule (s : Style) : Section → Rule
  | .header => s.header
  | .body => s.body
  | .footer => s.footer

/-- A number in its room. -/
def Style.label (s : Style) (n : Int) : String :=
  let digits := toString n
  match s.alignment with
  | .left => leftAligned s.width digits
  | .right => rightAligned s.width digits
  | .zeros =>
    let (sign, digits) := if n < 0 then ("-", toString n.natAbs) else ("", digits)
    sign ++ String.ofList (digits.toList.leftpad (s.width - sign.length) '0')

/-- What stands in the place of a number. -/
def Style.room (s : Style) : String :=
  String.ofList (List.replicate (s.width + s.separator.length) ' ')

/-- The section that a line begins, if it is a line of delimiters. -/
def Style.section? (s : Style) (line : String) : Option Section :=
  if s.delimiter.length < 2 then none
  else if line = s.delimiter ++ s.delimiter ++ s.delimiter then some .header
  else if line = s.delimiter ++ s.delimiter then some .body
  else if line = s.delimiter then some .footer
  else none

/-- The place in a text: the number of the next line, the section, and the empty lines in a row. -/
structure Place where
  number : Int
  within : Section
  empties : Nat

def Style.origin (s : Style) : Place := ⟨s.start, .body, 0⟩

/-- Whether a line has a number, and how many empty lines stand before the next one. -/
def Style.counts (s : Style) (p : Place) (line : String) : Bool × Nat :=
  match s.rule p.within with
  | .none => (false, p.empties)
  | .filled => (line ≠ "", p.empties)
  | .matching r => (r.occursIn ⟨line.toList.toArray, false, false⟩, p.empties)
  | .all =>
    if s.joined ≤ 1 then (true, p.empties)
    else if line ≠ "" ∨ p.empties + 1 = s.joined then (true, 0)
    else (false, p.empties + 1)

/-- Shows the next line. -/
def Style.show (s : Style) (p : Place) (line : String) : String × Place :=
  match s.section? line with
  | some within =>
    ("", { p with within, number := if s.renumbers then s.start else p.number })
  | none =>
    let (isCounted, empties) := s.counts p line
    if isCounted then
      (s.label p.number ++ s.separator ++ line, { p with number := p.number + s.step, empties })
    else
      (s.room ++ line, { p with empties })

/-- Shows lines one after the other. -/
def Style.lines (s : Style) : Place → List String → List String
  | _, [] => []
  | p, line :: rest =>
    let (shown, p) := s.show p line
    shown :: Style.lines s p rest

/-! ### The request -/

/-- A request under way: the style, and what was complained about so far. -/
structure Draft where
  style : Style
  complaints : List String

/-- A whole number within bounds, or what is wrong with it. -/
def number (least : Int) (noun text : String) : Except String Int :=
  let refused (ending : String) : Except String Int :=
    .error (s!"invalid {noun}: {Quoting.quoted text}" ++ ending)
  let cs := text.toList.dropWhile (· == ' ')
  let (sign, digits) : Int × List Char := match cs with
    | '-' :: rest => (-1, rest)
    | '+' :: rest => (1, rest)
    | rest => (1, rest)
  if digits = [] ∨ digits.any fun c => !c.isDigit then refused ""
  else
    let n := sign * Int.ofNat (Nat.ofDigitChars 10 digits 0)
    if 9223372036854775807 < n.natAbs then refused ": Value too large for defined data type"
    else if n < least then refused Amount.Misread.outOfRange
    else .ok n

/-- The rule of an argument; nothing if it is none. -/
def rule? (text : String) : Except String (Option Rule) :=
  match text.toList with
  | ['a'] => .ok (some .all)
  | ['t'] => .ok (some .filled)
  | ['n'] => .ok (some .none)
  | 'p' :: rest =>
    match Regex.read ⟨false, false⟩ (String.ofList rest) with
    | .ok (r, _) => .ok (some (.matching r))
    | .error f => .error f.message
  | _ => .ok none

/-- A request with one more option; some faults end it at once, others only at its end. -/
def Draft.adding (d : Draft) (option : String × String) : Except String Draft := do
  let (key, value) := option
  let s := d.style
  let least : Int := -9223372036854775807
  let ruled (noun : String) (set : Rule → Style) : Except String Draft := do
    match ← rule? value with
    | some r => return { d with style := set r }
    | none =>
      let complaint := s!"invalid {noun} numbering style: {Quoting.quoted value}"
      return { d with complaints := d.complaints ++ [complaint] }
  match key with
  | "h" => ruled "header" fun r => { s with header := r }
  | "b" => ruled "body" fun r => { s with body := r }
  | "f" => ruled "footer" fun r => { s with footer := r }
  | "v" =>
    let n ← number least "starting line number" value
    return { d with style := { s with start := n } }
  | "i" =>
    let n ← number least "line number increment" value
    return { d with style := { s with step := n } }
  | "p" => return { d with style := { s with renumbers := false } }
  | "l" =>
    let n ← number 1 "line number of blank lines" value
    return { d with style := { s with joined := n.toNat } }
  | "s" => return { d with style := { s with separator := value } }
  | "w" =>
    let n ← number 1 "line number field width" value
    return { d with style := { s with width := n.toNat } }
  | "n" =>
    match value with
    | "ln" => return { d with style := { s with alignment := .left } }
    | "rn" => return { d with style := { s with alignment := .right } }
    | "rz" => return { d with style := { s with alignment := .zeros } }
    | _ =>
      let complaint := s!"invalid line numbering format: {Quoting.quoted value}"
      return { d with complaints := d.complaints ++ [complaint] }
  | "d" =>
    let delimiter := if value.length = 1 then value ++ ":" else value
    return { d with style := { s with delimiter } }
  | _ => return d

def flags : List Flag :=
  [Options.valued "h" "header-numbering", Options.valued "b" "body-numbering",
    Options.valued "f" "footer-numbering", Options.valued "v" "starting-line-number",
    Options.valued "i" "line-increment", Options.flag "p" "no-renumber",
    Options.valued "l" "join-blank-lines", Options.valued "s" "number-separator",
    Options.valued "w" "number-width", Options.valued "n" "number-format",
    Options.valued "d" "section-delimiter"]

end Numbering

open LinkBench.Host.Utility.Numbering in
def nl : List String → Proc Nat := fun arguments =>
  withOptions flags true 1 arguments fun command given operands => do
    match given.foldlM Draft.adding ⟨.initial, []⟩ with
    | .error text => failWith command text 1
    | .ok ⟨style, complaints⟩ =>
      if !complaints.isEmpty then
        for text in complaints do
          complain command text
        suggestHelp command
        return 1
      let (texts, status) ← allTexts command (inputNames operands)
      let lines := texts.flatMap fun text => (splitLines text).1
      emit command (joinLines (style.lines style.origin lines)) status

end LinkBench.Host.Utility
