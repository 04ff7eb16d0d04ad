import LinkBench.Host.Floating
import LinkBench.Host.Utility.Printf
import LinkBench.Host.Utility.Simple
/-!
Rows of numbers with equal steps. Rows of whole numbers are exact however long the numbers are; other rows
are reckoned in floating numbers, each number from the first one, so that errors do not add up. How many
places are shown follows from how the numbers are written.
-/

namespace LinkBench.Host.Utility

/-- The numbers of a row, as they are shown: the one at each place, until there are no more. -/
abbrev Progression := Nat → Option String

namespace Progression

/-- A row of whole numbers, without an end if there is no last one. -/
def ofNats (first step : Nat) (last : Option Nat) : Progression := fun i =>
  let n := first + i * step
  if last.all (n ≤ ·) then some (toString n) else none

/-- Where numbers stand in a text: what is in front of them, how they are written, what is behind them. -/
structure Form where
  front : String
  directive : Printf.Directive
  back : String

inductive FormFault
  | noDirective
  | endsInPercent
  | unknownDirective (c : Char)
  | tooMany

def FormFault.message (text : String) : FormFault → String
  | .noDirective => s!"format {Quoting.quoted text} has no % directive"
  | .endsInPercent => s!"format {Quoting.quoted text} ends in %"
  | .unknownDirective c =>
    let letter := String.singleton c
    s!"format {Quoting.quoted text} has unknown %{letter} directive"
  | .tooMany => s!"format {Quoting.quoted text} has too many % directives"

namespace Form

def shown (f : Form) (x : Floating) : String := f.directive.floatingText Floating.longBits x

def filled (f : Form) (x : Floating) : String := f.front ++ f.shown x ++ f.back

/-- A number with so many places, filled up with zeros to a width. -/
def ofPlaces (width places : Nat) : Form :=
  ⟨"", ⟨"", ['0'], some (Int.ofNat width), some (Int.ofNat places), 'f'⟩, ""⟩

/-- A number in the shorter way to write it. -/
def general : Form := ⟨"", ⟨"", [], none, none, 'g'⟩, ""⟩

/-- The text up to the first sign of a directive, with doubled signs as one. -/
def plain : List Char → List Char × List Char
  | '%' :: '%' :: cs =>
    let (found, rest) := plain cs
    ('%' :: found, rest)
  | '%' :: cs => ([], '%' :: cs)
  | c :: cs =>
    let (found, rest) := plain cs
    (c :: found, rest)
  | [] => ([], [])

def number? (digits : List Char) : Option Int :=
  if digits = [] then none else some (Int.ofNat (Nat.ofDigitChars 10 digits 0))

/-- Reads a directive behind its sign, with what follows it. -/
def readDirective (cs : List Char) : Except FormFault (Printf.Directive × List Char) :=
  let flags := cs.takeWhile fun c => "-+#0 '".toList.contains c
  let cs := cs.drop flags.length
  let width := cs.takeWhile (·.isDigit)
  let cs := cs.drop width.length
  let (precision, cs) : Option Int × List Char := match cs with
    | '.' :: cs =>
      let digits := cs.takeWhile (·.isDigit)
      (some ((number? digits).getD 0), cs.drop digits.length)
    | cs => (none, cs)
  let cs := if cs.head? = some 'L' then cs.tail else cs
  match cs with
  | [] => .error .endsInPercent
  | c :: rest =>
    if "efgaEFGA".toList.contains c then .ok (⟨"", flags, number? width, precision, c⟩, rest)
    else .error (.unknownDirective c)

/-- Reads a form; it has one directive, for a floating number. -/
def read (text : String) : Except FormFault Form :=
  match plain text.toList with
  | (_, []) => .error .noDirective
  | (front, _ :: cs) => do
    let (directive, cs) ← readDirective cs
    match plain cs with
    | (back, []) => return ⟨String.ofList front, directive, String.ofList back⟩
    | _ => throw .tooMany

end Form

/-- A number with how it has been written: the width that it takes in full, and its places if they are
known. -/
structure WrittenNumber where
  value : Floating
  width : Int
  places : Option Nat

inductive NumeralFault
  | invalid (text : String)
  | notANumber (text : String)

def NumeralFault.message : NumeralFault → String
  | .invalid text => s!"invalid floating point argument: {Quoting.quoted text}"
  | .notANumber text =>
    let kind := Quoting.quoted "not-a-number"
    s!"invalid {kind} argument: {Quoting.quoted text}"

namespace WrittenNumber

def isFinite (x : Floating) : Bool :=
  match x with
  | .finite .. => true
  | _ => false

/-- The width and the places of a decimal numeral. -/
def layout (cs : List Char) : Int × Nat :=
  let fraction? := if cs.contains '.' then
      some (((cs.dropWhile (· != '.')).drop 1).takeWhile fun c => c != 'e' && c != 'E')
    else none
  let fractionLength := (fraction?.getD []).length
  let whole := cs.takeWhile (· != '.')
  let plainWidth : Int := match fraction? with
    | none => Int.ofNat cs.length
    | some [] => Int.ofNat cs.length - 1
    | some _ =>
      if whole.getLast?.any (·.isDigit) then Int.ofNat cs.length else Int.ofNat cs.length + 1
  let mark := cs.dropWhile fun c => c != 'e' && c != 'E'
  if mark = [] then (plainWidth, fractionLength)
  else
    let exponent := (Floating.readExponent ['e', 'E'] mark).1
    let width := plainWidth - Int.ofNat mark.length
    if exponent < 0 then
      let gains := match fraction? with
        | none => true
        | some fraction => fraction.isEmpty
      ((if gains then width + 1 else width) + Int.ofNat exponent.natAbs,
        fractionLength + exponent.natAbs)
    else
      let places := fractionLength - exponent.natAbs
      let width := if places = 0 ∧ fractionLength ≠ 0 then width - 1 else width
      (width + Int.ofNat (exponent.natAbs - fractionLength), places)

def read (text : String) : Except NumeralFault WrittenNumber :=
  match Floating.read Floating.longBits text.toList with
  | some (.notANumber _, []) => .error (.notANumber text)
  | some (x, []) =>
    let cs := text.toList.dropWhile fun c => c == ' ' || ('\t' ≤ c && c ≤ '\r') || c == '+'
    let isHexadecimal := cs.any fun c => c == 'x' || c == 'X'
    let isDecimal := !isHexadecimal && isFinite x
    let isWhole := !cs.contains '.' && !cs.contains 'p'
    if isDecimal then
      let (width, places) := layout cs
      .ok ⟨x, width, some places⟩
    else .ok ⟨x, 0, if isWhole then some 0 else none⟩
  | _ => .error (.invalid text)

end WrittenNumber

/-- Whether a number is beyond the last one, in the direction of the steps. -/
def isBeyond (step last x : Floating) : Bool :=
  if step.order (.finite false 0 0) == .lt then x.order last == .lt else last.order x == .lt

/-- A row of floating numbers. A number right beyond the last one belongs to the row if it is shown as the
last one is, and is not shown as the number before it. -/
def ofFloatings (form : Form) (first step last : Floating) : Progression := fun i =>
  let number (i : Nat) : Floating :=
    if i = 0 then first
    else first.add Floating.longBits ((Floating.ofFraction Floating.longBits false i 1).mul
      Floating.longBits step)
  let x := number i
  if !isBeyond step last x then some (form.filled x)
  else if i = 0 || isBeyond step last (number (i - 1)) then none
  else
    let shown := form.shown x
    match Floating.read Floating.longBits shown.toList with
    | some (y, []) =>
      if y.order last == .eq && form.shown (number (i - 1)) != shown then some (form.filled x) else none
    | _ => none

/-- How the numbers of a row are shown if no form says so. -/
def usualForm (equalWidth : Bool) (first step last : WrittenNumber) : Form :=
  match first.places, step.places, last.places with
  | some a, some s, some b =>
    let places := max a s
    let widen (n : WrittenNumber) (own : Nat) (isLast : Bool) : Int :=
      let width := n.width + (Int.ofNat places - Int.ofNat own)
      let width := if isLast ∧ own ≠ 0 ∧ places = 0 then width - 1 else width
      if own = 0 ∧ places ≠ 0 then width + 1 else width
    let width := if equalWidth then max (widen first a false) (widen last b true) else 0
    .ofPlaces width.toNat places
  | _, _, _ => .general

/-- The greatest step that exact rows of whole numbers take. -/
def greatestStep : Nat := 200

/-- The number that digits alone stand for. -/
def digits? (text : String) : Option Nat :=
  let cs := text.toList
  if cs ≠ [] ∧ cs.all (·.isDigit) then some (Nat.ofDigitChars 10 cs 0) else none

/-- The whole number that a numeral stands for, if it has no minus in front of it. -/
def nat? (n : WrittenNumber) : Option Nat :=
  match n.places, n.value with
  | some 0, .finite negative m e =>
    if negative then none else digits? (Floating.fixedText 0 false m e)
  | _, _ => none

end Progression

/-- What is asked for: the three numbers as they are written, and how the row is shown. -/
structure ProgressionRequest where
  first : Option String
  step : Option String
  last : String
  form : Option Progression.Form
  equalWidth : Bool
  divider : String

namespace ProgressionRequest

open Progression

/-- Whether the row may be an exact one of whole numbers. -/
def isPlain (q : ProgressionRequest) : Bool :=
  !q.equalWidth && q.form.isNone && q.divider.length == 1

/-- The row of numbers that are written in digits alone. -/
def digitRow? (q : ProgressionRequest) : Option Progression := do
  if !q.isPlain then none
  else
    let first ← digits? (q.first.getD "1")
    let step ← digits? (q.step.getD "1")
    let last ← digits? q.last
    if 0 < step ∧ step ≤ greatestStep then some (.ofNats first step (some last)) else none

inductive Fault
  | numeral (f : NumeralFault)
  | noStep (text : String)

def Fault.message : Fault → String
  | .numeral f => f.message
  | .noStep text => s!"invalid Zero increment value: {Quoting.quoted text}"

/-- The row that is asked for. -/
def row (q : ProgressionRequest) : Except Fault Progression :=
  match q.digitRow? with
  | some p => .ok p
  | none => do
    let read (text : String) : Except Fault WrittenNumber := (WrittenNumber.read text).mapError .numeral
    let first ← read (q.first.getD "1")
    let step ← read (q.step.getD "1")
    if step.value.order (.finite false 0 0) == .eq then throw (.noStep (q.step.getD ""))
    let last ← read q.last
    let isEndless := match last.value with
      | .infinite false => true
      | _ => false
    let lastNat? : Option (Option Nat) := if isEndless then some none else (nat? last).map some
    match q.isPlain, nat? first, nat? step, lastNat? with
    | true, some a, some s, some b =>
      if 0 < s ∧ s ≤ greatestStep then return .ofNats a s b
      else return .ofFloatings (usualForm false first step last) first.value step.value last.value
    | _, _, _, _ =>
      let form := q.form.getD (usualForm q.equalWidth first step last)
      return .ofFloatings form first.value step.value last.value

end ProgressionRequest

/-- So many numbers are written at once. -/
def progressionBlock : Nat := 500

/-- Writes the numbers of a row from a place on. The fuel bounds the number of blocks. -/
def writeProgression (command divider : String) (p : Progression) : Nat → Nat → Proc Nat
  | 0, _ => return 0
  | fuel + 1, i => do
    let found := (List.range progressionBlock).filterMap fun k => p (i + k)
    let text := String.join (found.mapIdx fun k s => if i + k = 0 then s else divider ++ s)
    if found.length < progressionBlock then
      if i = 0 ∧ found = [] then return 0
      emit command (text ++ "\n") 0
    else
      let status ← emit command text 0
      if status ≠ 0 then return status
      let _ ← Proc.tick
      writeProgression command divider p fuel (i + progressionBlock)

def seq (arguments : List String) : Proc Nat := do
  let command := arguments.headD ""
  let flags := [Options.flag "w" "equal-width", Options.valued "f" "format",
    Options.valued "s" "separator"]
  match Options.readNumbers flags arguments.tail with
  | .error f => refuseUse command f.message 1
  | .ok (given, operands) =>
    let texts? : Option (Option String × Option String × String) := match operands with
      | [last] => some (none, none, last)
      | [first, last] => some (some first, none, last)
      | [first, step, last] => some (some first, some step, last)
      | _ => none
    match operands, texts? with
    | _ :: _ :: _ :: extra :: _, _ => extraOperand command extra
    | _, none => missingOperand command
    | _, some (first, step, last) =>
      let form? ← match given.last? "f" with
        | none => pure (Except.ok none)
        | some text => pure ((Progression.Form.read text).map some |>.mapError (·.message text))
      match form? with
      | .error message => failWith command message 1
      | .ok form =>
        if form.isSome ∧ given.has "w" then
          refuseUse command "format string may not be specified when printing equal width strings" 1
        else
          let divider := (given.last? "s").getD "\n"
          let q : ProgressionRequest := ⟨first, step, last, form, given.has "w", divider⟩
          match q.row with
          | .error f => refuseUse command f.message 1
          | .ok p => writeProgression command divider p passLimit 0

namespace Progression

end Progression

end LinkBench.Host.Utility
