import LinkBench.Host.Utility.Show
/-!
Tab stops: the columns that tabs lead to. One program writes blanks in the place of tabs, the other one
tabs in the place of blanks.
-/

namespace LinkBench.Host.Utility

/-- What stands behind the stops that are listed. -/
inductive FurtherStops
  | none
  /-- Stops at the multiples of a number. -/
  | multiples (n : Nat)
  /-- Stops at multiples of a number, counted from the last one that is listed. -/
  | steps (n : Nat)
  deriving DecidableEq

/-- The columns of tab stops: those that are listed, in ascending order, and those behind them. -/
structure TabStops where
  listed : List Nat
  further : FurtherStops

namespace TabStops

/-- A stop at every so many columns. -/
def every (n : Nat) : TabStops := ⟨[], .multiples n⟩

/-- The first stop behind a column, if there is one. -/
def next? (t : TabStops) (column : Nat) : Option Nat :=
  match t.listed.find? fun stop => decide (column < stop) with
  | some stop => some stop
  | none =>
    match t.further with
    | .none => none
    | .multiples n => some (column + (n - column % n))
    | .steps n =>
      let last := t.listed.getLast?.getD 0
      some (column + (n - (column - last) % n))

/-! ### Lists in arguments -/

/-- A list under way, and the sign in front of the number that comes next. -/
structure Draft where
  listed : List Nat
  multiples : Option Nat
  steps : Option Nat
  sign : Option Char

def Draft.start : Draft := ⟨[], none, none, none⟩

/-- The draft with one more number. -/
def Draft.with (d : Draft) (n : Nat) : Except String Draft :=
  let misplaced (sign : String) : String :=
    s!"'{sign}' specifier only allowed with the last value"
  match d.sign with
  | some '/' =>
    if d.multiples.isSome then .error (misplaced "/")
    else .ok { d with multiples := some n, sign := none }
  | some _ =>
    if d.steps.isSome then .error (misplaced "+")
    else .ok { d with steps := some n, sign := none }
  | none => .ok { d with listed := d.listed ++ [n] }

/-- The largest number that is taken for a stop. -/
def largest : Nat := 18446744073709551615

/-- Reads the numbers of a list; commas and blanks stand between them. The fuel bounds its length. -/
def readList : Nat → Draft → List Char → Except String Draft
  | 0, d, _ | _, d, [] => .ok d
  | fuel + 1, d, c :: rest =>
    if c = ',' ∨ c = ' ' ∨ c = '\t' then readList fuel d rest
    else if c = '/' ∨ c = '+' then readList fuel { d with sign := some c } rest
    else if c.isDigit then
      let digits := (c :: rest).takeWhile (·.isDigit)
      let n := Nat.ofDigitChars 10 digits 0
      if largest < n then
        .error s!"tab stop is too large {Quoting.quoted (String.ofList digits)}"
      else do
        readList fuel (← d.with n) (rest.drop (digits.length - 1))
    else
      .error ("tab size contains invalid character(s): " ++
        Quoting.quoted (String.ofList (c :: rest)))

/-- Whether the numbers ascend. -/
def firstFault : Nat → List Nat → Option String
  | _, [] => none
  | before, n :: rest =>
    if n = 0 then some "tab size cannot be 0"
    else if n ≤ before then some "tab sizes must be ascending"
    else firstFault n rest

/-- The stops of a list; one number alone is the distance between them. -/
def ofDraft (d : Draft) : Except String TabStops := do
  if let some fault := firstFault 0 d.listed then
    throw fault
  match d.listed, d.multiples, d.steps with
  | _, some _, some _ => throw "'/' specifier is mutually exclusive with '+'"
  | [], none, none => return every 8
  | [n], none, none => return every n
  | listed, some n, none => return ⟨listed, if n = 0 then .none else .multiples n⟩
  | listed, none, some n => return ⟨listed, if n = 0 then .none else .steps n⟩
  | listed, none, none => return ⟨listed, .none⟩

/-- The stops that options give; each list adds to those before it. -/
def ofGiven (given : Given) : Except String TabStops := do
  let d ← (given.all "t").foldlM (fun d text => readList (text.length + 1) d text.toList) .start
  ofDraft d

/-! ### Blanks for tabs -/

/-- Writes blanks in the place of tabs, in all places or only in front of other characters. -/
def expandFrom (t : TabStops) (onlyFirst : Bool) : Bool → Nat → List Char → List Char
  | _, _, [] => []
  | converts, column, c :: rest =>
    if c = '\n' then c :: expandFrom t onlyFirst true 0 rest
    else if !converts then c :: expandFrom t onlyFirst false column rest
    else
      let goesOn := !onlyFirst || c == ' ' || c == '\t'
      if c = '\t' then
        let stop := (t.next? column).getD (column + 1)
        List.replicate (stop - column) ' ' ++ expandFrom t onlyFirst goesOn stop rest
      else if c = '\x08' then c :: expandFrom t onlyFirst goesOn (column - 1) rest
      else c :: expandFrom t onlyFirst goesOn (column + 1) rest

def expand (t : TabStops) (onlyFirst : Bool) (text : String) : String :=
  String.ofList (expandFrom t onlyFirst true 0 text.toList)

/-! ### Tabs for blanks -/

/-- A line under way: the column, the blanks that may yet become a tab, and whether the first of them
ends right at a stop. -/
structure Row where
  converts : Bool
  column : Nat
  pending : List Char
  isBeforeStop : Bool
  wasBlank : Bool

def Row.start : Row := ⟨true, 0, [], false, true⟩

/-- The blanks that were kept back, as they are written. -/
def Row.flushed (r : Row) : List Char :=
  if 1 < r.pending.length && r.isBeforeStop then '\t' :: r.pending.tail else r.pending

/-- Writes tabs in the place of blanks that lead to a stop. -/
def unexpandFrom (t : TabStops) (wholeLine : Bool) : Row → List Char → List Char
  | r, [] => r.flushed
  | r, c :: rest =>
    if c = '\n' then r.flushed ++ c :: unexpandFrom t wholeLine .start rest
    else if !r.converts then c :: unexpandFrom t wholeLine r rest
    else
      let isBlank := c == ' ' || c == '\t'
      let goesOn := wholeLine || isBlank
      if !isBlank then
        let column := if c = '\x08' then r.column - 1 else r.column + 1
        r.flushed ++ c :: unexpandFrom t wholeLine ⟨goesOn, column, [], false, false⟩ rest
      else
        match t.next? r.column with
        | none =>
          r.flushed ++ c :: unexpandFrom t wholeLine ⟨false, r.column, [], false, true⟩ rest
        | some stop =>
          let kept := if r.isBeforeStop then 1 else 0
          if c = '\t' then
            let pending := if r.pending = [] then [] else '\t' :: r.pending.tail
            let r' : Row := { r with pending := pending.take kept }
            r'.flushed ++ c :: unexpandFrom t wholeLine ⟨goesOn, stop, [], false, true⟩ rest
          else if r.wasBlank ∧ r.column + 1 = stop then
            let r' : Row := { r with pending := ('\t' :: r.pending.tail).take kept }
            r'.flushed ++ '\t' :: unexpandFrom t wholeLine ⟨goesOn, stop, [], false, true⟩ rest
          else
            let isBeforeStop := r.isBeforeStop || r.column + 1 == stop
            unexpandFrom t wholeLine
              ⟨r.converts, r.column + 1, r.pending ++ [c], isBeforeStop, true⟩ rest

def unexpand (t : TabStops) (wholeLine : Bool) (text : String) : String :=
  String.ofList (unexpandFrom t wholeLine .start text.toList)

/-- Stops behind a dash and without a letter stand for an option. -/
def withShortForm (a : String) : String :=
  match a.toList with
  | '-' :: d :: ds =>
    if d.isDigit ∧ (d :: ds).all fun c => c.isDigit || c == ',' then "-t" ++ String.ofList (d :: ds)
    else a
  | _ => a

end TabStops

def expand (arguments : List String) : Proc Nat :=
  let arguments := arguments.take 1 ++ (arguments.drop 1).map TabStops.withShortForm
  withOptions [Options.flag "i" "initial", Options.valued "t" "tabs"] true 1 arguments
    fun command given operands => do
      match TabStops.ofGiven given with
      | .error text => failWith command text 1
      | .ok t =>
        withTexts command (inputNames operands) fun _ text =>
          emit command (t.expand (given.has "i") text) 0

def unexpand (arguments : List String) : Proc Nat :=
  let arguments := arguments.take 1 ++ (arguments.drop 1).map TabStops.withShortForm
  let flags := [Options.flag "a" "all", Options.flag "first-only" "first-only",
    Options.valued "t" "tabs"]
  withOptions flags true 1 arguments fun command given operands => do
    match TabStops.ofGiven given with
    | .error text => failWith command text 1
    | .ok t =>
      let wholeLine := (given.has "a" || given.has "t") && !given.has "first-only"
      withTexts command (inputNames operands) fun _ text =>
        emit command (t.unexpand wholeLine text) 0

end LinkBench.Host.Utility
