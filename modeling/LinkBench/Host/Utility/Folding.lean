import LinkBench.Host.Utility.Amount
import LinkBench.Host.Utility.Show
/-!
Lines that are cut where they become too wide, behind the last blank if that is asked for.
-/

namespace LinkBench.Host.Utility

namespace Folding

structure Style where
  width : Nat
  atBlanks : Bool
  countsBytes : Bool

/-- The column behind a character. -/
def Style.advance (s : Style) (column : Nat) (c : Char) : Nat :=
  if s.countsBytes then column + 1
  else if c = '\x08' then column - 1
  else if c = '\r' then 0
  else if c = '\t' then column + 8 - column % 8
  else column + 1

def Style.columnOf (s : Style) (cs : List Char) : Nat := cs.foldl s.advance 0

/-- The rest of a line behind its last blank, and what stands before, in backward order. -/
def splitAtBlank (backward : List Char) : List Char × List Char :=
  let rest := backward.takeWhile fun c => !(c == ' ' || c == '\t')
  (backward.drop rest.length, rest)

/-- Cuts a text. The row under way is in backward order; the fuel bounds the number of steps. -/
def Style.cut (s : Style) : Nat → List Char → Nat → List Char → List Char
  | 0, row, _, rest => row.reverse ++ rest
  | _, row, _, [] => row.reverse
  | fuel + 1, row, column, c :: rest =>
    if c = '\n' then row.reverse ++ c :: s.cut fuel [] 0 rest
    else
      let next := s.advance column c
      if next ≤ s.width then s.cut fuel (c :: row) next rest
      else
        let (before, behind) := splitAtBlank row
        if s.atBlanks ∧ before ≠ [] then
          before.reverse ++ '\n' :: s.cut fuel behind (s.columnOf behind.reverse) (c :: rest)
        else if row = [] then s.cut fuel [c] next rest
        else row.reverse ++ '\n' :: s.cut fuel [] 0 (c :: rest)

def Style.text (s : Style) (text : String) : String :=
  String.ofList (s.cut (3 * text.length + 1) [] 0 text.toList)

/-- A number behind a dash stands for a width. -/
def withShortForm (a : String) : String :=
  match a.toList with
  | '-' :: d :: ds => if (d :: ds).all (·.isDigit) then "-w" ++ String.ofList (d :: ds) else a
  | _ => a

end Folding

def fold (arguments : List String) : Proc Nat :=
  let flags := [Options.flag "b" "bytes", Options.flag "s" "spaces", Options.valued "w" "width"]
  let arguments := arguments.take 1 ++ (arguments.drop 1).map Folding.withShortForm
  withOptions flags true 1 arguments fun command given operands => do
    let text := (given.last? "w").getD "80"
    let refused (ending : String) : Proc Nat :=
      failWith command (s!"invalid number of columns: {Quoting.quoted text}" ++ ending) 1
    match Amount.read "" text with
    | .error reason => refused reason.ending
    | .ok 0 => refused Amount.Misread.outOfRange
    | .ok width =>
      let style : Folding.Style := ⟨width, given.has "s", given.has "b"⟩
      withTexts command (inputNames operands) fun _ text => emit command (style.text text) 0

end LinkBench.Host.Utility
