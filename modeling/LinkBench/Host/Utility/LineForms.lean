import LinkBench.Host.Utility.Hunks
import LinkBench.Host.Utility.Printf
/-!
Differences in forms of the user's own: one form for each kind of line, and one for each kind of group of
lines. A form is text in which a percent sign stands before what is filled in.
-/

namespace LinkBench.Host.Utility

/-- What a group of lines is: lines that both texts have, that one of them has, or that one has in the
place of others. -/
inductive GroupKind
  | unchanged
  | old
  | new
  | changed
  deriving DecidableEq

/-- A group of lines: its place in both texts. -/
structure LineGroup where
  kind : GroupKind
  place : Edits.Replacement

/-- The forms of lines and groups. A group without a form of its own is made of that for lines that
one text has in the place of others, or of its lines. -/
structure LineForms where
  line : GroupKind → String
  group : GroupKind → Option String

namespace LineForms

def start : LineForms := ⟨fun _ => "%l\n", fun _ => none⟩

def withLine (f : LineForms) (k : GroupKind) (form : String) : LineForms :=
  { f with line := fun other => if other = k then form else f.line other }

def withGroup (f : LineForms) (k : GroupKind) (form : String) : LineForms :=
  { f with group := fun other => if other = k then some form else f.group other }

/-- The forms that leave it to a name which of two texts a reader of programs sees. -/
def conditional (name : String) : LineForms :=
  let f := (start.withGroup .old s!"#ifndef {name}\n%<#endif /* ! {name} */\n").withGroup .new
    s!"#ifdef {name}\n%>#endif /* {name} */\n"
  f.withGroup .changed s!"#ifndef {name}\n%<#else /* {name} */\n%>#endif /* {name} */\n"

def groupForm (f : LineForms) (k : GroupKind) : String :=
  let old := (f.group .old <|> f.group .changed).getD "%<"
  let new := (f.group .new <|> f.group .changed).getD "%>"
  match k with
  | .unchanged => (f.group .unchanged).getD "%="
  | .old => old
  | .new => new
  | .changed => (f.group .changed).getD (old ++ new)

/-- The number that a letter stands for in a group: a capital means the second text. -/
def value? (g : LineGroup) (letter : Char) : Option Nat :=
  let (start, count) := if letter.isUpper then (g.place.right, g.place.added)
    else (g.place.left, g.place.removed)
  match letter.toLower with
  | 'e' => some start
  | 'f' => some (start + 1)
  | 'l' => some (start + count)
  | 'm' => some (start + count + 1)
  | 'n' => some count
  | _ => none

/-- Reads a character between quotes, or its code behind a backslash. -/
def quotedChar? : List Char → Option (Char × List Char)
  | '\'' :: '\\' :: rest =>
    let digits := rest.takeWhile fun c => '0' ≤ c && c ≤ '7'
    match rest.drop digits.length with
    | '\'' :: rest =>
      if 1 ≤ digits.length ∧ digits.length ≤ 3 then
        some (Char.ofNat (Nat.ofDigitChars 8 digits 0 % 256), rest)
      else none
    | _ => none
  | '\'' :: c :: '\'' :: rest => if c = '\'' then none else some (c, rest)
  | _ => none

/-- Reads a number to be filled in, or a character: what stands for it, with the values of letters. -/
def filled? (value : Char → Option Nat) (cs : List Char) : Option (String × List Char) :=
  let flags := cs.takeWhile fun c => c == '-' || c == '\'' || c == '0'
  let cs := cs.drop flags.length
  let width := cs.takeWhile (·.isDigit)
  let cs := cs.drop width.length
  let (precision, cs) := match cs with
    | '.' :: rest =>
      let digits := rest.takeWhile (·.isDigit)
      (some (Int.ofNat (Nat.ofDigitChars 10 digits 0)), rest.drop digits.length)
    | _ => (none, cs)
  match cs with
  | 'c' :: rest => (quotedChar? rest).map fun (c, rest) => (String.singleton c, rest)
  | letter :: name :: rest =>
    if letter ∈ ['d', 'o', 'x', 'X'] then
      (value name).map fun n =>
        let d : Printf.Directive :=
          ⟨"", flags, some (Int.ofNat (Nat.ofDigitChars 10 width 0)), precision, letter⟩
        (d.unsignedText n, rest)
    else none
  | _ => none

/-- A line in its form. The fuel bounds the length of the form. -/
def lineFrom (l : DiffLine) (number : Nat) : Nat → List Char → String
  | 0, _ | _, [] => ""
  | fuel + 1, '%' :: cs =>
    match cs with
    | '%' :: rest => "%" ++ lineFrom l number fuel rest
    | 'l' :: rest => l.text ++ lineFrom l number fuel rest
    | 'L' :: rest => l.text ++ (if l.isEnded then "\n" else "") ++ lineFrom l number fuel rest
    | cs =>
      match filled? (fun c => if c = 'n' then some number else none) cs with
      | some (text, rest) => text ++ lineFrom l number fuel rest
      | none => "%" ++ lineFrom l number fuel cs
  | fuel + 1, c :: cs => String.singleton c ++ lineFrom l number fuel cs

/-- Lines of a text from a place on, in the form for a kind. -/
def lines (f : LineForms) (k : GroupKind) (ls : List DiffLine) (start : Nat) : String :=
  let form := (f.line k).toList
  String.join ((ls.zipIdx start).map fun (l, i) => lineFrom l (i + 1) form.length form)

/-- One side of a comparison in a form: a number, or the letter of one. -/
def operand? (g : LineGroup) (cs : List Char) : Option (Nat × List Char) :=
  let digits := cs.takeWhile (·.isDigit)
  if digits ≠ [] then some (Nat.ofDigitChars 10 digits 0, cs.drop digits.length)
  else
    match cs with
    | c :: rest => (value? g c).map (·, rest)
    | [] => none

/-- A group in its form, up to a character that ends the form. Yields what is behind that. The fuel bounds
the length of the form. -/
def groupFrom (f : LineForms) (d : Differences) (g : LineGroup) :
    Nat → Option Char → List Char → String × List Char
  | 0, _, cs => ("", cs)
  | _, _, [] => ("", [])
  | fuel + 1, ending, c :: cs =>
    let after (text : String) (rest : List Char) : String × List Char :=
      let (others, rest) := f.groupFrom d g fuel ending rest
      (text ++ others, rest)
    if some c = ending then ("", cs)
    else if c ≠ '%' then after (String.singleton c) cs
    else
      let p := g.place
      match cs with
      | '%' :: rest => after "%" rest
      | '<' :: rest => after (f.lines .old (d.removed p) p.left) rest
      | '>' :: rest => after (f.lines .new (d.added p) p.right) rest
      | '=' :: rest => after (f.lines .unchanged (d.removed p) p.left) rest
      | '(' :: rest =>
        let condition? : Option (Bool × List Char) := do
          let (a, rest) ← operand? g rest
          let rest ← if rest.head? = some '=' then some rest.tail else none
          let (b, rest) ← operand? g rest
          if rest.head? = some '?' then some (a == b, rest.tail) else none
        match condition? with
        | some (holds, rest) =>
          let (yes, rest) := f.groupFrom d g fuel (some ':') rest
          let (no, rest) := f.groupFrom d g fuel (some ')') rest
          after (if holds then yes else no) rest
        | none => after "%" cs
      | cs =>
        match filled? (value? g) cs with
        | some (text, rest) => after text rest
        | none => after "%" cs

def filledGroup (f : LineForms) (d : Differences) (g : LineGroup) : String :=
  let form := (f.groupForm g.kind).toList
  (f.groupFrom d g (form.length + 1) none form).1

/-- The groups of two texts, from two places on. -/
def groupsFrom (s : DiffStyle) (d : Differences) : Nat → Nat → List Edits.Replacement → List LineGroup
  | i, j, [] => [⟨.unchanged, ⟨i, d.left.size - i, j, d.right.size - j⟩⟩]
  | i, j, r :: rs =>
    if s.counts d r then
      let kind : GroupKind := if r.removed = 0 then .new else if r.added = 0 then .old else .changed
      ⟨.unchanged, ⟨i, r.left - i, j, r.right - j⟩⟩ :: ⟨kind, r⟩ ::
        groupsFrom s d r.leftStop r.rightStop rs
    else groupsFrom s d i j rs

/-- All groups that have lines. -/
def groups (s : DiffStyle) (d : Differences) : List LineGroup :=
  (groupsFrom s d 0 0 d.replacements).filter fun g => 0 < g.place.removed + g.place.added

def shown (f : LineForms) (s : DiffStyle) (d : Differences) : String :=
  String.join ((groups s d).map (f.filledGroup d))

/-- Whether texts without differences are shown too. -/
def showsSame (f : LineForms) : Bool :=
  f.groupForm .unchanged != "" && !(f.groupForm .unchanged == "%=" && f.line .unchanged == "")

end LineForms

end LinkBench.Host.Utility
