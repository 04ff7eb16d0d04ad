import LinkBench.ByteText
import LinkBench.FileSystem.Operations
import LinkBench.Host.Shell.Pattern
/-!
From characters to fields. What a word stands for is a row of items; the row is cut into fields at
separators that have come out of parameters and commands, and a field that is a pattern becomes the
paths that match it.
-/

namespace LinkBench.Host.Shell

inductive Item
  /-- A character, whether it is quoted, and whether it may separate fields. -/
  | char (c : Char) (quoted splits : Bool)
  /-- The border between two fields. -/
  | split
  /-- A place where there is a field even if it is empty. -/
  | quotes
  deriving DecidableEq

/-- The characters of a field, each with whether it is quoted. -/
abbrev Field := List (Char × Bool)

namespace Field

def text (f : Field) : String := String.ofList (f.map (·.1))

end Field

namespace Item

def ofQuoted (text : String) : List Item :=
  .quotes :: text.toList.map fun c => .char c true false

def ofUnquoted (text : String) : List Item :=
  text.toList.map fun c => .char c false true

/-- The same item where unquoted characters may separate fields. -/
def splitting : Item → Item
  | .char c false _ => .char c false true
  | item => item

def isBlank (c : Char) : Bool := c == ' ' || c == '\t' || c == '\n'

/-- How far a row of items has been cut: the fields in backward order, the current field in backward
order if there is one, and whether the last field was ended by a blank, so that another separator
may still belong to that end. -/
structure Cut where
  fields : List Field
  current : Option Field
  afterBlank : Bool

def Cut.close (cut : Cut) (afterBlank : Bool) : Cut :=
  match cut.current with
  | some f => ⟨f.reverse :: cut.fields, none, afterBlank⟩
  | none => { cut with afterBlank := cut.afterBlank && afterBlank }

def Cut.step (separators : List Char) (cut : Cut) : Item → Cut
  | .char c quoted splits =>
    if splits && separators.contains c then
      if isBlank c then cut.close true
      else if cut.current.isNone && cut.afterBlank then { cut with afterBlank := false }
      else ⟨((cut.current.getD []).reverse) :: cut.fields, none, false⟩
    else
      { cut with current := some ((c, quoted) :: cut.current.getD []), afterBlank := false }
  | .quotes => { cut with current := some (cut.current.getD []), afterBlank := false }
  | .split => { cut.close false with afterBlank := false }

/-- Cuts items into fields. Nothing between two borders is no field, unless it was quoted. A separator
that is no blank ends a field even if the field is empty, and takes the blanks around it along. -/
def fields (separators : List Char) (items : List Item) : List Field :=
  let cut := items.foldl (Cut.step separators) ⟨[], none, false⟩
  (cut.close false).fields.reverse

/-- The characters of items that are not cut into fields; borders become a separator. -/
def joined (separator : List Char) (items : List Item) : Field :=
  items.flatMap fun
    | .char c quoted _ => [(c, quoted)]
    | .split => separator.map fun c => (c, true)
    | .quotes => []

end Item

namespace Field

/-- Cuts a field at its slashes. -/
def pieces (f : Field) : List Field :=
  f.foldr
    (fun x pieces =>
      if x.1 = '/' then [] :: pieces
      else match pieces with
        | [] => [[x]]
        | piece :: pieces => (x :: piece) :: pieces)
    [[]]

/-- The names by which a directory holds itself and the one above it. -/
def dotNames : List String := [".", ".."]

/-- How paths are matched. -/
structure Globbing where
  rules : PatternRules
  /-- Whether hidden names are matched by patterns that do not begin with a dot. -/
  showsHidden : Bool
  /-- Whether patterns find the names of the directory itself and of the one above. -/
  findsDots : Bool
  /-- Whether two stars stand for directories of any depth. -/
  isDeep : Bool
  /-- Whether capital and small letters are the same. -/
  foldsCase : Bool

namespace Globbing

def plain : Globbing := ⟨.plain, false, true, false, false⟩

def pattern (g : Globbing) (f : Field) : Pattern :=
  Pattern.read g.rules (if g.foldsCase then f.map fun x => (x.1.toLower, x.2) else f)

/-- The text of a field in which nothing is a pattern. -/
def literal (g : Globbing) (f : Field) : String :=
  let cs := (Pattern.read g.rules f).filterMap fun
    | .char c => some c
    | _ => none
  String.ofList (if g.rules.isWide then ByteText.narrow cs else cs)

/-- Whether a name, as a text of bytes, has the form of a pattern. -/
def fits (g : Globbing) (p : Pattern) (name : String) : Bool :=
  let cs := if g.foldsCase then name.toList.map Char.toLower else name.toList
  p.matchesAll (if g.rules.isWide then ByteText.widen cs else cs)

end Globbing

/-- How deep directories are searched. -/
def depthLimit : Nat := 64

/-- The directories below a place, each with its path and a slash behind it, and the other files if they
are wanted. Hidden ones are left out unless they are to be shown. The fuel bounds the depth. -/
def below (showsHidden : Bool) (files : FileSystem) (wantsFiles : Bool) : Nat → String × Place → List (String × Place)
  | 0, _ => []
  | fuel + 1, (path, place) =>
    (files.children place.base).flatMap fun (name, entry) =>
      let shown := path ++ ByteText.encode name.text
      let target : Place := ⟨place.base ++ [name], []⟩
      if name.isHidden && !showsHidden then []
      else match entry with
        | .directory =>
          let own := if wantsFiles then shown else shown ++ "/"
          (own, target) :: below showsHidden files wantsFiles fuel (shown ++ "/", target)
        | _ => if wantsFiles then [(shown, target)] else []

/-- The paths that match a row of patterns from the places reached so far. -/
def matchPaths (g : Globbing) (files : FileSystem) :
    List Field → List (String × Place) → List String
  | [], reached => reached.map (·.1)
  | piece :: rest, reached =>
    let slash := if rest = [] then "" else "/"
    let pattern := g.pattern piece
    let next := reached.flatMap fun (path, place) =>
      if g.isDeep && Field.text piece == "**" then
        (if rest = [] && path == "" then [] else [(path, place)]) ++
          below g.showsHidden files (rest = []) depthLimit (path, place)
      else if pattern.isActive then
        let dots := if !g.findsDots || !pattern.startsWithDot then []
          else dotNames.filterMap fun name =>
            if g.fits pattern name then
              (files.step place name).toOption.map fun target => (path ++ name ++ slash, target)
            else none
        dots ++ (if place.isLive then files.children place.base else []).filterMap fun (name, entry) =>
          let shown := ByteText.encode name.text
          let isVisible := !name.isHidden || g.showsHidden || pattern.startsWithDot
          if isVisible && g.fits pattern shown && (rest = [] || entry.isDirectory) then
            some (path ++ shown ++ slash, ⟨place.base ++ [name], []⟩)
          else
            none
      else
        let literal := g.literal piece
        match files.step place (ByteText.decode literal) with
        | .ok target =>
          if (files.entryAt? target).isSome then [(path ++ literal ++ slash, target)] else []
        | .error _ => []
    matchPaths g files rest next

/-- The paths that a field stands for, in order; there are none if the field is no pattern. -/
def paths (g : Globbing) (files : FileSystem) (cwd : Place) (f : Field) : List String :=
  if (g.pattern f).isActive then
    let found := match pieces f with
      | [] :: rest => matchPaths g files rest [("/", .root)]
      | pieces => matchPaths g files pieces [("", cwd)]
    found.mergeSort fun a b => decide (a ≤ b)
  else
    []

end Field

end LinkBench.Host.Shell
