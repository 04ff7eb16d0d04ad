import LinkBench.Path
import LinkBench.Host.Utility.Awk.Pattern
/-!
Cutting texts: a text into lines at what ends them, and a line into fields at what stands between them.
-/

namespace LinkBench.Host.Utility.Awk

/-- What divides a text. -/
inductive Divider
  /-- Blanks, which also may stand around the text. -/
  | blanks
  | char (c : Char)
  /-- Every character is a piece. -/
  | each
  | regex (r : Regex)

namespace Divider

/-- The divider that a text means. -/
def ofText (text : String) : Divider :=
  match text.toList with
  | [] => .each
  | [' '] => .blanks
  | [c] => .char c
  | cs =>
    match Pattern.read (String.ofList cs) with
    | .ok r => .regex r
    | .error _ => .char (cs.headD ' ')

def isBlank (c : Char) : Bool := c == ' ' || c == '\t' || c == '\n'

/-- The first match with at least one character, from one of so many places on. -/
def find? (r : Regex) (s : Regex.Subject) : Nat → Nat → Option (Nat × Nat)
  | 0, _ => none
  | count + 1, i =>
    match r.matchAt? s i with
    | some m => if m.start < m.stop then some (m.start, m.stop) else find? r s count (i + 1)
    | none => find? r s count (i + 1)

/-- The words of a text. The fuel bounds its length. -/
def words : Nat → List Char → List String
  | 0, _ => []
  | fuel + 1, cs =>
    let rest := cs.dropWhile isBlank
    if rest = [] then []
    else
      let word := rest.takeWhile fun c => !isBlank c
      String.ofList word :: words fuel (rest.drop word.length)

/-- What stands between the matches of an expression, from a place on. The fuel bounds their number. -/
def between (r : Regex) (s : Regex.Subject) : Nat → Nat → List String
  | 0, _ => []
  | fuel + 1, start =>
    match find? r s (s.text.size + 1 - start) start with
    | some (i, j) => String.ofList (s.text.extract start i).toList :: between r s fuel j
    | none => [String.ofList (s.text.extract start s.text.size).toList]

/-- The pieces of a text; one without characters has none. -/
def split (d : Divider) (text : String) : List String :=
  let cs := text.toList
  if cs = [] then []
  else
    match d with
    | .blanks => words (cs.length + 1) cs
    | .char c => (splitAtEach c cs).map String.ofList
    | .each => cs.map String.singleton
    | .regex r => between r ⟨cs.toArray, false, false⟩ (cs.length + 1) 0

end Divider

/-! ### Lines -/

/-- What ends lines. -/
inductive LineEnd
  | char (c : Char)
  /-- Empty lines; those in front of the text do not count. -/
  | emptyLines
  | regex (r : Regex)

namespace LineEnd

def ofText (text : String) : LineEnd :=
  match text.toList with
  | [] => .emptyLines
  | [c] => .char c
  | cs =>
    match Pattern.read (String.ofList cs) with
    | .ok r => .regex r
    | .error _ => .char '\n'

/-- Cuts at the first empty line. -/
def cutParagraph : List Char → List Char → List Char × List Char
  | before, '\n' :: '\n' :: rest => (before.reverse, rest)
  | before, c :: rest => cutParagraph (c :: before) rest
  | before, [] => (before.reverse, [])

/-- Cuts off the first line of a text; nothing if more of the text must be known, or if there is none. -/
def cut? (e : LineEnd) (isWhole : Bool) (text : List Char) : Option (List Char × List Char) :=
  match e with
  | .char c =>
    let line := text.takeWhile (· != c)
    match text.drop line.length with
    | _ :: rest => some (line, rest)
    | [] => if isWhole ∧ text ≠ [] then some (line, []) else none
  | .emptyLines =>
    if !isWhole then none
    else
      let text := text.dropWhile (· == '\n')
      if text = [] then none
      else
        let (line, rest) := cutParagraph [] text
        let line := if rest = [] then (if line.getLast? = some '\n' then line.dropLast else line)
          else line
        some (line, rest.dropWhile (· == '\n'))
  | .regex r =>
    if !isWhole then none
    else if text = [] then none
    else
      let s : Regex.Subject := ⟨text.toArray, false, false⟩
      match Divider.find? r s (s.text.size + 1) 0 with
      | some (i, j) => some (text.take i, text.drop j)
      | none => some (text, [])

end LineEnd

end LinkBench.Host.Utility.Awk
