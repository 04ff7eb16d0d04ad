import LinkBench.Host.Utility.Quoting
/-!
Texts as a shell would read them back. Each dialect has quotes of its own, and the larger one chooses
them by what is in the text. Texts have one character for each byte.
-/

namespace LinkBench.Host.Shell.Quoted

open LinkBench.Host.Utility

/-- Cuts a text into runs of quotes and of other characters. -/
def runs (cs : List Char) : List (List Char) :=
  cs.splitBy fun a b => (a == '\'') == (b == '\'')

/-- A text between single quotes; quotes inside of it get double ones. -/
def alternating (text : String) : String :=
  let runs := runs text.toList
  let shown := runs.map fun run =>
    if run.head? = some '\'' then "\"" ++ String.ofList run ++ "\""
    else "'" ++ String.ofList run ++ "'"
  match runs with
  | [] => "''"
  | run :: _ => (if run.head? = some '\'' then "''" else "") ++ String.join shown

/-- A text between single quotes; quotes inside of it get backslashes. -/
def single (text : String) : String :=
  if text = "'" then "\\'" else "'" ++ text.replace "'" "'\\''" ++ "'"

/-- Whether something in a text cannot be printed. -/
def needsEscapes (text : String) : Bool :=
  (Quoting.printables text.toList).any fun x => !x.2

/-- A text between quotes in which backslashes stand for what cannot be printed. -/
def escaped (text : String) : String :=
  let shown := (Quoting.printables text.toList).flatMap fun (c, isShown) =>
    if c = '\'' ∨ c = '\\' then ['\\', c]
    else if isShown then [c]
    else '\\' :: (if c = '\x1b' then ['E'] else (Quoting.escapeCode c).toList)
  "$'" ++ String.ofList shown ++ "'"

/-- Whether a character at a place of a text means something to the extended dialect; `before` is the
character in front of it. -/
def isMeta (before : Option Char) (c : Char) : Bool :=
  if c = '~' then before.isNone || before == some '=' || before == some ':'
  else if c = '#' then before.isNone
  else c ∈ " \t\n'\"\\|&;()<>!\x7b\x7d*[?]^$\x60".toList

def hasMeta (text : String) : Bool :=
  let cs := text.toList
  (cs.zip (none :: cs.map some)).any fun (c, before) => isMeta before c

/-- A text between double quotes, as values are printed. -/
def double (text : String) : String :=
  if needsEscapes text then escaped text
  else
    "\"" ++ String.ofList (text.toList.flatMap fun c =>
      if c ∈ ['"', '\\', '$', '\x60'] then ['\\', c] else [c]) ++ "\""

/-- A text between quotes of the simplest kind. -/
def reusable (text : String) : String :=
  if needsEscapes text then escaped text else single text

/-- A text between quotes where it needs them. -/
def whereNeeded (text : String) : String :=
  if needsEscapes text then escaped text
  else if hasMeta text then single text
  else text

/-- A word of a command that is shown before it runs. -/
def traced (text : String) : String :=
  if text = "" then "''" else whereNeeded text

/-- The key of an element. -/
def keyed (key : String) : String :=
  if needsEscapes key ∨ hasMeta key ∨ key = "@" then double key else key

/-- A text with backslashes in front of what means something. -/
def backslashed (text : String) : String :=
  if text = "" then "''"
  else if needsEscapes text then escaped text
  else
    let cs := text.toList
    String.ofList ((cs.zip (none :: cs.map some)).flatMap fun (c, before) =>
      if isMeta before c || c == ',' then ['\\', c] else [c])

end LinkBench.Host.Shell.Quoted
