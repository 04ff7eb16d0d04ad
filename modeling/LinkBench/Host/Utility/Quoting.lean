import LinkBench.ByteText
/-!
Names in messages. Programs put quotes around names so that a shell would read them back, and write
what cannot be printed by its code. Texts have one character for each byte; what the bytes of a
character that can be printed stand for is left as it is.
-/

namespace LinkBench.Host.Utility.Quoting

def isPrintable (c : Char) : Bool := ' ' ≤ c && c ≤ '~'

/-- Whether a character beyond the first ones can be printed. -/
def isPrintableBeyond (c : Char) : Bool :=
  0xa0 ≤ c.toNat && c.toNat != 0x2028 && c.toNat != 0x2029 && c.toNat % 0x10000 < 0xfffe

/-- The letters that stand for control characters behind a backslash. -/
def controlLetters : List (Char × Char) :=
  [('\x07', 'a'), ('\x08', 'b'), ('\x0c', 'f'), ('\n', 'n'), ('\r', 'r'), ('\t', 't'),
    ('\x0b', 'v')]

def octalDigit (n : Nat) : Char := Char.ofNat (48 + n % 8)

/-- What follows the backslash for a character that cannot be printed. -/
def escapeCode (c : Char) : String :=
  match controlLetters.lookup c with
  | some letter => String.singleton letter
  | none =>
    let n := c.toNat
    String.ofList [octalDigit (n / 64), octalDigit (n / 8), octalDigit n]

/-- The bytes of a text, each with whether it is a part of something that can be printed. -/
def printables (text : List Char) : List (Char × Bool) :=
  (ByteText.units text).flatMap fun (bytes, encoded) =>
    let isShown := match encoded with
      | some c => isPrintable c || isPrintableBeyond c
      | none => false
    bytes.map fun b => (b, isShown)

/-- A text with backslashes before some characters and before backslashes. -/
def escaped (isMarked : Char → Bool) (text : String) : String :=
  String.ofList <| (printables text.toList).flatMap fun (c, isShown) =>
    if isMarked c ∨ c = '\\' then ['\\', c]
    else if isShown then [c]
    else '\\' :: (escapeCode c).toList

/-- A text between quotes, with backslashes before quotes and backslashes. -/
def backslashed (quote : Char) (text : String) : String :=
  String.singleton quote ++ escaped (· == quote) text ++ String.singleton quote

/-- A text between the quotes of print. -/
def quoted (text : String) : String :=
  ByteText.encode "‘" ++ escaped (fun _ => false) text ++ ByteText.encode "’"

/-- Whether a shell takes a character of a name for more than itself. -/
def isSpecial (text : List Char) (i : Nat) (c : Char) : Bool :=
  if c = '\x7b' ∨ c = '\x7d' then text.length = 1
  else if c = '#' ∨ c = '~' then i = 0
  else c ∈ " ?\\!\"$&()*;<=>[^\x60|'".toList

/-- Whether a character of a name stands for itself between either quotes. -/
def isTame (i : Nat) (c : Char) : Bool :=
  c.isAlphanum || c ∈ " '%+,-./:]_@".toList || '\x7f' < c || (i = 0 && (c = '#' || c = '~'))

/-- The rest of a text behind an opening single quote; `escaping` says that the quotes of codes are
open. -/
def singleQuotes : Bool → List (Char × Bool) → List Char
  | _, [] => ['\'']
  | escaping, (c, isShown) :: rest =>
    if c = '\'' then
      ['\'', '\\', '\'', '\''] ++ singleQuotes false rest
    else if isShown then
      (if escaping then ['\'', '\''] else []) ++ c :: singleQuotes false rest
    else
      let start := if escaping then [] else ['\'', '$', '\'']
      start ++ '\\' :: (escapeCode c).toList ++ singleQuotes true rest

/-- A name between quotes that a shell would read back. -/
def always (text : String) : String :=
  let shown := printables text.toList
  if shown.any (·.1 == '\'') && shown.zipIdx.all (fun ((c, isShown), i) => isShown && isTame i c) then
    backslashed '"' text
  else
    String.ofList ('\'' :: singleQuotes false shown)

/-- A name, between quotes only if it needs them. -/
def named (text : String) : String :=
  let cs := text.toList
  if cs = [] ∨ cs.contains ':' ∨ (printables cs).zipIdx.any fun ((c, isShown), i) =>
      isSpecial cs i c || !isShown
  then always text
  else text

end LinkBench.Host.Utility.Quoting

namespace LinkBench.Host.Utility

/-- Who a command speaks as that exists three times: in both dialects of the shell and as a program. It does
the same each time, but each has words of its own. -/
inductive Speaker
  | plain
  | extended
  | program
  deriving DecidableEq, Repr

end LinkBench.Host.Utility
