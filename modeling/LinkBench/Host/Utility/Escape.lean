import LinkBench.ByteText
/-!
Backslashes in texts that are printed. Which ones mean something is a matter of who prints; the rest
stays as it is. Texts have one character for each byte.
-/

namespace LinkBench.Host.Utility

/-- What backslashes mean. -/
structure EscapeRules where
  /-- Up to three octal digits stand for a byte. -/
  octal : Bool
  /-- A zero may stand before three octal digits. -/
  leadingZero : Bool
  /-- The letter `x` and two digits stand for a byte. -/
  hex : Bool
  /-- The letters `u` and `U` and digits stand for a character. -/
  unicode : Bool
  /-- The letter `c` ends the output. -/
  stops : Bool
  /-- The letter `c` and another one stand for a control character, and braces stand around any number of
  digits behind `x`. -/
  controls : Bool
  /-- Characters that stand for themselves. -/
  plain : List Char
  /-- The letters of the escape character. -/
  escapes : List Char

namespace EscapeRules

/-- In formats of the plain dialect. -/
def plainFormat : EscapeRules := ⟨true, false, false, false, false, false, [], ['e']⟩

/-- In arguments of the plain dialect. -/
def plainArgument : EscapeRules := { plainFormat with leadingZero := true, stops := true }

/-- In formats of the extended dialect. -/
def extendedFormat : EscapeRules :=
  ⟨true, false, true, true, false, false, ['"', '\'', '?'], ['e', 'E']⟩

def extendedArgument : EscapeRules :=
  { extendedFormat with leadingZero := true, stops := true, plain := [] }

/-- In what `echo -e` prints in the extended dialect. -/
def extendedEcho : EscapeRules := { extendedArgument with octal := false }

/-- Between quotes in which escapes are resolved. -/
def extendedQuote : EscapeRules := { extendedFormat with controls := true }

/-- In formats of the program. -/
def programFormat : EscapeRules := ⟨true, false, true, true, true, false, ['"'], ['e']⟩

def programArgument : EscapeRules := { programFormat with leadingZero := true }

/-- In what the program `echo -e` prints. -/
def programEcho : EscapeRules := { programArgument with unicode := false, plain := [] }

end EscapeRules

namespace Escape

/-- The characters behind a backslash that stand for a control character. -/
def controls : List (Char × Char) :=
  [('a', '\x07'), ('b', '\x08'), ('f', '\x0c'), ('n', '\n'), ('r', '\r'), ('t', '\t'),
    ('v', '\x0b'), ('\\', '\\')]

def isOctal (c : Char) : Bool := '0' ≤ c && c ≤ '7'

def hexValue? (c : Char) : Option Nat :=
  if c.isDigit then some (c.toNat - 48)
  else if 'a' ≤ c ∧ c ≤ 'f' then some (c.toNat - 87)
  else if 'A' ≤ c ∧ c ≤ 'F' then some (c.toNat - 55)
  else none

/-- The byte of a number. -/
def byte (n : Nat) : Char := Char.ofNat (n % 256)

def octalByte (digits : List Char) : Char :=
  byte (digits.foldl (fun n c => n * 8 + (c.toNat - 48)) 0)

def hexNumber (digits : List Char) : Nat :=
  digits.foldl (fun n d => n * 16 + (hexValue? d).getD 0) 0

/-- The bytes of a character with a number; the numbers go further than those of characters do. -/
def characterBytes (n : Nat) : List Char :=
  let more (count : Nat) : List Char :=
    (List.range count).map fun i => Char.ofNat (0x80 + n / Nat.pow 64 (count - 1 - i) % 64)
  if n < 0x80 then [Char.ofNat n]
  else if n < 0x800 then Char.ofNat (0xc0 + n / 64) :: more 1
  else if n < 0x10000 then Char.ofNat (0xe0 + n / Nat.pow 64 2) :: more 2
  else if n < 0x200000 then Char.ofNat (0xf0 + n / Nat.pow 64 3) :: more 3
  else if n < 0x4000000 then Char.ofNat (0xf8 + n / Nat.pow 64 4) :: more 4
  else Char.ofNat (0xfc + n / Nat.pow 64 5 % 2) :: more 5

/-- The control character of a letter. -/
def controlOf (c : Char) : Char :=
  if c = '?' then '\x7f' else Char.ofNat (c.toUpper.toNat % 32)

/-- Reads hexadecimal digits, at most so many of them. -/
def takeHex (most : Nat) (cs : List Char) : List Char :=
  (cs.take most).takeWhile fun d => (hexValue? d).isSome

/-- What a backslash and what follows it stand for, and the rest behind. -/
def one? (rules : EscapeRules) (cs : List Char) : Option (List Char × List Char) :=
  match cs with
  | [] => none
  | c :: rest =>
    match controls.lookup c with
    | some control => some ([control], rest)
    | none =>
      if rules.escapes.contains c then some (['\x1b'], rest)
      else if rules.plain.contains c then some ([c], rest)
      else if c = '0' ∧ rules.leadingZero then
        let digits := (rest.take 3).takeWhile isOctal
        some ([octalByte digits], rest.drop digits.length)
      else if isOctal c ∧ rules.octal then
        let digits := (cs.take 3).takeWhile isOctal
        some ([octalByte digits], cs.drop digits.length)
      else if c = 'x' ∧ rules.controls ∧ rest.head? = some '\x7b' then
        let digits := takeHex rest.length rest.tail
        let behind := rest.tail.drop digits.length
        some ([byte (hexNumber digits)],
          if behind.head? = some '\x7d' then behind.tail else behind)
      else if c = 'x' ∧ rules.hex then
        let digits := takeHex 2 rest
        if digits = [] then none else some ([byte (hexNumber digits)], rest.drop digits.length)
      else if (c = 'u' ∨ c = 'U') ∧ rules.unicode then
        let digits := takeHex (if c = 'u' then 4 else 8) rest
        if digits = [] then none
        else some (characterBytes (hexNumber digits), rest.drop digits.length)
      else if c = 'c' ∧ rules.controls then
        match rest with
        | [] => none
        | '\\' :: '\\' :: rest => some ([controlOf '\\'], rest)
        | c :: rest => some ([controlOf c], rest)
      else
        none

/-- A text with its escapes resolved, and whether the output stops there. The fuel bounds its
length. -/
def resolve (rules : EscapeRules) : Nat → List Char → List Char × Bool
  | 0, cs => (cs, false)
  | _, [] => ([], false)
  | fuel + 1, '\\' :: rest =>
    if rest.head? = some 'c' ∧ rules.stops then
      ([], true)
    else
      let (shown, rest) := (one? rules rest).getD (['\\'], rest)
      let (cs, stop) := resolve rules fuel rest
      (shown ++ cs, stop)
  | fuel + 1, c :: rest =>
    let (cs, stop) := resolve rules fuel rest
    (c :: cs, stop)

def text (rules : EscapeRules) (s : String) : String × Bool :=
  let (cs, stop) := resolve rules (s.length + 1) s.toList
  (String.ofList cs, stop)

end Escape

end LinkBench.Host.Utility
