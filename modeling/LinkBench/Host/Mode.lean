import LinkBench.Host.CharSet
import LinkBench.FileSystem.Basic
/-!
Modes: who may read, write and execute a file, in three bits for each kind of user, and three bits in front
of them. A text changes a mode: digits set it, and clauses such as `u+x` set some of its bits.
-/

namespace LinkBench.Host.Mode

/-- All bits of a mode. -/
def all : Nat := 0o7777

/-- The bits that a new directory, a new program and another new file have if nothing takes them away. -/
def fullDirectory : Nat := 0o777

def fullProgram : Nat := 0o777

def fullFile : Nat := 0o666

/-- The bits that are taken away from what is new if nothing else is said. -/
def usualMask : Nat := 0o022

/-- The bits of a mode that a mask lets through. -/
def masked (mask mode : Nat) : Nat := mode &&& (all - mask % (all + 1))

/-- The full bits of a new entry. -/
def full : Entry → Nat
  | .directory => fullDirectory
  | .file _ true => fullProgram
  | .file _ false => fullFile
  | .device _ => fullFile

/-- The usual bits of an entry: its owner may write, and all may do the rest. -/
def ofEntry : Entry → Nat
  | .directory => 0o755
  | .file _ true => 0o755
  | .file _ false => 0o644
  | .device _ => 0o666

def isExecutable (mode : Nat) : Bool := mode &&& 0o111 != 0

/-- The bits of a mode as letters, three for each kind of user. The bits in front of them change the last
letter of each kind. -/
def letters (mode : Nat) : String :=
  let has (n : Nat) : Bool := mode.testBit n
  let bit (n : Nat) (c : Char) : Char := if has n then c else '-'
  let last (n special : Nat) (both alone : Char) : Char :=
    if has special then (if has n then both else alone) else bit n 'x'
  String.ofList [bit 8 'r', bit 7 'w', last 6 11 's' 'S', bit 5 'r', bit 4 'w', last 3 10 's' 'S',
    bit 2 'r', bit 1 'w', last 0 9 't' 'T']

def octal (mode : Nat) : String :=
  String.ofList ((Nat.toDigits 8 mode).leftpad 4 '0')

/-! ### Changes -/

/-- How the bits of a clause are found. -/
inductive Bits
  | plain (bits : Nat)
  /-- The bits that the mode has for one kind of user. -/
  | copied (bits : Nat)
  /-- Bits with those to execute, if the mode has some of those already or is that of a directory. -/
  | ifExecutable (bits : Nat)
  deriving DecidableEq

/-- One action: its sign, the bits that it may concern, and the bits that it names. Of a directory, the
bits that are not mentioned stay. -/
structure Action where
  sign : Char
  users : Nat
  bits : Bits
  mentioned : Nat

/-- What a text makes of modes. -/
abbrev Recipe := List Action

/-- The bits that one kind of user is concerned by. -/
def usersOf (c : Char) : Nat :=
  match c with
  | 'u' => 0o4700
  | 'g' => 0o2070
  | 'o' => 0o1007
  | _ => all

def isOctal (c : Char) : Bool := '0' ≤ c && c ≤ '7'

def isSign (c : Char) : Bool := c == '+' || c == '-' || c == '='

/-- Reads the bits behind a sign. -/
def readBits (users : Nat) (cs : List Char) : Option (Bits × Nat × Nat × List Char) :=
  match cs with
  | 'u' :: rest => some (.copied 0o700, users, if users = 0 then 0o700 else users &&& 0o700, rest)
  | 'g' :: rest => some (.copied 0o070, users, if users = 0 then 0o070 else users &&& 0o070, rest)
  | 'o' :: rest => some (.copied 0o007, users, if users = 0 then 0o007 else users &&& 0o007, rest)
  | cs =>
    let digits := cs.takeWhile isOctal
    if digits ≠ [] then
      let rest := cs.drop digits.length
      let n := Nat.ofDigitChars 8 digits 0
      if all < n ∨ users ≠ 0 ∨ (rest ≠ [] ∧ rest.head? ≠ some ',') then none
      else some (.plain n, all, all, rest)
    else
      let named := cs.takeWhile fun c => "rwxXst".toList.contains c
      let bits := (named.map fun c =>
        match c with
        | 'r' => 0o444
        | 'w' => 0o222
        | 'x' => 0o111
        | 's' => 0o6000
        | 't' => 0o1000
        | _ => 0).foldl (· ||| ·) 0
      let mentioned := if users = 0 then bits else users &&& bits
      some (if named.contains 'X' then .ifExecutable bits else .plain bits, users, mentioned,
        cs.drop named.length)

/-- Reads the actions of a clause. The fuel bounds their number. -/
def readActions (users : Nat) : Nat → List Char → Option (Recipe × List Char)
  | fuel + 1, c :: cs =>
    if isSign c then do
      let (bits, users', mentioned, rest) ← readBits users cs
      let (others, rest) ← readActions users fuel rest
      return (⟨c, users', bits, mentioned⟩ :: others, rest)
    else some ([], c :: cs)
  | _, cs => some ([], cs)

/-- Reads a clause: the users that it concerns, and actions. -/
def readClause (cs : List Char) : Option Recipe := do
  let named := cs.takeWhile fun c => "ugoa".toList.contains c
  let users := (named.map usersOf).foldl (· ||| ·) 0
  match ← readActions users (cs.length + 1) (cs.drop named.length) with
  | ([], _) => none
  | (actions, []) => some actions
  | (_, _ :: _) => none

/-- Reads what is to be made of a mode. -/
def Recipe.read? (text : String) : Option Recipe :=
  let cs := text.toList
  if cs.head?.any isOctal then
    let n := Nat.ofDigitChars 8 cs 0
    let mentioned := if cs.length < 5 then (n &&& 0o6000) ||| 0o1777 else all
    if cs.all isOctal ∧ n ≤ all then some [⟨'=', all, .plain n, mentioned⟩] else none
  else ((splitAtEach ',' cs).mapM readClause).map List.flatten

/-- What an action makes of a mode. Where it names no users, it leaves the bits of the mask alone. -/
def Action.apply (isDirectory : Bool) (mask : Nat) (a : Action) (mode : Nat) : Nat :=
  let omitted := if isDirectory then 0o6000 &&& (all - a.mentioned) else 0
  let bits := match a.bits with
    | .plain bits => bits
    | .copied bits =>
      let kept := bits &&& mode
      (if kept &&& 0o444 ≠ 0 then 0o444 else 0) ||| (if kept &&& 0o222 ≠ 0 then 0o222 else 0) |||
        (if kept &&& 0o111 ≠ 0 then 0o111 else 0)
    | .ifExecutable bits => if isDirectory ∨ isExecutable mode then bits ||| 0o111 else bits
  let concerned := if a.users = 0 then all - mask % (all + 1) else a.users
  let bits := bits &&& concerned &&& (all - omitted)
  match a.sign with
  | '+' => mode ||| bits
  | '-' => mode &&& (all - bits)
  | _ =>
    let preserved := (if a.users = 0 then 0 else all - a.users) ||| omitted
    (mode &&& preserved) ||| bits

def Recipe.apply (isDirectory : Bool) (mask : Nat) (r : Recipe) (mode : Nat) : Nat :=
  r.foldl (fun mode a => a.apply isDirectory mask mode) mode

end LinkBench.Host.Mode
