import LinkBench.Host.Mode
import LinkBench.Host.Shell.Builtin.Variables
import LinkBench.Host.Utility.Escape
/-!
The mask of a process: the permissions that new files do not get. It is shown and set as a number, or by
the permissions that are granted; the latter are described in clauses, of which each dialect knows its own.
-/

namespace LinkBench.Host.Shell.Builtin

open Eval LinkBench.Host.Utility

namespace Mask

/-- The permissions of all kinds of users. -/
def everything : Nat := 0o777

/-- What is granted behind a mask, and the mask behind what is granted. -/
def complement (n : Nat) : Nat := everything - n % (everything + 1)

inductive Fault
  | notOctal (text : String)
  | operator (c : Char)
  | permission (c : Char)
  | clause (text : String)

def Fault.message : Dialect → Fault → String
  | .plain, .notOctal text => s!"Illegal number: {text}"
  | .extended, .notOctal text => s!"{text}: octal number out of range"
  | _, .operator c =>
    let found := String.singleton c
    s!"\x60{found}': invalid symbolic mode operator"
  | _, .permission c =>
    let found := String.singleton c
    s!"\x60{found}': invalid symbolic mode character"
  | _, .clause text => s!"Illegal mode: {text}"

/-- The permissions of one kind of users. -/
def permissionsOf (c : Char) : Nat :=
  match c with
  | 'u' => 0o700
  | 'g' => 0o070
  | 'o' => 0o007
  | _ => everything

def allOf (letters : List Char) : Nat := (letters.map permissionsOf).foldl (· ||| ·) 0

/-- What an action makes of what is granted to the users that it names, or else to all. -/
def act (sign : Char) (users bits granted : Nat) : Nat :=
  let users := if users = 0 then everything else users
  match sign with
  | '+' => granted ||| (bits &&& users)
  | '-' => granted &&& complement (bits &&& users)
  | _ => (granted &&& complement users) ||| (bits &&& users)

/-- The permissions that a letter behind a sign stands for, where others are granted already. -/
def letterBits (granted : Nat) (c : Char) : Nat :=
  let copied (n : Nat) : Nat := n % 8 * 0o111
  match c with
  | 'r' => 0o444
  | 'w' => 0o222
  | 'x' => 0o111
  | 'X' => if granted &&& 0o111 = 0 then 0 else 0o111
  | 'u' => copied (granted / 64)
  | 'g' => copied (granted / 8)
  | 'o' => copied granted
  | _ => 0

/-- Makes the actions of a clause. The fuel bounds their number. -/
def actAll (users : Nat) : Nat → Nat → List Char → Nat × List Char
  | fuel + 1, granted, sign :: cs =>
    if Mode.isSign sign then
      let letters := cs.takeWhile "rwxXsugo".toList.contains
      let bits := (letters.map (letterBits granted)).foldl (· ||| ·) 0
      actAll users fuel (act sign users bits granted) (cs.drop letters.length)
    else (granted, sign :: cs)
  | _, granted, cs => (granted, cs)

/-- What clauses with any number of actions make of what is granted. The fuel bounds their number. -/
def manyActions : Nat → Nat → List Char → Option Nat
  | 0, granted, _ | _, granted, [] => some granted
  | fuel + 1, granted, cs =>
    let users := cs.takeWhile "ugoa".toList.contains
    let rest := cs.drop users.length
    if !rest.head?.any Mode.isSign then none
    else
      match actAll (allOf users) rest.length granted rest with
      | (granted, []) => some granted
      | (granted, ',' :: rest) => manyActions fuel granted rest
      | _ => none

/-- What clauses with one action each make of what is granted. The fuel bounds their number. -/
def singleActions : Nat → Nat → List Char → Except Fault Nat
  | 0, granted, _ => .ok granted
  | fuel + 1, granted, cs =>
    let users := cs.takeWhile "ugoa".toList.contains
    match cs.drop users.length with
    | [] => .error (.operator '\x00')
    | sign :: rest =>
      if !Mode.isSign sign then .error (.operator sign)
      else
        let letters := rest.takeWhile "rwx".toList.contains
        let bits := (letters.map (letterBits granted)).foldl (· ||| ·) 0
        let granted := act sign (allOf users) bits granted
        match rest.drop letters.length with
        | [] => .ok granted
        | ',' :: rest => singleActions fuel granted rest
        | c :: _ => .error (.permission c)

/-- The mask that a text makes of another. -/
def read (dialect : Dialect) (text : String) (mask : Nat) : Except Fault Nat :=
  let cs := text.toList
  if cs.head?.any (·.isDigit) then
    let n := Nat.ofDigitChars 8 cs 0
    if cs.all Escape.isOctal ∧ (dialect = .plain ∨ n ≤ 0o7777) then .ok (n % (everything + 1))
    else .error (.notOctal text)
  else
    match dialect with
    | .plain =>
      match manyActions (cs.length + 1) (complement mask) cs with
      | some granted => .ok (complement granted)
      | none => .error (.clause text)
    | .extended => (singleActions (cs.length + 1) (complement mask) cs).map complement

def octalText (n : Nat) : String :=
  String.ofList ((Nat.toDigits 8 n).leftpad 4 '0')

/-- The permissions that are granted, for each kind of user. -/
def grantedText (granted : Nat) : String :=
  let letters (n : Nat) : String :=
    (if n / 4 % 2 = 1 then "r" else "") ++ (if n / 2 % 2 = 1 then "w" else "") ++
      (if n % 2 = 1 then "x" else "")
  let (user, group, others) := (letters (granted / 64), letters (granted / 8), letters granted)
  s!"u={user},g={group},o={others}"

end Mask

def umask (arguments : List String) : Eval Nat := do
  withOptions (if ← isExtended then "Sp" else "S") arguments fun options rest => do
    let dialect := (← get).dialect
    let mask : Nat ← ask .mask
    match rest with
    | [] => do
      let front := if hasOption options 'p' then
          (if hasOption options 'S' then "umask -S " else "umask ")
        else ""
      let text := if hasOption options 'S' then Mask.grantedText (Mask.complement mask)
        else Mask.octalText mask
      print (front ++ text ++ "\n")
      return 0
    | mode :: _ => do
      match Mask.read dialect mode mask with
      | .ok mask => do
        let _ ← (ask (.setMask mask) : Eval Unit)
        if dialect = .extended ∧ hasOption options 'S' then
          print (Mask.grantedText (Mask.complement mask) ++ "\n")
        return 0
      | .error f =>
        if dialect = .extended then
          report (f.message dialect)
          return 1
        else
          refuse (f.message dialect)

end LinkBench.Host.Shell.Builtin
