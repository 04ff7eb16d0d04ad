import LinkBench.ByteText
import LinkBench.Host.Utility.Options
import LinkBench.Host.Utility.Printf
import LinkBench.Host.Utility.Proposition
/-!
Programs that do little more than print: texts, numbers in a row, parts of names.
-/

namespace LinkBench.Host.Utility

/-! ### Texts -/

/-- Whether an argument consists of options of `echo`. -/
def isEchoOptions (a : String) : Bool :=
  match a.toList with
  | '-' :: c :: cs => (c :: cs).all fun c => c == 'n' || c == 'e' || c == 'E'
  | _ => false

def echo (arguments : List String) : Proc Nat := do
  let command := arguments.headD ""
  let letters := (arguments.tail.takeWhile isEchoOptions).flatMap String.toList
  let text := String.intercalate " " (arguments.tail.dropWhile isEchoOptions)
  let resolves := (letters.filter fun c => c == 'e' || c == 'E').getLast? == some 'e'
  let (text, stop) := if resolves then Escape.text .programEcho text else (text, false)
  emit command (text ++ if letters.contains 'n' || stop then "" else "\n") 0

def printf (arguments : List String) : Proc Nat := do
  let command := arguments.headD ""
  let rest := if arguments.tail.head? = some "--" then arguments.tail.tail else arguments.tail
  match rest with
  | [] => missingOperand command
  | format :: rest => do
    let out := Printf.run .program ((← Proc.presentTime) / 1000000000) format rest
    for piece in out.pieces do
      match piece with
      | .text s => Proc.print s
      | .complaint s => complain command s
    return out.status

def test (isBracket : Bool) (arguments : List String) : Proc Nat := do
  let none : String → Bool := fun _ => false
  match Proposition.run ⟨← Proc.view, none, none, none⟩ isBracket arguments.tail with
  | .ok holds => return if holds then 0 else 1
  | .error f => failWith (arguments.headD "") (f.message .program) 2

/-- Prints a text over and over. -/
def yesLoop (text : String) : Nat → Proc Nat
  | 0 => return 0
  | fuel + 1 => do
    let _ ← (Proc.request .tick : Proc (List Nat))
    match ← Proc.write Proc.standardOutput text with
    | .ok () => yesLoop text fuel
    | .error _ => return 1

def yes : List String → Proc Nat := fun arguments =>
  withOptions [] true 1 arguments fun _ _ operands =>
    let line := if operands.isEmpty then "y" else String.intercalate " " operands
    yesLoop (String.join (List.replicate 512 (line ++ "\n"))) 1000000000

/-! ### Names -/

/-- The last name of a path. -/
def lastName (name : String) : String :=
  match ((splitAtEach '/' name.toList).reverse.filter (· != [])).head? with
  | some last => String.ofList last
  | none => if name = "" then "" else "/"

/-- What stands before the last name of a path. -/
def directoryName (name : String) : String :=
  let backward := (name.toList.reverse.dropWhile (· == '/'))
  let kept := (backward.dropWhile (· != '/')).dropWhile (· == '/')
  if kept = [] then (if name.startsWith "/" then "/" else ".") else String.ofList kept.reverse

def withoutEnding (ending name : String) : String :=
  if ending ≠ "" ∧ name.endsWith ending ∧ name ≠ ending then (name.dropEnd ending.length).toString
  else name

def basename : List String → Proc Nat :=
  let flags := [Options.flag "a" "multiple", Options.valued "s" "suffix", Options.flag "z" "zero"]
  fun arguments => withOptions flags false 1 arguments fun command given operands => do
    let ending := if given.has "z" then "\x00" else "\n"
    match operands with
    | [] => missingOperand command
    | name :: rest =>
      if given.has "a" ∨ given.has "s" then
        let suffix := (given.last? "s").getD ""
        emit command (String.join (operands.map fun name =>
          withoutEnding suffix (lastName name) ++ ending)) 0
      else
        match rest with
        | [] => emit command (lastName name ++ ending) 0
        | [suffix] => emit command (withoutEnding suffix (lastName name) ++ ending) 0
        | _ :: extra :: _ => extraOperand command extra

def dirname : List String → Proc Nat :=
  fun arguments => withOptions [Options.flag "z" "zero"] true 1 arguments
    fun command given operands => do
      let ending := if given.has "z" then "\x00" else "\n"
      if operands.isEmpty then missingOperand command
      else emit command (String.join (operands.map fun name => directoryName name ++ ending)) 0

/-- The path of a place. -/
def placeText (p : Place) : String :=
  ByteText.encode ("/" ++ String.intercalate "/" ((p.base ++ p.lost).map (·.text)))

def pwd : List String → Proc Nat := fun arguments =>
  withOptions [Options.flag "L" "logical", Options.flag "P" "physical"] true 1 arguments
    fun command _ operands => do
      unless operands.isEmpty do
        complain command "ignoring non-option arguments"
      emit command (placeText (← Proc.view).cwd ++ "\n") 0

/-! ### Decimal numbers -/

/-- A number in decimal notation: its digits as an integer, and how many of them are places. -/
structure Decimal where
  value : Int
  places : Nat

/-- Reads a decimal numeral; one in another notation is no such number. -/
def decimal? (text : String) : Option Decimal :=
  let cs := text.toList.dropWhile fun c => c == ' '
  let (negative, body) := match cs with
    | '-' :: rest => (true, rest)
    | '+' :: rest => (false, rest)
    | _ => (false, cs)
  let whole := body.takeWhile (·.isDigit)
  let (fraction, rest) := match body.drop whole.length with
    | '.' :: rest => (rest.takeWhile (·.isDigit), rest.dropWhile (·.isDigit))
    | rest => ([], rest)
  let (exponent, rest) := Floating.readExponent ['e', 'E'] rest
  if whole ++ fraction = [] ∨ rest ≠ [] ∨ exponent.natAbs > 300 then
    none
  else
    let n := Int.ofNat (Nat.ofDigitChars 10 (whole ++ fraction) 0)
    let n := if negative then -n else n
    let places := Int.ofNat fraction.length - exponent
    some (if 0 ≤ places then ⟨n, places.toNat⟩ else ⟨n * Int.ofNat (Nat.pow 10 places.natAbs), 0⟩)

def Decimal.scaledTo (d : Decimal) (places : Nat) : Int :=
  d.value * Int.ofNat (Nat.pow 10 (places - d.places))

end LinkBench.Host.Utility
