import LinkBench.Host.Utility.Simple
/-!
Amounts in arguments: numbers of bytes or lines with a multiplier behind them, and lengths of time.
-/

namespace LinkBench.Host.Utility.Amount

/-- The letters of the powers of 1024 and of 1000. -/
def powers : List Char := ['K', 'M', 'G', 'T', 'P', 'E', 'Z', 'Y']

/-- The multipliers that counts of bytes and lines may have. -/
def usual : String := "bkKmMGTPEZY"

/-- What a multiplier stands for, if its letter is one of the given ones. -/
def multiplier? (letters : String) (text : List Char) : Option Nat :=
  match text with
  | [] => some 1
  | letter :: rest =>
    if !(letters.toList).contains letter then none
    else
      match letter, rest with
      | 'b', [] => some 512
      | 'c', [] => some 1
      | 'w', [] => some 2
      | _, _ =>
        match powers.findIdx? (· == letter.toUpper), rest with
        | some i, [] | some i, ['i', 'B'] => some (Nat.pow 1024 (i + 1))
        | some i, ['B'] | some i, ['D'] => some (Nat.pow 1000 (i + 1))
        | _, _ => none

/-- Why a text is no amount. -/
inductive Misread
  | invalid
  /-- A number with something behind it that is no multiplier. -/
  | unknownUnit
  | tooLarge
  deriving DecidableEq

namespace Misread

/-- What a message about a misread amount has behind the amount. -/
def ending : Misread → String
  | .invalid | .unknownUnit => ""
  | .tooLarge => ": Value too large for defined data type"

/-- What is said about a misread amount that is the value of an option. -/
def complaint (option text : String) : Misread → String
  | .invalid => s!"invalid {option} argument '{text}'"
  | .unknownUnit => s!"invalid suffix in {option} argument '{text}'"
  | .tooLarge => s!"{option} argument '{text}' too large"

/-- What stands there if an amount is read, but is out of bounds. -/
def outOfRange : String := ": Numerical result out of range"

end Misread

/-- The first number that is too large for an amount. -/
def tooMany : Nat := 18446744073709551616

/-- A number with one of the given multipliers. Blanks and a plus may stand in front of it, and a
multiplier alone is one of it. -/
def read (letters text : String) : Except Misread Nat :=
  let cs := text.toList.dropWhile fun c => c == ' ' || decide (9 ≤ c.toNat && c.toNat ≤ 13)
  let isSigned := cs.head? == some '+'
  let cs := if isSigned then cs.tail else cs
  let digits := cs.takeWhile (·.isDigit)
  let unit := cs.drop digits.length
  if digits = [] ∧ (isSigned ∨ unit = []) then .error .invalid
  else
    match multiplier? letters unit with
    | none => .error (if digits = [] then .invalid else .unknownUnit)
    | some factor =>
      let n := (if digits = [] then 1 else Nat.ofDigitChars 10 digits 0) * factor
      if n < tooMany then .ok n else .error .tooLarge

def read? (letters text : String) : Option Nat :=
  (read letters text).toOption

/-- A factor in front of another one, such as in `2x512`. -/
def product? (text : String) : Option Nat :=
  ((splitAtEach 'x' text.toList).map fun piece =>
    read? "bcEGkKMPTwYZ" (String.ofList piece)).foldlM (fun n piece => piece.map (n * ·)) 1

/-- The seconds that a unit of time stands for. -/
def unit? : List Char → Option Nat
  | [] | ['s'] => some 1
  | ['m'] => some 60
  | ['h'] => some 3600
  | ['d'] => some 86400
  | _ => none

/-- More than any launch takes. -/
def endless : Duration := .ofSeconds 4000000000

/-- A number of seconds with an optional fraction and an optional unit. -/
def interval? (text : String) : Option Duration :=
  let cs := text.toList
  let isUnit (c : Char) : Bool := c == 's' || c == 'm' || c == 'h' || c == 'd'
  let (body, unit) := match cs.getLast? with
    | some c => if isUnit c then (cs.dropLast, [c]) else (cs, [])
    | none => (cs, [])
  let word := (String.ofList (if body.head? = some '+' then body.tail else body)).toLower
  if word = "inf" ∨ word = "infinity" then some endless
  else do
    let d ← decimal? (String.ofList body)
    let seconds ← unit? unit
    if d.value < 0 then none
    else
      let whole := d.value.toNat * seconds * 1000000000
      let scale := Nat.pow 10 d.places
      some ⟨(whole + scale - 1) / scale⟩

end LinkBench.Host.Utility.Amount
