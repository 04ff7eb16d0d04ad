import LinkBench.Bytes
/-!
Unsigned numerals. Writing: hexadecimal text with or without padding. Reading: one optional plus
sign, then digits of a radix whose value stays below a limit; the first offending character or
the first step past the limit decides the error.
-/

namespace LinkBench.Numeral

/-- Lower-case hexadecimal digits, without leading zeros; zero is `0`. -/
def hexDigits (n : Nat) : String :=
  String.ofList (Nat.toDigits 16 n)

/-- Lower-case hexadecimal digits, filled up with zeros to eight places. -/
def hexDigits8 (n : Nat) : String :=
  String.ofList ((Nat.toDigits 16 n).leftpad 8 '0')

/-- A number in hexadecimal under the mark `0x`. -/
def hex (n : Nat) : String :=
  "0x" ++ hexDigits n

/-- A word in hexadecimal under the mark `0x`, always eight digits long. -/
def hexWord (word : UInt32) : String :=
  "0x" ++ hexDigits8 word.toNat

inductive ReadError
  | empty
  | invalidDigit
  | tooLarge
  deriving DecidableEq, Repr

def ReadError.message : ReadError → String
  | .empty => "cannot parse integer from empty string"
  | .invalidDigit => "invalid digit found in string"
  | .tooLarge => "number too large to fit in target type"

/-- The value of a digit of `radix`; letters of either case count from ten. -/
def digitValue? (radix : Nat) (c : Char) : Option Nat :=
  let value :=
    if '0' ≤ c ∧ c ≤ '9' then some (c.toNat - '0'.toNat)
    else if 'a' ≤ c ∧ c ≤ 'z' then some (c.toNat - 'a'.toNat + 10)
    else if 'A' ≤ c ∧ c ≤ 'Z' then some (c.toNat - 'A'.toNat + 10)
    else none
  value.filter (· < radix)

/-- Reads the digits of a numeral whose leading digits have the value `value`. -/
def readDigits (radix limit : Nat) (value : Nat) : List Char → Except ReadError Nat
  | [] => .ok value
  | c :: rest =>
    match digitValue? radix c with
    | none => .error .invalidDigit
    | some digit =>
      let next := value * radix + digit
      if next < limit then readDigits radix limit next rest else .error .tooLarge

/-- Reads an unsigned numeral below `limit`. A sign alone is an invalid digit. -/
def read (radix limit : Nat) : List Char → Except ReadError Nat
  | [] => .error .empty
  | ['+'] => .error .invalidDigit
  | '+' :: rest => readDigits radix limit 0 rest
  | cs => readDigits radix limit 0 cs

end LinkBench.Numeral
