/-!
Binary floating numbers as exact integers times powers of two: rounding a fraction to so many bits,
reading a decimal numeral, and writing a number with so many places, with a power of ten, or the way
that suits its size. All roundings go to the nearest, and to the even neighbour from the middle. Every
finite number of the machine is an integer times a power of two, so nothing is lost on the way out of
the machine.
-/

namespace LinkBench.Host

/-- A number with a sign; its magnitude is `mantissa * 2 ^ exponent`. -/
inductive Floating
  | finite (negative : Bool) (mantissa : Nat) (exponent : Int)
  | infinite (negative : Bool)
  | notANumber (negative : Bool)
  deriving DecidableEq, Repr

namespace Floating

/-- The bits of the mantissa of the two formats in use. -/
def doubleBits : Nat := 53

def longBits : Nat := 64

def isNegative : Floating → Bool
  | finite negative .. | infinite negative | notANumber negative => negative

/-- The quotient of two integers, rounded. -/
def roundDiv (a b : Nat) : Nat :=
  let q := a / b
  let r := a % b
  if 2 * r < b then q
  else if b < 2 * r then q + 1
  else q + q % 2

/-- A power of an integer base, as a fraction. -/
def scaled (base : Nat) (exponent : Int) : Nat × Nat :=
  if 0 ≤ exponent then (Nat.pow base exponent.toNat, 1) else (1, Nat.pow base exponent.natAbs)

/-- The nearest number with a mantissa of so many bits. -/
def ofFraction (bits : Nat) (negative : Bool) (num den : Nat) : Floating :=
  if num = 0 ∨ den = 0 then
    .finite negative 0 0
  else
    let least := Int.ofNat num.log2 - Int.ofNat den.log2 - Int.ofNat bits - 1
    let fits (e : Int) : Bool :=
      let (up, down) := scaled 2 e
      num * down < den * up * Nat.pow 2 bits
    let e := if fits least then least else if fits (least + 1) then least + 1 else least + 2
    let (up, down) := scaled 2 e
    .finite negative (roundDiv (num * down) (den * up)) e

/-! ### Reading -/

def digitValue (c : Char) : Nat :=
  if c.isDigit then c.toNat - '0'.toNat
  else if 'a' ≤ c ∧ c ≤ 'f' then c.toNat - 'a'.toNat + 10
  else if 'A' ≤ c ∧ c ≤ 'F' then c.toNat - 'A'.toNat + 10
  else 16

/-- The largest exponent that is kept; beyond it all numbers are alike. -/
def exponentLimit : Nat := 20000

/-- Reads an exponent behind its mark, if there is one. -/
def readExponent (marks cs : List Char) : Int × List Char :=
  match cs with
  | mark :: rest =>
    if mark ∈ marks then
      let (negative, digits) := match rest with
        | '-' :: rest => (true, rest)
        | '+' :: rest => (false, rest)
        | _ => (false, rest)
      let taken := digits.takeWhile (·.isDigit)
      if taken = [] then (0, cs)
      else
        let n := Int.ofNat (min (Nat.ofDigitChars 10 taken 0) exponentLimit)
        (if negative then -n else n, digits.drop taken.length)
    else (0, cs)
  | [] => (0, cs)

/-- Reads a numeral without a sign: decimal, or hexadecimal with a power of two behind it, or a name.
Yields the number and what follows it; nothing if no number begins here. -/
def readMagnitude (bits : Nat) (negative : Bool) (cs : List Char) :
    Option (Floating × List Char) :=
  let word := (cs.takeWhile Char.isAlpha).map Char.toLower
  if "infinity".toList.isPrefixOf word then some (.infinite negative, cs.drop 8)
  else if "inf".toList.isPrefixOf word then some (.infinite negative, cs.drop 3)
  else if "nan".toList.isPrefixOf word then some (.notANumber negative, cs.drop 3)
  else
    let (radix, body) := match cs with
      | '0' :: x :: rest =>
        let behind := match rest with
          | '.' :: rest => rest
          | rest => rest
        if (x = 'x' ∨ x = 'X') ∧ behind.head?.any (digitValue · < 16) then (16, rest) else (10, cs)
      | _ => (10, cs)
    let isDigit (c : Char) : Bool := digitValue c < radix
    let whole := body.takeWhile isDigit
    let (fraction, behind) := match body.drop whole.length with
      | '.' :: rest => (rest.takeWhile isDigit, rest.dropWhile isDigit)
      | rest => ([], rest)
    if whole ++ fraction = [] then none
    else
      let n := (whole ++ fraction).foldl (fun n c => n * radix + digitValue c) 0
      let (exponent, behind) :=
        readExponent (if radix = 16 then ['p', 'P'] else ['e', 'E']) behind
      let (up, down) := if radix = 16 then scaled 2 (exponent - 4 * Int.ofNat fraction.length)
        else scaled 10 (exponent - Int.ofNat fraction.length)
      some (ofFraction bits negative (n * up) down, behind)

/-- Reads a numeral with an optional sign, behind blanks. -/
def read (bits : Nat) (cs : List Char) : Option (Floating × List Char) :=
  match cs.dropWhile fun c => c == ' ' || ('\t' ≤ c && c ≤ '\r') with
  | '-' :: rest => readMagnitude bits true rest
  | '+' :: rest => readMagnitude bits false rest
  | rest => readMagnitude bits false rest

/-! ### Writing -/

/-- Digits with a point before the last `places` of them. -/
def placed (places : Nat) (keepsPoint : Bool) (n : Nat) : String :=
  let digits := (Nat.toDigits 10 n).leftpad (places + 1) '0'
  let whole := digits.take (digits.length - places)
  let fraction := digits.drop (digits.length - places)
  String.ofList whole ++ (if places = 0 && !keepsPoint then "" else "." ++ String.ofList fraction)

/-- A magnitude with so many places. -/
def fixedText (places : Nat) (keepsPoint : Bool) (mantissa : Nat) (exponent : Int) : String :=
  let (up, down) := scaled 2 exponent
  placed places keepsPoint (roundDiv (mantissa * up * Nat.pow 10 places) down)

/-- The decimal exponent of a magnitude when it is written with so many digits, and those digits as a
number. -/
def decimal (digits : Nat) (mantissa : Nat) (exponent : Int) : Int × Nat :=
  if mantissa = 0 then (0, 0)
  else
    let (up, down) := scaled 2 exponent
    let num := mantissa * up
    -- the exponent of the exact value
    let size (n : Nat) : Int := Int.ofNat (Nat.toDigits 10 n).length
    let estimate := size num - size down
    let isBelow (e : Int) : Bool :=
      let (tenUp, tenDown) := scaled 10 e
      num * tenDown < down * tenUp
    let e := if isBelow estimate then estimate - 1 else estimate
    let (tenUp, tenDown) := scaled 10 (Int.ofNat digits - 1 - e)
    let n := roundDiv (num * tenUp) (down * tenDown)
    if n < Nat.pow 10 digits then (e, n) else (e + 1, n / 10)

def exponentText (e : Int) : String :=
  let digits := toString e.natAbs
  (if e < 0 then "-" else "+") ++ (if digits.length < 2 then "0" else "") ++ digits

/-- A magnitude with one digit before the point, so many places, and a power of ten. -/
def scientificText (places : Nat) (keepsPoint : Bool) (mantissa : Nat) (exponent : Int) : String :=
  let (e, n) := decimal (places + 1) mantissa exponent
  placed places keepsPoint n ++ "e" ++ exponentText e

def withoutEndingZeros (text : String) : String :=
  if text.contains '.' then
    ((text.dropEndWhile '0').toString.dropEndWhile '.').toString
  else
    text

/-- A magnitude with so many digits, in the shorter of both ways; zeros at its end are dropped. -/
def generalText (digits : Nat) (keepsZeros : Bool) (mantissa : Nat) (exponent : Int) : String :=
  let digits := max digits 1
  let (e, n) := decimal digits mantissa exponent
  if e < -4 ∨ Int.ofNat digits ≤ e then
    let shown := placed (digits - 1) keepsZeros n
    (if keepsZeros then shown else withoutEndingZeros shown) ++ "e" ++ exponentText e
  else
    let shown := fixedText (Int.ofNat digits - 1 - e).toNat keepsZeros mantissa exponent
    if keepsZeros then shown else withoutEndingZeros shown

/-- A magnitude in hexadecimal digits with a power of two. The format says how many bits stand before
the point. -/
def hexText (bits : Nat) (places : Option Nat) (mantissa : Nat) (exponent : Int) : String :=
  let leading := if bits = longBits then 4 else 1
  if mantissa = 0 then
    "0x0" ++ (match places with
      | some (n + 1) => "." ++ String.ofList (List.replicate (n + 1) '0')
      | _ => "") ++ "p+0"
  else
    let shift := bits - (mantissa.log2 + 1)
    let m := mantissa * Nat.pow 2 shift
    let e := exponent - Int.ofNat shift
    let fractionBits := bits - leading
    let fractionDigits := (fractionBits + 3) / 4
    let m := m * Nat.pow 2 (4 * fractionDigits - fractionBits)
    let kept := (places.getD fractionDigits)
    let n := if kept < fractionDigits then roundDiv m (Nat.pow 16 (fractionDigits - kept))
      else m * Nat.pow 16 (kept - fractionDigits)
    let digits := (Nat.toDigits 16 n).leftpad (kept + 1) '0'
    let whole := digits.take (digits.length - kept)
    let fraction := digits.drop (digits.length - kept)
    let fraction := if places.isSome then fraction
      else (fraction.reverse.dropWhile (· == '0')).reverse
    let power := e + Int.ofNat fractionBits
    "0x" ++ String.ofList whole ++ (if fraction = [] then "" else "." ++ String.ofList fraction) ++
      "p" ++ (if power < 0 then "-" else "+") ++ toString power.natAbs

/-- How a number is to be written, in the letters of directives. -/
structure Style where
  conversion : Char
  precision : Option Nat
  alternate : Bool

/-- The magnitude of a number as a directive has it written. -/
def magnitudeText (bits : Nat) (style : Style) (x : Floating) : String :=
  let text := match x with
    | .infinite _ => "inf"
    | .notANumber _ => "nan"
    | .finite _ mantissa exponent =>
      let precision := style.precision.getD 6
      match style.conversion.toLower with
      | 'f' => fixedText precision style.alternate mantissa exponent
      | 'e' => scientificText precision style.alternate mantissa exponent
      | 'a' => hexText bits style.precision mantissa exponent
      | _ => generalText precision style.alternate mantissa exponent
  if style.conversion.isUpper then text.toUpper else text

/-! ### Sums and products

They are exact before they are rounded to so many bits. -/

/-- The magnitude with a sign, as a multiple of a power of two that is not above its own. -/
def coefficient (negative : Bool) (mantissa : Nat) (exponent least : Int) : Int :=
  let n := Int.ofNat (mantissa * Nat.pow 2 (exponent - least).toNat)
  if negative then -n else n

/-- The nearest number to an integer times a power of two. -/
def ofCoefficient (bits : Nat) (z exponent : Int) : Floating :=
  let (up, down) := scaled 2 exponent
  ofFraction bits (decide (z < 0)) (z.natAbs * up) down

def add (bits : Nat) : Floating → Floating → Floating
  | .finite a m e, .finite b n f =>
    let least := min e f
    ofCoefficient bits (coefficient a m e least + coefficient b n f least) least
  | .notANumber a, _ | _, .notANumber a => .notANumber a
  | .infinite a, .infinite b => if a = b then .infinite a else .notANumber true
  | .infinite a, _ | _, .infinite a => .infinite a

def mul (bits : Nat) : Floating → Floating → Floating
  | .finite a m e, .finite b n f =>
    let (up, down) := scaled 2 (e + f)
    ofFraction bits (a != b) (m * n * up) down
  | .notANumber a, _ | _, .notANumber a => .notANumber a
  | .infinite a, .infinite b => .infinite (a != b)
  | .infinite a, .finite b n _ | .finite b n _, .infinite a =>
    if n = 0 then .notANumber true else .infinite (a != b)

/-! ### Numbers of the machine, in 64 bits -/

/-- The number that 64 bits stand for: a sign, an exponent of 11 bits, and a mantissa of 52. -/
def ofBits (bits : UInt64) : Floating :=
  let n := bits.toNat
  let negative := n / Nat.pow 2 63 = 1
  let exponent := n / Nat.pow 2 52 % Nat.pow 2 11
  let fraction := n % Nat.pow 2 52
  if exponent = 2047 then (if fraction = 0 then .infinite negative else .notANumber negative)
  else if exponent = 0 then .finite negative fraction (-1074)
  else .finite negative (Nat.pow 2 52 + fraction) (Int.ofNat exponent - 1075)

def ofDouble (x : Float) : Floating := ofBits x.toBits

/-- The nearest number of the machine. -/
def toDouble : Floating → Float
  | .finite negative mantissa exponent =>
    let x := Float.scaleB (Float.ofNat mantissa) exponent
    if negative then -x else x
  | .infinite negative => if negative then -1.0 / 0.0 else 1.0 / 0.0
  | .notANumber negative => if negative then -(0.0 / 0.0) else 0.0 / 0.0

/-- The integer part, towards zero; nothing if there is none. -/
def integerPart? : Floating → Option Int
  | .finite negative mantissa exponent =>
    let n : Nat := if 0 ≤ exponent then mantissa * Nat.pow 2 exponent.toNat
      else mantissa / Nat.pow 2 exponent.natAbs
    some (if negative then -Int.ofNat n else Int.ofNat n)
  | _ => none

/-- Whether a number has no fraction. -/
def isIntegral : Floating → Bool
  | .finite _ mantissa exponent => 0 ≤ exponent || mantissa % Nat.pow 2 exponent.natAbs == 0
  | _ => false

/-- What is left of a number after another one has been taken from it as often as possible. -/
def remainder : Floating → Floating → Floating
  | .finite negative m e, .finite _ n f =>
    if n = 0 then .notANumber true
    else
      let least := min e f
      .finite negative ((m * Nat.pow 2 (e - least).toNat) % (n * Nat.pow 2 (f - least).toNat)) least
  | .finite negative m e, .infinite _ => .finite negative m e
  | .notANumber negative, _ | _, .notANumber negative => .notANumber negative
  | .infinite _, _ => .notANumber true

/-! ### Order: what is not a number comes before all numbers -/

/-- Compares two magnitudes. -/
def compareMagnitudes (m : Nat) (e : Int) (n : Nat) (f : Int) : Ordering :=
  let least := min e f
  compare (m * Nat.pow 2 (e - least).toNat) (n * Nat.pow 2 (f - least).toNat)

/-- A number between two magnitudes that no finite one reaches. -/
inductive Rank
  | notANumber
  | below
  | finite (negative : Bool) (mantissa : Nat) (exponent : Int)
  | above

def rank : Floating → Rank
  | .notANumber _ => .notANumber
  | .infinite true => .below
  | .infinite false => .above
  | .finite negative m e => .finite negative m e

def Rank.place : Rank → Nat
  | .notANumber => 0
  | .below => 1
  | .finite .. => 2
  | .above => 3

/-- Compares two numbers. -/
def order (x y : Floating) : Ordering :=
  match x.rank, y.rank with
  | .finite a m e, .finite b n f =>
    if m = 0 ∧ n = 0 then .eq
    else
      let isBelow := a && decide (m ≠ 0)
      let isOtherBelow := b && decide (n ≠ 0)
      if isBelow && isOtherBelow then compareMagnitudes n f m e
      else if isBelow then .lt
      else if isOtherBelow then .gt
      else compareMagnitudes m e n f
  | a, b => compare a.place b.place

end Floating

end LinkBench.Host
