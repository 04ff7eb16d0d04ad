import LinkBench.Host.Floating
import LinkBench.Host.Utility.Awk.Table
import LinkBench.Host.Utility.Printf
/-!
Values of a program that is run on every line of a text. A value is a number or a text, and text that came
in from outside counts as a number where it looks like one. Every number has a text, which depends on a
form that programs may set.
-/

namespace LinkBench.Host.Utility.Awk

inductive Value
  /-- What a variable is before it is set: nothing as a text, and zero as a number. -/
  | unset
  | number (x : Float)
  | text (s : String)
  /-- Text that came in from outside. -/
  | input (s : String)

namespace Value

def ofNat (n : Nat) : Value := .number (Float.ofNat n)

def ofBool (b : Bool) : Value := .ofNat (if b then 1 else 0)

/-! ### Numbers of texts -/

def isBlank (c : Char) : Bool := c == ' ' || ('\t' ≤ c && c ≤ '\r')

/-- The number that a text begins with; none is zero. -/
def numberOf (text : String) : Float :=
  match Floating.read Floating.doubleBits text.toList with
  | some (x, _) => x.toDouble
  | none => 0

/-- The number that a text is, with nothing but blanks around it. -/
def numeral? (text : String) : Option Float :=
  let cs := text.toList.dropWhile isBlank
  let cs := (cs.reverse.dropWhile isBlank).reverse
  let begins := cs.head?.any fun c => c.isDigit || c == '+' || c == '-' || c == '.'
  let ends := cs.getLast?.any fun c => c.isDigit || c == '.'
  if begins && ends then
    match Floating.read Floating.doubleBits cs with
    | some (x, []) => some x.toDouble
    | _ => none
  else none

def toNumber : Value → Float
  | .unset => 0
  | .number x => x
  | .text s | .input s => numberOf s

/-! ### Texts of numbers -/

/-- The form of numbers that programs do not set another one for. -/
def usualForm : String := "%.6g"

/-- A directive of a form behind its percent sign, with values for the stars in it: what stands for it,
the letters behind it, and the values that are left. -/
structure FormHead where
  flags : List Char
  width : Option Int
  precision : Option Int
  conversion : Option Char
  rest : List Char
  values : List Value

/-- Reads a width: digits, or a star that stands for a value. -/
def readWidth (cs : List Char) (values : List Value) : Option Int × List Char × List Value :=
  match cs, values with
  | '*' :: rest, v :: values =>
    (some (((Floating.ofDouble v.toNumber).integerPart?).getD 0), rest, values)
  | '*' :: rest, [] => (none, rest, [])
  | cs, values =>
    let digits := cs.takeWhile (·.isDigit)
    if digits = [] then (none, cs, values)
    else (some (Int.ofNat (Nat.ofDigitChars 10 digits 0)), cs.drop digits.length, values)

def readHead (cs : List Char) (values : List Value) : FormHead :=
  let flags := cs.takeWhile fun c => c ∈ ['-', '+', ' ', '#', '0']
  let (width, cs, values) := readWidth (cs.drop flags.length) values
  let (precision, cs, values) := match cs with
    | '.' :: rest =>
      let (precision, cs, values) := readWidth rest values
      (some (precision.getD 0), cs, values)
    | cs => (none, cs, values)
  let cs := cs.dropWhile fun c => c == 'l' || c == 'h'
  ⟨flags, width, precision, cs.head?, cs.tail, values⟩

/-- How many integers so many bits tell apart. -/
def span (bits : Nat) : Int := Int.ofNat (Nat.pow 2 bits)

/-- An integer of 64 bits, as it is shown without a sign. -/
def unsigned (n : Int) : Nat := if n < 0 then (n + span 64).toNat else n.toNat

/-- The text of a number that has no fraction, if it is not too large to be written in full. -/
def integralText? (x : Float) : Option String :=
  let f := Floating.ofDouble x
  if f.isIntegral then
    f.integerPart?.bind fun n => if -span 63 ≤ n ∧ n < span 64 then some (toString n) else none
  else none

/-- Why values do not fit a form. -/
inductive FormFault
  | tooFew
  | invalid (number : Nat)

/-- One directive with its value. -/
def directive? (textOf : Value → String) (h : FormHead) (conversion : Char) (v : Value) :
    Option String :=
  let d : Printf.Directive := ⟨"", h.flags, h.width, h.precision, conversion⟩
  let cut (s : String) : String :=
    match d.places with
    | some n => (s.take n).toString
    | none => s
  let integer : Int := ((Floating.ofDouble v.toNumber).integerPart?).getD (-span 63)
  match conversion with
  | 'd' | 'i' => some (d.integerText (decide (integer < 0)) integer.natAbs (toString integer.natAbs) "")
  | 'o' | 'x' | 'X' | 'u' => some (d.unsignedText (unsigned integer))
  | 'e' | 'E' | 'f' | 'F' | 'g' | 'G' | 'a' | 'A' =>
    some (d.floatingText Floating.doubleBits (Floating.ofDouble v.toNumber))
  | 's' => some (d.pad (cut (textOf v)))
  | 'c' =>
    let code (x : Float) : String :=
      String.singleton (Char.ofNat ((((Floating.ofDouble x).integerPart?).getD 0) % 256).toNat)
    let first (s : String) : String := if s = "" then "\x00" else (s.take 1).toString
    let letter := match v with
      | .number x => code x
      | .unset => "\x00"
      | .text s => first s
      | .input s =>
        match numeral? s with
        | some x => code x
        | none => first s
    some (d.pad letter)
  | _ => none

/-- A form with its values: what stands in front of the first fault, and the fault. The fuel bounds the
length of the form. -/
def fillFrom (textOf : Value → String) :
    Nat → Nat → List Char → List Value → String × Option FormFault
  | 0, _, _, _ | _, _, [], _ => ("", none)
  | fuel + 1, place, '%' :: '%' :: cs, values =>
    let (others, fault?) := fillFrom textOf fuel place cs values
    ("%" ++ others, fault?)
  | fuel + 1, place, '%' :: cs, values =>
    let h := readHead cs values
    match h.conversion with
    | none => ("", some (.invalid place))
    | some conversion =>
      match h.values with
      | [] =>
        if conversion.isAlpha then ("", some .tooFew) else ("", some (.invalid place))
      | v :: values =>
        match directive? textOf h conversion v with
        | some shown =>
          let (others, fault?) := fillFrom textOf fuel (place + 1) h.rest values
          (shown ++ others, fault?)
        | none => ("", some (.invalid place))
  | fuel + 1, place, c :: cs, values =>
    let (others, fault?) := fillFrom textOf fuel place cs values
    (String.singleton c ++ others, fault?)

/-- A number in a form. -/
def numberText (form : String) (x : Float) : String :=
  match integralText? x with
  | some shown => shown
  | none =>
    (fillFrom (fun _ => "") (form.length + 1) 1 form.toList [.number x]).1

/-- The text of a value; numbers have the given form. -/
def toText (form : String) : Value → String
  | .unset => ""
  | .number x => numberText form x
  | .text s | .input s => s

/-- A form filled with values. -/
def fill (numberForm form : String) (values : List Value) : String × Option FormFault :=
  fillFrom (toText numberForm) (form.length + 1) 1 form.toList values

/-! ### Comparison -/

/-- The number that a value is compared as, if it is not a text. -/
def comparable? : Value → Option Float
  | .unset => some 0
  | .number x => some x
  | .text _ => none
  | .input s => numeral? s

/-- Whether a value counts as true. -/
def holds : Value → Bool
  | .unset => false
  | .number x => x != 0
  | .text s => s != ""
  | .input s =>
    match numeral? s with
    | some x => x != 0
    | none => s != ""

inductive Relation
  | less
  | atMost
  | equal
  | unequal
  | greater
  | atLeast
  deriving DecidableEq

def Relation.admits (r : Relation) (o : Ordering) : Bool :=
  match r with
  | .less => o == .lt
  | .atMost => o != .gt
  | .equal => o == .eq
  | .unequal => o != .eq
  | .greater => o == .gt
  | .atLeast => o != .lt

/-- Compares two values: as numbers if both are, and else as texts. -/
def relates (form : String) (r : Relation) (a b : Value) : Bool :=
  match a.comparable?, b.comparable? with
  | some x, some y =>
    match r with
    | .less => x < y
    | .atMost => x ≤ y
    | .equal => x == y
    | .unequal => x != y
    | .greater => y < x
    | .atLeast => y ≤ x
  | _, _ => r.admits (compare (a.toText form) (b.toText form))

/-- The key that a value is in an array. -/
def toKey (form : String) : Value → Key
  | .number x =>
    match integralText? x, (Floating.ofDouble x).integerPart? with
    | some _, some n => .number n
    | _, _ => .text (numberText form x)
  | v => .text (v.toText form)

end Value

end LinkBench.Host.Utility.Awk
