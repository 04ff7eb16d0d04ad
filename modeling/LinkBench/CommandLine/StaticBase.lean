import LinkBench.Numeral
/-!
The address that static links are made for: a hexadecimal number behind `0x` or a decimal number,
with white space around it ignored.
-/

namespace LinkBench.StaticBase

/-- The ranges of the characters with the property `White_Space`. -/
def whiteSpaceRanges : List (Nat × Nat) :=
  [(0x9, 0xd), (0x20, 0x20), (0x85, 0x85), (0xa0, 0xa0), (0x1680, 0x1680), (0x2000, 0x200a),
    (0x2028, 0x2029), (0x202f, 0x202f), (0x205f, 0x205f), (0x3000, 0x3000)]

def isWhiteSpace (c : Char) : Bool :=
  whiteSpaceRanges.any fun (first, last) => first ≤ c.toNat && c.toNat ≤ last

/-- The text without the white space at its two ends. -/
def trim (cs : List Char) : List Char :=
  ((cs.dropWhile isWhiteSpace).reverse.dropWhile isWhiteSpace).reverse

inductive Radix
  | decimal
  | hexadecimal
  deriving DecidableEq, Repr

def Radix.base : Radix → Nat
  | .decimal => 10
  | .hexadecimal => 16

def Radix.label : Radix → String
  | .decimal => "decimal"
  | .hexadecimal => "hex"

/-- Takes the mark of a hexadecimal number off. -/
def splitRadix : List Char → Radix × List Char
  | '0' :: 'x' :: digits => (.hexadecimal, digits)
  | '0' :: 'X' :: digits => (.hexadecimal, digits)
  | digits => (.decimal, digits)

structure Error where
  radix : Radix
  /-- The whole text, white space included. -/
  text : String
  reason : Numeral.ReadError
  deriving DecidableEq, Repr

def Error.message (e : Error) : String :=
  s!"invalid {e.radix.label} value '{e.text}': {e.reason.message}"

def parse (text : String) : Except Error UInt32 :=
  let (radix, digits) := splitRadix (trim text.toList)
  match Numeral.read radix.base wordLimit digits with
  | .ok n => .ok (UInt32.ofNat n)
  | .error reason => .error ⟨radix, text, reason⟩

end LinkBench.StaticBase
