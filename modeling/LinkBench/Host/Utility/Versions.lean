import LinkBench.Path
/-!
The order of versions. In a version runs of digits count as numbers, and endings such as `.tar.gz` only
decide between versions that are alike without them.
-/

namespace LinkBench.Host.Utility.Versions

/-- How a character is ordered that is no digit: a tilde before everything, letters before the rest. -/
def rank (c : Char) : Int :=
  if c.isDigit then 0
  else if c.isAlpha then Int.ofNat c.toNat
  else if c = '~' then -2
  else Int.ofNat c.toNat + 256

/-- The rank of the first character; the end comes before all but a tilde. -/
def headRank : List Char → Int
  | [] => -1
  | c :: _ => rank c

def startsWithDigit (cs : List Char) : Bool := cs.head?.any (·.isDigit)

/-- Whether a text goes on with something that is no number. -/
def startsWithText (cs : List Char) : Bool := cs.head?.any fun c => !c.isDigit

/-- Compares texts in which runs of digits count as numbers. The fuel bounds their lengths. -/
def compareParts : Nat → List Char → List Char → Ordering
  | 0, _, _ | _, [], [] => .eq
  | fuel + 1, a, b =>
    if startsWithText a || startsWithText b then
      (compare (headRank a) (headRank b)).then (compareParts fuel a.tail b.tail)
    else
      let digitsA := a.takeWhile (·.isDigit)
      let digitsB := b.takeWhile (·.isDigit)
      (compare (Nat.ofDigitChars 10 digitsA 0) (Nat.ofDigitChars 10 digitsB 0)).then
        (compareParts fuel (a.drop (max digitsA.length 1)) (b.drop (max digitsB.length 1)))

/-- Whether a piece between points may belong to an ending. -/
def isEndingPiece : List Char → Bool
  | [] => false
  | c :: cs => (c.isAlpha || c == '~') && cs.all fun c => c.isAlphanum || c == '~'

/-- Whether a text consists of endings, each behind a point. -/
def isEnding : List Char → Bool
  | [] => true
  | c :: cs => c == '.' && (splitAtEach '.' cs).all isEndingPiece

/-- How many characters stand before the ending of a version, at least one. -/
def stemLength : List Char → Nat
  | [] => 0
  | _ :: rest => if isEnding rest then 1 else 1 + stemLength rest

/-- A version without its ending. -/
def stem (cs : List Char) : List Char := cs.take (stemLength cs)

/-- The names that come before all others, in their order. -/
def dots : List (List Char) := [[], ['.'], ['.', '.']]

def compareAlike (a b : List Char) : Ordering :=
  let fuel := a.length + b.length + 1
  (compareParts fuel (stem a) (stem b)).then (compareParts fuel a b)

/-- The order of versions: nothing, the names of dots, those that begin with a dot, the others. -/
def compare (a b : List Char) : Ordering :=
  match dots.findIdx? (· == a), dots.findIdx? (· == b) with
  | some i, some j => Ord.compare i j
  | some _, none => .lt
  | none, some _ => .gt
  | none, none =>
    match a.head? == some '.', b.head? == some '.' with
    | true, false => .lt
    | false, true => .gt
    | _, _ => compareAlike a b

end LinkBench.Host.Utility.Versions
