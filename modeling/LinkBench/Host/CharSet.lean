/-!
Sets of characters as patterns and expressions name them: by classes and by ranges.
-/

namespace LinkBench.Host

/-- Classes of characters that a set can name. -/
inductive CharClass
  | alpha
  | digit
  | alnum
  | upper
  | lower
  | space
  | blank
  | punct
  | print
  | graph
  | cntrl
  | xdigit
  deriving DecidableEq, Repr

namespace CharClass

def names : List (String × CharClass) :=
  [("alpha", .alpha), ("digit", .digit), ("alnum", .alnum), ("upper", .upper), ("lower", .lower),
    ("space", .space), ("blank", .blank), ("punct", .punct), ("print", .print), ("graph", .graph),
    ("cntrl", .cntrl), ("xdigit", .xdigit)]

/-- Whether a byte is in a class; only those of ASCII are in any. -/
def holds (k : CharClass) (c : Char) : Bool :=
  let isGraph := '!' ≤ c && c ≤ '~'
  match k with
  | .alpha => c.isAlpha
  | .digit => c.isDigit
  | .alnum => c.isAlphanum
  | .upper => c.isUpper
  | .lower => c.isLower
  | .space => c == ' ' || ('\t' ≤ c && c ≤ '\r')
  | .blank => c == ' ' || c == '\t'
  | .punct => isGraph && !c.isAlphanum
  | .print => isGraph || c == ' '
  | .graph => isGraph
  | .cntrl => c < ' ' || c == '\x7f'
  | .xdigit => c.isDigit || ('a' ≤ c && c ≤ 'f') || ('A' ≤ c && c ≤ 'F')

end CharClass

inductive SetMember
  | range (first last : Char)
  | ofClass (k : CharClass)
  deriving DecidableEq, Repr

def SetMember.holds (c : Char) : SetMember → Bool
  | .range first last => first ≤ c && c ≤ last
  | .ofClass k => k.holds c

/-- The small letters of a range of capital ones, and those of a class of them. -/
def SetMember.lowered? : SetMember → Option SetMember
  | .range first last =>
    if first.isUpper ∧ last.isUpper then some (.range first.toLower last.toLower) else none
  | .ofClass .upper => some (.ofClass .lower)
  | .ofClass _ => none

end LinkBench.Host
