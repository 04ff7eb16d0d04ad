import LinkBench.Numeral
/-!
How one list becomes another one: which items go, which come, and which are kept. The items that are
kept are a longest common row of both lists. What happens to an item of either list is a flag, and the
flags of a list are told by the gaps between its kept items: how many items stand in each gap that are
not kept. Both lists have as many gaps, and a replacement is what stands in the same gap of both.
-/

namespace LinkBench.Host.Utility.Edits

/-- A part of two lists, by its bounds in either. -/
structure Area where
  left : Nat
  leftStop : Nat
  right : Nat
  rightStop : Nat

/-- Two lists whose items are compared. -/
structure Pair where
  left : Array String
  right : Array String

namespace Pair

def agree (p : Pair) (i j : Nat) : Bool := p.left.getD i "" == p.right.getD j ""

/-- How many items agree from two places on. -/
def sharedFrom (p : Pair) (a : Area) : Nat → Nat → Nat → Nat
  | 0, _, _ => 0
  | fuel + 1, i, j =>
    if i < a.leftStop ∧ j < a.rightStop ∧ p.agree i j then
      p.sharedFrom a fuel (i + 1) (j + 1) + 1
    else 0

/-- How many items agree before two places. -/
def sharedBefore (p : Pair) (a : Area) : Nat → Nat → Nat → Nat
  | 0, _, _ => 0
  | fuel + 1, i, j =>
    if a.left < i ∧ a.right < j ∧ p.agree (i - 1) (j - 1) then
      p.sharedBefore a fuel (i - 1) (j - 1) + 1
    else 0

end Pair

/-! ### The middle of a shortest way -/

/-- How far the ways of one length from a corner lead, by diagonals: a diagonal is the difference of the
places in both lists. What is reached is the place in the first list. -/
structure Front where
  least : Int
  greatest : Int
  reached : Array Int

namespace Front

/-- The number of the first diagonal of an area, and of those beside it. -/
def base (a : Area) : Int := (a.left : Int) - a.rightStop - 1

def get (f : Front) (a : Area) (d : Int) : Int := f.reached.getD (d - base a).toNat 0

def set (f : Front) (a : Area) (d : Int) (place : Int) : Front :=
  { f with reached := f.reached.setIfInBounds (d - base a).toNat place }

/-- The front of the way that has not begun. -/
def start (a : Area) (d : Int) (place : Nat) : Front :=
  let count := (a.leftStop - a.left) + (a.rightStop - a.right) + 3
  (⟨d, d, Array.replicate count 0⟩ : Front).set a d place

/-- The front one step on: a diagonal more at each side, as long as it lies in the area. -/
def widen (f : Front) (a : Area) (beyond : Int) : Front :=
  let first : Int := (a.left : Int) - a.rightStop
  let last : Int := (a.leftStop : Int) - a.right
  let f := if first < f.least then { f with least := f.least - 1 }.set a (f.least - 2) beyond
    else { f with least := f.least + 1 }
  if f.greatest < last then { f with greatest := f.greatest + 1 }.set a (f.greatest + 2) beyond
  else { f with greatest := f.greatest - 1 }

/-- Every other diagonal of a front, from the greatest on. -/
def diagonals (f : Front) : List Int :=
  if f.greatest < f.least then []
  else (List.range (((f.greatest - f.least) / 2).toNat + 1)).map fun (i : Nat) => f.greatest - 2 * (i : Int)

def covers (f : Front) (d : Int) : Bool := f.least ≤ d && d ≤ f.greatest

end Front

/-- Leads the ways from the first corner on along some diagonals, until one meets the other front. -/
def advance (p : Pair) (a : Area) (other : Front) (meets : Bool) :
    List Int → Front → Front × Option (Nat × Nat)
  | [], f => (f, none)
  | d :: ds, f =>
    let low := f.get a (d - 1)
    let high := f.get a (d + 1)
    let start := if low < high then high else low + 1
    let shared := p.sharedFrom a (a.leftStop - a.left) start.toNat (start - d).toNat
    let place := start + shared
    let f := f.set a d place
    if meets && other.covers d && other.get a d ≤ place then
      (f, some (place.toNat, (place - d).toNat))
    else advance p a other meets ds f

/-- Leads the ways from the last corner back along some diagonals, until one meets the other front. -/
def retreat (p : Pair) (a : Area) (other : Front) (meets : Bool) :
    List Int → Front → Front × Option (Nat × Nat)
  | [], f => (f, none)
  | d :: ds, f =>
    let low := f.get a (d - 1)
    let high := f.get a (d + 1)
    let start := if low < high then low else high - 1
    let shared := p.sharedBefore a (a.leftStop - a.left) start.toNat (start - d).toNat
    let place := start - shared
    let f := f.set a d place
    if meets && other.covers d && place ≤ other.get a d then
      (f, some (place.toNat, (place - d).toNat))
    else retreat p a other meets ds f

/-- Lets the ways from both corners grow until they meet. The fuel bounds their length. -/
def meeting (p : Pair) (a : Area) (isOdd : Bool) : Nat → Front → Front → Option (Nat × Nat)
  | 0, _, _ => none
  | fuel + 1, forth, back =>
    let forth := forth.widen a (-1)
    let (forth, found?) := advance p a back isOdd forth.diagonals forth
    found? <|>
      let back := back.widen a (a.leftStop + a.rightStop + 1)
      let (back, found?) := retreat p a forth (!isOdd) back.diagonals back
      found? <|> meeting p a isOdd fuel forth back

/-- A place that a shortest way through an area leads over. -/
def middle (p : Pair) (a : Area) : Nat × Nat :=
  let first : Int := (a.left : Int) - a.right
  let last : Int := (a.leftStop : Int) - a.rightStop
  let length := (a.leftStop - a.left) + (a.rightStop - a.right)
  (meeting p a ((first - last) % 2 != 0) (length + 1) (.start a first a.left)
    (.start a last a.leftStop)).getD (a.leftStop, a.right)

/-! ### Flags -/

/-- The flags of the items of an area: set for those that are not kept. The fuel bounds the number of
times that an area is cut in two. -/
def flagsOf (p : Pair) : Nat → Area → List Bool × List Bool
  | 0, a => (List.replicate (a.leftStop - a.left) true, List.replicate (a.rightStop - a.right) true)
  | fuel + 1, a =>
    let before := p.sharedFrom a (a.leftStop - a.left) a.left a.right
    let a := { a with left := a.left + before, right := a.right + before }
    let after := p.sharedBefore a (a.leftStop - a.left) a.leftStop a.rightStop
    let a := { a with leftStop := a.leftStop - after, rightStop := a.rightStop - after }
    let around (flags : List Bool) : List Bool :=
      List.replicate before false ++ flags ++ List.replicate after false
    if a.left = a.leftStop ∨ a.right = a.rightStop then
      (around (List.replicate (a.leftStop - a.left) true),
        around (List.replicate (a.rightStop - a.right) true))
    else
      let (i, j) := middle p a
      let (l, r) := flagsOf p fuel { a with leftStop := i, rightStop := j }
      let (l', r') := flagsOf p fuel { a with left := i, right := j }
      (around (l ++ l'), around (r ++ r'))

/-- The flags of a list whose items that the other list lacks have been left out. -/
def weave : List Bool → List Bool → List Bool
  | [], _ => []
  | true :: lacking, flags => true :: weave lacking flags
  | false :: lacking, flag :: flags => flag :: weave lacking flags
  | false :: lacking, [] => false :: weave lacking []

/-- The flags of all items of two lists. Items that the other list lacks are not kept, and the way leads
through the others; a minimal way leads through all. -/
def flags (isMinimal : Bool) (as bs : List String) : List Bool × List Bool :=
  let isIn (others : List String) (a : String) : Bool := isMinimal || others.contains a
  let lackingLeft := as.map fun a => !isIn bs a
  let lackingRight := bs.map fun b => !isIn as b
  let lefts := (as.filter (isIn bs)).toArray
  let rights := (bs.filter (isIn as)).toArray
  let (l, r) := flagsOf ⟨lefts, rights⟩ (lefts.size + rights.size + 1) ⟨0, lefts.size, 0, rights.size⟩
  (weave lackingLeft l, weave lackingRight r)

/-! ### Gaps -/

/-- How many items stand in each gap between kept items. -/
def gaps : List Bool → List Nat
  | [] => [0]
  | true :: flags =>
    match gaps flags with
    | n :: rest => (n + 1) :: rest
    | [] => [1]
  | false :: flags => 0 :: gaps flags

/-- Items in a gap that can stand elsewhere: the gap, and the places of the first of them and behind
the last. -/
structure Run where
  gap : Nat
  start : Nat
  stop : Nat

/-- Moves a run back over kept items that are equal to its last one; runs that it meets join it. -/
def moveBack (items : Array String) : Nat → Array Nat × Run → Array Nat × Run
  | 0, state => state
  | fuel + 1, (counts, r) =>
    if 0 < r.start ∧ 0 < r.gap ∧ items.getD (r.start - 1) "" = items.getD (r.stop - 1) "" then
      let joined := counts.getD (r.gap - 1) 0
      let counts := (counts.setIfInBounds r.gap 0).setIfInBounds (r.gap - 1)
        (joined + (r.stop - r.start))
      moveBack items fuel (counts, ⟨r.gap - 1, r.start - 1 - joined, r.stop - 1⟩)
    else (counts, r)

/-- Moves a run on over kept items that are equal to its first one; runs that it meets join it. Yields
also the last place on the way where the other list has items in the gap. -/
def moveOn (items : Array String) (other : Array Nat) :
    Nat → Option Run → Array Nat × Run → Array Nat × Run × Option Run
  | 0, partner, (counts, r) => (counts, r, partner)
  | fuel + 1, partner, (counts, r) =>
    if r.stop < items.size ∧ items.getD r.start "" = items.getD r.stop "" then
      let joined := counts.getD (r.gap + 1) 0
      let counts := (counts.setIfInBounds r.gap 0).setIfInBounds (r.gap + 1)
        (joined + (r.stop - r.start))
      let r : Run := ⟨r.gap + 1, r.start + 1, r.stop + 1 + joined⟩
      let partner := if 0 < other.getD r.gap 0 then some r else partner
      moveOn items other fuel partner (counts, r)
    else (counts, r, partner)

/-- Moves a run to and fro until it meets no other one any more; then to the last gap on its way where
the other list has items too, or else as far as it goes. -/
def settle (items : Array String) (other : Array Nat) : Nat → Array Nat × Run → Array Nat × Run
  | 0, state => state
  | fuel + 1, (counts, r) =>
    let length := r.stop - r.start
    let (counts, r) := moveBack items items.size (counts, r)
    let partner := if 0 < other.getD r.gap 0 then some r else none
    let (counts, r, partner) := moveOn items other items.size partner (counts, r)
    if length = r.stop - r.start then
      match partner with
      | some p =>
        let length := r.stop - r.start
        let counts := (counts.setIfInBounds r.gap 0).setIfInBounds p.gap length
        (counts, ⟨p.gap, p.start, p.start + length⟩)
      | none => (counts, r)
    else settle items other fuel (counts, r)

/-- Settles the runs in all gaps from one on. The fuel bounds the number of gaps, some of which are
passed again. -/
def settleFrom (items : Array String) (other : Array Nat) : Nat → Nat → Nat → Array Nat → Array Nat
  | 0, _, _, counts => counts
  | fuel + 1, gap, place, counts =>
    if items.size ≤ place then counts
    else
      match counts.getD gap 0 with
      | 0 => settleFrom items other fuel (gap + 1) (place + 1) counts
      | n =>
        let (counts, r) := settle items other items.size (counts, ⟨gap, place, place + n⟩)
        settleFrom items other fuel (r.gap + 1) (r.stop + 1) counts

/-- The gaps of a list with their items moved to where they are told best. -/
def settled (items : List String) (counts other : List Nat) : List Nat :=
  (settleFrom items.toArray other.toArray ((items.length + 1) * (items.length + 1)) 0 0
    counts.toArray).toList

/-! ### Replacements -/

/-- Items of one list in whose place stand items of the other: their places and numbers. -/
structure Replacement where
  left : Nat
  removed : Nat
  right : Nat
  added : Nat
  deriving DecidableEq

namespace Replacement

def leftStop (r : Replacement) : Nat := r.left + r.removed

def rightStop (r : Replacement) : Nat := r.right + r.added

def shifted (r : Replacement) (count : Nat) : Replacement :=
  { r with left := r.left + count, right := r.right + count }

end Replacement

/-- What stands in the gaps of two lists, from two places on. -/
def replacementsFrom : Nat → Nat → List (Nat × Nat) → List Replacement
  | _, _, [] => []
  | left, right, (removed, added) :: rest =>
    let others := replacementsFrom (left + removed + 1) (right + added + 1) rest
    if removed = 0 ∧ added = 0 then others else ⟨left, removed, right, added⟩ :: others

/-- What makes the second list of the first one. -/
def replacements (isMinimal : Bool) (as bs : List String) : List Replacement :=
  let (l, r) := flags isMinimal as bs
  let lefts := settled as (gaps l) (gaps r)
  let rights := settled bs (gaps r) lefts
  replacementsFrom 0 0 (lefts.zip rights)

end LinkBench.Host.Utility.Edits
