import Std.Data.HashMap
/-!
Arrays whose elements have texts or numbers as their keys. Keys stand in chains, those that are texts by a
sum of their bytes and those that are numbers by their last bits, and a key that is asked for moves to the
front of its chain. That decides in what order an array gives its keys. What a key stands for does not
depend on the chains: it is looked up by the text of the key.
-/

namespace LinkBench.Host.Utility.Awk

/-- A key as it is asked for. -/
inductive Key
  | text (s : String)
  | number (n : Int)
  deriving DecidableEq

/-- The text that a key is the same as. -/
def Key.name : Key → String
  | .text s => s
  | .number n => toString n

structure Table (α : Type) where
  /-- The number of chains is one more; it is a power of two. -/
  mask : Nat
  texts : Array (List String)
  numbers : Array (List Int)
  /-- Whether every key is in a chain of texts, and whether some are in chains of numbers. -/
  hasTexts : Bool
  hasNumbers : Bool
  /-- If this is not zero, the keys are the numbers from one on up to it, and in no chain. -/
  listed : Nat
  size : Nat
  values : Std.HashMap String α

namespace Table

variable {α : Type}

def firstMask : Nat := 63

def empty : Table α :=
  ⟨firstMask, Array.replicate (firstMask + 1) [], Array.replicate (firstMask + 1) [], false, false, 0,
    0, ∅⟩

/-- The sum that decides about the chain of a text. -/
def sum (text : String) : UInt32 :=
  text.toList.foldl (fun h c => (h ^^^ UInt32.ofNat c.toNat) * 16777619) 2166136261

def textPlace (t : Table α) (text : String) : Nat := (sum text).toNat % (t.mask + 1)

def numberPlace (t : Table α) (n : Int) : Nat := (n % (Int.ofNat t.mask + 1)).toNat

/-- The most elements that a table of so many chains takes. -/
def limit (t : Table α) : Nat := 2 * (t.mask + 1)

/-- A chain with a key at its front, whether it was there or not. -/
def fronted {β : Type} [DecidableEq β] (key : β) (chain : List β) : List β := key :: chain.erase key

def withText (t : Table α) (text : String) : Table α :=
  { t with texts := t.texts.modify (t.textPlace text) (fronted text) }

def withNumber (t : Table α) (n : Int) : Table α :=
  { t with numbers := t.numbers.modify (t.numberPlace n) (fronted n), hasNumbers := true }

/-- As many chains as a number of elements needs. The fuel bounds how often their number is doubled. -/
def maskFor : Nat → Nat → Nat → Nat
  | 0, mask, _ => mask
  | fuel + 1, mask, size =>
    if 2 * (mask + 1) < size then maskFor fuel (2 * mask + 1) size else mask

/-- The table with the keys of a list in chains of numbers. -/
def unlisted (t : Table α) : Table α :=
  if t.listed = 0 then t
  else
    let mask := maskFor t.size firstMask t.size
    let chains : Array (List Int) := Array.replicate (mask + 1) []
    let start : Table α :=
      { t with mask, texts := Array.replicate (mask + 1) [], numbers := chains, listed := 0 }
    (List.range t.listed).foldl (fun t i => t.withNumber (Int.ofNat i + 1)) start

/-- The table with every key in a chain of texts. -/
def allTexts (t : Table α) : Table α :=
  let t := t.unlisted
  let added := t.numbers.foldl (fun t chain =>
    chain.foldl (fun (t : Table α) n =>
      let text := toString n
      if (t.texts.getD (t.textPlace text) []).contains text then t else t.withText text) t) t
  { added with hasTexts := true }

/-- Each chain cut in two. -/
def doubled (t : Table α) : Table α :=
  let mask := 2 * t.mask + 1
  let wider := { t with mask }
  let cut {β : Type} (chains : Array (List β)) (place : β → Nat) : Array (List β) :=
    let halves := chains.toList.zipIdx.map fun (chain, i) => chain.partition fun b => place b == i
    ((halves.map (·.1)) ++ (halves.map (·.2))).toArray
  { wider with texts := cut t.texts wider.textPlace, numbers := cut t.numbers wider.numberPlace }

/-- The table with room for one element more. -/
def grown (t : Table α) : Table α :=
  let t := { t with size := t.size + 1 }
  if t.limit < t.size then t.doubled else t

/-- Asks for a text: brings it to the front, and adds it if that is wanted. -/
def touchText (t : Table α) (text : String) (creates : Bool) : Table α × Bool :=
  let t := if t.hasTexts then t else t.allTexts
  if (t.texts.getD (t.textPlace text) []).contains text then (t.withText text, true)
  else if creates then (t.grown.withText text, true)
  else (t, false)

/-- Asks for a number. -/
def touchNumber (t : Table α) (n : Int) (creates : Bool) : Table α × Bool :=
  if 0 < t.listed ∧ 1 ≤ n ∧ n ≤ t.listed then (t, true)
  else
    let t := t.unlisted
    if (t.numbers.getD (t.numberPlace n) []).contains n then (t.withNumber n, true)
    else if t.hasTexts then
      let (t, isFound) := t.touchText (toString n) creates
      (if isFound then t.withNumber n else t, isFound)
    else if creates then (t.grown.withNumber n, true)
    else (t, false)

/-- Asks for a key: yields whether it is there. -/
def touch (t : Table α) (key : Key) (creates : Bool) : Table α × Bool :=
  if t.size = 0 ∧ !creates then (t, false)
  else
    match key with
    | .text s => t.touchText s creates
    | .number n => t.touchNumber n creates

def contains (t : Table α) (key : Key) : Table α × Bool := t.touch key false

def get? (t : Table α) (key : Key) : Option α := t.values[key.name]?

/-- Gives an element a value. -/
def insert (t : Table α) (key : Key) (a : α) : Table α :=
  { (t.touch key true).1 with values := t.values.insert key.name a }

/-- The value of an element, which is added if it is not there. -/
def demand (t : Table α) (key : Key) (fresh : α) : Table α × α :=
  match t.values[key.name]? with
  | some a => ((t.touch key true).1, a)
  | none => (t.insert key fresh, fresh)

def erase (t : Table α) (key : Key) : Table α :=
  let (t, isFound) := t.touch key false
  if !isFound then t
  else if t.size = 1 then empty
  else
    let t := t.unlisted
    let text := key.name
    let number? : Option Int := match key with
      | .number n => some n
      | .text s => s.toInt?.bind fun n => if toString n = s then some n else none
    let numbers := match number? with
      | some n => t.numbers.modify (t.numberPlace n) (·.erase n)
      | none => t.numbers
    { t with
      texts := t.texts.modify (t.textPlace text) (·.erase text)
      numbers
      size := t.size - 1
      values := t.values.erase text }

/-- A table of values with the numbers from one on as their keys. -/
def ofList (values : List α) : Table α :=
  if values = [] then empty
  else
    { (empty : Table α) with
      listed := values.length
      size := values.length
      values := (values.zipIdx 1).foldl (fun m (a, i) => m.insert (toString i) a) ∅ }

/-- All keys in their order. -/
def keys (t : Table α) : Table α × List String :=
  if t.size = 0 then (t, [])
  else
    let t := if t.hasTexts then t else t.allTexts
    (t, t.texts.toList.flatten)

end Table

end LinkBench.Host.Utility.Awk
