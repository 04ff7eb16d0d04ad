import LinkBench.Host.Shell.Command
/-!
Braces of the extended dialect: a word with alternatives between braces stands for several words, one
for each alternative, and so does one with a range of numbers or letters. This comes before all other
expansions.
-/

namespace LinkBench.Host.Shell.Braces

/-- Takes unquoted text apart, so that each part is one character or is left as it is. -/
def explode (w : Word) : List Part :=
  w.flatMap fun part =>
    match part with
    | .text s false => s.toList.map fun c => .text (String.singleton c) false
    | part => [part]

/-- Joins unquoted text again. -/
def implode : List Part → Word
  | [] => []
  | .text s false :: rest =>
    match implode rest with
    | .text t false :: rest => .text (s ++ t) false :: rest
    | rest => .text s false :: rest
  | part :: rest => part :: implode rest

def isChar (c : Char) : Part → Bool
  | .text s false => s == String.singleton c
  | _ => false

/-- The alternatives behind an opening brace and what follows the closing one. The current alternative
is in backward order, and so are those before it. -/
def alternatives? : Nat → List Part → List Word → List Part → Option (List Word × List Part)
  | _, _, _, [] => none
  | depth, current, done, part :: rest =>
    if isChar '\x7b' part then
      alternatives? (depth + 1) (part :: current) done rest
    else if isChar '\x7d' part then
      if depth = 0 then some ((current.reverse :: done).reverse, rest)
      else alternatives? (depth - 1) (part :: current) done rest
    else if isChar ',' part && depth == 0 then
      alternatives? 0 [] (current.reverse :: done) rest
    else
      alternatives? depth (part :: current) done rest

/-! ### Ranges -/

/-- The numbers from one to another by steps, the last one included if it is met. -/
def steps (first last : Int) (stride : Nat) : List Int :=
  let stride := max stride 1
  let count := (last - first).natAbs / stride
  (List.range (count + 1)).map fun k =>
    if first ≤ last then first + Int.ofNat (k * stride) else first - Int.ofNat (k * stride)

/-- A number filled up with zeros to a width, which counts the sign. -/
def padded (width : Nat) (n : Int) : String :=
  let digits := toString n.natAbs
  let sign := if n < 0 then "-" else ""
  sign ++ String.ofList (List.replicate (width - sign.length - digits.length) '0') ++ digits

/-- Whether a number is written with zeros in front. -/
def isPadded (text : String) : Bool :=
  let digits := if text.startsWith "-" then text.toList.tail else text.toList
  digits.head? = some '0' && 1 < digits.length

/-- The texts of a range such as `1..3` or `a..e..2`. -/
def range? (text : String) : Option (List String) := do
  let (first, last, step) ← match text.splitOn ".." with
    | [first, last] => some (first, last, "1")
    | [first, last, step] => some (first, last, step)
    | _ => none
  let step := (← step.toInt?).natAbs
  match first.toInt?, last.toInt? with
  | some m, some n =>
    let width := if isPadded first || isPadded last then max first.length last.length else 0
    return (steps m n step).map (padded width)
  | _, _ =>
    match first.toList, last.toList with
    | [a], [b] =>
      if a.isAlpha && b.isAlpha then
        return (steps a.toNat b.toNat step).map fun n => String.singleton (Char.ofNat n.toNat)
      else
        failure
    | _, _ => failure

/-- The words of a row of parts; the fuel bounds the number of parts. -/
def expandParts : Nat → List Part → List (List Part)
  | _, [] => [[]]
  | 0, parts => [parts]
  | fuel + 1, part :: rest =>
    let asItStands := (expandParts fuel rest).map (part :: ·)
    if isChar '\x7b' part then
      match alternatives? 0 [] [] rest with
      | some (choices, behind) =>
        let words : Option (List (List Part)) := match choices with
          | [only] => do
            let texts ← range? (← Word.bareText? only)
            return texts.map fun text => [Part.text text false]
          | choices => some (choices.flatMap (expandParts fuel))
        match words with
        | some words =>
          let endings := expandParts fuel behind
          words.flatMap fun word => endings.map (word ++ ·)
        | none => asItStands
      | none => asItStands
    else
      asItStands

/-- The words that a word stands for. -/
def expand (w : Word) : List Word :=
  if w.any fun part => match part with
      | .text s false => s.contains '\x7b'
      | _ => false
  then
    let parts := explode w
    (expandParts (parts.length + 1) parts).map implode
  else
    [w]

end LinkBench.Host.Shell.Braces
