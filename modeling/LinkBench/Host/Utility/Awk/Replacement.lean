import LinkBench.Host.Regex
/-!
Putting texts in the place of what an expression matches. In the text that is put in, a sign stands for
what was matched, unless there is a backslash before it.
-/

namespace LinkBench.Host.Utility.Awk

/-- The text that is put in for a match. -/
def replacementText (matched : List Char) : List Char → List Char
  | '\\' :: '&' :: rest => '&' :: replacementText matched rest
  | '\\' :: '\\' :: '&' :: rest => '\\' :: (matched ++ replacementText matched rest)
  | '&' :: rest => matched ++ replacementText matched rest
  | c :: rest => c :: replacementText matched rest
  | [] => []

/-- Replaces matches from a place on: how many, and the text from there on. A match without characters
right behind another one does not count. The fuel bounds the length. -/
def replaceFrom (r : Regex) (s : Regex.Subject) (replacement : List Char) (everywhere : Bool) :
    Nat → Bool → Nat → Nat × List Char
  | 0, _, _ => (0, [])
  | fuel + 1, isBehind, i =>
    let rest := (s.text.extract i s.text.size).toList
    let onward (count : Nat) (text : List Char) (next : Nat) (isBehind : Bool) : Nat × List Char :=
      let (more, others) := replaceFrom r s replacement everywhere fuel isBehind next
      (count + more, text ++ others)
    let step : Nat × List Char :=
      match rest with
      | [] => (0, [])
      | c :: _ => onward 0 [c] (i + 1) false
    match r.matchAt? s i with
    | some m =>
      if m.start < m.stop then
        let text := replacementText (rest.take (m.stop - m.start)) replacement
        if everywhere then onward 1 text m.stop true
        else (1, text ++ rest.drop (m.stop - m.start))
      else if isBehind then step
      else
        let text := replacementText [] replacement
        if !everywhere then (1, text ++ rest)
        else
          match rest with
          | [] => (1, text)
          | c :: _ => onward 1 (text ++ [c]) (i + 1) false
    | none => step

/-- Replaces the first match, or all: how many, and the text. -/
def replaced (r : Regex) (replacement : String) (everywhere : Bool) (text : String) : Nat × String :=
  let s : Regex.Subject := ⟨text.toList.toArray, false, false⟩
  let (count, cs) := replaceFrom r s replacement.toList everywhere (s.text.size + 1) false 0
  (count, String.ofList cs)

end LinkBench.Host.Utility.Awk
