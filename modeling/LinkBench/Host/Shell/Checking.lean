import LinkBench.Host.Regex.Reader
import LinkBench.Host.Shell.Assignment
import LinkBench.Host.Shell.Builtin.Text
/-!
Conditions of the extended dialect: what their words stand for, how they are shown, and whether they
hold.
-/

namespace LinkBench.Host.Shell.Eval

open LinkBench.Host.Utility

variable (run : Command → Eval Unit)

def conditionSurroundings : Eval Utility.Condition.Surroundings := do
  return Builtin.surroundings (← get) (← ofProc Proc.view)

/-- A regular expression as it stands, where quoted characters stand for themselves. -/
def expressionText (f : Field) : String :=
  String.ofList (f.flatMap fun (c, quoted) =>
    if quoted && c ∈ "\\.[]*^$+?()\x7b\x7d|".toList then ['\\', c] else [c])

/-- Compares a text with a regular expression, and keeps what its groups have found. -/
def matchExpression (text : String) (b : Word) : Eval (Option Bool) := do
  let found ← items run nestingLimit false (withHomes (homeOf (← get)) false true b)
  let wanted := expressionText (Item.joined [] found)
  let wide (text : String) : String := String.ofList (ByteText.widen text.toList)
  match Regex.read ⟨true, false⟩ (wide wanted) with
  | .error _ => return none
  | .ok (r, groups) =>
    let foldsCase := (← get).longOptions.contains "nocasematch"
    let subject : Regex.Subject := ⟨(ByteText.widen text.toList).toArray, foldsCase, false⟩
    match r.search? subject 0 with
    | some found => do
      let texts := (List.range (groups + 1)).map (found.text subject)
      setList "BASH_REMATCH" (texts.map fun text => String.ofList (ByteText.narrow text.toList))
      return some true
    | none => do
      setList "BASH_REMATCH" []
      return some false

/-- A pattern of a condition as it is shown: quoted characters get backslashes. -/
def shownPattern (b : Word) : Eval String := do
  let found ← items run nestingLimit false (withHomes (homeOf (← get)) false true b)
  return String.ofList ((Item.joined [] found).flatMap fun (c, quoted) =>
    if quoted then ['\\', c] else [c])

/-- Compares two words by an operator; nothing if they cannot be compared. `sign` stands for a negation in
front. -/
def compareWords (sign operator : String) (a b : Word) : Eval (Option Bool) := do
  let text ← singleText run a
  let tell (other : String) : Eval Unit := do
    let bare (text : String) : String := if text = "" then "''" else text
    traceLine run s!"[[ {sign}{bare text} {operator} {bare other} ]]"
  let hasPattern := operator ∈ ["==", "=", "!=", "=~"]
  if hasPattern then
    if (← get).options.contains 'x' then
      tell (← shownPattern run b)
    if operator = "=~" then matchExpression run text b
    else
      let fits ← hasForm run true text b
      return some (if operator = "!=" then !fits else fits)
  else
    let other ← singleText run b
    tell other
    if operator.startsWith "-" ∧ Utility.Condition.numeric.contains operator then
      match ← calculateFor "[[: " text with
      | .error fault => do
        complain fault
        return some false
      | .ok m =>
        match ← calculateFor "[[: " other with
        | .error fault => do
          complain fault
          return some false
        | .ok n =>
          return (Utility.Condition.binary .program (← conditionSurroundings) (toString m.toInt)
            operator (toString n.toInt)).toOption
    else
      return (Utility.Condition.binary .extended (← conditionSurroundings) text operator
        other).toOption

/-- Whether a condition holds; nothing if that cannot be told. -/
def checkCondition (sign : String) : Condition → Eval (Option Bool)
  | .word w => checkUnary sign "-n" w.2
  | .unary operator w => checkUnary sign operator w.2
  | .binary operator a b => compareWords run sign operator a.2 b.2
  | .negation c => do return (← checkCondition "! " c).map (!·)
  | .group c => checkCondition "" c
  | .both a b => do
    match ← checkCondition "" a with
    | some true => checkCondition "" b
    | other => return other
  | .either a b => do
    match ← checkCondition "" a with
    | some true => return some true
    | some false => checkCondition "" b
    | none => return none
where
  checkUnary (sign operator : String) (w : Word) : Eval (Option Bool) := do
    let text ← singleText run w
    let shown := if text = "" then "''" else text
    traceLine run s!"[[ {sign}{operator} {shown} ]]"
    if operator = "-n" then return some (text != "")
    return some (Utility.Condition.unary (← conditionSurroundings) operator text)

end LinkBench.Host.Shell.Eval
