import LinkBench.Duration
import LinkBench.Host.Shell.Setting
/-!
What parameters stand for: positional parameters, those with a meaning of their own, variables, and
lists that the shell keeps about itself.
-/

namespace LinkBench.Host.Shell

/-- What a parameter stands for. -/
inductive Value
  | unset
  | text (s : String)
  /-- Several texts; `joins` says that quotes make one text of them. -/
  | several (texts : List String) (joins : Bool)

namespace Value

def texts : Value → List String
  | .unset => []
  | .text s => [s]
  | .several texts _ => texts

def isSeveral : Value → Bool
  | .several .. => true
  | _ => false

end Value

namespace Eval

/-- The letters of the options that are set, as `$-` shows them. -/
def optionLetters (s : State) : String :=
  match s.dialect with
  | .plain => String.ofList ("pubaCEVvxsnmiIfe".toList.filter s.options.contains)
  | .extended =>
    String.ofList ("abefhkmnptuvxBCEHPT".toList.filter s.options.contains) ++
      (if s.readsArgument then "c" else if s.options.contains 's' then "s" else "")

/-- The number that follows another one in a row that looks like chance. -/
def nextRandom (seed : Nat) : Nat :=
  let seed := if seed = 0 then 123459876 else seed
  let next := 16807 * (seed % 127773)
  let taken := 2836 * (seed / 127773)
  if taken ≤ next then next - taken else next + 2147483647 - taken

/-- The number that a seed shows. -/
def shownRandom (seed : Nat) : Nat :=
  (seed / 65536 ^^^ seed % 65536) % 32768

/-- Parameters that are no variables. -/
def special? (s : State) (name : String) : Option Value :=
  let ofExtended (text : String) : Option Value :=
    if s.dialect == .extended && !s.forgotten.contains name then some (.text text) else none
  match name with
  | "?" => some (.text (toString s.status))
  | "$" => some (.text (toString s.id))
  | "#" => some (.text (toString s.arguments.length))
  | "-" => some (.text (optionLetters s))
  | "!" => some <| match s.lastJob with
    | some id => .text (toString id)
    | none => .unset
  | "@" => some (.several s.arguments false)
  | "*" => some (.several s.arguments true)
  | "LINENO" => ofExtended (toString s.line)
  | "_" => ofExtended s.lastArgument
  | "BASH_COMMAND" => ofExtended s.current
  | "RANDOM" => ofExtended (toString (shownRandom (nextRandom s.seed)))
  | "SECONDS" => ofExtended "0"
  | "SHELLOPTS" => ofExtended (namesOn (optionStates s))
  | "BASHOPTS" => ofExtended (namesOn (settingStates s))
  | "BASH_ARGV0" => ofExtended s.name
  | "BASH_SUBSHELL" => ofExtended (toString s.subshellDepth)
  | _ =>
    if name.toList.all (·.isDigit) then
      some <| match name.toNat?.getD 0 with
        | 0 => .text s.name
        | n + 1 =>
          match s.arguments[n]? with
          | some text => .text text
          | none => .unset
    else
      none

/-- Lists that the extended dialect keeps about itself. The names of functions are told only inside of
functions. -/
def ownList? (s : State) (name : String) : Option (List String) :=
  if s.dialect == .plain || s.forgotten.contains name then none
  else match name with
    | "FUNCNAME" => if s.functionDepth = 0 then none else some (s.calls.map (·.name))
    | "BASH_SOURCE" => some (s.calls.map (·.source))
    | "BASH_LINENO" => some (s.calls.map fun call => toString call.line)
    | "GROUPS" => some ["0"]
    | "DIRSTACK" =>
      let here := ((s.bindings.find? (·.name == "PWD")).bind Variable.text?).getD ""
      some (here :: s.directories)
    | "PIPESTATUS" => some (s.stageStatuses.map toString)
    | _ => none

/-- A list of texts as elements. -/
def Elements.ofTexts (texts : List String) : Elements :=
  ⟨false, texts.zipIdx.map fun (text, i) => (toString i, text), false⟩

/-- The variable of a name, or a list of the shell's own. -/
def stored? (s : State) (name : String) : Option Variable :=
  match ownList? s name with
  | some texts =>
    some { newVariable s name with elements := some (Elements.ofTexts texts), isExported := false }
  | none => s.bindings.find? (·.name == name)

/-- How many references may lead to each other. -/
def referenceLimit : Nat := 8

/-- The name and the index that a name with references stands for. -/
def target (s : State) : Nat → String → String × Option String
  | 0, name => (name, none)
  | fuel + 1, name =>
    match s.bindings.find? (·.name == name) with
    | some v =>
      match v.isReference, v.value with
      | true, some other =>
        let plain := (other.takeWhile isNameChar).toString
        if other.length = plain.length then
          if plain = name then (name, none) else target s fuel plain
        else
          (plain, some ((other.drop (plain.length + 1)).dropEnd 1).toString)
      | _, _ => (name, none)
    | none => (name, none)

end Eval

end LinkBench.Host.Shell
