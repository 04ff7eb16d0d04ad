import LinkBench.Host.Calendar.Form
import LinkBench.Host.Utility.Touch
/-!
Printing moments: the present one, one that is written down, one of each line of a file, or that of the
last change of a file.
-/

namespace LinkBench.Host.Utility

open Options Calendar

/-- How exact a moment is shown. -/
inductive Precision
  | day
  | hours
  | minutes
  | seconds
  | nanoseconds
  deriving DecidableEq

namespace Precision

def words : Choices Precision :=
  [("hours", .hours), ("minutes", .minutes), ("date", .day), ("seconds", .seconds),
    ("ns", .nanoseconds)]

/-- The precisions that have a day of their own. -/
def shortWords : Choices Precision := words.drop 2

def standardForm : Precision → String
  | .day => "%Y-%m-%d"
  | .hours => "%Y-%m-%dT%H%:z"
  | .minutes => "%Y-%m-%dT%H:%M%:z"
  | .seconds => "%Y-%m-%dT%H:%M:%S%:z"
  | .nanoseconds => "%Y-%m-%dT%H:%M:%S,%N%:z"

def shortForm : Precision → String
  | .nanoseconds => "%Y-%m-%d %H:%M:%S.%N%:z"
  | .day => "%Y-%m-%d"
  | _ => "%Y-%m-%d %H:%M:%S%:z"

end Precision

/-- The form of a moment that is not asked for in another. -/
def usualDateForm : String := "%a %b %e %H:%M:%S %Z %Y"

/-- Why no form can be told from the options. -/
inductive FormFault
  | word (choices : Choices Precision) (option word : String) (f : Choices.Fault)
  | severalForms

/-- The form that options ask for. -/
def dateForm (given : Given) : Except FormFault (Option String) := do
  let forms ← given.filterMapM fun (key, value) =>
    let find (choices : Choices Precision) (option : String) (form : Precision → String) :
        Except FormFault (Option String) :=
      match choices.find value with
      | .ok p => .ok (some (form p))
      | .error f => .error (.word choices option value f)
    match key with
    | "I" => if value = "" then .ok (some "%Y-%m-%d")
        else find Precision.words "--iso-8601" Precision.standardForm
    | "rfc-3339" => find Precision.shortWords "--rfc-3339" Precision.shortForm
    | "R" => .ok (some "%a, %d %b %Y %H:%M:%S %z")
    | _ => .ok none
  match forms with
  | [] => return none
  | [form] => return some form
  | _ => throw .severalForms

def shownDate (form : String) (m : Int × Nat) : String :=
  Form.filled true form (.ofSeconds m.1 m.2) ++ "\n"

/-- Prints the moments that the lines of a file stand for. -/
def printDates (command form : String) (now : Int × Nat) (name : String) : Proc Nat := do
  match ← textOf name with
  | .error r => failWith command s!"{Quoting.named name}: {r.reason}" 1
  | .ok text =>
    let lines := (splitAtEach '\n' text.toList).map String.ofList
    let lines := if lines.getLast? = some "" then lines.dropLast else lines
    forEach lines fun line =>
      match Reader.read? now line with
      | some m => emit command (shownDate form m) 0
      | none => failWith command s!"invalid date {Quoting.quoted line}" 1

def dateFlags : List Flag :=
  [valued "d" "date", flag "debug" "debug", valued "f" "file", optional "I" "iso-8601",
    valued "r" "reference", flag "R" "rfc-email", flag "R" "rfc-822", flag "R" "rfc-2822",
    valued "rfc-3339" "rfc-3339", valued "s" "set", flag "u" "uct", flag "u" "utc",
    flag "u" "universal"]

/-- What is said of an operand that is no form, where an option gives the moment. -/
def misplacedOperand (operand : String) : String :=
  s!"the argument {Quoting.quoted operand} lacks a leading '+';\n" ++
    "when using an option to specify date(s), any non-option\n" ++
      "argument must be a format string beginning with '+'"

def date : List String → Proc Nat := fun arguments =>
  withOptions dateFlags true 1 arguments fun command given operands => do
    let now := secondsOf (← Proc.presentTime)
    match dateForm given with
    | .error .severalForms => failWith command "multiple output formats specified" 1
    | .error (.word choices option word f) =>
      refuseUse command (choices.complaint option word f) 1
    | .ok asked =>
      let sources := (["d", "f", "r"].filter given.has).length
      if 1 < sources then
        return ← refuseUse command
          "the options to specify dates for printing are mutually exclusive" 1
      if sources ≠ 0 ∧ given.has "s" then
        return ← refuseUse command
          "the options to print and set the time may not be used together" 1
      match operands with
      | _ :: extra :: _ => extraOperand command extra
      | operands =>
        let operand := operands.headD ""
        let isForm := operand.startsWith "+"
        if operands ≠ [] ∧ isForm ∧ asked.isSome then
          return ← failWith command "multiple output formats specified" 1
        if operands ≠ [] ∧ !isForm ∧ (sources ≠ 0 ∨ given.has "s") then
          return ← refuseUse command (misplacedOperand operand) 1
        let form := if isForm then (operand.drop 1).toString else asked.getD usualDateForm
        let shown (m : Int × Nat) (status : Nat) : Proc Nat :=
          emit command (shownDate form m) status
        match given.last? "f", given.last? "r", (given.last? "d").or (given.last? "s") with
        | some name, _, _ => printDates command form now name
        | _, some name, _ =>
          match ← factsOf name with
          | .ok f => shown (secondsOf f.attributes.modified) 0
          | .error e => failWith command s!"{Quoting.named name}: {e.reason}" 1
        | _, _, some text =>
          match Reader.read? now text with
          | none => failWith command s!"invalid date {Quoting.quoted text}" 1
          | some m =>
            if given.has "s" then
              complain command "cannot set date: Operation not permitted"
              shown m 1
            else shown m 0
        | none, none, none =>
          if operands ≠ [] ∧ !isForm then
            let year := (Moment.ofSeconds now.1 0).day.year
            match Reader.ofDigits? false year operand with
            | none => failWith command s!"invalid date {Quoting.quoted operand}" 1
            | some seconds =>
              complain command "cannot set date: Operation not permitted"
              shown (seconds, 0) 1
          else shown now 0

end LinkBench.Host.Utility
