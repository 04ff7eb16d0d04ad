import LinkBench.Host.Calendar.Form
import LinkBench.Host.Utility.Facts
import LinkBench.Host.Utility.Printf
import LinkBench.Host.Utility.Simple
/-!
What is known of an entry, in forms: texts with directives, each of which stands for one fact.
-/

namespace LinkBench.Host.Utility

open Options

namespace FactForm

/-- Reads a directive behind its percent sign: flags, width, precision and a letter. -/
def read? (flags : List Char) (cs : List Char) : Option (Printf.Directive × List Char) :=
  let marks := cs.takeWhile flags.contains
  let rest := cs.drop marks.length
  let digits := rest.takeWhile (·.isDigit)
  let rest := rest.drop digits.length
  let width := if digits = [] then none else some (Int.ofNat (Nat.ofDigitChars 10 digits 0))
  let (precision, rest) := match rest with
    | '.' :: more =>
      let places := more.takeWhile (·.isDigit)
      (some (Int.ofNat (Nat.ofDigitChars 10 places 0)), more.drop places.length)
    | rest => (none, rest)
  match rest with
  | [] => none
  | letter :: behind =>
    let source := String.ofList ('%' :: cs.take (cs.length - behind.length))
    some (⟨source, marks, width, precision, letter⟩, behind)

/-- A text in the width of a directive, and no longer than its precision. -/
def fitText (d : Printf.Directive) (text : String) : String :=
  d.pad (match d.places with
    | some most => String.ofList (text.toList.take most)
    | none => text)

def fitNumber (d : Printf.Directive) (n : Nat) : String :=
  d.integerText false n (toString n) ""

/-- A number without a sign in front, in the radix that a conversion of numbers asks for. -/
def fitUnsigned (d : Printf.Directive) (conversion : Char) (n : Nat) : String :=
  { d with conversion }.unsignedText n

/-- Seconds from 1970 on, with as many digits of the fraction as a directive asks for. -/
def fitMoment (d : Printf.Directive) (time : Int) : String :=
  let seconds := time / 1000000000
  let whole := toString seconds
  match d.precision with
  | none => d.padNumber true "" whole
  | some n =>
    -- a point without digits asks for all of them
    let places := if d.source.toList.dropLast.getLast? = some '.' then 9 else n.toNat
    let digits := (toString (time % 1000000000).toNat).toList.leftpad 9 '0'
    let shown := (digits.take places).rightpad places '0'
    d.padNumber true "" (whole ++ if places = 0 then "" else String.ofList ('.' :: shown))

end FactForm

namespace Status

/-- A moment, with its fraction and its zone. -/
def momentText (m : Calendar.Moment) : String :=
  Calendar.Form.filled true "%Y-%m-%d %H:%M:%S.%N %z" m

/-- The numbers of a device. -/
def deviceNumbers : Entry → Nat × Nat
  | .device .null => (1, 3)
  | .device .zero => (1, 5)
  | .device .full => (1, 7)
  | _ => (0, 0)

/-- What a directive stands for. -/
def value (name : String) (f : Facts) (d : Printf.Directive) : String :=
  let text := FactForm.fitText d
  let number := FactForm.fitNumber d
  match d.conversion with
  | 'n' => text name
  | 'N' => text (Quoting.always name)
  | 'F' => text (kindOf f.entry)
  | 's' => number f.size
  | 'a' => FactForm.fitUnsigned d 'o' f.mode
  | 'A' => text f.modeText
  | 'f' => FactForm.fitUnsigned d 'x' f.rawMode
  | 'h' => number f.links
  | 'u' | 'g' => number 0
  | 'U' | 'G' => text "root"
  | 'b' => number f.blocks
  | 'B' => number 512
  | 'o' => number 4096
  | 'd' | 'i' => number 1
  | 'D' => FactForm.fitUnsigned d 'x' 1
  | 't' => FactForm.fitUnsigned d 'x' (deviceNumbers f.entry).1
  | 'T' => FactForm.fitUnsigned d 'x' (deviceNumbers f.entry).2
  | 'w' => text "-"
  | 'W' => FactForm.fitMoment d 0
  | 'x' | 'y' | 'z' => text (momentText f.moment)
  | 'X' | 'Y' | 'Z' => FactForm.fitMoment d f.attributes.modified
  | 'm' => text "/"
  | _ => text "?"

/-- What backslashes mean in forms. -/
def statusRules : EscapeRules := { EscapeRules.programFormat with unicode := false, stops := false }

/-- What a form has become, what is said about it, and a directive that stopped it. -/
structure Filled where
  text : String
  complaints : List String
  refusal : Option String

def Filled.of (text : String) : Filled := ⟨text, [], none⟩

def Filled.after (f : Filled) (text : String) : Filled := { f with text := text ++ f.text }

def Filled.warn (f : Filled) (complaint : String) : Filled :=
  { f with complaints := complaint :: f.complaints }

/-- Fills a form, whose backslashes are resolved if `resolves`. The fuel bounds its length. -/
def fill (resolves : Bool) (name : String) (facts : Facts) : Nat → List Char → Filled
  | 0, _ | _, [] => .of ""
  | fuel + 1, '%' :: rest =>
    match FactForm.read? "'-+ #0I".toList rest with
    | none => .of "%"
    | some (d, behind) =>
      if d.conversion = '%' then
        if d.source = "%%" then (fill resolves name facts fuel behind).after "%"
        else ⟨"", [], some s!"{Quoting.quoted d.source}: invalid directive"⟩
      else
        match d.conversion, behind with
        | 'H', 'd' :: more => (fill resolves name facts fuel more).after (FactForm.fitNumber d 0)
        | 'L', 'd' :: more => (fill resolves name facts fuel more).after (FactForm.fitNumber d 1)
        | 'H', 'r' :: more | 'L', 'r' :: more =>
          (fill resolves name facts fuel more).after (FactForm.fitNumber d 0)
        | _, _ => (fill resolves name facts fuel behind).after (value name facts d)
  | fuel + 1, '\\' :: rest =>
    if !resolves then (fill resolves name facts fuel rest).after "\\"
    else
      match rest with
      | [] => ⟨"\\", ["warning: backslash at end of format"], none⟩
      | c :: behind =>
        match Escape.one? statusRules rest with
        | some (cs, behind) => (fill resolves name facts fuel behind).after (String.ofList cs)
        | none =>
          ((fill resolves name facts fuel behind).after (String.singleton c)).warn
            s!"warning: unrecognized escape '\\{c}'"
  | fuel + 1, c :: rest => (fill resolves name facts fuel rest).after (String.singleton c)

/-- The form that is used if none is given. -/
def usualForm : String :=
  "  File: %n\n  Size: %-10s\tBlocks: %-10b IO Block: %-6o %F\n" ++
    "Device: %Hd,%Ld\tInode: %-10i  Links: %h\n" ++
    "Access: (%04a/%10.10A)  Uid: (%5u/%8U)   Gid: (%5g/%8G)\n" ++
    "Access: %x\nModify: %y\nChange: %z\n Birth: %w\n"

def terseForm : String := "%n %s %b %f %u %g %D %i %h %t %T %X %Y %Z %W %o\n"

end Status

def statFlags : List Flag :=
  [valued "c" "format", valued "printf" "printf", flag "L" "dereference", flag "t" "terse",
    flag "f" "file-system", valued "cached" "cached"]

def stat : List String → Proc Nat := fun arguments =>
  withOptions statFlags true 1 arguments fun command given operands => do
    if operands.isEmpty then
      return ← missingOperand command
    let resolves := given.lastOf? ["c", "printf"] == some "printf"
    let form := match given.lastOf? ["c", "printf"] with
      | some "c" => (given.last? "c").getD "" ++ "\n"
      | some _ => (given.last? "printf").getD ""
      | none => if given.has "t" then Status.terseForm else Status.usualForm
    let rec each : List String → Nat → Proc Nat
      | [], status => return status
      | name :: rest, status => do
        match ← factsOf name with
        | .error e =>
          let failure := if given.has "f" then "cannot read file system information for"
            else "cannot statx"
          each rest (← failWith command s!"{failure} {Quoting.always name}: {e.reason}" 1)
        | .ok facts =>
          let filled := Status.fill resolves name facts (form.length + 1) form.toList
          for complaint in filled.complaints do
            complain command complaint
          let shown ← emit command filled.text 0
          match filled.refusal with
          | some text => failWith command text 1
          | none => each rest (max status shown)
    each operands 0

end LinkBench.Host.Utility
