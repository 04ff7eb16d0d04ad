import LinkBench.Host.Calendar.Reader
import LinkBench.Host.Regex.Reader
import LinkBench.Host.Shell.Pattern
import LinkBench.Host.Utility.Listing
import LinkBench.Host.Utility.Show
import LinkBench.Host.Utility.Status
import LinkBench.Host.Utility.Wrapper
/-!
Searching trees. An expression is asked of every entry below the starting points; its tests say which
entries are meant, and its actions what is done with them.
-/

namespace LinkBench.Host.Utility

namespace Find

/-- How a number is compared. -/
inductive Comparison
  | less (n : Nat)
  | equal (n : Nat)
  | more (n : Nat)

def Comparison.holds (c : Comparison) (n : Nat) : Bool :=
  match c with
  | .less m => decide (n < m)
  | .equal m => n == m
  | .more m => decide (m < n)

/-- How the bits of a mode are compared. -/
inductive Permission
  | exactly (bits : Nat)
  | allOf (bits : Nat)
  | anyOf (bits : Nat)

/-- The age of an entry in periods of a length in seconds, whole ones behind the present. -/
structure Age where
  comparison : Comparison
  period : Int
  /-- The seconds that the periods begin later than the present for. -/
  delay : Int

/-- Whether a moment is as old as it is to be. -/
def Age.holds (a : Age) (now modified : Int) : Bool :=
  let second : Int := 1000000000
  let since (n : Nat) : Int := now - (a.delay + Int.ofNat n * a.period) * second
  match a.comparison with
  | .more n => decide (modified < since n)
  | .less n => decide (since n + (if a.delay = 0 then 0 else a.delay - 1) * second < modified)
  | .equal n => decide (since n < modified ∧ modified ≤ since n + a.period * second)

inductive Primary
  | always (value : Bool)
  | name (pattern : String) (ignoresCase isWhole : Bool)
  | regex (r : Regex) (ignoresCase : Bool)
  | kind (letters : List Char)
  | empty
  | size (c : Comparison) (unit : Nat)
  | permission (p : Permission)
  /-- Whether the last change was behind a moment. -/
  | newer (time : Int)
  | age (a : Age)
  | links (c : Comparison)
  | executable
  | print (ending : String)
  | printf (format : String)
  | listLong
  | delete
  | prune
  | quit
  /-- Runs a program for every entry. -/
  | run (words : List String)
  /-- Runs a program for all entries at once; the number tells such actions apart. -/
  | runAll (id : Nat) (words : List String)

/-- Whether a primary is an action, which makes printing explicit. -/
def Primary.isAction : Primary → Bool
  | .print _ | .printf _ | .listLong | .delete | .run _ | .runAll .. => true
  | _ => false

inductive Expr
  | primary (p : Primary)
  | not (e : Expr)
  | and (a b : Expr)
  | or (a b : Expr)
  | both (a b : Expr)

def Expr.hasAction : Expr → Bool
  | .primary p => p.isAction
  | .not e => e.hasAction
  | .and a b | .or a b | .both a b => a.hasAction || b.hasAction

/-- What holds for the whole search. -/
structure Settings where
  least : Nat
  most : Option Nat
  isDeep : Bool

def Settings.start : Settings := ⟨0, none, false⟩

/-! ### Reading -/

/-- A state of reading: the arguments left, the settings, a number for the next action, and the world around. -/
structure Reader where
  rest : List String
  settings : Settings
  nextId : Nat
  /-- The present moment in seconds from 1970 on, and its fraction. -/
  now : Int × Nat
  view : View

abbrev Read := StateT Reader (Except String)

def next? : Read (Option String) := do
  match (← get).rest with
  | [] => return none
  | a :: rest =>
    modify fun r => { r with rest }
    return some a

def argument (option : String) : Read String := do
  match ← next? with
  | some a => return a
  | none => throw s!"missing argument to \x60{option}'"

def number (option : String) : Read Nat := do
  let a ← argument option
  match a.toNat? with
  | some n => return n
  | none =>
    throw s!"Expected a positive decimal integer argument to {option}, but got {Quoting.quoted a}"

/-- Reads a number behind its sign. -/
def comparison? (cs : List Char) : Option (Comparison × List Char) :=
  let (make, cs) := match cs with
    | '+' :: rest => (Comparison.more, rest)
    | '-' :: rest => (Comparison.less, rest)
    | cs => (Comparison.equal, cs)
  let digits := cs.takeWhile (·.isDigit)
  if digits = [] then none
  else some (make (Nat.ofDigitChars 10 digits 0), cs.drop digits.length)

def sizeUnit? : List Char → Option Nat
  | [] | ['b'] => some 512
  | ['c'] => some 1
  | ['w'] => some 2
  | ['k'] => some 1024
  | ['M'] => some 1048576
  | ['G'] => some 1073741824
  | _ => none

/-- The bits that a text asks for, of a mode without any. -/
def bits? (text : String) : Option Nat :=
  (Mode.Recipe.read? text).map fun r => r.apply false 0 0

def permission? (text : String) : Option Permission :=
  match text.toList with
  | '-' :: rest => (bits? (String.ofList rest)).map .allOf
  | '/' :: rest => (bits? (String.ofList rest)).map .anyOf
  | _ => (bits? text).map .exactly

/-- The arguments up to a semicolon, or up to a plus behind braces. -/
def commandWords (option : String) : Nat → List String → Read Primary
  | 0, _ => throw s!"missing argument to \x60{option}'"
  | fuel + 1, words => do
    match ← next? with
    | none => throw s!"missing argument to \x60{option}'"
    | some ";" =>
      if words.isEmpty then throw s!"missing argument to \x60{option}'"
      else return .run words
    | some "+" =>
      if words.getLast? = some "\x7b\x7d" then
        if (words.filter fun w => 1 < (w.splitOn "\x7b\x7d").length).length ≠ 1 then
          throw s!"Only one instance of \x7b\x7d is supported with {option} ... +"
        let id := (← get).nextId
        modify fun r => { r with nextId := id + 1 }
        return .runAll id words.dropLast
      else commandWords option fuel (words ++ ["+"])
    | some word => commandWords option fuel (words ++ [word])

/-- Reads the rest of a primary. -/
def primary (option : String) : Read Primary := do
  let kept (change : Settings → Settings) : Read Primary := do
    modify fun r => { r with settings := change r.settings }
    return .always true
  match option with
  | "-name" => return .name (← argument option) false false
  | "-iname" => return .name (← argument option) true false
  | "-path" | "-wholename" => return .name (← argument option) false true
  | "-ipath" | "-iwholename" => return .name (← argument option) true true
  | "-regex" | "-iregex" =>
    match Regex.read ⟨false, false⟩ (← argument option) with
    | .ok (r, _) => return .regex r (option == "-iregex")
    | .error f => throw f.message
  | "-type" | "-xtype" =>
    let text ← argument option
    let letters := (splitAtEach ',' text.toList).flatten
    match letters.find? fun c => !(("bcdpflsD".toList).contains c) with
    | some c => throw s!"Unknown argument to {option}: {String.singleton c}"
    | none => return .kind letters
  | "-empty" => return .empty
  | "-size" =>
    let text ← argument option
    match comparison? text.toList with
    | some (c, rest) =>
      match sizeUnit? rest with
      | some unit => return .size c unit
      | none => throw s!"invalid -size type \x60{String.ofList (rest.take 1)}'"
    | none => throw s!"Invalid argument \x60{text}' to -size"
  | "-perm" =>
    let text ← argument option
    match permission? text with
    | some p => return .permission p
    | none => throw s!"invalid mode {Quoting.quoted text}"
  | "-executable" => return .executable
  | "-readable" | "-writable" | "-true" | "-noleaf" | "-mount" | "-xdev" | "-daystart"
  | "-follow" | "-nowarn" | "-warn" => return .always true
  | "-false" | "-nouser" | "-nogroup" => return .always false
  | "-newer" | "-anewer" | "-cnewer" | "-newermm" | "-neweram" | "-newercm" =>
    let name ← argument option
    match Facts.ofPath (← get).view (Proc.pathOf name) with
    | .ok f => return .newer f.attributes.modified
    | .error e => throw s!"{Quoting.quoted name}: {e.reason}"
  | "-newermt" | "-newerat" | "-newerct" =>
    let text ← argument option
    match Calendar.Reader.read? (← get).now text with
    | some m => return .newer (nanosecondsOf m)
    | none =>
      throw s!"I cannot figure out how to interpret {Quoting.quoted text} as a date or time"
  | "-mtime" | "-atime" | "-ctime" =>
    let text ← argument option
    match comparison? text.toList with
    | some (c, []) => return .age ⟨c, 86400, 86400⟩
    | _ => throw s!"invalid argument \x60{text}' to \x60{option}'"
  | "-mmin" | "-amin" | "-cmin" =>
    let text ← argument option
    match comparison? text.toList with
    | some (c, []) => return .age ⟨c, 60, 0⟩
    | _ => throw s!"invalid argument \x60{text}' to \x60{option}'"
  | "-links" =>
    let text ← argument option
    match comparison? text.toList with
    | some (c, []) => return .links c
    | _ => throw s!"invalid argument \x60{text}' to \x60{option}'"
  | "-user" | "-group" | "-uid" | "-gid" =>
    let text ← argument option
    return .always (text == "root" || text == "0")
  | "-maxdepth" =>
    let n ← number option
    kept fun s => { s with most := some n }
  | "-mindepth" =>
    let n ← number option
    kept fun s => { s with least := n }
  | "-depth" | "-d" => kept fun s => { s with isDeep := true }
  | "-print" => return .print "\n"
  | "-print0" => return .print "\x00"
  | "-printf" => return .printf (← argument option)
  | "-ls" => return .listLong
  | "-delete" =>
    let _ ← kept fun s => { s with isDeep := true }
    return .delete
  | "-prune" => return .prune
  | "-quit" => return .quit
  | "-exec" | "-execdir" | "-ok" | "-okdir" =>
    commandWords option ((← get).rest.length + 1) []
  | other =>
    if other.startsWith "-" ∧ other ≠ "-" then throw s!"unknown predicate \x60{other}'"
    else throw s!"paths must precede expression: \x60{other}'"

mutual

/-- Expressions with commas between them. -/
def list : Nat → Read Expr
  | 0 => throw "invalid expression"
  | fuel + 1 => do
    let a ← either fuel
    match (← get).rest with
    | "," :: _ =>
      let _ ← next?
      return .both a (← list fuel)
    | _ => return a

/-- Expressions of which one has to hold. -/
def either : Nat → Read Expr
  | 0 => throw "invalid expression"
  | fuel + 1 => do
    let a ← allOf fuel
    match (← get).rest with
    | operator :: rest =>
      if operator = "-o" ∨ operator = "-or" then
        let _ ← next?
        if rest.isEmpty then throw s!"expected an expression after {Quoting.quoted operator}"
        return .or a (← either fuel)
      else return a
    | [] => return a

/-- Expressions that have to hold one after the other. -/
def allOf : Nat → Read Expr
  | 0 => throw "invalid expression"
  | fuel + 1 => do
    let a ← single fuel
    match (← get).rest with
    | [] => return a
    | operator :: rest =>
      if operator ∈ ["-o", "-or", ",", ")"] then return a
      else if operator = "-a" ∨ operator = "-and" then
        let _ ← next?
        if rest.isEmpty then throw s!"expected an expression after {Quoting.quoted operator}"
        return .and a (← allOf fuel)
      else return .and a (← allOf fuel)

def single : Nat → Read Expr
  | 0 => throw "invalid expression"
  | fuel + 1 => do
    match ← next? with
    | none => throw "invalid expression"
    | some operator =>
      if operator = "!" ∨ operator = "-not" then
        if (← get).rest.isEmpty then
          throw s!"expected an expression after {Quoting.quoted operator}"
        return .not (← single fuel)
      else if operator = "(" then
        let e ← list fuel
        match ← next? with
        | some ")" => return e
        | _ =>
          throw "invalid expression; I was expecting to find a ')' somewhere but did not see one."
      else return .primary (← primary operator)

end

/-- Reads an expression; one without any action prints what it holds for. -/
def read (now : Int × Nat) (w : View) (arguments : List String) : Except String (Expr × Settings) := do
  let start : Reader := ⟨arguments, .start, 0, now, w⟩
  if arguments.isEmpty then
    return (.primary (.print "\n"), .start)
  else
    let (e, r) ← (list (4 * arguments.length + 4)).run start
    match r.rest with
    | [] => return (if e.hasAction then e else .and e (.primary (.print "\n")), r.settings)
    | ")" :: _ => throw "you have too many ')'"
    | other :: _ => throw s!"paths must precede expression: \x60{other}'"

/-! ### Asking -/

/-- An entry that an expression is asked of. -/
structure Item where
  /-- The starting point that it was found from. -/
  origin : String
  path : String
  facts : Facts
  depth : Nat
  /-- Whether a directory holds nothing. -/
  isHollow : Bool

def Item.entry (i : Item) : Entry := i.facts.entry

/-- What has come of the search so far. -/
structure State where
  status : Nat
  prunes : Bool
  quits : Bool
  /-- The entries that wait for actions that are run once. -/
  waiting : List (Nat × List String × List String)

def State.start : State := ⟨0, false, false, []⟩

/-- Puts a path in the place of braces. -/
def withBraces (path word : String) : String := replacedIn word "\x7b\x7d" path

/-- The entry that waits for an action, added to those of the same action. -/
def waitFor (id : Nat) (words : List String) (path : String) :
    List (Nat × List String × List String) → List (Nat × List String × List String)
  | [] => [(id, words, [path])]
  | x :: rest =>
    if x.1 = id then (id, words, x.2.2 ++ [path]) :: rest else x :: waitFor id words path rest

/-- Runs a program and says whether it succeeded. -/
def runWords (command : String) (words : List String) (environment : Environment) : Proc Bool := do
  let name := words.headD ""
  let child ← Proc.fork do
    becomeOr command (Quoting.quoted name) words environment
  return (← Proc.waitFor child) == .exited 0

/-- A moment in a form of its own, or in that of a letter. -/
def momentText (m : Calendar.Moment) : Option Char → String
  | none => Calendar.Form.filled true "%a %b %e %H:%M:%S.%N0 %Y" m
  | some '@' => Calendar.Form.filled true "%s.%N0" m
  | some '+' => Calendar.Form.filled true "%Y-%m-%d+%H:%M:%S.%N0" m
  | some 'S' => Calendar.Form.filled true "%S.%N0" m
  | some 'T' => Calendar.Form.filled true "%H:%M:%S.%N0" m
  | some 'X' => Calendar.Form.filled true "%H:%M:%S.%N0" m
  | some 'c' => Calendar.Form.filled true "%a %b %e %H:%M:%S.%N0 %Y" m
  | some c => Calendar.Form.filled true (String.ofList ['%', c]) m

/-- What a directive stands for. -/
def printfValue (i : Item) (d : Printf.Directive) : String :=
  let text := FactForm.fitText d
  let number (n : Nat) : String := text (toString n)
  match d.conversion with
  | 'p' => text i.path
  | 'f' => text (lastName i.path)
  | 'h' => text (if i.path.contains '/' then directoryName i.path else ".")
  | 'P' => text (String.ofList ((i.path.toList.drop i.origin.length).dropWhile (· == '/')))
  | 'H' => text i.origin
  | 's' => number i.facts.size
  | 'd' => FactForm.fitNumber d i.depth
  | 'y' | 'Y' => text (match i.entry with
    | .directory => "d"
    | .file .. => "f"
    | .device _ => "c")
  | 'm' => FactForm.fitUnsigned d 'o' i.facts.mode
  | 'M' => text i.facts.modeText
  | 'u' | 'g' => text "root"
  | 'U' | 'G' => number 0
  | 'n' => number i.facts.links
  | 'k' => number (i.facts.blocks / 2)
  | 'b' => number i.facts.blocks
  | 'l' => text ""
  | 't' | 'a' | 'c' => text (momentText i.facts.moment none)
  | c => d.source ++ if d.source.toList.getLast? = some c then "" else String.singleton c

/-- A format with its directives replaced. The fuel bounds its length. -/
def printfText (i : Item) : Nat → List Char → String
  | 0, _ | _, [] => ""
  | fuel + 1, '%' :: rest =>
    match FactForm.read? "-+ #0".toList rest with
    | none => "%"
    | some (d, behind) =>
      if d.conversion = '%' then "%" ++ printfText i fuel behind
      else
        match d.conversion, behind with
        | 'T', c :: more | 'A', c :: more | 'C', c :: more =>
          FactForm.fitText d (momentText i.facts.moment (some c)) ++ printfText i fuel more
        | _, _ => printfValue i d ++ printfText i fuel behind
  | fuel + 1, c :: rest => String.singleton c ++ printfText i fuel rest

/-- Asks a primary. -/
def Primary.ask (command : String) (environment : Environment) (i : Item) (s : State) :
    Primary → Proc (Bool × State)
  | .always value => return (value, s)
  | .name pattern ignoresCase isWhole =>
    let lower (text : String) : String := if ignoresCase then text.toLower else text
    let text := if isWhole then i.path else lastName i.path
    return ((Shell.Pattern.ofText (lower pattern)).matchesAll (lower text).toList, s)
  | .regex r ignoresCase =>
    let text := if ignoresCase then i.path.toLower else i.path
    let whole := match Regex.matchAt? r ⟨text.toList.toArray, ignoresCase, false⟩ 0 with
      | some m => m.stop == text.length
      | none => false
    return (whole, s)
  | .kind letters =>
    return (match i.entry with
      | .directory => letters.contains 'd'
      | .file .. => letters.contains 'f'
      | .device _ => letters.contains 'c', s)
  | .empty =>
    return (match i.entry with
      | .directory => i.isHollow
      | .file bytes _ => bytes.isEmpty
      | .device _ => false, s)
  | .size c unit => return (c.holds ((i.facts.size + unit - 1) / unit), s)
  | .permission p =>
    let mode := i.facts.mode
    return (match p with
      | .exactly bits => mode == bits
      | .allOf bits => mode &&& bits == bits
      | .anyOf bits => bits == 0 || mode &&& bits != 0, s)
  | .newer time => return (decide (time < i.facts.attributes.modified), s)
  | .age a => do
    return (a.holds (← Proc.presentTime) i.facts.attributes.modified, s)
  | .links c => return (c.holds i.facts.links, s)
  | .executable => return (Mode.isExecutable i.facts.mode, s)
  | .print ending => do
    Proc.print (i.path ++ ending)
    return (true, s)
  | .printf format => do
    let (text, _) := Escape.text .programEcho format
    Proc.print (printfText i (text.length + 1) text.toList)
    return (true, s)
  | .listLong => do
    let blocks := rightAligned 6 (toString (i.facts.blocks / 2))
    let size := rightAligned 8 (toString i.facts.size)
    let links := rightAligned 3 (toString i.facts.links)
    let form := ListForm.single (← Proc.presentTime)
    Proc.print s!"        1 {blocks} {i.facts.modeText} {links} root     root     {size} {form.shownTime i.facts} {i.path}\n"
    return (true, s)
  | .delete => do
    if i.path = "." then return (true, s)
    let path := Proc.pathOf i.path
    let result ← Proc.change fun files cwd =>
      if i.entry.isDirectory then files.removeDir cwd path else files.removeFile cwd path
    match result with
    | .ok () => return (true, s)
    | .error e =>
      complain command s!"cannot delete {Quoting.quoted i.path}: {e.reason}"
      return (false, { s with status := 1 })
  | .prune => return (true, { s with prunes := true })
  | .quit => return (true, { s with quits := true })
  | .run words => do
    return (← runWords command (words.map (withBraces i.path)) environment, s)
  | .runAll id words => return (true, { s with waiting := waitFor id words i.path s.waiting })

/-- Asks an expression; nothing is asked any more behind the end of the search. -/
def Expr.ask (command : String) (environment : Environment) (i : Item) :
    Expr → State → Proc (Bool × State)
  | .primary p, s => if s.quits then return (false, s) else p.ask command environment i s
  | .not e, s => do
    let (value, s) ← e.ask command environment i s
    return (!value, s)
  | .and a b, s => do
    let (value, s) ← a.ask command environment i s
    if value then b.ask command environment i s else return (false, s)
  | .or a b, s => do
    let (value, s) ← a.ask command environment i s
    if value then return (true, s) else b.ask command environment i s
  | .both a b, s => do
    let (_, s) ← a.ask command environment i s
    b.ask command environment i s

/-- Walks through a tree. The fuel bounds the depth. -/
def walk (command : String) (environment : Environment) (e : Expr) (settings : Settings)
    (origin : String) : Nat → Nat → String → State → Proc State
  | 0, _, _, s => return s
  | fuel + 1, depth, path, s => do
    if s.quits then
      return s
    let w ← Proc.view
    match Facts.ofPath w (Proc.pathOf path) with
    | .error failure =>
      complain command s!"{Quoting.quoted path}: {failure.reason}"
      return { s with status := 1 }
    | .ok facts =>
      let children := (w.files.readDirectory w.cwd (Proc.pathOf path)).toOption.getD []
      let item : Item := ⟨origin, path, facts, depth, children.isEmpty⟩
      let ask (s : State) : Proc State := do
        if depth < settings.least then return s
        else return (← e.ask command environment item s).2
      let s ← if settings.isDeep then pure s else ask { s with prunes := false }
      let goesOn := facts.entry.isDirectory && (settings.isDeep || !s.prunes) &&
        settings.most.all fun most => decide (depth < most)
      let s ← if !goesOn then pure s else
        children.foldlM (fun s (name, _) => do
          let below := ByteText.encode name.text
          let path := if path.endsWith "/" then path ++ below else s!"{path}/{below}"
          walk command environment e settings origin fuel (depth + 1) path s) s
      if settings.isDeep then ask s else return s

/-- Runs what waits for all entries. -/
def runWaiting (command : String) (environment : Environment) (s : State) : Proc Nat :=
  s.waiting.foldlM (fun status (_, words, paths) => do
    let good ← runWords command (words ++ paths) environment
    return if good then status else 1) s.status

/-- Whether an argument begins the expression. -/
def beginsExpression (a : String) : Bool :=
  (a.startsWith "-" && a != "-") || a == "(" || a == ")" || a == "!" || a == ","

end Find

def find (arguments : List String) (environment : Environment) : Proc Nat := do
  let command := arguments.headD ""
  let options := ["-L", "-H", "-P"]
  let rest := arguments.tail.dropWhile fun a => options.contains a
  let starts := rest.takeWhile fun a => !Find.beginsExpression a
  match Find.read (secondsOf (← Proc.presentTime)) (← Proc.view) (rest.drop starts.length) with
  | .error text => failWith command text 1
  | .ok (e, settings) =>
    let starts := if starts.isEmpty then ["."] else starts
    let s ← starts.foldlM (fun s start =>
      Find.walk command environment e settings start 300 0 start s) Find.State.start
    Find.runWaiting command environment s

end LinkBench.Host.Utility
