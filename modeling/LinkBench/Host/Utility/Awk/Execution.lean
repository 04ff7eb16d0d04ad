import LinkBench.Host.Utility.Awk.Replacement
import LinkBench.Host.Utility.Awk.Streams
/-!
Running programs: the values of expressions, the steps of statements, and the rules on line after line.
-/

namespace LinkBench.Host.Utility.Awk

namespace Run

/-! ### Targets -/

/-- A target whose parts have been worked out. -/
inductive Slot
  | variable (name : String)
  | field (i : Nat)
  | element (array : Nat) (key : Key)

def wholeOf (v : Value) : Int := ((Floating.ofDouble v.toNumber).integerPart?).getD 0

def fieldNumber (v : Value) : Run Nat := do
  let n := wholeOf v
  if n < 0 then throw (.fault s!"negative field index ${n}")
  return n.toNat

def load : Slot → Run Value
  | .variable "NF" => do return .ofNat (← fields).size
  | .variable name => do
    match ← cellOf name with
    | .value v => return v
    | .unused _ => return .unset
    | .array _ => throw (.fault s!"reference to variable {name}, which is an array")
  | .field i => field i
  | .element array key => do
    let (t, v) := (← tableOf array).demand key .unset
    setTable array t
    return v

/-- The line with so many fields. -/
def withCount (count : Nat) (found : Array Value) : Array Value :=
  if count ≤ found.size then found.extract 0 count
  else found ++ Array.replicate (count - found.size) .unset

def save (slot : Slot) (v : Value) : Run Unit := do
  match slot with
  | .variable "NF" => setFields (withCount (wholeOf v).toNat (← fields))
  | .variable name => setCell name (.value v)
  | .field 0 => setRecord (← textOfValue v)
  | .field i =>
    let found ← fields
    setFields ((withCount (max i found.size) found).setIfInBounds (i - 1) v)
  | .element array key => setTable array ((← tableOf array).insert key v)

/-! ### Numbers -/

def truncated (x : Float) : Float :=
  match (Floating.ofDouble x).integerPart? with
  | some n => Float.ofInt n
  | none => x

def calculated (c : Calculation) (x y : Float) : Float :=
  match c with
  | .add => x + y
  | .subtract => x - y
  | .multiply => x * y
  | .divide => x / y
  | .remainder => ((Floating.ofDouble x).remainder (Floating.ofDouble y)).toDouble
  | .power => Float.pow x y

/-- The part of a text from a place on, of a length if there is one. -/
def part (text : String) (start : Float) (length : Option Float) : String :=
  let whole (x : Float) : Int := ((Floating.ofDouble x).integerPart?).getD (if x < 0 then -1 else 0)
  let cs := text.toList
  let first := if start < 1 then 1 else whole start
  let count := match length with
    | none => Int.ofNat cs.length
    | some n =>
      if (Floating.ofDouble n).integerPart?.isNone then (if n < 0 then 0 else Int.ofNat cs.length)
      else if start < 0 then whole (n + (start - 1)) else whole n
  String.ofList ((cs.drop (first - 1).toNat).take count.toNat)

/-- The next number of the row that chance is taken from. -/
def nextSeed (seed : Nat) : Nat := (seed * 1103515245 + 12345) % 2147483648

/-! ### Expressions -/

/-- The expression that a text means. -/
def compiled (text : String) : Run Regex := do
  match (← get).expressions[text]? with
  | some r => return r
  | none =>
    match Pattern.read text with
    | .ok r =>
      modify fun s => { s with expressions := s.expressions.insert text r }
      return r
    | .error f => throw (.fault (f.message text))

def found (r : Regex) (text : String) : Bool :=
  r.occursIn ⟨text.toList.toArray, false, false⟩

/-- The key of several values: their texts with a sign between them. -/
def keyOf (values : List Value) : Run Key := do
  match values with
  | [v] => return v.toKey (← form)
  | values =>
    let divider ← globalText "SUBSEP"
    return .text (divider.intercalate (← values.mapM textOfValue))

/-- The value of a function of numbers. -/
def numeric? (f : Builtin) (xs : List Float) : Option Float :=
  match f, xs with
  | .sin, [x] => some x.sin
  | .cos, [x] => some x.cos
  | .atan2, [y, x] => some (Float.atan2 y x)
  | .exp, [x] => some x.exp
  | .log, [x] => some x.log
  | .sqrt, [x] => some x.sqrt
  | .int, [x] => some (truncated x)
  | _, _ => none

/-- Where a text stands in another one, counted from one; zero if it does not. The fuel is one more than
the number of places that are left. -/
def indexOf (text part : List Char) : Nat → Nat
  | 0 => 0
  | fuel + 1 =>
    let i := text.length - fuel
    if part.isPrefixOf (text.drop i) then i + 1 else indexOf text part fuel

def lowered (text : String) : String := text.map fun c => if c.isUpper then c.toLower else c

def raised (text : String) : String := text.map fun c => if c.isLower then c.toUpper else c

/-- A form filled with values; a fault ends the run, behind what has been filled in before it. -/
def filled (name form_ : String) (values : List Value) (numberForm : String) :
    String × Option String :=
  let (shown, fault?) := Value.fill numberForm form_ values
  (shown, fault?.map fun
    | .tooFew => s!"not enough arguments passed to {name}(\"{form_}\")"
    | .invalid n => s!"improper conversion(number {n}) in {name}(\"{form_}\")")

/-- Splits a text into the elements of an array; yields their number. -/
def splitInto (array : Nat) (text : String) (d : Divider) : Run Value := do
  let pieces := d.split text
  setTable array (.ofList (pieces.map Value.input))
  return .ofNat pieces.length

/-- Where a new line goes that has been asked for. -/
def accept (slot? : Option Slot) (line : String) : Run Unit :=
  match slot? with
  | none => setRecord line
  | some slot => save slot (.input line)

mutual

/-- The value of an expression. The fuel bounds the depth, here and below. -/
def value (c : Settings) : Nat → Expr → Run Value
  | 0, _ => throw (.fault "function call nesting too deep")
  | fuel + 1, e => do
    let number (e : Expr) : Run Float := do return (← value c fuel e).toNumber
    match e with
    | .number x => return .number x
    | .text s => return .text s
    | .pattern r => return .ofBool (found r (← get).record)
    | .value p => load (← slot c fuel p)
    | .assign p none e =>
      let v ← value c fuel e
      save (← slot c fuel p) v
      return v
    | .assign p (some calculation) e =>
      let y ← number e
      let place ← slot c fuel p
      let v := Value.number (calculated calculation (← load place).toNumber y)
      save place v
      return v
    | .count p isUp isBefore =>
      let place ← slot c fuel p
      let before := (← load place).toNumber
      let behind := if isUp then before + 1 else before - 1
      save place (.number behind)
      return .number (if isBefore then before else behind)
    | .calculate calculation a b =>
      let x ← number a
      return .number (calculated calculation x (← number b))
    | .negate a => return .number (-(← number a))
    | .plus a => return .number (← number a)
    | .not a => return .ofBool !(← value c fuel a).holds
    | .relation r a b =>
      let v ← value c fuel a
      let w ← value c fuel b
      return .ofBool (v.relates (← form) r w)
    | .concat a b =>
      let s ← textOfValue (← value c fuel a)
      return .text (s ++ (← textOfValue (← value c fuel b)))
    | .both a b =>
      if (← value c fuel a).holds then return .ofBool (← value c fuel b).holds
      return .ofBool false
    | .either a b =>
      if (← value c fuel a).holds then return .ofBool true
      return .ofBool (← value c fuel b).holds
    | .choose test a b =>
      if (← value c fuel test).holds then value c fuel a else value c fuel b
    | .finds isNegated a pattern =>
      let s ← textOfValue (← value c fuel a)
      let r ← expression c fuel pattern
      return .ofBool (found r s != isNegated)
    | .isIn keys array =>
      let key ← keyOf (← values c fuel keys)
      let id ← arrayOf array
      let (t, isIn) := (← tableOf id).contains key
      setTable id t
      return .ofBool isIn
    | .call name arguments => call c fuel name arguments
    | .builtin f arguments => builtin c fuel f arguments
    | .getline source target =>
      let slot? ← match target with
        | some p => some <$> slot c fuel p
        | none => pure none
      match source with
      | .main =>
        match ← nextLine c 1000000 with
        | some line =>
          accept slot? line
          return .ofNat 1
        | none => return .ofNat 0
      | .file e => getline c false (← textOfValue (← value c fuel e)) slot?
      | .command e => getline c true (← textOfValue (← value c fuel e)) slot?

def getline (c : Settings) (isCommand : Bool) (name : String) (slot? : Option Slot) : Run Value := do
  match ← lineFrom c isCommand name with
  | .line text =>
    accept slot? text
    return .ofNat 1
  | .finished => return .ofNat 0
  | .failed => return .number (-1)

def values (c : Settings) : Nat → List Expr → Run (List Value)
  | 0, _ => throw (.fault "function call nesting too deep")
  | _, [] => return []
  | fuel + 1, e :: es => do
    let v ← value c fuel e
    return v :: (← values c fuel es)

/-- The expression that stands for itself, or for the text of its value. -/
def expression (c : Settings) : Nat → Expr → Run Regex
  | 0, _ => throw (.fault "function call nesting too deep")
  | _, .pattern r => return r
  | fuel + 1, e => do compiled (← textOfValue (← value c fuel e))

def slot (c : Settings) : Nat → Target → Run Slot
  | 0, _ => throw (.fault "function call nesting too deep")
  | _, .variable name => return .variable name
  | fuel + 1, .field e => do return .field (← fieldNumber (← value c fuel e))
  | fuel + 1, .element array keys => do
    let key ← keyOf (← values c fuel keys)
    return .element (← arrayOf array) key

/-- What a parameter stands for: an array or what may become one as it is, and else a value. -/
def parameter (c : Settings) : Nat → Expr → Run Cell
  | 0, _ => throw (.fault "function call nesting too deep")
  | fuel + 1, e => do
    match e with
    | .value (.variable "NF") => return .value (← value c fuel e)
    | .value (.variable name) => cellOf name
    | e => return .value (← value c fuel e)

def parameters (c : Settings) : Nat → List Expr → Run (List Cell)
  | 0, _ => throw (.fault "function call nesting too deep")
  | _, [] => return []
  | fuel + 1, e :: es => do
    let cell ← parameter c fuel e
    return cell :: (← parameters c fuel es)

/-- Calls a function of the program. -/
def call (c : Settings) : Nat → String → List Expr → Run Value
  | 0, _, _ => throw (.fault "function call nesting too deep")
  | fuel + 1, name, arguments => do
    match c.program.functions.find? (·.name == name) with
    | none => throw (.fault s!"function {name} never defined")
    | some f =>
      let cells ← parameters c fuel arguments
      let s ← get
      let free := f.parameters.drop cells.length
      let fresh := free.zipIdx.map fun (p, i) => (p, Cell.unused (s.nextArray + i))
      set { s with locals := f.parameters.zip cells ++ fresh, nextArray := s.nextArray + free.length }
      let result ← tryCatch (do
          statement c fuel f.body
          return Value.unset) fun
        | .give v => return v
        | other => throw other
      modify fun after => { after with locals := s.locals }
      return result

/-- Calls a function that every program has. -/
def builtin (c : Settings) : Nat → Builtin → List Expr → Run Value
  | 0, _, _ => throw (.fault "function call nesting too deep")
  | fuel + 1, f, arguments => do
    let text (e : Expr) : Run String := do textOfValue (← value c fuel e)
    match f, arguments with
    | .length, [] => return .ofNat (← get).record.length
    | .length, [.value (.variable name)] =>
      match ← cellOf name with
      | .array id => return .ofNat (← tableOf id).size
      | _ => return .ofNat (← text (.value (.variable name))).length
    | .length, e :: _ => return .ofNat (← text e).length
    | .substr, e :: start :: rest =>
      let s ← text e
      let first := (← value c fuel start).toNumber
      match rest with
      | length :: _ => return .text (part s first (some (← value c fuel length).toNumber))
      | [] => return .text (part s first none)
    | .index, [a, b] =>
      let s := (← text a).toList
      return .ofNat (indexOf s (← text b).toList (s.length + 1))
    | .split, e :: .value (.variable array) :: rest =>
      let s ← text e
      let d ← match rest with
        | .pattern r :: _ => pure (Divider.regex r)
        | e :: _ => Divider.ofText <$> text e
        | [] => Divider.ofText <$> globalText "FS"
      splitInto (← arrayOf array) s d
    | .sub, pattern :: replacement :: rest => replace c fuel false pattern replacement rest
    | .gsub, pattern :: replacement :: rest => replace c fuel true pattern replacement rest
    | .matching, [e, pattern] =>
      let s ← text e
      let r ← expression c fuel pattern
      let (start, length) : Nat × Float := match r.search? ⟨s.toList.toArray, false, false⟩ 0 with
        | some m => (m.start + 1, Float.ofNat (m.stop - m.start))
        | none => (0, -1)
      setGlobal "RSTART" (.ofNat start)
      setGlobal "RLENGTH" (.number length)
      return .ofNat start
    | .sprintf, form_ :: rest =>
      let f ← text form_
      let (shown, fault?) := filled "sprintf" f (← values c fuel rest) (← form)
      match fault? with
      | some message => throw (.fault message)
      | none => return .text shown
    | .rand, _ =>
      let next := nextSeed (← get).seed
      modify fun s => { s with seed := next }
      return .number (Float.ofNat next / 2147483648)
    | .srand, rest =>
      let v ← match rest with
        | e :: _ => value c fuel e
        | [] => pure (.ofNat 0)
      let old := (← get).oldSeed
      modify fun s => { s with seed := (wholeOf v).natAbs, oldSeed := v }
      return old
    | .tolower, [e] => return .text (lowered (← text e))
    | .toupper, [e] => return .text (raised (← text e))
    | .system, [e] =>
      let command ← text e
      flush c
      let s ← get
      let child ← ofProc <| Proc.fork do
        closeAll s
        becomeShell c command
      return .ofNat (endStatus (← ofProc (Proc.waitFor child)))
    | .close, [e] =>
      match ← closeNamed c (← text e) with
      | some status => return .ofNat status
      | none => return .number (-1)
    | .fflush, [] =>
      flush c
      return .ofNat 0
    | .fflush, e :: _ =>
      let name ← text e
      if name = "" ∨ name = "/dev/stdout" then
        flush c
        return .ofNat 0
      return if (← get).outputs.any (·.name == name) then .ofNat 0 else .number (-1)
    | .systime, _ =>
      let now : Duration ← ask .now
      return .ofNat (1700000000 + now.nanoseconds / 1000000000)
    | f, arguments =>
      match numeric? f ((← values c fuel arguments).map Value.toNumber) with
      | some x => return .number x
      | none => return .unset

/-- Replaces what an expression matches in the line or in another target; yields how often. -/
def replace (c : Settings) : Nat → Bool → Expr → Expr → List Expr → Run Value
  | 0, _, _, _, _ => throw (.fault "function call nesting too deep")
  | fuel + 1, everywhere, pattern, replacement, rest => do
    let r ← expression c fuel pattern
    let new ← textOfValue (← value c fuel replacement)
    match rest with
    | [] | .value _ :: _ =>
      let place ← match rest with
        | .value p :: _ => slot c fuel p
        | _ => pure (.field 0)
      let (count, text) := replaced r new everywhere (← textOfValue (← load place))
      if 0 < count then
        save place (.text text)
      return .ofNat count
    | e :: _ =>
      return .ofNat (replaced r new everywhere (← textOfValue (← value c fuel e))).1

/-- Does a statement. -/
def statement (c : Settings) : Nat → Statement → Run Unit
  | 0, _ => throw (.fault "function call nesting too deep")
  | fuel + 1, s => do
    let printTo (target : Option (OutputKind × Expr)) (text : String) : Run Unit := do
      match target with
      | none => put c text
      | some (kind, e) => putTo c kind (← textOfValue (← value c fuel e)) text
    match s with
    | .expression e =>
      let _ ← value c fuel e
    | .print arguments target =>
      let shown ← if arguments.isEmpty then pure [(← get).record]
        else do
          let outputForm := match ← global "OFMT" with
            | .unset => Value.usualForm
            | v => v.toText Value.usualForm
          pure ((← values c fuel arguments).map (·.toText outputForm))
      printTo target ((← globalText "OFS").intercalate shown ++ (← globalText "ORS"))
    | .printf arguments target =>
      match ← values c fuel arguments with
      | [] => pure ()
      | f :: rest =>
        let (shown, fault?) := filled "printf" (← textOfValue f) rest (← form)
        printTo target shown
        if let some message := fault? then
          throw (.fault message)
    | .ifElse condition yes no =>
      if (← value c fuel condition).holds then statement c fuel yes else statement c fuel no
    | .whileLoop condition body => loop c fuel (some condition) (.block []) body
    | .doLoop body condition =>
      if ← turn c fuel body then loop c fuel (some condition) (.block []) body
    | .forLoop start condition step body =>
      statement c fuel start
      loop c fuel condition step body
    | .forKeys name array body =>
      let id ← arrayOf array
      let (t, keys) := (← tableOf id).keys
      setTable id t
      forKeys c fuel name body keys
    | .block ss => statements c fuel ss
    | .next => throw .next
    | .nextFile => throw .nextFile
    | .exit status? =>
      if let some e := status? then
        let v ← value c fuel e
        modify fun s => { s with status := ((wholeOf v) % 256).toNat }
      throw .exit
    | .leave => throw .leave
    | .again => throw .again
    | .give value? =>
      match value? with
      | some e => throw (.give (← value c fuel e))
      | none => throw (.give .unset)
    | .delete array [] => setTable (← arrayOf array) .empty
    | .delete array keys =>
      let key ← keyOf (← values c fuel keys)
      let id ← arrayOf array
      setTable id ((← tableOf id).erase key)

def statements (c : Settings) : Nat → List Statement → Run Unit
  | 0, _ => throw (.fault "function call nesting too deep")
  | _, [] => return
  | fuel + 1, s :: ss => do
    statement c fuel s
    statements c fuel ss

/-- Does the body of a loop once; yields whether the loop goes on. -/
def turn (c : Settings) : Nat → Statement → Run Bool
  | 0, _ => throw (.fault "function call nesting too deep")
  | fuel + 1, body =>
    tryCatch (do
      let _ ← ofProc Proc.tick
      statement c fuel body
      return true) fun
      | .leave => return false
      | .again => return true
      | other => throw other

/-- Does the body of a loop as long as a condition holds, and a step behind it each time. -/
def loop (c : Settings) : Nat → Option Expr → Statement → Statement → Run Unit
  | 0, _, _, _ => return
  | fuel + 1, condition, step, body => do
    let holds ← match condition with
      | some e => do pure (← value c fuel e).holds
      | none => pure true
    if holds then
      if ← turn c fuel body then
        statement c fuel step
        loop c fuel condition step body

def forKeys (c : Settings) : Nat → String → Statement → List String → Run Unit
  | 0, _, _, _ => return
  | _, _, _, [] => return
  | fuel + 1, name, body, key :: keys => do
    setCell name (.value (.text key))
    if ← turn c fuel body then
      forKeys c fuel name body keys

end

/-! ### Rules -/

/-- More steps than any run takes. -/
def stepLimit : Nat := 1000000000

/-- Whether a rule is for the line; ranges begin and end here. -/
def isChosen (c : Settings) (i : Nat) : Condition → Run Bool
  | .start | .finish => return false
  | .always => return true
  | .when e => do return (← value c stepLimit e).holds
  | .range first last => do
    let isBegun := (← get).begun.contains i
    if !isBegun then
      if !(← value c stepLimit first).holds then
        return false
    let ends := (← value c stepLimit last).holds
    modify fun s => { s with
      begun := if ends then s.begun.filter (· != i) else if isBegun then s.begun else i :: s.begun }
    return true

/-- Does the rules from one on for the line. -/
def rules (c : Settings) : Nat → List Rule → Run Unit
  | _, [] => return
  | i, r :: rs => do
    if ← isChosen c i r.condition then
      match r.action with
      | some s => statement c stepLimit s
      | none => put c ((← get).record ++ (← globalText "ORS"))
    rules c (i + 1) rs

/-- Does the rules for one line after the other. The fuel bounds their number. -/
def lines (c : Settings) : Nat → Run Unit
  | 0 => return
  | fuel + 1 => do
    match ← nextLine c 1000000 with
    | none => return
    | some line =>
      setRecord line
      tryCatch (rules c 0 c.program.lineRules) fun
        | .next => return
        | .nextFile => do
          if let some i := (← get).main then
            let _ ← closeInput i
          modify fun s => { s with main := none }
        | other => throw other
      lines c fuel

/-- Does what comes before the lines, the rules for the lines, and what comes behind them. -/
def whole (c : Settings) : Run Unit := do
  tryCatch (do
      for s in c.program.actionsAt true do
        statement c stepLimit s
      if c.program.readsLines then
        lines c stepLimit) fun
    | .exit => return
    | other => throw other
  for s in c.program.actionsAt false do
    statement c stepLimit s

/-- Runs the program; yields the exit status. -/
def all (c : Settings) : Run Nat := do
  tryCatch (whole c) fun
    | .fault message => do
      let file ← globalText "FILENAME"
      let number (name : String) : Run String := do textOfValue (.number (← global name).toNumber)
      let inFile ← number "FNR"
      let inAll ← number "NR"
      abandon c s!"run time error: {message}\n\tFILENAME=\"{file}\" FNR={inFile} NR={inAll}"
    | _ => return
  finish c
  return (← get).status

end Run

end LinkBench.Host.Utility.Awk
