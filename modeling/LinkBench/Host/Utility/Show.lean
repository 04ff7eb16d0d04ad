import LinkBench.Host.Utility.Options
/-!
Programs that pass on whole texts: as they are, turned around, or to several files at once.
-/

namespace LinkBench.Host.Utility

/-- The operands that name inputs; the standard input is read if there are none. -/
def inputNames (operands : List String) : List String :=
  if operands.isEmpty then ["-"] else operands

/-- Runs `f` on the text of every input and complains about those that cannot be read. -/
def withTexts (command : String) (names : List String) (f : String → String → Proc Nat) : Proc Nat :=
  forEach names fun name => do
    match ← textOf name with
    | .ok text => f name text
    | .error r => failWith command s!"{Quoting.named name}: {r.reason}" 1

/-- The texts of all inputs that can be read, and the status. -/
def allTexts (command : String) (names : List String) : Proc (List String × Nat) :=
  names.foldlM (fun (texts, status) name => do
    match ← textOf name with
    | .ok text => return (texts ++ [text], status)
    | .error r =>
      complain command s!"{Quoting.named name}: {r.reason}"
      return (texts, 1)) ([], 0)

/-- A number behind blanks, as wide as asked for. -/
def rightAligned (width : Nat) (text : String) : String :=
  String.ofList (text.toList.leftpad width ' ')

/-- A text followed by blanks, as wide as asked for. -/
def leftAligned (width : Nat) (text : String) : String :=
  String.ofList (text.toList.rightpad width ' ')

/-! ### Passing on -/

structure CatStyle where
  numbersAll : Bool
  numbersFull : Bool
  squeezes : Bool
  showsEnds : Bool
  showsTabs : Bool
  showsControls : Bool

namespace CatStyle

def isPlain (s : CatStyle) : Bool :=
  !(s.numbersAll || s.numbersFull || s.squeezes || s.showsEnds || s.showsTabs || s.showsControls)

def ofGiven (g : Given) : CatStyle where
  numbersAll := g.has "n" && !g.has "b"
  numbersFull := g.has "b"
  squeezes := g.has "s"
  showsEnds := g.has "E" || g.has "A" || g.has "e"
  showsTabs := g.has "T" || g.has "A" || g.has "t"
  showsControls := g.has "v" || g.has "A" || g.has "e" || g.has "t"

/-- How a character is shown that is no line end. -/
def shown (s : CatStyle) (c : Char) : List Char :=
  if c = '\t' then
    if s.showsTabs then ['^', 'I'] else ['\t']
  else if s.showsControls then
    let n := c.toNat
    let low (n : Nat) : List Char :=
      if n < 32 then ['^', Char.ofNat (n + 64)]
      else if n = 127 then ['^', '?']
      else [Char.ofNat n]
    if n < 128 then low n else 'M' :: '-' :: low (n - 128)
  else
    [c]

/-- The line end as it is shown, and a carriage return in front of it. -/
def shownLine (s : CatStyle) (line : List Char) : List Char :=
  let body := line.filter (· != '\n')
  if body.length = line.length then body.flatMap s.shown
  else if !s.showsEnds then body.flatMap s.shown ++ ['\n']
  else
    match body.reverse with
    | '\r' :: before => before.reverse.flatMap s.shown ++ ['^', 'M', '$', '\n']
    | _ => body.flatMap s.shown ++ ['$', '\n']

end CatStyle

/-- What has been printed so far: the number of the last line, whether the next one begins at a line
start, and how many empty lines stand in front of it. -/
structure CatState where
  number : Nat
  isAtStart : Bool
  empties : Nat

def CatState.start : CatState := ⟨0, true, 0⟩

/-- Shows the next piece of a line. -/
def CatStyle.piece (s : CatStyle) (state : CatState) (line : List Char) : List Char × CatState :=
  let isEmpty := state.isAtStart && line = ['\n']
  let empties := if isEmpty then state.empties + 1 else 0
  if s.squeezes ∧ 1 < empties then
    ([], { state with empties })
  else
    let isNumbered := state.isAtStart && (s.numbersAll || (s.numbersFull && !isEmpty))
    let number := if isNumbered then state.number + 1 else state.number
    let label := if isNumbered then rightAligned 6 (toString number) ++ "\t" else ""
    (label.toList ++ s.shownLine line, ⟨number, line.getLast? == some '\n', empties⟩)

/-- Shows a text, and says how the next one has to go on. -/
def CatStyle.text (s : CatStyle) (state : CatState) (text : String) : String × CatState :=
  let (pieces, state) := (linesWithEnds text).foldl
    (fun (pieces, state) line =>
      let (shown, state) := s.piece state line
      (shown :: pieces, state)) (([] : List (List Char)), state)
  (String.ofList pieces.reverse.flatten, state)

/-- Copies a descriptor to the standard output. -/
def passOn (descriptor : Nat) : Nat → Proc (Except IoError (Except IoError Unit))
  | 0 => return .ok (.ok ())
  | fuel + 1 => do
    let got : Except IoError Bytes ← Proc.request (.read descriptor Proc.blockSize)
    match got with
    | .error e => return .error e
    | .ok [] => return .ok (.ok ())
    | .ok bytes =>
      let put : Except IoError Unit ← Proc.request (.write Proc.standardOutput bytes)
      match put with
      | .ok () => passOn descriptor fuel
      | .error e => return .ok (.error e)

def catFlags : List Flag :=
  [Options.flag "n" "number", Options.flag "b" "number-nonblank", Options.flag "s" "squeeze-blank",
    Options.flag "E" "show-ends", Options.flag "T" "show-tabs", Options.flag "v" "show-nonprinting",
    Options.flag "A" "show-all", Options.flag "e" "", Options.flag "t" "", Options.flag "u" ""]

/-- Passes on one input after the other. -/
def catFrom (command : String) (s : CatStyle) : CatState → Nat → List String → Proc Nat
  | _, status, [] => return status
  | state, status, name :: rest => do
    let failed (reason : String) : Proc Nat := do
      complain command s!"{Quoting.named name}: {reason}"
      catFrom command s state 1 rest
    match ← Proc.openInput name with
    | .error e => failed e.reason
    | .ok descriptor =>
      if s.isPlain then
        let result ← passOn descriptor passLimit
        Proc.closeInput descriptor
        match result with
        | .error e => failed e.reason
        | .ok (.error e) => failWith command s!"write error: {e.reason}" 1
        | .ok (.ok ()) => catFrom command s state status rest
      else
        let result ← Proc.readAll descriptor
        Proc.closeInput descriptor
        match result with
        | .error e => failed e.reason
        | .ok bytes =>
          let (text, state) := s.text state (ByteText.ofBytes bytes)
          match ← emit command text 0 with
          | 0 => catFrom command s state status rest
          | failure => return failure

def cat : List String → Proc Nat := fun arguments =>
  withOptions catFlags true 1 arguments fun command given operands =>
    catFrom command (.ofGiven given) .start 0 (inputNames operands)

/-! ### Turned around -/

/-- The pieces of a text up to and including each separator. -/
def piecesWith (separator : String) (text : String) : List String :=
  let pieces := text.splitOn separator
  pieces.dropLast.map (· ++ separator) ++ (pieces.getLast?.toList.filter (· != ""))

/-- The lines of each input from the last to the first. -/
def tac : List String → Proc Nat := fun arguments =>
  let flags := [Options.valued "s" "separator", Options.flag "b" "before", Options.flag "r" "regex"]
  withOptions flags true 1 arguments fun command given operands => do
    let separator := (given.last? "s").getD "\n"
    forEach (inputNames operands) fun name => do
      match ← textOf name with
      | .ok text => emit command (String.join (piecesWith separator text).reverse) 0
      | .error (.opening e) =>
        failWith command s!"failed to open {Quoting.always name} for reading: {e.reason}" 1
      | .error (.reading e) => failWith command s!"{Quoting.named name}: read error: {e.reason}" 1

/-- Each line backward. -/
def rev : List String → Proc Nat := fun arguments =>
  withOptions [] true 1 ("rev" :: arguments.tail) fun command _ operands =>
    forEach (inputNames operands) fun name => do
      match ← textOf name with
      | .ok text =>
        let turned := (linesWithEnds text).map fun line =>
          if line.getLast? = some '\n' then line.dropLast.reverse ++ ['\n'] else line.reverse
        emit command (String.ofList turned.flatten) 0
      | .error (.opening e) => failWith command s!"cannot open {name}: {e.reason}" 1
      | .error (.reading e) => failWith command s!"{name}: {e.reason}" 1

/-! ### To several files -/

def tee : List String → Proc Nat := fun arguments =>
  let flags := [Options.flag "a" "append", Options.flag "i" "ignore-interrupts",
    Options.flag "p" "", Options.optional "output-error" "output-error"]
  withOptions flags true 1 arguments fun command given operands => do
    let mode : OpenMode := if given.has "a" then .append else .write
    let opened ← operands.zipIdx.mapM fun (name, i) => do
      let descriptor := 20 + i
      let result : Except IoError Unit ← Proc.request (.openAt descriptor (Proc.pathOf name) mode)
      match result with
      | .ok () => return (name, some descriptor)
      | .error e =>
        complain command s!"{Quoting.named name}: {e.reason}"
        return (name, none)
    let targets := ("standard output", Proc.standardOutput) ::
      opened.filterMap fun (name, d) => d.map fun d => (name, d)
    let status := if opened.any (·.2.isNone) then 1 else 0
    match ← Proc.readAll Proc.standardInput with
    | .error e => failWith command s!"read error: {e.reason}" 1
    | .ok bytes =>
      targets.foldlM (fun status (name, descriptor) => do
        let result : Except IoError Unit ← Proc.request (.write descriptor bytes)
        match result with
        | .ok () => return status
        | .error e => failWith command s!"{Quoting.named name}: {e.reason}" 1) status

end LinkBench.Host.Utility
