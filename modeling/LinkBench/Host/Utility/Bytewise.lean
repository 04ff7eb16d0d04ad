import LinkBench.Host.Utility.Amount
import LinkBench.Host.Utility.Show
/-!
Comparing two files byte by byte: where they differ first, or everywhere, or whether one is the beginning
of the other.
-/

namespace LinkBench.Host.Utility

open Options

/-- Complains about a use that has no meaning to a program that compares. -/
def refuseComparison (command text : String) : Proc Nat := do
  complain command text
  failWith command s!"Try '{command} --help' for more information." 2

namespace ByteComparison

/-- How many bytes two texts begin with that are the same. -/
def common : Bytes → Bytes → Nat
  | a :: as, b :: bs => if a = b then common as bs + 1 else 0
  | _, _ => 0

/-- All places where two texts differ, counted from one, with the bytes that stand there. -/
def differences (as bs : Bytes) : List (Nat × UInt8 × UInt8) :=
  ((as.zip bs).zipIdx).filterMap fun ((a, b), i) => if a = b then none else some (i + 1, a, b)

def octal (b : UInt8) : String := rightAligned 3 (String.ofList (Nat.toDigits 8 b.toNat))

/-- A byte as a character. -/
def shown (b : UInt8) : String :=
  let n := b.toNat
  let low (n : Nat) : String :=
    if n < 32 then "^" ++ String.singleton (Char.ofNat (n + 64))
    else if n = 127 then "^?"
    else String.singleton (Char.ofNat n)
  if n < 128 then low n else "M-" ++ low (n - 128)

/-- What is said about differences. -/
inductive Extent
  | first
  | all
  /-- Nothing but what is wrong. -/
  | none
  deriving DecidableEq

structure Style where
  extent : Extent
  isSilent : Bool
  showsBytes : Bool
  skippedLeft : Nat
  skippedRight : Nat
  limit : Option Nat

namespace Style

def amount? (text : String) : Option Nat :=
  if text.toList.head?.any (·.isDigit) then Amount.read? "kKMGTPEZY" text else none

def skip (text : String) : Except String Nat :=
  match amount? text with
  | some n => .ok n
  | none => .error s!"invalid --ignore-initial value '{text}'"

/-- The bytes to skip in both files: one number for both, or one for each. -/
def skips (text : String) : Except String (Nat × Nat) := do
  match (splitAtEach ':' text.toList).map String.ofList with
  | [one] =>
    let n ← skip one
    return (n, n)
  | left :: right =>
    match skip left with
    | .ok n => return (n, ← skip (String.intercalate ":" right))
    | .error _ => throw s!"invalid --ignore-initial value '{text}'"
  | [] => return (0, 0)

/-- The style that options and the operands behind the two files ask for. -/
def ofGiven (given : Given) (offsets : List String) : Except String Style := do
  let more (s : Style) (l r : Nat) : Style :=
    { s with skippedLeft := max s.skippedLeft l, skippedRight := max s.skippedRight r }
  let extent (s : Style) (e : Extent) : Except String Style :=
    if s.extent = .first ∨ s.extent = e then .ok { s with extent := e, isSilent := e = .none }
    else .error "options -l and -s are incompatible"
  let s : Style := ⟨.first, false, false, 0, 0, none⟩
  let s ← given.foldlM (fun s (key, value) =>
    match key with
    | "b" => .ok { s with showsBytes := true }
    | "l" => extent s .all
    | "s" => extent s .none
    | "i" => do
      let (l, r) ← skips value
      return more s l r
    | "n" =>
      match amount? value with
      | some n => .ok { s with limit := some ((s.limit.map (min n)).getD n) }
      | none => .error s!"invalid --bytes value '{value}'"
    | _ => .ok s) s
  match offsets with
  | [] => return s
  | [left] => return more s (← skip left) 0
  | [left, right] => return more s (← skip left) (← skip right)
  | left :: right :: extra :: _ =>
    let _ ← skip left
    let _ ← skip right
    throw s!"extra operand '{extra}'"

/-- What is said of two texts that differ, and what is said of the one that ends first. The width is that
of the places. -/
def report (s : Style) (left right : String) (width : Nat) (as bs : Bytes) : String × Option String :=
  let count := common as bs
  let ahead := as.take count
  let lines := ahead.count 0x0a
  let shorter := if as.length < bs.length then left else right
  let early := if as.length = bs.length then none
    else if as = [] ∨ bs = [] then some s!"EOF on {shorter} which is empty"
    else some s!"EOF on {shorter} after byte {min as.length bs.length}"
  match s.extent, as[count]?, bs[count]? with
  | .first, some a, some b =>
    let place := s!"{left} {right} differ: "
    if s.showsBytes then
      (place ++ s!"byte {count + 1}, line {lines + 1} is {octal a} {shown a} {octal b} {shown b}\n", none)
    else (place ++ s!"char {count + 1}, line {lines + 1}\n", none)
  | .first, _, _ =>
    let where? := if as = [] ∨ bs = [] then ""
      else if ahead.getLast? = some 0x0a then s!", line {lines}"
      else s!", in line {lines + 1}"
    ("", early.map (· ++ where?))
  | .all, _, _ =>
    let rows := (differences as bs).map fun (place, a, b) =>
      rightAligned width (toString place) ++
        if s.showsBytes then s!" {octal a} {leftAligned 4 (shown a)} {octal b} {shown b}\n"
        else s!" {octal a} {octal b}\n"
    (String.join rows, early)
  | .none, some _, some _ => ("", none)
  | .none, _, _ => ("", if s.isSilent then none else early)

end Style

end ByteComparison

def cmpFlags : List Flag :=
  [flag "b" "print-bytes", flag "b" "print-chars", valued "i" "ignore-initial", flag "l" "verbose",
    valued "n" "bytes", flag "s" "quiet", flag "s" "silent"]

/-- Compares two files. -/
def compareBytes (command : String) (s : ByteComparison.Style) (left right : String) : Proc Nat := do
  let failed (name : String) : Proc.Refusal → Proc Nat
    | .opening e => if s.isSilent then return 2 else failWith command s!"{name}: {e.reason}" 2
    | .reading e => failWith command s!"{name}: {e.reason}" 2
  let as ← Proc.contents left
  match as with
  | .error (.opening e) => failed left (.opening e)
  | _ =>
    if left = right ∧ s.skippedLeft = s.skippedRight ∧ left ≠ "-" then
      return 0
    match as, ← Proc.contents right with
    | _, .error (.opening e) => failed right (.opening e)
    | .error r, _ => failed left r
    | _, .error r => failed right r
    | .ok as, .ok bs =>
      let isLost : Bool ← Proc.request (.isDiscarding Proc.standardOutput)
      let s := if isLost then { s with extent := .none } else s
      let w ← Proc.view
      let cut (skipped : Nat) (bytes : Bytes) : Bytes :=
        match s.limit with
        | some n => (bytes.drop skipped).take n
        | none => bytes.drop skipped
      let count? (name : String) (bytes : Bytes) : Option Nat :=
        if name ≠ "-" ∧ w.files.isFile w.cwd (Proc.pathOf name) then some bytes.length else none
      let as := cut s.skippedLeft as
      let bs := cut s.skippedRight bs
      let most := ([count? left as, count? right bs, s.limit].filterMap fun n => n).min?
      let width := (toString (most.getD 9223372036854775807)).length
      if as = bs then
        return 0
      let (text, early) := s.report left right width as bs
      Proc.print text
      if let some complaint := early then
        complain "cmp" complaint
      return 1

def cmp : List String → Proc Nat := fun arguments => do
  let command := arguments.headD ""
  match Options.read cmpFlags true arguments.tail with
  | .error f => refuseComparison command f.message
  | .ok (given, operands) =>
    let offsets := operands.drop 2
    match ByteComparison.Style.ofGiven given [], operands with
    | .error text, _ => refuseComparison command text
    | .ok _, [] =>
      refuseComparison command s!"missing operand after '{arguments.getLast?.getD command}'"
    | .ok _, left :: rest =>
      match ByteComparison.Style.ofGiven given offsets with
      | .error text => refuseComparison command text
      | .ok s => compareBytes command s left (rest.headD "-")

end LinkBench.Host.Utility
