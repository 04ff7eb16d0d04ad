import LinkBench.Host.Utility.Amount
import LinkBench.Host.Utility.Show
/-!
Programs that pass on the first or the last lines or bytes of texts.
-/

namespace LinkBench.Host.Utility

/-- How much of a text is wanted. -/
structure Extent where
  countsBytes : Bool
  amount : Nat
  /-- Whether the amount is counted from the other side. -/
  isTurned : Bool

/-- What an extent is called in complaints. -/
def Extent.noun (countsBytes : Bool) : String := if countsBytes then "bytes" else "lines"

/-- A short form of an extent in one argument: a number and letters behind it. -/
structure ShortForm where
  isTurned : Bool
  digits : List Char
  letters : List Char

/-- The short form that an argument may be, behind one of the given signs. -/
def shortForm? (signs : List Char) (argument : String) : Option ShortForm :=
  match argument.toList with
  | sign :: rest =>
    if signs.contains sign then
      let digits := rest.takeWhile (·.isDigit)
      some ⟨sign == '+', digits, rest.drop digits.length⟩
    else none
  | [] => none

/-- The options that a short form of `head` stands for: its first argument, if that is a number. -/
def headArguments (arguments : List String) : Except Char (List String) :=
  match arguments with
  | command :: first :: rest =>
    match shortForm? ['-'] first with
    | none => .ok arguments
    | some ⟨_, [], _⟩ => .ok arguments
    | some ⟨_, digits, letters⟩ =>
      match letters.find? fun c => !"bckmlqvz".toList.contains c with
      | some c => .error c
      | none =>
        let kinds := letters.filter fun c => "bckml".toList.contains c
        let unit := match kinds.getLast? with
          | some c => if c = 'c' ∨ c = 'l' then [] else [c]
          | none => []
        let option := match kinds.getLast? with
          | none | some 'l' => "-n"
          | some _ => "-c"
        let others := (letters.filter fun c => "qvz".toList.contains c).map fun c =>
          String.ofList ['-', c]
        .ok (command :: others ++ [option, String.ofList (digits ++ unit)] ++ rest)
  | _ => .ok arguments

/-- The options that a short form of `tail` stands for. It may be the only option, with at most one
operand behind it. -/
def tailArguments (arguments : List String) : List String :=
  match arguments with
  | command :: first :: rest =>
    let isAlone := match rest with
      | [] => true
      | ["--"] | ["--", _] => true
      | [operand] => operand = "-" || !operand.startsWith "-"
      | _ => false
    match isAlone, shortForm? ['-', '+'] first with
    | true, some ⟨isTurned, digits, letters⟩ =>
      let (unit, behind) := match letters with
        | 'b' :: more => (['b'], more)
        | 'c' :: more => (['c'], more)
        | 'l' :: more => (['l'], more)
        | more => ([], more)
      let follows := behind == ['f']
      let isOption := !isTurned && digits = [] && (letters = [] || letters = ['c'])
      if isOption ∨ !(behind = [] ∨ follows) then arguments
      else
        let amount := if digits = [] then ['1', '0'] else digits
        let amount := if unit = ['b'] then amount ++ ['b'] else amount
        let option := if unit = ['b'] ∨ unit = ['c'] then "-c" else "-n"
        let sign := if isTurned then ['+'] else []
        command :: option :: String.ofList (sign ++ amount) ::
          (if follows then ["-f"] else []) ++ rest
    | _, _ => arguments
  | _ => arguments

/-- Shows the inputs one after the other, under headings if there are several. -/
def underHeadings (command : String) (given : Given) (operands : List String)
    (body : String → Nat → Proc Nat) : Proc Nat := do
  let names := inputNames operands
  let hasHeadings := match given.lastOf? ["q", "v"] with
    | some key => key == "v"
    | none => decide (1 < names.length)
  let (status, _) ← names.foldlM (fun (status, isFirst) name => do
    match ← Proc.openInput name with
    | .error e =>
      complain command s!"cannot open {Quoting.always name} for reading: {e.reason}"
      return (1, isFirst)
    | .ok descriptor =>
      if hasHeadings then
        let shown := if name = "-" then "standard input" else name
        Proc.print ((if isFirst then "" else "\n") ++ s!"==> {shown} <==\n")
      let one ← body name descriptor
      Proc.closeInput descriptor
      return (max status one, false)) (0, true)
  return status

/-- The number of bytes that are read at once if more may be read than is wanted. -/
def pieceSize : Nat := 8192

/-- The first part of a text up to and including the end of its `n`-th record, and the records still
missing. -/
def firstRecords (ending : UInt8) : Nat → Bytes → Bytes × Nat
  | 0, _ => ([], 0)
  | n, [] => ([], n)
  | n + 1, b :: rest =>
    let (taken, left) := firstRecords ending (if b = ending then n else n + 1) rest
    (b :: taken, left)

/-- Passes on the first records of a descriptor and leaves the rest there if possible. -/
def headRecords (ending : Char) (descriptor : Nat) : Nat → Nat → Proc (Except IoError (Except IoError Unit))
  | 0, _ | _, 0 => return .ok (.ok ())
  | fuel + 1, left => do
    let got : Except IoError Bytes ← Proc.request (.read descriptor pieceSize)
    match got with
    | .error e => return .error e
    | .ok [] => return .ok (.ok ())
    | .ok bytes =>
      let (taken, left) := firstRecords (ByteText.toByte ending) left bytes
      (Proc.request (.rewind descriptor (bytes.length - taken.length)) : Proc Unit)
      let put : Except IoError Unit ← Proc.request (.write Proc.standardOutput taken)
      match put with
      | .ok () => headRecords ending descriptor fuel left
      | .error e => return .ok (.error e)

/-- Passes on the first bytes of a descriptor. -/
def headBytes (descriptor : Nat) : Nat → Nat → Proc (Except IoError (Except IoError Unit))
  | 0, _ | _, 0 => return .ok (.ok ())
  | fuel + 1, left => do
    let got : Except IoError Bytes ← Proc.request (.read descriptor (min left pieceSize))
    match got with
    | .error e => return .error e
    | .ok [] => return .ok (.ok ())
    | .ok bytes =>
      let put : Except IoError Unit ← Proc.request (.write Proc.standardOutput bytes)
      match put with
      | .ok () => headBytes descriptor fuel (left - bytes.length)
      | .error e => return .ok (.error e)

/-- Passes on all but the last records or bytes. -/
def headBefore (ending : Char) (extent : Extent) (descriptor : Nat) :
    Proc (Except IoError (Except IoError Unit)) := do
  match ← Proc.readAll descriptor with
  | .error e => return .error e
  | .ok bytes =>
    let text := ByteText.ofBytes bytes
    let kept := if extent.countsBytes then String.ofList (text.toList.take (text.length - extent.amount))
      else
        let records := Records.withEnds ending text.toList
        String.ofList (records.take (records.length - extent.amount)).flatten
    return .ok (← Proc.write Proc.standardOutput kept)

/-- An extent that could not be read: the text that was taken for a number, and what is wrong. -/
structure BadExtent where
  text : String
  reason : Amount.Misread

/-- Reads the number of an extent. -/
def readExtent (countsBytes isTurned : Bool) (text : String) : Except BadExtent Extent :=
  match Amount.read Amount.usual text with
  | .ok n => .ok ⟨countsBytes, n, isTurned⟩
  | .error reason => .error ⟨text, reason⟩

/-- Reads an extent; the sign that turns it is a minus. -/
def headExtent (countsBytes : Bool) (text : String) : Except BadExtent Extent :=
  match text.toList with
  | '-' :: rest => readExtent countsBytes true (String.ofList rest)
  | _ => readExtent countsBytes false text

def headFlags : List Flag :=
  [Options.valued "c" "bytes", Options.valued "n" "lines", Options.flag "q" "quiet",
    Options.flag "q" "silent", Options.flag "v" "verbose", Options.flag "z" "zero-terminated"]

/-- The extent that the last option of its kind asks for. -/
def givenExtent (given : Given) (read : Bool → String → Except BadExtent Extent) :
    Except String Extent :=
  match given.lastOf? ["n", "c"] with
  | none => .ok ⟨false, 10, false⟩
  | some key =>
    let countsBytes := key == "c"
    let text := (given.last? key).getD ""
    match read countsBytes text with
    | .ok extent => .ok extent
    | .error bad =>
      .error (s!"invalid number of {Extent.noun countsBytes}: {Quoting.quoted bad.text}" ++
        bad.reason.ending)

/-- The digit that stands among the letters of options, where no number may stand. -/
def misplacedDigit? (flags : List Flag) (arguments : List String) : Option String :=
  match Options.read flags true arguments.tail with
  | .error (.unknownLetter c) => if c.isDigit then some (String.singleton c) else none
  | _ => none

def head (arguments : List String) : Proc Nat :=
  match headArguments arguments with
  | .error c =>
    let letter := String.singleton c
    refuseUse (arguments.headD "") s!"invalid trailing option -- {letter}" 1
  | .ok arguments =>
    if let some digit := misplacedDigit? headFlags arguments then
      refuseUse (arguments.headD "") s!"invalid trailing option -- {digit}" 1
    else withOptions headFlags true 1 arguments fun command given operands => do
      match givenExtent given headExtent with
      | .error text => failWith command text 1
      | .ok extent =>
        let ending := given.recordEnd
        underHeadings command given operands fun name descriptor => do
          let result ← if extent.isTurned then headBefore ending extent descriptor
            else if extent.countsBytes then headBytes descriptor passLimit extent.amount
            else headRecords ending descriptor passLimit extent.amount
          match result with
          | .error e => failWith command s!"error reading {Quoting.always name}: {e.reason}" 1
          | .ok (.error e) => failWith command s!"error writing 'standard output': {e.reason}" 1
          | .ok (.ok ()) => return 0

/-- Reads an extent; the sign that turns it is a plus, and a minus in front of it says nothing. -/
def tailExtent (countsBytes : Bool) (text : String) : Except BadExtent Extent :=
  match text.toList with
  | '+' :: _ => readExtent countsBytes true text
  | '-' :: rest => readExtent countsBytes false (String.ofList rest)
  | _ => readExtent countsBytes false text

/-- The last part of a text, or what follows its first part. -/
def Extent.lastPart (ending : Char) (x : Extent) (text : String) : String :=
  if x.countsBytes then
    let skipped := if x.isTurned then x.amount - 1 else text.length - x.amount
    String.ofList (text.toList.drop skipped)
  else
    let records := Records.withEnds ending text.toList
    let skipped := if x.isTurned then x.amount - 1 else records.length - x.amount
    String.ofList (records.drop skipped).flatten

def tailFlags : List Flag :=
  [Options.valued "c" "bytes", Options.optional "follow" "follow", Options.flag "f" "",
    Options.flag "F" "", Options.valued "n" "lines",
    Options.valued "max-unchanged-stats" "max-unchanged-stats", Options.valued "pid" "pid",
    Options.flag "q" "quiet", Options.flag "retry" "retry", Options.flag "q" "silent",
    Options.valued "s" "sleep-interval", Options.flag "v" "verbose",
    Options.flag "z" "zero-terminated"]

def tail (arguments : List String) : Proc Nat :=
  let arguments := tailArguments arguments
  if let some digit := misplacedDigit? tailFlags arguments then
    failWith (arguments.headD "") s!"option used in invalid context -- {digit}" 1
  else withOptions tailFlags true 1 arguments fun command given operands => do
      match givenExtent given tailExtent with
      | .error text => failWith command text 1
      | .ok extent =>
        let status ← underHeadings command given operands fun name descriptor => do
          match ← Proc.readAll descriptor with
          | .error e => failWith command s!"error reading {Quoting.always name}: {e.reason}" 1
          | .ok bytes => emit command (extent.lastPart given.recordEnd (ByteText.ofBytes bytes)) 0
        if given.has "f" ∨ given.has "F" ∨ given.has "follow" then
          if operands.isEmpty then return status else Proc.hang
        else
          return status

end LinkBench.Host.Utility
