import LinkBench.Host.Calendar.Form
import LinkBench.Host.Floating
import LinkBench.Host.Shell.Quoted
import LinkBench.Host.Utility.Escape
import LinkBench.Host.Utility.Quoting
/-!
Formatted output: a format is text with escapes and directives, and is used again until all arguments
are taken. Three speakers of the same language differ in what they accept and in how they complain.
Texts have one character for each byte.
-/

namespace LinkBench.Host.Utility.Printf

/-- What is printed, and what is said about arguments and directives that do not fit. -/
inductive Piece
  | text (s : String)
  | complaint (s : String)

structure Output where
  pieces : List Piece
  /-- Whether something was wrong. -/
  isFaulty : Bool
  /-- The exit status if the output stops here. -/
  stop : Option Nat

namespace Output

def ofText (s : String) : Output := ⟨[.text s], false, none⟩

def complain (s : String) : Output := ⟨[.complaint s], true, none⟩

/-- Complains and stops. -/
def refuse (s : String) (status : Nat) : Output := ⟨[.complaint s], true, some status⟩

def append (a b : Output) : Output :=
  ⟨a.pieces ++ b.pieces, a.isFaulty || b.isFaulty, b.stop⟩

def status (o : Output) : Nat :=
  o.stop.getD (if o.isFaulty then 1 else 0)

def text (o : Output) : String :=
  String.join (o.pieces.map fun
    | .text s => s
    | .complaint _ => "")

end Output

/-- A directive behind its percent sign. -/
structure Directive where
  /-- As it stands in the format, with the percent sign. -/
  source : String
  flags : List Char
  width : Option Int
  precision : Option Int
  conversion : Char

/-! ### Numbers in arguments -/

inductive NumberFault
  | notNumeric
  | notConverted
  | outOfRange
  /-- Characters behind the one in quotes. -/
  | extraCharacters (rest : String)

def NumberFault.complaint (speaker : Speaker) (argument : String) : NumberFault → String
  | notNumeric =>
    match speaker with
    | .plain => s!"{argument}: expected numeric value"
    | .extended => s!"{argument}: invalid number"
    | .program => s!"{Quoting.quoted argument}: expected a numeric value"
  | notConverted =>
    match speaker with
    | .plain => s!"{argument}: not completely converted"
    | .extended => s!"{argument}: invalid number"
    | .program => s!"{Quoting.quoted argument}: value not completely converted"
  | outOfRange =>
    match speaker with
    | .plain => s!"{argument}: Numerical result out of range"
    | .extended => s!"warning: {argument}: Numerical result out of range"
    | .program => s!"{Quoting.quoted argument}: Numerical result out of range"
  | extraCharacters rest =>
    s!"warning: {rest}: character(s) following character constant have been ignored"

def isBlank (c : Char) : Bool := c == ' ' || ('\t' ≤ c && c ≤ '\r')

/-- The digits of an integer in the radix that its beginning tells, and what follows. -/
def readDigits (cs : List Char) : Nat × Bool × List Char :=
  let run (radix : Nat) (cs : List Char) : Nat × Bool × List Char :=
    let digits := cs.takeWhile fun c => Floating.digitValue c < radix
    (digits.foldl (fun n c => n * radix + Floating.digitValue c) 0, !digits.isEmpty,
      cs.drop digits.length)
  match cs with
  | '0' :: x :: rest =>
    if (x = 'x' ∨ x = 'X') ∧ rest.head?.any (Floating.digitValue · < 16) then run 16 rest
    else run 8 cs
  | _ => run 10 cs

/-- A character behind a quote stands for its code. -/
def characterCode? (speaker : Speaker) (argument : String) : Option (Nat × Option NumberFault) :=
  match argument.toList with
  | quote :: rest =>
    if quote = '\'' ∨ quote = '"' then
      match rest, speaker with
      | [], .program => some (0, some .notNumeric)
      | [], _ => some (0, none)
      | c :: behind, .program =>
        let (encoded, length) := ByteText.firstUnit c behind
        let behind := behind.drop (length - 1)
        some ((encoded.getD c).toNat,
          if behind = [] then none else some (.extraCharacters (String.ofList behind)))
      | c :: behind, .extended => some (((ByteText.firstUnit c behind).1.getD c).toNat, none)
      | c :: _, .plain => some (c.toNat, none)
    else none
  | [] => none

/-- The integer of an argument within bounds, and what is wrong with it. No text stands for zero. -/
def integer (speaker : Speaker) (least greatest : Int) (argument : String) :
    Int × Option NumberFault :=
  match characterCode? speaker argument with
  | some (n, fault) => (n, fault)
  | none =>
    let cs := argument.toList.dropWhile isBlank
    let (negative, digits) := match cs with
      | '-' :: rest => (true, rest)
      | '+' :: rest => (false, rest)
      | _ => (false, cs)
    let (n, hasDigits, rest) := readDigits digits
    let n : Int := if negative then -Int.ofNat n else n
    if argument = "" then (0, none)
    else if !hasDigits then (0, some .notNumeric)
    else if rest ≠ [] then (max least (min n greatest), some .notConverted)
    else if n < least ∨ greatest < n then (max least (min n greatest), some .outOfRange)
    else (n, none)

def signedLeast : Int := -9223372036854775808

def signedGreatest : Int := 9223372036854775807

def unsignedGreatest : Int := 18446744073709551615

/-- The floating number of an argument, with the bits that the speaker works with. -/
def floating (speaker : Speaker) (argument : String) : Floating × Option NumberFault :=
  let bits := if speaker = .plain then Floating.doubleBits else Floating.longBits
  match characterCode? speaker argument with
  | some (n, fault) => (.ofFraction bits false n 1, fault)
  | none =>
    match Floating.read bits argument.toList with
    | some (x, rest) => (x, if rest = [] then none else some .notConverted)
    | none => (.finite false 0 0, if argument = "" then none else some .notNumeric)

/-! ### Directives -/

namespace Directive

def has (d : Directive) (flag : Char) : Bool := d.flags.contains flag

/-- Fills a text up to the width. A negative width is one to the left. -/
def pad (d : Directive) (text : String) : String :=
  let width := d.width.getD 0
  let blanks := String.ofList (List.replicate (width.natAbs - text.length) ' ')
  if d.has '-' || width < 0 then text ++ blanks else blanks ++ text

/-- Fills a number up to the width, with zeros behind its sign if that is asked for. -/
def padNumber (d : Directive) (zeros : Bool) (sign digits : String) : String :=
  let width := d.width.getD 0
  if zeros && d.has '0' && !d.has '-' && 0 ≤ width then
    let fill := width.natAbs - sign.length - digits.length
    sign ++ String.ofList (List.replicate fill '0') ++ digits
  else
    d.pad (sign ++ digits)

/-- A negative precision counts as none. -/
def places (d : Directive) : Option Nat :=
  match d.precision with
  | some n => if n < 0 then none else some n.toNat
  | none => none

def sign (d : Directive) (negative : Bool) : String :=
  if negative then "-" else if d.has '+' then "+" else if d.has ' ' then " " else ""

/-- The digits of an integer, with at least as many as the precision says. -/
def integerText (d : Directive) (negative : Bool) (n : Nat) (digits mark : String) : String :=
  let shown := match d.places with
    | some 0 => if n = 0 then "" else digits
    | some least => String.ofList (digits.toList.leftpad least '0')
    | none => digits
  d.padNumber d.places.isNone ((if mark = "" then d.sign negative else "") ++ mark) shown

def unsignedText (d : Directive) (n : Nat) : String :=
  let inRadix (radix : Nat) : String := String.ofList (Nat.toDigits radix n)
  let alternate := d.has '#' && n != 0
  let plain : Directive := { d with flags := d.flags.filter fun c => c != '+' && c != ' ' }
  match d.conversion with
  | 'o' =>
    let digits := inRadix 8
    let digits := if d.has '#' && !digits.startsWith "0" && d.places.getD 0 ≤ digits.length
      then "0" ++ digits else digits
    plain.integerText false n digits ""
  | 'x' => plain.integerText false n (inRadix 16) (if alternate then "0x" else "")
  | 'X' => plain.integerText false n (inRadix 16).toUpper (if alternate then "0X" else "")
  | _ => plain.integerText false n (inRadix 10) ""

def floatingText (d : Directive) (bits : Nat) (x : Floating) : String :=
  let style : Floating.Style := ⟨d.conversion, d.places, d.has '#'⟩
  let isFinite := match x with
    | .finite .. => true
    | _ => false
  d.padNumber isFinite (d.sign x.isNegative) (Floating.magnitudeText bits style x)

/-- Whether the program takes the flags and the precision with the conversion. -/
def isAllowed (d : Directive) : Bool :=
  let refused : List Char := match d.conversion with
    | 'd' | 'i' => ['#']
    | 'u' => ['#']
    | 'o' | 'x' | 'X' | 'e' | 'E' | 'a' | 'A' => ['\'']
    | 'c' | 's' => ['\'', '#', '0']
    | _ => []
  d.flags.all (fun c => !refused.contains c) && !(d.conversion == 'c' && d.precision.isSome)

end Directive

/-- Adds what is wrong with a number to the output for it. -/
def withFault (speaker : Speaker) (argument : String) (fault : Option NumberFault)
    (shown : String) : Output :=
  match fault with
  | none => .ofText shown
  | some f =>
    let complaint : Output := .complain (f.complaint speaker argument)
    let isHarmless := match f with
      | .outOfRange => speaker = .extended
      | .extraCharacters _ => true
      | _ => false
    { complaint.append (.ofText shown) with isFaulty := !isHarmless }

/-- The escapes that arguments may hold. -/
def argumentRules : Speaker → EscapeRules
  | .plain => .plainArgument
  | .extended => .extendedArgument
  | .program => .programArgument

def formatRules : Speaker → EscapeRules
  | .plain => .plainFormat
  | .extended => .extendedFormat
  | .program => .programFormat

/-- What a directive prints for an argument; nothing if the speaker does not know it. -/
def format? (speaker : Speaker) (d : Directive) (argument : String) : Option Output :=
  let cut (text : String) : String := match d.places with
    | some n => String.ofList (text.toList.take n)
    | none => text
  match d.conversion with
  | 's' => some (.ofText (d.pad (cut argument)))
  | 'c' =>
    some (.ofText (d.pad (match argument.toList with
      | c :: _ => String.singleton c
      | [] => "\x00")))
  | 'b' =>
    if speaker = .program ∧ d.source ≠ "%b" then none
    else
      let (text, stop) := Escape.text (argumentRules speaker) argument
      some ⟨[.text (d.pad (cut text))], false, if stop then some 0 else none⟩
  | 'q' =>
    match speaker with
    | .plain => none
    | .extended => some (.ofText (d.pad (Shell.Quoted.backslashed argument)))
    | .program => some (.ofText (Quoting.named argument))
  | 'd' | 'i' =>
    let (n, fault) := integer speaker signedLeast signedGreatest argument
    some (withFault speaker argument fault
      (d.integerText (n < 0) n.natAbs (toString n.natAbs) ""))
  | 'u' | 'o' | 'x' | 'X' =>
    let (n, fault) := integer speaker (-unsignedGreatest) unsignedGreatest argument
    let n := (n % (unsignedGreatest + 1)).toNat
    some (withFault speaker argument fault (d.unsignedText n))
  | 'f' | 'F' | 'e' | 'E' | 'g' | 'G' | 'a' | 'A' =>
    let bits := if speaker = .plain then Floating.doubleBits else Floating.longBits
    let (x, fault) := floating speaker argument
    some (withFault speaker argument fault (d.floatingText bits x))
  | _ => none

/-! ### Formats -/

/-- Reads a width or a precision, which an argument may give. -/
def readSize (speaker : Speaker) (cs : List Char) (arguments : List String) :
    Option Int × List Char × List String × Option Output :=
  match cs with
  | '*' :: rest =>
    let argument := arguments.headD ""
    let (n, fault) := integer speaker (-2147483648) 2147483647 argument
    (some n, rest, arguments.tail, fault.map fun _ => withFault speaker argument fault "")
  | _ =>
    let digits := cs.takeWhile (·.isDigit)
    (if digits = [] then none else some (Int.ofNat (Nat.ofDigitChars 10 digits 0)),
      cs.drop digits.length, arguments, none)

/-- Reads a directive behind its percent sign, with the arguments that it takes for its sizes. The
conversion is absent at the end of the format. -/
def readDirective (speaker : Speaker) (cs : List Char) (arguments : List String) :
    Directive × Option Char × List Char × List String × List Output :=
  let flags := cs.takeWhile fun c => c ∈ "#0-+ '".toList
  let (width, rest, arguments, fault) := readSize speaker (cs.drop flags.length) arguments
  let (precision, rest, arguments, fault') := match rest with
    | '.' :: rest =>
      let (precision, rest, arguments, fault) := readSize speaker rest arguments
      (some (precision.getD 0), rest, arguments, fault)
    | _ => (none, rest, arguments, none)
  let rest := if speaker = .plain then rest
    else rest.dropWhile fun c => c ∈ "hlLjtz".toList
  let source := "%" ++ String.ofList (cs.take (cs.length - rest.length + 1))
  (⟨source, flags, width, precision, rest.headD '%'⟩, rest.head?, rest.tail, arguments,
    fault.toList ++ fault'.toList)

/-- How a directive is refused. -/
def refusal (speaker : Speaker) (d : Directive) (conversion : Option Char) : Output :=
  match speaker, conversion with
  | .plain, none => .refuse "missing format character" 2
  | .plain, some _ => .refuse s!"{d.source}: invalid directive" 2
  | .extended, none => .refuse s!"\x60{d.source}': missing format character" 1
  | .extended, some c =>
    let shown := String.singleton c
    .refuse s!"\x60{shown}': invalid format character" 1
  | .program, _ => .refuse s!"{d.source}: invalid conversion specification" 1

/-- The form of a moment up to the parenthesis that closes it, and what follows the letter behind it; or
the character that stands in the place of the letter. -/
def readForm (depth : Nat) : List Char → Except Char (List Char × List Char)
  | [] => .error '\x00'
  | ')' :: rest =>
    match depth, rest with
    | 0, 'T' :: rest => .ok ([], rest)
    | 0, c :: _ => .error c
    | 0, [] => .error '\x00'
    | depth + 1, rest => (readForm depth rest).map fun (form, rest) => (')' :: form, rest)
  | c :: rest =>
    (readForm (if c = '(' then depth + 1 else depth) rest).map fun (form, rest) => (c :: form, rest)

/-- A moment in a form of its own. Minus one, minus two and no argument at all mean the present one. -/
def momentOutput (speaker : Speaker) (now : Int) (d : Directive) (form : String)
    (argument : Option String) : Output :=
  let (n, fault) := integer speaker signedLeast signedGreatest (argument.getD "-1")
  let seconds := if n = -1 ∨ n = -2 then now else n
  let shown := Calendar.Form.filled false (if form = "" then "%X" else form) (.ofSeconds seconds 0)
  let cut := match d.places with
    | some most => String.ofList (shown.toList.take most)
    | none => shown
  withFault speaker (argument.getD "") fault (d.pad cut)

/-- One use of the format: the output and the arguments left. The fuel bounds the length of the
format. -/
def useOnce (speaker : Speaker) (now : Int) : Nat → List Char → List String → Output × List String
  | 0, _, arguments | _, [], arguments => (⟨[], false, none⟩, arguments)
  | fuel + 1, '%' :: '%' :: rest, arguments =>
    let (out, left) := useOnce speaker now fuel rest arguments
    ((Output.ofText "%").append out, left)
  | fuel + 1, '%' :: source, arguments =>
    let (d, conversion, rest, arguments, faults) := readDirective speaker source arguments
    if speaker = .extended ∧ conversion = some '(' then
      match readForm 0 rest with
      | .ok (form, rest) =>
        let (out, left) := useOnce speaker now fuel rest arguments.tail
        ((momentOutput speaker now d (String.ofList form) arguments.head?).append out, left)
      | .error c =>
        let found := String.singleton c
        let warning : Output :=
          ⟨[.complaint s!"warning: \x60{found}': invalid time format specification", .text "%"],
            false, none⟩
        let (out, left) := useOnce speaker now fuel source arguments
        (warning.append out, left)
    else
    let first := if conversion.isNone || (speaker == .program && !d.isAllowed) then none
      else format? speaker d (arguments.headD "")
    match first with
    | none => (refusal speaker d conversion, arguments)
    | some first =>
      let first := faults.foldr Output.append first
      if first.stop.isSome then
        (first, arguments.tail)
      else
        let (out, left) := useOnce speaker now fuel rest arguments.tail
        (first.append out, left)
  | fuel + 1, c :: rest, arguments =>
    let text := c :: rest.takeWhile (· != '%')
    let (shown, stops) := Escape.text (formatRules speaker) (String.ofList text)
    if stops then
      (⟨[.text shown], false, some 0⟩, [])
    else
      let (out, left) := useOnce speaker now fuel (rest.dropWhile (· != '%')) arguments
      ((Output.ofText shown).append out, left)

/-- Uses the format until the arguments are taken; one that takes none is used once. -/
def useAll (speaker : Speaker) (now : Int) (format : List Char) : Nat → List String → Output
  | 0, _ => ⟨[], false, none⟩
  | fuel + 1, arguments =>
    let (out, left) := useOnce speaker now (format.length + 1) format arguments
    if out.stop.isSome ∨ left = [] then
      out
    else if left.length = arguments.length then
      if speaker = .program then
        let shown := Quoting.quoted (left.headD "")
        { out.append
            (.complain s!"warning: ignoring excess arguments, starting with {shown}") with
          isFaulty := out.isFaulty }
      else
        out
    else
      out.append (useAll speaker now format fuel left)

/-- Prints by a format. The present moment is given in seconds from 1970 on. -/
def run (speaker : Speaker) (now : Int) (format : String) (arguments : List String) : Output :=
  useAll speaker now format.toList (arguments.length + 1) arguments

end LinkBench.Host.Utility.Printf
