import LinkBench.Host.Shell.Builtin.Variables
/-!
Commands of the shell that read: a line into variables, many lines into a list, and an answer from a
menu.
-/

namespace LinkBench.Host.Shell.Builtin

open Eval

/-! ### Lines -/

/-- The characters of a line, each with whether a backslash quotes it. A quoted line end is dropped,
and so are bytes of value zero. -/
def readLine (descriptor : Nat) (raw : Bool) (last : UInt8) : Nat → Field → Eval (Field × Bool)
  | 0, taken => return (taken, false)
  | fuel + 1, taken => do
    let result : Except IoError Bytes ← ask (.readTo descriptor last)
    let bytes := result.toOption.getD []
    let isWhole := bytes.getLast? == some last
    let cs := ((if isWhole then bytes.dropLast else bytes).filter (· != 0)).map fun b =>
      Char.ofNat b.toNat
    if raw then
      return (taken ++ cs.map fun c => (c, false), isWhole)
    else
      let (chars, isOpen) := unquote cs
      if isOpen && isWhole then
        readLine descriptor raw last fuel (taken ++ chars)
      else
        return (taken ++ chars, isWhole)
where
  /-- Takes backslashes away; the flag tells of one that stands last. -/
  unquote : List Char → Field × Bool
    | [] => ([], false)
    | ['\\'] => ([], true)
    | '\\' :: c :: rest =>
      let (chars, isOpen) := unquote rest
      ((c, true) :: chars, isOpen)
    | c :: rest =>
      let (chars, isOpen) := unquote rest
      ((c, false) :: chars, isOpen)

/-- Cuts a line into as many fields as there are names; the last one takes the rest. -/
def splitLine (separators : List Char) : Nat → Field → List String
  | count, line =>
    let isSeparator (x : Char × Bool) : Bool := !x.2 && separators.contains x.1
    let isSpace (x : Char × Bool) : Bool := isSeparator x && Item.isBlank x.1
    let line := line.dropWhile isSpace
    match count with
    | 0 => []
    | 1 =>
      let trimmed := (line.reverse.dropWhile isSpace).reverse
      let first := trimmed.takeWhile fun x => !isSeparator x
      -- a single separator behind the only field belongs to its end
      let behind := (trimmed.drop first.length).dropWhile isSpace
      let isOnly := behind.length = 1 && behind.all isSeparator
      [Field.text (if isOnly then first else trimmed)]
    | count + 1 =>
      let first := line.takeWhile fun x => !isSeparator x
      let rest := (line.drop first.length).dropWhile isSpace
      let rest := match rest with
        | x :: others => if isSeparator x then others else rest
        | [] => []
      Field.text first :: splitLine separators count rest

/-- A number that an option of the extended dialect is given, or the status of a complaint. -/
def optionNumber (options : List (Char × String)) (letter : Char) (noun : String) :
    Eval (Except Nat (Option Nat)) := do
  match options.lookup letter with
  | none => return .ok none
  | some text =>
    match text.toNat? with
    | some n => return .ok (some n)
    | none => do
      report s!"{text}: invalid {noun}"
      return .error 1

/-- Reads a character, which may have several bytes. -/
def readChar (descriptor : Nat) : Eval (List Char) := do
  let byte : Except IoError Bytes ← ask (.read descriptor 1)
  match byte.toOption.getD [] with
  | [] => return []
  | b :: _ => do
    let count := if b < 0xc2 then 0 else if b < 0xe0 then 1 else if b < 0xf0 then 2 else 3
    let others ← (List.range count).mapM fun _ => do
      let more : Except IoError Bytes ← ask (.read descriptor 1)
      return more.toOption.getD []
    return (b :: others.flatten).map fun b => Char.ofNat b.toNat

/-- Reads a number of characters; a last one may end them before. Yields whether it all came. -/
def readChars (descriptor : Nat) (raw : Bool) (last : Option Char) :
    Nat → Nat → Field → Eval (Field × Bool)
  | 0, _, taken => return (taken, true)
  | _, 0, taken => return (taken, true)
  | fuel + 1, count + 1, taken => do
    match ← readChar descriptor with
    | [] => return (taken, false)
    | ['\\'] =>
      if raw then
        readChars descriptor raw last fuel count (taken ++ [('\\', false)])
      else
        match ← readChar descriptor with
        | [] => return (taken, false)
        | ['\n'] => readChars descriptor raw last fuel (count + 1) taken
        | cs => readChars descriptor raw last fuel count (taken ++ cs.map fun c => (c, true))
    | [c] =>
      if last = some c then return (taken, true)
      else readChars descriptor raw last fuel count (taken ++ [(c, false)])
    | cs => readChars descriptor raw last fuel count (taken ++ cs.map fun c => (c, false))

/-- More than the number of characters or lines that are read at once. -/
def readLimit : Nat := 1000000

/-- The descriptor that an option asks to read from. -/
def inputOf (options : List (Char × String)) : Eval (Except Nat Nat) := do
  match options.lookup 'u' with
  | none => return .ok Proc.standardInput
  | some text =>
    match text.toNat? with
    | none => do
      report s!"{text}: invalid file descriptor specification"
      return .error 1
    | some n => do
      let isOpen : Bool ← ask (.isOpen n)
      if isOpen then return .ok n
      report s!"{n}: invalid file descriptor: Bad file descriptor"
      return .error 1

/-- Reads a line into variables. -/
def read (arguments : List String) : Eval Nat := do
  let extended ← isExtended
  withOptions (if extended then "a:d:ei:n:N:p:rst:u:" else "p:r") arguments fun options names => do
    if names = [] ∧ !extended then
      return ← refuse "arg count"
    if let some name := names.find? fun name => !isName (name.takeWhile (· != '[')).toString then
      return ← withName name name (return 0)
    let raw := hasOption options 'r'
    let last := match options.lookup 'd' with
      | some text => text.toList.head?.getD '\x00'
      | none => '\n'
    match ← inputOf options, ← optionNumber options 'n' "number",
        ← optionNumber options 'N' "number" with
    | .error status, _, _ | _, .error status, _ | _, _, .error status => return status
    | .ok descriptor, .ok most, .ok exactly => do
      if let some text := options.lookup 't' then
        if !(text.toList.all fun c => c.isDigit || c == '.') ∨ text = "" then
          report s!"{text}: invalid timeout specification"
          return 1
        if text = "0" then
          return 0
      let (line, isWhole) ← match exactly, most with
        | some count, _ => readChars descriptor raw none readLimit count []
        | none, some count => readChars descriptor raw (some last) readLimit count []
        | none, none => readLine descriptor raw (UInt8.ofNat last.toNat) readLimit []
      let separators ← separators
      match options.lookup 'a' with
      | some name =>
        let fields := Item.fields separators (line.map fun (c, quoted) => .char c quoted (!quoted))
        setList name (fields.map Field.text)
      | none =>
        match names with
        | [] => setVariable "REPLY" (Field.text line)
        | name :: others =>
          if exactly.isSome then
            setNamed name (Field.text line)
            for other in others do
              setNamed other ""
          else
            let fields := splitLine separators names.length line
            for (name, i) in names.zipIdx do
              setNamed name (fields.getD i "")
      return if isWhole then 0 else 1
where
  /-- Gives a variable or an element a value. -/
  setNamed (name value : String) : Eval Unit := do
    let plain := (name.takeWhile (· != '[')).toString
    if plain.length = name.length then setVariable name value
    else setIndexed plain ((name.drop (plain.length + 1)).dropEnd 1).toString value

/-- Reads lines up to a number of them, or to the end. -/
def readLines (descriptor : Nat) (last : UInt8) : Nat → List Bytes → Eval (List Bytes)
  | 0, taken => return taken.reverse
  | fuel + 1, taken => do
    let result : Except IoError Bytes ← ask (.readTo descriptor last)
    match result.toOption.getD [] with
    | [] => return taken.reverse
    | line => readLines descriptor last fuel (line :: taken)

/-- Reads lines into a list. -/
def mapfile (arguments : List String) : Eval Nat :=
  withOptions "C:c:d:n:O:s:tu:" arguments fun options names => do
    match ← inputOf options, ← optionNumber options 'n' "line count",
        ← optionNumber options 's' "line count", ← optionNumber options 'O' "array origin" with
    | .ok descriptor, .ok count, .ok skipped, .ok origin => do
      let last : UInt8 := match options.lookup 'd' with
        | some text => UInt8.ofNat ((text.toList.head?.getD '\x00').toNat)
        | none => 0x0a
      let name := names.headD "MAPFILE"
      if !isName name then
        return ← withName name name (return 0)
      let _ ← readLines descriptor last (skipped.getD 0) []
      let most := match count with
        | some 0 | none => readLimit
        | some n => n
      let lines ← readLines descriptor last most []
      let texts := lines.map fun line =>
        let kept := if hasOption options 't' ∧ line.getLast? = some last then line.dropLast else line
        ByteText.ofBytes (kept.takeWhile (· != 0))
      match origin with
      | none => setList name texts
      | some start =>
        for (text, i) in texts.zipIdx do
          setElement name (toString (start + i)) text
      return 0
    | _, _, _, _ => return 1

/-! ### Menus -/

/-- Blanks and tabs from one column to another. -/
def stretch : Nat → Nat → Nat → String
  | 0, _, _ => ""
  | fuel + 1, column, target =>
    if target ≤ column then ""
    else if column / 8 < target / 8 then "\t" ++ stretch fuel (column + 8 - column % 8) target
    else " " ++ stretch fuel (column + 1) target

/-- How wide a menu may be. -/
def menuWidth : Nat := 80

/-- The texts to choose from, with their numbers, in columns. -/
def menu (texts : List String) : String :=
  let count := texts.length
  let digits := (toString count).length
  let longest := (texts.map fun text => (ByteText.widen text.toList).length).foldl max 0
  let width := longest + digits + 4
  let columns := max 1 (menuWidth / width)
  let rows := (count + columns - 1) / columns
  let columns := (count + rows - 1) / rows
  let rows := if rows = 1 then columns else rows
  let first := (toString rows).length
  String.join ((List.range rows).map fun row =>
    let shown := ((List.range columns).map fun i => row + i * rows).filterMap fun i =>
      (texts[i]?).map fun text => (i + 1, text)
    let cells := shown.zipIdx.map fun ((number, text), column) =>
      let digits := if column = 0 then first else digits
      let number := toString number
      let cell := String.ofList (List.replicate (digits - number.length) ' ') ++ number ++ ") " ++ text
      let length := (ByteText.widen text.toList).length + digits + 2
      if column + 1 < shown.length then
        cell ++ stretch width (column * width + length) ((column + 1) * width)
      else cell
    String.join cells ++ "\n")

end LinkBench.Host.Shell.Builtin
