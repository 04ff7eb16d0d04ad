import LinkBench.Host.Calendar
/-!
Reading moments that are written freely: days, times of day, names of months and days of the week, zones,
and lengths of time to count on from there, in any order. What is not said is taken from the present
moment, and a day without a time of day begins at midnight.
-/

namespace LinkBench.Host.Calendar.Reader

/-- The lengths of time that a moment is moved by. -/
inductive Span
  | years
  | months
  | days (count : Int)
  | hours
  | minutes
  | seconds
  deriving DecidableEq

/-- A number as it is written. -/
structure Digits where
  value : Int
  count : Nat
  deriving DecidableEq

inductive Token
  | number (d : Digits)
  /-- A number with a sign in front of it. -/
  | signed (d : Digits)
  /-- A number with a fraction, in seconds and nanoseconds from there. -/
  | fraction (isSigned : Bool) (seconds : Int) (nanoseconds : Nat)
  | half (isSecond : Bool)
  | month (n : Int)
  | weekday (n : Int)
  | unit (s : Span)
  | ordinal (n : Int)
  /-- A day that is so many days after the present one. -/
  | shift (days : Int)
  /-- Says in which direction a length of time before it leads. -/
  | direction (sign : Int)
  /-- A zone with its offset in minutes. -/
  | zone (minutes : Int)
  /-- The letter between a day and a time, which is a zone elsewhere. -/
  | letterT
  | summer
  | sign (c : Char)
  deriving DecidableEq

/-! ### Words -/

def months : List String :=
  ["JANUARY", "FEBRUARY", "MARCH", "APRIL", "MAY", "JUNE", "JULY", "AUGUST", "SEPTEMBER", "OCTOBER",
    "NOVEMBER", "DECEMBER"]

def weekdays : List String :=
  ["SUNDAY", "MONDAY", "TUESDAY", "WEDNESDAY", "THURSDAY", "FRIDAY", "SATURDAY"]

/-- The names of months and days of the week. -/
def names : List (String × Token) :=
  months.mapIdx (fun i s => (s, Token.month (Int.ofNat i + 1))) ++ [("SEPT", .month 9)] ++
    weekdays.mapIdx (fun i s => (s, Token.weekday (Int.ofNat i))) ++
      [("TUES", .weekday 2), ("WEDNES", .weekday 3), ("THUR", .weekday 4), ("THURS", .weekday 4)]

def zones : List (String × Int) :=
  [("GMT", 0), ("UT", 0), ("UTC", 0), ("WET", 0), ("WEST", 60), ("BST", 60), ("ART", -180),
    ("BRT", -180), ("BRST", -120), ("NST", -210), ("NDT", -150), ("AST", -240), ("ADT", -180),
    ("CLT", -240), ("CLST", -180), ("EST", -300), ("EDT", -240), ("CST", -360), ("CDT", -300),
    ("MST", -420), ("MDT", -360), ("PST", -480), ("PDT", -420), ("AKST", -540), ("AKDT", -480),
    ("HST", -600), ("HAST", -600), ("HADT", -540), ("SST", -720), ("WAT", 60), ("CET", 60),
    ("CEST", 120), ("MET", 60), ("MEZ", 60), ("MEST", 120), ("MESZ", 120), ("EET", 120),
    ("EEST", 180), ("CAT", 120), ("SAST", 120), ("EAT", 180), ("MSK", 180), ("MSD", 240),
    ("IST", 330), ("SGT", 480), ("KST", 540), ("JST", 540), ("GST", 600), ("NZST", 720),
    ("NZDT", 780)]

def units : List (String × Span) :=
  [("YEAR", .years), ("MONTH", .months), ("FORTNIGHT", .days 14), ("WEEK", .days 7),
    ("DAY", .days 1), ("HOUR", .hours), ("MINUTE", .minutes), ("MIN", .minutes),
    ("SECOND", .seconds), ("SEC", .seconds)]

def relatives : List (String × Token) :=
  [("TOMORROW", .shift 1), ("YESTERDAY", .shift (-1)), ("TODAY", .shift 0), ("NOW", .shift 0),
    ("LAST", .ordinal (-1)), ("THIS", .ordinal 0), ("NEXT", .ordinal 1), ("FIRST", .ordinal 1),
    ("THIRD", .ordinal 3), ("FOURTH", .ordinal 4), ("FIFTH", .ordinal 5), ("SIXTH", .ordinal 6),
    ("SEVENTH", .ordinal 7), ("EIGHTH", .ordinal 8), ("NINTH", .ordinal 9), ("TENTH", .ordinal 10),
    ("ELEVENTH", .ordinal 11), ("TWELFTH", .ordinal 12), ("AGO", .direction (-1)),
    ("HENCE", .direction 1)]

/-- The zone of one letter: the hours go up from A and down from N, and J is where one is. -/
def letterZone? (c : Char) : Option Token :=
  if c = 'T' then some .letterT
  else if c = 'Z' ∨ c = 'J' then some (.zone 0)
  else if 'A' ≤ c ∧ c ≤ 'I' then some (.zone (60 * Int.ofNat (c.toNat - 64)))
  else if 'K' ≤ c ∧ c ≤ 'M' then some (.zone (60 * Int.ofNat (c.toNat - 65)))
  else if 'N' ≤ c ∧ c ≤ 'Y' then some (.zone (-(60 * Int.ofNat (c.toNat - 77))))
  else none

/-- What a word in capital letters means. -/
def wordOf? (word : String) : Option Token :=
  let cs := word.toList
  let half? := [("AM", Token.half false), ("A.M.", .half false), ("PM", .half true),
    ("P.M.", .half true)].lookup word
  let isShort := cs.length = 3 ∨ (cs.length = 4 ∧ cs.getLast? = some '.')
  let name? := if isShort then
      (names.find? fun x => x.1.toList.take 3 == cs.take 3).map (·.2)
    else names.lookup word
  let zone? := (zones.lookup word).map Token.zone
  let summer? := if word = "DST" then some Token.summer else none
  let unit? := ((units.lookup word).or
    (if word.endsWith "S" then units.lookup (word.dropEnd 1).toString else none)).map Token.unit
  let letter? := match cs with
    | [c] => letterZone? c
    | _ => none
  let bare := String.ofList (cs.filter (· != '.'))
  let bareZone? := if bare = word then none else (zones.lookup bare).map Token.zone
  half? <|> name? <|> zone? <|> summer? <|> unit? <|> relatives.lookup word <|> letter? <|> bareZone?

/-! ### Tokens -/

/-- A number behind its sign, with what follows it. -/
def number (sign : Option Bool) (cs : List Char) : Token × List Char :=
  let digits := cs.takeWhile (·.isDigit)
  let rest := cs.drop digits.length
  let value := Int.ofNat (Nat.ofDigitChars 10 digits 0)
  let isNegative := sign = some true
  let value := if isNegative then -value else value
  let whole (_ : Unit) : Token :=
    if sign.isSome then .signed ⟨value, digits.length⟩ else .number ⟨value, digits.length⟩
  match rest with
  | mark :: more =>
    let places := more.takeWhile (·.isDigit)
    if (mark = '.' ∨ mark = ',') ∧ places ≠ [] then
      let kept := Nat.ofDigitChars 10 ((places ++ List.replicate 9 '0').take 9) 0
      let isCut := (places.drop 9).any (· != '0')
      let nanoseconds := if isNegative ∧ isCut then kept + 1 else kept
      let token : Token := if isNegative ∧ nanoseconds ≠ 0
        then .fraction true (value - 1) (1000000000 - nanoseconds)
        else .fraction sign.isSome value nanoseconds
      (token, more.drop places.length)
    else (whole (), rest)
  | [] => (whole (), [])

def isBlank (c : Char) : Bool := c == ' ' || ('\t' ≤ c && c ≤ '\r')

/-- What follows a remark between parentheses, which may be left open at the end. -/
def skipRemark : Nat → List Char → List Char
  | _, [] => []
  | depth, '(' :: cs => skipRemark (depth + 1) cs
  | depth, ')' :: cs => if depth ≤ 1 then cs else skipRemark (depth - 1) cs
  | depth, _ :: cs => skipRemark depth cs

/-- The tokens of a text; nothing if a word has no meaning. The fuel bounds the length. -/
def tokens? : Nat → List Char → Option (List Token)
  | 0, _ | _, [] => some []
  | fuel + 1, c :: cs =>
    if isBlank c then tokens? fuel cs
    else if c.isDigit then
      let (t, rest) := number none (c :: cs)
      (tokens? fuel rest).map (t :: ·)
    else if c = '-' ∨ c = '+' then
      let rest := cs.dropWhile isBlank
      if rest.head?.any (·.isDigit) then
        let (t, rest) := number (some (c == '-')) rest
        (tokens? fuel rest).map (t :: ·)
      else tokens? fuel rest
    else if c.isAlpha then
      let word := (c :: cs).takeWhile fun c => c.isAlpha || c == '.'
      match wordOf? (String.ofList (word.take 19)).toUpper with
      | some t => (tokens? fuel ((c :: cs).drop word.length)).map (t :: ·)
      | none => none
    else if c = '(' then tokens? fuel (skipRemark 0 (c :: cs))
    else (tokens? fuel cs).map (.sign c :: ·)

/-! ### Parts -/

/-- What has been read of a moment. -/
structure Found where
  year : Digits
  month : Int
  day : Int
  hour : Int
  minute : Int
  second : Int
  nanosecond : Nat
  half : Option Bool
  /-- The offset of the zone in seconds. -/
  offset : Int
  weekday : Int
  weekdayOrdinal : Int
  years : Int
  months : Int
  days : Int
  seconds : Int
  nanoseconds : Int
  times : Nat
  dates : Nat
  weekdays : Nat
  zones : Nat
  isMoved : Bool

namespace Found

/-- Moves by a length of time, so many times. -/
def move (f : Found) (n : Int) (s : Span) : Found :=
  let f := { f with isMoved := true }
  match s with
  | .years => { f with years := f.years + n }
  | .months => { f with months := f.months + n }
  | .days count => { f with days := f.days + n * count }
  | .hours => { f with seconds := f.seconds + n * 3600 }
  | .minutes => { f with seconds := f.seconds + n * 60 }
  | .seconds => { f with seconds := f.seconds + n }

def withDate (f : Found) (year : Option Digits) (month day : Int) : Found :=
  { f with year := year.getD f.year, month, day, dates := f.dates + 1 }

def withTime (f : Found) (hour minute second : Int) (nanosecond : Nat) (half : Option Bool) : Found :=
  { f with hour, minute, second, nanosecond, half, times := f.times + 1 }

def withWeekday (f : Found) (ordinal n : Int) : Found :=
  { f with weekday := n, weekdayOrdinal := ordinal, weekdays := f.weekdays + 1 }

def withZone (f : Found) (seconds : Int) : Found :=
  { f with offset := seconds, zones := f.zones + 1 }

/-- A number that stands alone: a year behind a day, a day without signs, or a time of day. -/
def withNumber (f : Found) (d : Digits) : Found :=
  if f.dates ≠ 0 ∧ f.year.count = 0 ∧ !f.isMoved ∧ (f.times ≠ 0 ∨ 2 < d.count) then
    { f with year := d }
  else if 4 < d.count then
    f.withDate (some ⟨d.value / 10000, d.count - 4⟩) (d.value / 100 % 100) (d.value % 100)
  else if d.count ≤ 2 then f.withTime d.value 0 0 0 none
  else f.withTime (d.value / 100) (d.value % 100) 0 0 none

end Found

/-- The offset of a zone in seconds: hours, or hours and minutes. -/
def offset? (d : Digits) (minutes : Option Int) (isNegative : Bool) : Option Int :=
  let total := match minutes with
    | some m => d.value * 60 + (if isNegative then -m else m)
    | none =>
      let value := if d.count ≤ 2 then d.value * 100 else d.value
      Int.tdiv value 100 * 60 + Int.tmod value 100
  if total.natAbs ≤ 1440 then some (total * 60) else none

/-- Reads the offset that may stand behind a time of day. -/
def zoneBehind (f : Found) : List Token → Option (Found × List Token)
  | .signed d :: .sign ':' :: .number m :: rest =>
    (offset? d (some m.value) (decide (d.value < 0))).map fun s => (f.withZone s, rest)
  | .signed d :: rest => (offset? d none false).map fun s => (f.withZone s, rest)
  | rest => some (f, rest)

/-- Reads a time of day with colons, from its hour on. -/
def time? (f : Found) : List Token → Option (Found × List Token)
  | .number h :: .sign ':' :: .number m :: .sign ':' :: .number s :: rest =>
    finish h m s.value 0 rest
  | .number h :: .sign ':' :: .number m :: .sign ':' :: .fraction false s n :: rest =>
    finish h m s n rest
  | .number h :: .sign ':' :: .number m :: rest => finish h m 0 0 rest
  | _ => none
where
  finish (h m : Digits) (s : Int) (n : Nat) : List Token → Option (Found × List Token)
    | .half isSecond :: rest => some (f.withTime h.value m.value s n (some isSecond), rest)
    | rest => zoneBehind (f.withTime h.value m.value s n none) rest

/-- Moves by a length of time in the direction that may stand behind it. -/
def moved (f : Found) (n : Int) (s : Span) : List Token → Option (Found × List Token)
  | .direction sign :: rest => some (f.move (n * sign) s, rest)
  | rest => some (f.move n s, rest)

/-- Moves by seconds with a fraction. -/
def movedFraction (f : Found) (s : Int) (n : Nat) : List Token → Option (Found × List Token)
  | .direction sign :: rest => some (go sign, rest)
  | rest => some (go 1, rest)
where
  go (sign : Int) : Found :=
    let f := f.move (s * sign) .seconds
    { f with nanoseconds := f.nanoseconds + Int.ofNat n * sign }

/-- Reads what may stand behind a zone: an offset, or a length of time. -/
def behindZone (f : Found) (minutes : Int) : List Token → Option (Found × List Token)
  | .signed d :: .unit s :: rest => some ((f.withZone (minutes * 60)).move d.value s, rest)
  | .signed d :: .sign ':' :: .number m :: rest =>
    (offset? d (some m.value) (decide (d.value < 0))).map fun s => (f.withZone (s + minutes * 60), rest)
  | .signed d :: rest => (offset? d none false).map fun s => (f.withZone (s + minutes * 60), rest)
  | .summer :: rest => some (f.withZone (minutes * 60 + 3600), rest)
  | rest => some (f.withZone (minutes * 60), rest)

def opposite (d : Digits) : Digits := ⟨-d.value, d.count⟩

/-- Reads one part. -/
def part? (f : Found) : List Token → Option (Found × List Token)
  -- days
  | .number y :: .signed m :: .signed d :: .letterT :: .number h :: rest => do
    let f := f.withDate (some y) (-m.value) (-d.value)
    match time? f (.number h :: rest) with
    | some result => some result
    | none => zoneBehind (f.withTime h.value 0 0 0 none) rest
  | .number y :: .signed m :: .signed d :: rest =>
    some (f.withDate (some y) (-m.value) (-d.value), rest)
  | .number a :: .sign '/' :: .number b :: .sign '/' :: .number c :: rest =>
    if 4 ≤ a.count then some (f.withDate (some a) b.value c.value, rest)
    else some (f.withDate (some c) a.value b.value, rest)
  | .number a :: .sign '/' :: .number b :: rest => some (f.withDate none a.value b.value, rest)
  | .number d :: .month m :: .signed y :: rest =>
    some (f.withDate (some (opposite y)) m d.value, rest)
  | .number d :: .month m :: .number y :: rest => some (f.withDate (some y) m d.value, rest)
  | .number d :: .month m :: rest => some (f.withDate none m d.value, rest)
  | .month m :: .signed d :: .signed y :: rest =>
    some (f.withDate (some (opposite y)) m (-d.value), rest)
  | .month m :: .number d :: .sign ',' :: .number y :: rest =>
    some (f.withDate (some y) m d.value, rest)
  | .month m :: .number d :: rest => some (f.withDate none m d.value, rest)
  -- times of day
  | .number h :: .half isSecond :: rest => some (f.withTime h.value 0 0 0 (some isSecond), rest)
  | .number h :: .sign ':' :: rest => time? f (.number h :: .sign ':' :: rest)
  -- days of the week
  | .weekday n :: .sign ',' :: rest => some (f.withWeekday 0 n, rest)
  | .weekday n :: rest => some (f.withWeekday 0 n, rest)
  | .ordinal k :: .weekday n :: rest => some (f.withWeekday k n, rest)
  | .number k :: .weekday n :: rest => some (f.withWeekday k.value n, rest)
  -- lengths of time
  | .ordinal n :: .unit s :: rest => moved f n s rest
  | .number n :: .unit s :: rest => moved f n.value s rest
  | .signed n :: .unit s :: rest => moved f n.value s rest
  | .fraction _ s n :: .unit .seconds :: rest => movedFraction f s n rest
  | .unit s :: rest => moved f 1 s rest
  | .shift n :: rest => some ({ f with days := f.days + n, isMoved := true }, rest)
  | .number d :: .signed n :: .unit s :: rest => some ((f.withNumber d).move n.value s, rest)
  | .number h :: .signed d :: rest => zoneBehind (f.withTime h.value 0 0 0 none) (.signed d :: rest)
  -- zones
  | .zone m :: rest => behindZone f m rest
  | .letterT :: rest => behindZone f (-420) rest
  | .number d :: rest => some (f.withNumber d, rest)
  | _ => none

/-- Reads all parts. The fuel bounds their number. -/
def parts? : Nat → Found → List Token → Option Found
  | _, f, [] => some f
  | 0, _, _ => none
  | fuel + 1, f, ts => (part? f ts).bind fun (f, rest) => parts? fuel f rest

/-! ### Moments -/

/-- The year that digits stand for: two of them are for the years around 2000. -/
def yearOf (d : Digits) : Int :=
  if 0 ≤ d.value ∧ d.count = 2 then (if d.value < 69 then d.value + 2000 else d.value + 1900)
  else d.value

/-- The hour of the whole day. -/
def hourOf? (hour : Int) (half : Option Bool) : Option Int :=
  match half with
  | none => if 0 ≤ hour ∧ hour < 24 then some hour else none
  | some isSecond =>
    if 1 ≤ hour ∧ hour ≤ 12 then some (hour % 12 + (if isSecond then 12 else 0)) else none

/-- The seconds and nanoseconds that have been found, from the beginning of 1970. -/
def Found.moment? (f : Found) : Option (Int × Nat) := do
  if 1 < f.times ∨ 1 < f.dates ∨ 1 < f.weekdays ∨ 1 < f.zones then none
  let hasTime := f.times ≠ 0 ∨ (f.isMoved ∧ f.dates = 0 ∧ f.weekdays = 0)
  let hour ← if hasTime then hourOf? f.hour f.half else some 0
  let nanosecond := if hasTime then f.nanosecond else 0
  let start : Moment := ⟨⟨yearOf f.year, f.month, f.day⟩, hour, if hasTime then f.minute else 0,
    if hasTime then f.second else 0, nanosecond⟩
  if !start.isSettled then none
  let day := if f.weekdays ≠ 0 ∧ f.dates = 0 then
      let ahead := (f.weekday - start.day.weekday) % 7
      let isLater := 0 < f.weekdayOrdinal ∧ start.day.weekday ≠ f.weekday
      let weeks := f.weekdayOrdinal - (if isLater then 1 else 0)
      { start.day with day := start.day.day + ahead + 7 * weeks }
    else start.day
  let day : Day :=
    ⟨day.year + f.years, day.month + f.months, day.day + f.days⟩
  let moment := { start with day }
  let total := (moment.seconds - f.offset + f.seconds) * 1000000000 + Int.ofNat nanosecond +
    f.nanoseconds
  return (total / 1000000000, (total % 1000000000).toNat)

/-- Reads a moment. `now` is the present one, in seconds and nanoseconds. -/
def read? (now : Int × Nat) (text : String) : Option (Int × Nat) :=
  match text.toList.dropWhile isBlank with
  | '@' :: cs =>
    match tokens? (cs.length + 1) cs with
    | some [.number d] | some [.signed d] => some (d.value, 0)
    | some [.fraction _ s n] => some (s, n)
    | _ => none
  | cs =>
    let m := Moment.ofSeconds now.1 now.2
    let start : Found :=
      { year := ⟨m.day.year, 0⟩, month := m.day.month, day := m.day.day, hour := m.hour,
        minute := m.minute, second := m.second, nanosecond := m.nanosecond, half := none,
        offset := 0, weekday := 0, weekdayOrdinal := 0, years := 0, months := 0, days := 0,
        seconds := 0, nanoseconds := 0, times := 0, dates := 0, weekdays := 0, zones := 0,
        isMoved := false }
    (tokens? (cs.length + 1) cs).bind fun ts =>
      (parts? (ts.length + 1) start ts).bind Found.moment?

/-! ### Digits alone -/

/-- Reads a moment of digits alone: month, day, hour and minute of two digits each, a year of two or four
digits in front of them or behind them, and seconds behind a point. -/
def ofDigits? (yearLeads : Bool) (thisYear : Int) (text : String) : Option Int := do
  let cs := text.toList
  let body := cs.takeWhile (· != '.')
  let second ← match cs.drop body.length with
    | [] => some 0
    | [_, a, b] => if a.isDigit ∧ b.isDigit then some (Nat.ofDigitChars 10 [a, b] 0) else none
    | _ => none
  if !body.all (·.isDigit) then none
  let pairs (cs : List Char) : List Int :=
    (List.range (cs.length / 2)).map fun i =>
      Int.ofNat (Nat.ofDigitChars 10 ((cs.drop (2 * i)).take 2) 0)
  let (year, rest) ← match body.length, yearLeads with
    | 8, _ => some ([], body)
    | 10, true => some (body.take 2, body.drop 2)
    | 12, true => some (body.take 4, body.drop 4)
    | 10, false => some (body.drop 8, body.take 8)
    | 12, false => some (body.drop 8, body.take 8)
    | _, _ => none
  let year : Int := match pairs year with
    | [] => thisYear
    | [y] => yearOf ⟨y, 2⟩
    | century :: y :: _ => century * 100 + y
  match pairs rest with
  | [month, day, hour, minute] =>
    let m : Moment := ⟨⟨year, month, day⟩, hour, minute, Int.ofNat second, 0⟩
    if m.isSettled then some m.seconds else none
  | _ => none

end LinkBench.Host.Calendar.Reader
