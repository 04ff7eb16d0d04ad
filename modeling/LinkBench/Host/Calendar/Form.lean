import LinkBench.Host.Calendar
/-!
Texts of moments. A form has directives in it: a percent sign, flags that say how a part is filled up and
in which letters it is written, a width, and the letter of the part. All moments are in the zone without
an offset.
-/

namespace LinkBench.Host.Calendar.Form

def weekdays : List String :=
  ["Sunday", "Monday", "Tuesday", "Wednesday", "Thursday", "Friday", "Saturday"]

def months : List String :=
  ["January", "February", "March", "April", "May", "June", "July", "August", "September", "October",
    "November", "December"]

def short (name : String) : String := (name.take 3).toString

def weekdayName (m : Moment) : String := weekdays.getD m.day.weekday.toNat ""

def monthName (m : Moment) : String := months.getD (m.day.month - 1).toNat ""

/-- A number with at least so many digits. -/
def padded (fill : Char) (digits : Nat) (n : Int) : String :=
  let shown := (toString n.natAbs).toList
  if n < 0 then String.ofList ('-' :: shown.leftpad (digits - 1) fill)
  else String.ofList (shown.leftpad digits fill)

def two (n : Int) : String := padded '0' 2 n

/-- The hour on the face of a clock. -/
def faceHour (m : Moment) : Int := (m.hour + 11) % 12 + 1

/-- The half of the day. -/
def half (m : Moment) : String := if m.hour < 12 then "AM" else "PM"

def time (m : Moment) : String := s!"{two m.hour}:{two m.minute}:{two m.second}"

/-- The number of the week, where weeks begin on the given day of the week and the first one in full is
week one. -/
def weekOfYear (m : Moment) (first : Int) : Int :=
  (m.day.ofYear + 7 - (m.day.weekday - first) % 7) / 7

/-- The year and the number of the week that begins on Monday and has most of its days in that year. -/
def yearAndWeek (m : Moment) : Int × Int :=
  let thursday := Day.ofNumber (m.day.number - (m.day.weekday + 6) % 7 + 3)
  (thursday.year, thursday.ofYear / 7 + 1)

/-- A part of a moment before it is filled up. -/
inductive Piece
  | number (fill : Char) (digits : Nat) (n : Int)
  | text (s : String)
  /-- A year or a part of it, which may get a sign in front. -/
  | year (digits : Nat) (n : Int)
  /-- A text in small letters. -/
  | small (s : String)
  /-- A text that is written in small letters where large ones are asked for, and the other way round. -/
  | turning (s : String)

/-- The part that a letter stands for. `isFull` says whether parts of a second, quarters and offsets with
colons are known. -/
def piece? (m : Moment) (isFull : Bool) (colons : Nat) (letter : Char) : Option Piece :=
  match letter with
  | 'a' => some (.text (short (weekdayName m)))
  | 'A' => some (.text (weekdayName m))
  | 'b' | 'h' => some (.text (short (monthName m)))
  | 'B' => some (.text (monthName m))
  | 'c' =>
    let day := padded ' ' 2 m.day.day
    some (.text s!"{short (weekdayName m)} {short (monthName m)} {day} {time m} {m.day.year}")
  | 'C' => some (.year 2 (m.day.year / 100))
  | 'd' => some (.number '0' 2 m.day.day)
  | 'D' | 'x' => some (.text s!"{two m.day.month}/{two m.day.day}/{two (m.day.year % 100)}")
  | 'e' => some (.number ' ' 2 m.day.day)
  | 'F' =>
    let year := padded '0' 4 m.day.year
    some (.text s!"{year}-{two m.day.month}-{two m.day.day}")
  | 'g' => some (.number '0' 2 ((yearAndWeek m).1 % 100))
  | 'G' => some (.year 4 (yearAndWeek m).1)
  | 'H' => some (.number '0' 2 m.hour)
  | 'I' => some (.number '0' 2 (faceHour m))
  | 'j' => some (.number '0' 3 (m.day.ofYear + 1))
  | 'k' => some (.number ' ' 2 m.hour)
  | 'l' => some (.number ' ' 2 (faceHour m))
  | 'm' => some (.number '0' 2 m.day.month)
  | 'M' => some (.number '0' 2 m.minute)
  | 'n' => some (.text "\n")
  | 'p' => some (.turning (half m))
  | 'P' => some (.small (half m).toLower)
  | 'q' => if isFull then some (.number '0' 1 ((m.day.month + 2) / 3)) else none
  | 'r' => some (.text s!"{two (faceHour m)}:{two m.minute}:{two m.second} {half m}")
  | 'R' => some (.text s!"{two m.hour}:{two m.minute}")
  | 's' => some (.number '0' 1 m.seconds)
  | 'S' => some (.number '0' 2 m.second)
  | 't' => some (.text "\t")
  | 'T' | 'X' => some (.text (time m))
  | 'u' => some (.number '0' 1 ((m.day.weekday + 6) % 7 + 1))
  | 'U' => some (.number '0' 2 (weekOfYear m 0))
  | 'V' => some (.number '0' 2 (yearAndWeek m).2)
  | 'w' => some (.number '0' 1 m.day.weekday)
  | 'W' => some (.number '0' 2 (weekOfYear m 1))
  | 'y' => some (.number '0' 2 (m.day.year % 100))
  | 'Y' => some (.year 4 m.day.year)
  | 'z' =>
    match colons with
    | 0 => some (.text "+0000")
    | 1 => some (.text "+00:00")
    | 2 => some (.text "+00:00:00")
    | _ => some (.text "+00")
  | 'Z' => some (.turning "UTC")
  | '%' => some (.text "%")
  | _ => none

/-- What stands between the percent sign and the letter. -/
structure Flags where
  /-- What the part is filled up with, or a dash if it is not. -/
  fill : Option Char
  isUpper : Bool
  isTurned : Bool
  width : Option Nat
  colons : Nat

/-- Fills a text up on the left. -/
def Flags.padText (f : Flags) (s : String) : String :=
  let fill := if f.fill = some '0' ∨ f.fill = some '+' then '0' else ' '
  if f.fill = some '-' then s else String.ofList (s.toList.leftpad (f.width.getD 0) fill)

def Flags.shownNumber (f : Flags) (fill : Char) (digits : Nat) (n : Int) : String :=
  let fill := match f.fill with
    | some '_' => ' '
    | some '0' | some '+' => '0'
    | _ => fill
  if f.fill = some '-' then toString n else padded fill (f.width.getD digits) n

/-- A year has a sign if that is asked for and it has more digits than usual, or is to have them. -/
def Flags.shownYear (f : Flags) (digits : Nat) (n : Int) : String :=
  let most := Int.ofNat (Nat.pow 10 digits) - 1
  if f.fill = some '+' ∧ 0 ≤ n ∧ (most < n ∨ digits < f.width.getD 0) then
    "+" ++ padded '0' (f.width.getD 0 - 1) n
  else f.shownNumber '0' digits n

def Flags.shown (f : Flags) : Piece → String
  | .text s => f.padText (if f.isUpper || f.isTurned then s.toUpper else s)
  | .turning s =>
    f.padText (if f.isTurned then s.toLower else if f.isUpper then s.toUpper else s)
  | .small s => f.padText s
  | .number fill digits n => f.shownNumber fill digits n
  | .year digits n => f.shownYear digits n

/-- The parts of a second, with as many digits as the width says. -/
def fraction (f : Flags) (nanosecond : Nat) : String :=
  let digits := (toString nanosecond).toList.leftpad 9 '0'
  match f.width with
  | some n =>
    if n = 0 then String.ofList digits
    else String.ofList (digits.take n ++ List.replicate (n - 9) '0')
  | none => String.ofList digits

/-- Reads what stands between the percent sign and the letter. -/
def readFlags : Flags → List Char → Flags × List Char
  | f, '_' :: cs => readFlags { f with fill := some '_' } cs
  | f, '-' :: cs => readFlags { f with fill := some '-' } cs
  | f, '+' :: cs => readFlags { f with fill := some '+' } cs
  | f, '0' :: cs => readFlags { f with fill := some '0' } cs
  | f, '^' :: cs => readFlags { f with isUpper := true } cs
  | f, '#' :: cs => readFlags { f with isTurned := true } cs
  | f, cs =>
    let width := cs.takeWhile (·.isDigit)
    let rest := cs.drop width.length
    let rest := match rest with
      | 'E' :: more | 'O' :: more => more
      | rest => rest
    let colons := rest.takeWhile (· == ':')
    ({ f with
        width := if width = [] then none else some (Nat.ofDigitChars 10 width 0)
        colons := colons.length },
      rest.drop colons.length)

/-- A form with its directives replaced. What is no directive stays as it is. The fuel bounds the
length. -/
def filledFrom (m : Moment) (isFull : Bool) : Nat → List Char → String
  | 0, _ | _, [] => ""
  | fuel + 1, '%' :: cs =>
    let (f, rest) := readFlags ⟨none, false, false, none, 0⟩ cs
    let verbatim (behind : List Char) : String :=
      f.padText (String.ofList ('%' :: cs.take (cs.length - behind.length)))
    match rest with
    | [] => verbatim []
    | letter :: behind =>
      let shown :=
        if letter = 'N' ∧ isFull then fraction f m.nanosecond
        else if 0 < f.colons ∧ (letter ≠ 'z' ∨ !isFull) then verbatim behind
        else
          match piece? m isFull f.colons letter with
          | some p => f.shown p
          | none => verbatim behind
      shown ++ filledFrom m isFull fuel behind
  | fuel + 1, c :: cs => String.singleton c ++ filledFrom m isFull fuel cs

def filled (isFull : Bool) (form : String) (m : Moment) : String :=
  filledFrom m isFull (form.length + 1) form.toList

end LinkBench.Host.Calendar.Form
