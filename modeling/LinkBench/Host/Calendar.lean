/-!
Days and times of day, counted from the beginning of 1970. The calendar repeats itself every 400 years, and
years are counted from March on, so that the day that some years have more is the last one of its year.
-/

namespace LinkBench.Host.Calendar

/-- A day of the calendar. The month and the day count from one. -/
structure Day where
  year : Int
  month : Int
  day : Int
  deriving DecidableEq, Repr

def isLeap (year : Int) : Bool := year % 4 == 0 && (year % 100 != 0 || year % 400 == 0)

/-- How many days 400 years have. -/
def cycleDays : Int := 146097

/-- The days from the first of March of the year 0 to the beginning of 1970. -/
def offset : Int := 719468

/-- The days of the months before one, in a year that begins in March. -/
def daysBefore (month : Int) : Int :=
  (153 * (if month ≤ 2 then month + 9 else month - 3) + 2) / 5

/-- The number of a day. Days in front of the first one of a month and behind its last one count on. -/
def Day.number (d : Day) : Int :=
  let year := if d.month ≤ 2 then d.year - 1 else d.year
  let cycle := year / 400
  let inCycle := year % 400
  cycle * cycleDays + inCycle * 365 + inCycle / 4 - inCycle / 100 + daysBefore d.month + d.day - 1
    - offset

/-- The day of a number. -/
def Day.ofNumber (n : Int) : Day :=
  let n := n + offset
  let cycle := n / cycleDays
  let inCycle := n % cycleDays
  let year := (inCycle - inCycle / 1460 + inCycle / 36524 - inCycle / 146096) / 365
  let inYear := inCycle - (365 * year + year / 4 - year / 100)
  let march := (5 * inYear + 2) / 153
  let month := if march < 10 then march + 3 else march - 9
  let year := year + cycle * 400
  ⟨if month ≤ 2 then year + 1 else year, month, inYear - (153 * march + 2) / 5 + 1⟩

/-- A day with its month brought between the first and the last one of a year. -/
def Day.settled (d : Day) : Day :=
  { d with year := d.year + (d.month - 1) / 12, month := (d.month - 1) % 12 + 1 }

/-- The day of the week, from Sunday on. -/
def Day.weekday (d : Day) : Int := (d.number + 4) % 7

/-- The place of a day in its year, from zero on. -/
def Day.ofYear (d : Day) : Int := d.number - (Day.mk d.year 1 1).number

/-- A day and a time of day. -/
structure Moment where
  day : Day
  hour : Int
  minute : Int
  second : Int
  nanosecond : Nat
  deriving DecidableEq, Repr

namespace Moment

def secondsOfDay : Int := 86400

/-- The seconds from the beginning of 1970. Parts that are too large count on. -/
def seconds (m : Moment) : Int :=
  m.day.settled.number * secondsOfDay + m.hour * 3600 + m.minute * 60 + m.second

def ofSeconds (seconds : Int) (nanosecond : Nat) : Moment :=
  let inDay := seconds % secondsOfDay
  ⟨.ofNumber (seconds / secondsOfDay), inDay / 3600, inDay / 60 % 60, inDay % 60, nanosecond⟩

/-- Whether all parts are within their bounds. -/
def isSettled (m : Moment) : Bool :=
  let back := ofSeconds m.seconds m.nanosecond
  decide (back = m)

end Moment

end LinkBench.Host.Calendar
