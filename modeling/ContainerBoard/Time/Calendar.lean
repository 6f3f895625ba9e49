/-!
# The calendar

Dates of the Gregorian calendar, extended to all years, and the day before
and after a date.
-/

namespace ContainerBoard

/-- A year, a month and a day of the month. -/
structure CivilDate where
  year : Int
  month : Nat
  day : Nat
  deriving DecidableEq, Repr

namespace CivilDate

/-- Whether February has a day more. -/
def isLeapYear (year : Int) : Bool :=
  year % 4 == 0 && (year % 100 != 0 || year % 400 == 0)

def daysInMonth (year : Int) (month : Nat) : Nat :=
  if month == 2 then (if isLeapYear year then 29 else 28)
  else if month == 4 || month == 6 || month == 9 || month == 11 then 30
  else 31

/-- The first year that a time can lie in. -/
def firstYear : Int := -262143

/-- The last year that a time can lie in. -/
def lastYear : Int := 262142

/-- Whether the calendar has the date, and a time can lie in its year. -/
def isValid (date : CivilDate) : Bool :=
  firstYear ≤ date.year && date.year ≤ lastYear &&
  1 ≤ date.month && date.month ≤ 12 &&
  1 ≤ date.day && date.day ≤ daysInMonth date.year date.month

def next (date : CivilDate) : CivilDate :=
  if date.day < daysInMonth date.year date.month then
    { date with day := date.day + 1 }
  else if date.month < 12 then ⟨date.year, date.month + 1, 1⟩
  else ⟨date.year + 1, 1, 1⟩

def previous (date : CivilDate) : CivilDate :=
  if 1 < date.day then { date with day := date.day - 1 }
  else if 1 < date.month then
    ⟨date.year, date.month - 1, daysInMonth date.year (date.month - 1)⟩
  else ⟨date.year - 1, 12, 31⟩

/-- The date a number of days after the first of January 1970.  Years are
counted from March here, so that the day of a leap year comes last, in eras
of 400 years and 146097 days. -/
def ofUnixDay (days : Int) : CivilDate :=
  let sinceMarch := days + 719468
  let era := sinceMarch.fdiv 146097
  let dayOfEra := (sinceMarch - era * 146097).toNat
  let yearOfEra :=
    (dayOfEra + dayOfEra / 36524 - dayOfEra / 1460 - dayOfEra / 146096) / 365
  let dayOfYear := dayOfEra - (365 * yearOfEra + yearOfEra / 4 - yearOfEra / 100)
  let fromMarch := (5 * dayOfYear + 2) / 153
  let day := dayOfYear - (153 * fromMarch + 2) / 5 + 1
  let month := if fromMarch < 10 then fromMarch + 3 else fromMarch - 9
  let year : Int := yearOfEra + era * 400
  ⟨if month ≤ 2 then year + 1 else year, month, day⟩

end CivilDate

end ContainerBoard
