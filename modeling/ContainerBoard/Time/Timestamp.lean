import ContainerBoard.Text.Column
import ContainerBoard.Time.Calendar

/-!
# Times

A `Timestamp` is a time of the calendar in UTC.  Any minute may have a
sixty-first second, with number 60.  Times are written with as few fractional
digits as are exact, in groups of three.
-/

namespace ContainerBoard

/-- Whether the parts make up a time. -/
def isClockTime (hour minute second nano : Nat) : Bool :=
  hour < 24 && minute < 60 && second ≤ 60 && nano < 1000000000

/-- A time in UTC. -/
structure Timestamp where
  date : CivilDate
  hour : Nat
  minute : Nat
  /-- The second, 60 for an inserted one. -/
  second : Nat
  /-- The billionths of a second. -/
  nano : Nat
  /-- The calendar has the date and the clock the time. -/
  valid : (date.isValid && isClockTime hour minute second nano) = true
  deriving DecidableEq

namespace Timestamp

/-- The time with the given parts, if there is one. -/
def ofParts? (date : CivilDate) (hour minute second nano : Nat) : Option Timestamp :=
  if h : (date.isValid && isClockTime hour minute second nano) = true then
    some ⟨date, hour, minute, second, nano, h⟩
  else none

/-- The first second of the year 1970. -/
def epoch : Timestamp :=
  ⟨⟨1970, 1, 1⟩, 0, 0, 0, 0, by decide⟩

instance : Inhabited Timestamp := ⟨epoch⟩

/-- The time on the wall of a place that is `offset` minutes ahead of UTC,
told in UTC. -/
def behind? (offset : Int) (date : CivilDate) (hour minute second nano : Nat) :
    Option Timestamp :=
  let minutes : Int := 60 * hour + minute - offset
  let (date, minutes) :=
    if minutes < 0 then (date.previous, minutes + 1440)
    else if 1440 ≤ minutes then (date.next, minutes - 1440)
    else (date, minutes)
  ofParts? date (minutes.toNat / 60) (minutes.toNat % 60) second nano

/-- The time a number of seconds after the first second of 1970. -/
def ofUnixSeconds? (seconds : Int) : Option Timestamp :=
  let days := seconds.fdiv 86400
  let ofDay := (seconds - days * 86400).toNat
  ofParts? (CivilDate.ofUnixDay days) (ofDay / 3600) (ofDay / 60 % 60) (ofDay % 60) 0

/-- The year: four digits, or a sign and at least four digits outside of
0 to 9999. -/
def yearText (year : Int) : String :=
  if 0 ≤ year && year ≤ 9999 then Text.zeroPadded 4 year.toNat
  else (if year < 0 then "-" else "+") ++ Text.zeroPadded 4 year.natAbs

/-- The fraction of a second with three, six or nine digits, or none. -/
def fractionText (nano : Nat) : String :=
  if nano = 0 then ""
  else if nano % 1000000 = 0 then "." ++ Text.zeroPadded 3 (nano / 1000000)
  else if nano % 1000 = 0 then "." ++ Text.zeroPadded 6 (nano / 1000)
  else "." ++ Text.zeroPadded 9 nano

/-- The time of day to the second. -/
def clockText (time : Timestamp) : String :=
  Text.zeroPadded 2 time.hour ++ ":" ++ Text.zeroPadded 2 time.minute ++ ":" ++
    Text.zeroPadded 2 time.second

/-- The date and the time of day, before the mark of the offset. -/
def localText (time : Timestamp) : String :=
  yearText time.date.year ++ "-" ++ Text.zeroPadded 2 time.date.month ++ "-" ++
    Text.zeroPadded 2 time.date.day ++ "T" ++ time.clockText ++ fractionText time.nano

/-- The time as records hold it, marked as UTC by a `Z`. -/
def text (time : Timestamp) : String :=
  time.localText ++ "Z"

/-- The time with its offset from UTC in digits. -/
def textWithOffset (time : Timestamp) : String :=
  time.localText ++ "+00:00"

end Timestamp

end ContainerBoard
