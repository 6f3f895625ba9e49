import ContainerBoard.Number.Unsigned
import ContainerBoard.Text.Blank
import ContainerBoard.Time.Timestamp

/-!
# Reading times

`Timestamp.read` reads a date, a time of day and an offset from UTC.  Blanks
may stand before every number and around the marks between the parts.
-/

namespace ContainerBoard

/-- Why a text is no time. -/
inductive TimeFault where
  /-- A part is too large, or the calendar does not have the date. -/
  | outOfRange
  /-- The text ends too early. -/
  | tooShort
  /-- Another character is expected. -/
  | invalid
  /-- More text follows. -/
  | tooLong
  /-- The time in UTC lies outside of the calendar. -/
  | impossible
  deriving DecidableEq, Repr

/-- The complaint about a text that is no time. -/
def TimeFault.message : TimeFault → String
  | .outOfRange => "input is out of range"
  | .tooShort => "premature end of input"
  | .invalid => "input contains invalid characters"
  | .tooLong => "trailing input"
  | .impossible => "no possible date and time matching input"

namespace Timestamp

/-- Reading takes text from the front of what is left of it. -/
abbrev Reading := StateT (List Char) (Except TimeFault)

/-- The value of a row of decimal digits. -/
def digitsValue (digits : List Char) : Nat :=
  digits.foldl (fun value c => 10 * value + (c.toNat - '0'.toNat)) 0

def skipBlanks : Reading Unit :=
  modify Text.trimStart

/-- Reads at least one and at most `most` digits. -/
def readDigits (most : Nat) : Reading Nat := fun s =>
  match s, (s.take most).takeWhile Char.isDigit with
  | [], _ => .error .tooShort
  | _ :: _, [] => .error .invalid
  | _ :: _, digits =>
    if 2 * digitsValue digits < UInt64.size then .ok (digitsValue digits, s.drop digits.length)
    else .error .outOfRange

/-- Reads any number of digits, but at least one. -/
def readAllDigits : Reading Nat := fun s =>
  readDigits s.length s

def readChar : Reading Char := fun s =>
  match s with
  | [] => .error .tooShort
  | c :: rest => .ok (c, rest)

/-- Reads two digits after blanks, and refuses a number outside of the
bounds. -/
def readPart (low high : Nat) : Reading Nat := do
  skipBlanks
  let value ← readDigits 2
  if low ≤ value && value ≤ high then pure value else throw .outOfRange

/-- Reads a mark with blanks before it. -/
def readMark (mark : Char) : Reading Unit := do
  skipBlanks
  let c ← readChar
  if c = mark then pure () else throw .invalid

/-- Reads a year without its bounds: up to four digits, or a sign and any
number of digits. -/
def readSignedYear : Reading Int := fun s =>
  match s with
  | '-' :: rest => (readAllDigits rest).map fun (year, rest) => (-(year : Int), rest)
  | '+' :: rest => (readAllDigits rest).map fun (year, rest) => ((year : Int), rest)
  | s => (readDigits 4 s).map fun (year, rest) => ((year : Int), rest)

def readYear : Reading Int := do
  skipBlanks
  let year ← readSignedYear
  if Int32.minValue.toInt ≤ year && year ≤ Int32.maxValue.toInt then pure year
  else throw .outOfRange

def readDate : Reading CivilDate := do
  let year ← readYear
  readMark '-'
  let month ← readPart 1 12
  readMark '-'
  let day ← readPart 1 31
  pure ⟨year, month, day⟩

/-- Reads the letter or blank between date and time. -/
def readDivider : Reading Unit := do
  let c ← readChar
  if c = 't' || c = 'T' || c = ' ' then pure () else throw .invalid

/-- Reads a fraction of a second, if there is one, as billionths.  Digits
after the ninth are passed over. -/
def readFraction : Reading Nat := fun s =>
  match s with
  | '.' :: digits =>
    (readDigits 9 digits).map fun (value, rest) =>
      (value * Nat.pow 10 (9 - (digits.length - rest.length)), rest.dropWhile Char.isDigit)
  | s => .ok (0, s)

/-- Reads two digits of an offset. -/
def readPair : Reading Nat := fun s =>
  match s with
  | [] => .error .tooShort
  | [c] => .error (if c.toNat < 0x80 then .tooShort else .invalid)
  | c :: d :: rest =>
    if c.isDigit && d.isDigit then .ok (digitsValue [c, d], rest) else .error .invalid

/-- Reads the hours and minutes of an offset, in minutes. -/
def readHoursMinutes : Reading Nat := do
  let hours ← readPair
  modify (List.dropWhile fun c => c = ':' || Text.isBlank c)
  let minutes ← readPair
  if minutes < 60 then pure (60 * hours + minutes) else throw .outOfRange

/-- Whether the text begins with the letters of UTC, large or small. -/
def startsWithUtc : List Char → Bool
  | a :: b :: c :: _ => a.toUpper = 'U' && b.toUpper = 'T' && c.toUpper = 'C'
  | _ => false

/-- Reads an offset from UTC in minutes. -/
def readOffset : Reading Int := do
  if startsWithUtc (← get) then
    modify (List.drop 3)
    pure 0
  else
    let c ← readChar
    if c = 'z' || c = 'Z' then pure 0
    else if c = '+' then
      let minutes ← readHoursMinutes
      pure (minutes : Int)
    else if c = '-' || c = '\u2212' then
      let minutes ← readHoursMinutes
      pure (-(minutes : Int))
    else throw .invalid

/-- A time as its text gives it. -/
structure Written where
  date : CivilDate
  hour : Nat
  minute : Nat
  second : Nat
  nano : Nat
  /-- How far the clock is ahead of UTC, in minutes. -/
  offset : Int
  deriving Repr

/-- Reads the parts of a time. -/
def readWritten : Reading Written := do
  let date ← readDate
  readDivider
  let hour ← readPart 0 23
  readMark ':'
  let minute ← readPart 0 59
  readMark ':'
  let second ← readPart 0 60
  let nano ← readFraction
  skipBlanks
  let offset ← readOffset
  pure { date, hour, minute, second, nano, offset }

/-- The time in UTC of a written time. -/
def ofWritten (w : Written) : Except TimeFault Timestamp :=
  if !w.date.isValid || 1440 ≤ w.offset.natAbs then .error .outOfRange
  else
    match behind? w.offset w.date w.hour w.minute w.second w.nano with
    | some time => .ok time
    | none => .error .impossible

def read (text : String) : Except TimeFault Timestamp := do
  let (written, rest) ← readWritten text.toList
  if Text.isAllBlank rest then ofWritten written else .error .tooLong

end Timestamp

end ContainerBoard
