import ContainerBoard.Number.Binary

/-!
# Byte counts

Sizes are shown with decimal units and one decimal place.  A count below a
thousand is shown exactly.  A larger count is divided by a thousand, in
floating point, as long as it is at least a thousand and a larger unit is
left; the quotient is then rounded to one place.
-/

namespace ContainerBoard.ByteCount

/-- The units above the byte, each a thousand times the one before. -/
def largerUnits : List String :=
  ["kB", "MB", "GB", "TB"]

/-- Divides by a thousand and takes the next unit while the value is at least
a thousand. -/
def climb (value : Binary) (unit : String) : List String → Binary × String
  | [] => (value, unit)
  | next :: more =>
    if value.atLeast 1000 then climb (value.div (Binary.ofNat 1000)) next more
    else (value, unit)

/-- The text of a count of bytes. -/
def format (bytes : Nat) : String :=
  if bytes < 1000 then bytes.repr ++ " B"
  else
    let (value, unit) := climb (Binary.ofNat bytes) "B" largerUnits
    value.oneDecimal ++ " " ++ unit

/-- The text of a size that the daemon reports as a signed number; a negative
size counts as zero. -/
def formatSigned (size : Int) : String :=
  format size.toNat

end ContainerBoard.ByteCount
