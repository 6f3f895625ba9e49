/-!
# Unsigned numbers

The text of an unsigned 64 bit number: an optional plus sign and one or more
decimal digits with a value below `2 ^ 64`.
-/

namespace ContainerBoard

/-- The value of a decimal digit. -/
def digit? (c : Char) : Option Nat :=
  if '0' ≤ c ∧ c ≤ '9' then some (c.toNat - '0'.toNat) else none

/-- The value of a text of decimal digits that continues the value read so
far. -/
def decimalFrom? (value : Nat) : List Char → Option Nat
  | [] => some value
  | c :: rest =>
    match digit? c with
    | some d => decimalFrom? (10 * value + d) rest
    | none => none

/-- The value of one or more decimal digits. -/
def decimal? : List Char → Option Nat
  | [] => none
  | s => decimalFrom? 0 s

/-- The text without a plus sign in front. -/
def dropPlus : List Char → List Char
  | '+' :: rest => rest
  | s => s

/-- The value of an unsigned 64 bit number. -/
def unsigned64? (s : List Char) : Option Nat :=
  match decimal? (dropPlus s) with
  | some n => if n < UInt64.size then some n else none
  | none => none

end ContainerBoard
