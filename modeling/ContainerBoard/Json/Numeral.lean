import ContainerBoard.Json.Basic
import ContainerBoard.Number.Unsigned

/-!
# Numerals of a document

How the text of a number becomes its value.  A numeral without a fraction
and an exponent is an integer if it fits 64 bits.  Any other numeral is a
floating-point number: its leading digits, as many as fit 64 bits, are
scaled by a power of ten in floating point.  A numeral too great for the
format has no value.
-/

namespace ContainerBoard.Json

/-- The parts of a numeral as they stand in the text. -/
structure Numeral where
  negative : Bool
  whole : List Nat
  /-- The digits after the point, if there is a point. -/
  part : Option (List Nat)
  /-- The exponent as its sign and its digits, if there is one. -/
  exponent : Option (Bool × List Nat)

/-- The greatest number that the leading digits may reach. -/
def significandLimit : Nat := UInt64.size

/-- Takes digits of the whole part into the significand while they fit; the
digits left over raise the exponent. -/
def takeWhole (significand : Nat) : List Nat → Nat × Nat
  | [] => (significand, 0)
  | d :: rest =>
    if 10 * significand + d < significandLimit then takeWhole (10 * significand + d) rest
    else (significand, rest.length + 1)

/-- Takes digits after the point into the significand while they fit; each
lowers the exponent, and the digits left over are ignored. -/
def takePart (significand : Nat) (exponent : Int) : List Nat → Nat × Int
  | [] => (significand, exponent)
  | d :: rest =>
    if 10 * significand + d < significandLimit then
      takePart (10 * significand + d) (exponent - 1) rest
    else (significand, exponent)

/-- The value of a list of digits. -/
def digitsValue (digits : List Nat) : Nat :=
  digits.foldl (fun value d => 10 * value + d) 0

/-- The greatest exponent that is kept; a greater one is taken for it. -/
def exponentLimit : Nat := 2147483647

/-- The floating-point power of ten, for exponents up to 308. -/
def realPowerOfTen (e : Nat) : Binary :=
  Binary.ofNat (Nat.pow 10 e)

/-- Scales down by `10 ^ 308` while the exponent is below -308 and something
is left, and then by the rest of the exponent. -/
def scaleDown (value : Binary) : Nat → Nat → Binary
  | 0, _ => Binary.zero
  | fuel + 1, e =>
    if e ≤ 308 then value.div (realPowerOfTen e)
    else if value.mantissa = 0 then value
    else scaleDown (value.div (realPowerOfTen 308)) fuel (e - 308)

/-- The significand scaled by the power of ten, unless it is too great. -/
def scale? (significand : Nat) (exponent : Int) : Option Binary :=
  let value := Binary.ofNat significand
  if 0 ≤ exponent then
    if exponent ≤ 308 then value.mul? (realPowerOfTen exponent.toNat)
    else if significand = 0 then some value
    else none
  else some (scaleDown value 8 (-exponent).toNat)

/-- Whether the exponent stays below the limit while its digits are read. -/
def exponentFits (digits : List Nat) : Bool :=
  digitsValue digits ≤ exponentLimit

namespace Numeral

/-- The magnitude as a floating-point number, unless it is too great. -/
def magnitude? (n : Numeral) : Option Binary :=
  let (leading, dropped) := takeWhole 0 n.whole
  let (significand, shift) :=
    match n.part with
    | none => (leading, (dropped : Int))
    | some digits => takePart leading dropped digits
  match n.exponent with
  | none => scale? significand shift
  | some (down, digits) =>
    if exponentFits digits then
      let e : Int := digitsValue digits
      scale? significand (if down then shift - e else shift + e)
    else if significand ≠ 0 ∧ !down then none
    else some Binary.zero

/-- The value of the numeral, if it has one. -/
def value? (n : Numeral) : Option JsonNumber :=
  let integer := digitsValue n.whole
  if n.part.isNone ∧ n.exponent.isNone ∧ !n.negative ∧ integer < UInt64.size then
    some (.int integer)
  else if n.part.isNone ∧ n.exponent.isNone ∧ n.negative ∧ 0 < integer ∧
      2 * integer ≤ UInt64.size then
    some (.int (-integer))
  else
    n.magnitude?.map (.real n.negative)

end Numeral

end ContainerBoard.Json
