import ContainerBoard.Number.Binary

/-!
# Shortest decimals

The decimal text of a floating-point number has the fewest digits that read
back as the same number.  Among the decimals of that length the nearest one
is taken.  The text is positional, however large or small the number is.
-/

namespace ContainerBoard.Binary

/-- Half the distance to the neighbours of the number above and below, as
fractions with a common denominator `4 * den`: the number itself, the lower
and the upper end of the interval that rounds to it. -/
def interval (x : Binary) : Nat × Nat × Nat :=
  let step := Nat.pow 2 x.exponent.toNat
  let below :=
    if x.mantissa = leastFull ∧ leastExponent < x.exponent then step else 2 * step
  (4 * x.num, 4 * x.num - below, 4 * x.num + 2 * step)

/-- Whether the decimal `digits * unitNum / unitDen` rounds to the number. -/
def roundsTo (x : Binary) (digits unitNum unitDen : Nat) : Bool :=
  let (_, lower, upper) := x.interval
  let point := digits * unitNum * (4 * x.den)
  let low := lower * unitDen
  let high := upper * unitDen
  if x.mantissa % 2 = 0 then low ≤ point && point ≤ high
  else low < point && point < high

/-- The power of ten as numerator and denominator. -/
def powerOfTen (e : Int) : Nat × Nat :=
  (Nat.pow 10 e.toNat, Nat.pow 10 (-e).toNat)

/-- The least `e` from `start` on with the number below `10 ^ e`, if one is
found within the fuel. -/
def decimalPoint (x : Binary) : Nat → Int → Int
  | 0, e => e
  | fuel + 1, e =>
    let (tenNum, tenDen) := powerOfTen e
    if x.num * tenDen < tenNum * x.den then e else decimalPoint x fuel (e + 1)

/-- The best decimal with its last digit at `10 ^ e` that rounds to the
number: of the two neighbours on that grid the nearer one. -/
def onGrid? (x : Binary) (e : Int) : Option Nat :=
  let (unitNum, unitDen) := powerOfTen e
  let num := x.num * unitDen
  let den := x.den * unitNum
  let low := num / den
  let first := roundDiv num den
  let second := if first = low then low + 1 else low
  if x.roundsTo first unitNum unitDen then some first
  else if x.roundsTo second unitNum unitDen then some second
  else none

/-- The digits and the exponent of the last digit, tried on finer and finer
grids.  Only a number just below a power of ten is found with a zero at its
end, and that zero is dropped. -/
def shortestFrom (x : Binary) (point : Int) : Nat → Nat → Nat × Int
  | 0, _ => (0, 0)
  | fuel + 1, count =>
    let e := point - count
    match x.onGrid? e with
    | some digits => if digits % 10 = 0 then (digits / 10, e + 1) else (digits, e)
    | none => shortestFrom x point fuel (count + 1)

/-- Positional text of `digits * 10 ^ e`, with a decimal point in every
case. -/
def positional (digits : Nat) (e : Int) : String :=
  let text := digits.repr.toList
  if 0 ≤ e then
    String.ofList (text ++ List.replicate e.toNat '0') ++ ".0"
  else
    let places := (-e).toNat
    let padded := List.replicate (places + 1 - text.length) '0' ++ text
    let whole := padded.take (padded.length - places)
    let part := padded.drop (padded.length - places)
    String.ofList whole ++ "." ++ String.ofList part

/-- Scientific text of `digits * 10 ^ e`: the first digit, a point if more
digits follow, and the exponent with its sign. -/
def scientific (digits : Nat) (e : Int) : String :=
  let text := digits.repr.toList
  let part := if text.length ≤ 1 then [] else '.' :: text.drop 1
  let exponent := e + text.length - 1
  String.ofList (text.take 1 ++ part) ++ "e" ++ (if exponent < 0 then "-" else "+") ++
    exponent.natAbs.repr

/-- The decimal exponents that are written positionally. -/
def isPositional (exponent : Int) : Bool :=
  -5 ≤ exponent && exponent < 16

/-- The shortest decimal text of the number. -/
def shortest (x : Binary) : String :=
  if x.mantissa = 0 then "0.0"
  else
    let start : Int := (x.mantissa.log2 + x.exponent) * 3 / 10 - 2
    let point := decimalPoint x 700 start
    let (digits, e) := shortestFrom x point 17 1
    if isPositional (e + digits.repr.length - 1) then positional digits e
    else scientific digits e

end ContainerBoard.Binary
