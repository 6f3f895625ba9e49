/-!
# Binary floating point

Nonnegative floating-point numbers with a 53 bit mantissa, the arithmetic
that byte counts and the real numbers of documents go through.  A number is
kept as mantissa and exponent, and every operation rounds the exact quotient
to the nearest number of the format, a tie going to the even mantissa.
-/

namespace ContainerBoard

/-- The quotient rounded to the nearest natural number, a tie going to the
even one. -/
def roundDiv (num den : Nat) : Nat :=
  let quotient := num / den
  let twice := 2 * (num % den)
  if twice < den then quotient
  else if den < twice then quotient + 1
  else if quotient % 2 = 0 then quotient
  else quotient + 1

/-- The number `mantissa * 2 ^ exponent`. -/
structure Binary where
  mantissa : Nat
  exponent : Int
  deriving DecidableEq, Repr

namespace Binary

/-- The numerator of the number as a fraction. -/
def num (x : Binary) : Nat :=
  x.mantissa * Nat.pow 2 x.exponent.toNat

/-- The denominator of the number as a fraction. -/
def den (x : Binary) : Nat :=
  Nat.pow 2 (-x.exponent).toNat

/-- The least mantissa of 53 bits. -/
def leastFull : Nat := Nat.pow 2 52

/-- The least exponent of the format. -/
def leastExponent : Int := -1074

/-- The greatest exponent of the format. -/
def greatestExponent : Int := 971

/-- The quotient in units of `2 ^ exponent`, as numerator and denominator. -/
def inUnits (num den : Nat) (exponent : Int) : Nat × Nat :=
  (num * Nat.pow 2 (-exponent).toNat, den * Nat.pow 2 exponent.toNat)

/-- The exponent at which the quotient has a mantissa of 53 bits, if the
format has that exponent, and the least exponent otherwise. -/
def exponentOf (num den : Nat) : Int :=
  let low : Int := (num.log2 : Int) - (den.log2 : Int) - 53
  let (scaledNum, scaledDen) := inUnits num den low
  let exact := if scaledNum / scaledDen < 2 * leastFull then low else low + 1
  max exact leastExponent

/-- The number of the format nearest to the quotient, unless the quotient is
too great for the format. -/
def ofRatio (num den : Nat) : Option Binary :=
  if num = 0 then some ⟨0, leastExponent⟩
  else
    let exponent := exponentOf num den
    let (scaledNum, scaledDen) := inUnits num den exponent
    let mantissa := roundDiv scaledNum scaledDen
    let rounded : Binary :=
      if mantissa = 2 * leastFull then ⟨leastFull, exponent + 1⟩ else ⟨mantissa, exponent⟩
    if greatestExponent < rounded.exponent then none else some rounded

def zero : Binary := ⟨0, leastExponent⟩

/-- The number of the format nearest to a natural number below `2 ^ 1024`. -/
def ofNat (n : Nat) : Binary :=
  (ofRatio n 1).getD zero

/-- The rounded product, unless it is too great. -/
def mul? (x y : Binary) : Option Binary :=
  ofRatio (x.num * y.num) (x.den * y.den)

/-- The rounded quotient by a number other than zero. -/
def div (x y : Binary) : Binary :=
  (ofRatio (x.num * y.den) (x.den * y.num)).getD zero

/-- Whether the number is at least `n`. -/
def atLeast (n : Nat) (x : Binary) : Bool :=
  n * x.den ≤ x.num

/-- The number with one decimal, a tie going to the even digit. -/
def oneDecimal (x : Binary) : String :=
  let tenths := roundDiv (10 * x.num) x.den
  (tenths / 10).repr ++ "." ++ (tenths % 10).repr

end Binary

end ContainerBoard
