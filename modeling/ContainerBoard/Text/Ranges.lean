/-!
# Ranges of code points

A property of characters is written down as the ranges of code points that
have it, in ascending order.  The tables of the text modules are values of
`Ranges`, and `Ranges.has` asks one for a character.
-/

namespace ContainerBoard.Text

/-- Closed ranges of code points. -/
abbrev Ranges := List (Nat × Nat)

/-- Whether the character lies in one of the ranges. -/
def Ranges.has (ranges : Ranges) (c : Char) : Bool :=
  ranges.any fun range => range.1 ≤ c.toNat && c.toNat ≤ range.2

end ContainerBoard.Text
