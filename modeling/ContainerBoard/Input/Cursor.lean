/-!
# The cursor

The selected row of a list.
-/

namespace ContainerBoard

/-- The selected row of a list with some rows. -/
structure Cursor where
  selected : Nat := 0
  rows : Nat := 0
  deriving DecidableEq, Repr, Inhabited

namespace Cursor

/-- The list has so many rows now; a selection beyond them moves to the last
one. -/
def setRows (c : Cursor) (rows : Nat) : Cursor :=
  { selected := if c.selected < rows then c.selected else rows - 1, rows }

def up (c : Cursor) : Cursor :=
  { c with selected := c.selected - 1 }

def down (c : Cursor) : Cursor :=
  if c.selected + 1 < c.rows then { c with selected := c.selected + 1 } else c

def reset (c : Cursor) : Cursor :=
  { c with selected := 0 }

end Cursor

end ContainerBoard
