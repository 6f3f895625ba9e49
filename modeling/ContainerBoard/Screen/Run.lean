import ContainerBoard.Screen.Cells

/-!
# Runs of equally styled cells

A row is told to the terminal run by run: where the style changes a new run
begins.
-/

namespace ContainerBoard

/-- Cells of one style side by side. -/
structure StyleRun where
  start : Nat
  symbols : List (List Char)
  style : Style
  deriving DecidableEq, Repr

namespace CellRow

/-- The runs of a row, the first cell of which stands at `start`. -/
def runsFrom : (start : Nat) → CellRow → List StyleRun
  | _, [] => []
  | start, cell :: rest =>
    match runsFrom (start + 1) rest with
    | [] => [⟨start, [cell.symbol], cell.style⟩]
    | next :: more =>
      if next.style = cell.style then ⟨start, cell.symbol :: next.symbols, cell.style⟩ :: more
      else ⟨start, [cell.symbol], cell.style⟩ :: next :: more

/-- The longest runs of a row from left to right. -/
def runs (row : CellRow) : List StyleRun :=
  runsFrom 0 row

def text (row : CellRow) : String :=
  String.ofList (row.flatMap Cell.symbol)

end CellRow

end ContainerBoard
