import ContainerBoard.Screen.Run
import ContainerBoard.Terminal

/-!
# Painting

The control sequences that put rows of cells on the terminal.  A wide cluster
is written once; the terminal itself moves on over the cells that it covers.
-/

namespace ContainerBoard

/-- The numbers that select a colour, after the one that says what is to be
coloured. -/
def Color.parameters : Color → List Nat
  | white => [5, 15]
  | gray => [5, 7]
  | darkGray => [5, 8]
  | red => [5, 1]
  | lightGreen => [5, 10]
  | rgb r g b => [2, r.toNat, g.toNat, b.toNat]

/-- The numbers that select a style, whatever was selected before. -/
def Style.parameters (style : Style) : List Nat :=
  0 :: ((if style.isBold then [1] else []) ++ (if style.isItalic then [3] else []) ++
    (style.foreground.map fun color => 38 :: color.parameters).getD [] ++
    (style.background.map fun color => 48 :: color.parameters).getD [])

/-- The control sequence that selects a style. -/
def Style.selection (style : Style) : String :=
  Terminal.escape ++ String.intercalate ";" (style.parameters.map Nat.repr) ++ "m"

namespace CellRow

/-- The cells that are written, the first of them perhaps behind a wide
cluster. -/
def writtenAfter : (isCovered : Bool) → CellRow → CellRow
  | _, [] => []
  | isCovered, cell :: rest =>
    let after := writtenAfter (!isCovered && covers cell) rest
    if isCovered then after else cell :: after

/-- The text that puts a row on the terminal, run by run. -/
def paint (row : CellRow) : String :=
  String.join ((writtenAfter false row).runs.map fun run =>
    run.style.selection ++ String.ofList run.symbols.flatten)

end CellRow

namespace Terminal

/-- Moves to the beginning of a row, counted from zero. -/
def moveTo (row : Nat) : String :=
  escape ++ (row + 1).repr ++ ";1H"

/-- The text that puts rows on the terminal from its top on. -/
def paint (rows : List CellRow) : String :=
  String.join (rows.zipIdx.map fun (row, place) => moveTo place ++ row.paint) ++
    Style.selection {}

end Terminal

end ContainerBoard
