import ContainerBoard.Screen.Line
import ContainerBoard.Text.Width

/-!
# Cells of the screen

A row of the screen is a list of cells.  Text is laid out cluster by
cluster; a wide cluster takes more than one cell.
-/

namespace ContainerBoard

/-- A cell of the screen. -/
structure Cell where
  /-- The characters in the cell. -/
  symbol : List Char := [' ']
  style : Style := {}
  deriving DecidableEq, Repr, Inhabited

/-- A row of the screen from left to right. -/
abbrev CellRow := List Cell

namespace Cell

def blank : Cell := {}

/-- The cell with other characters and more style. -/
def draw (cell : Cell) (symbol : List Char) (style : Style) : Cell :=
  { symbol, style := cell.style.patch style }

/-- The cell with more characters and more style. -/
def append (cell : Cell) (symbol : List Char) (style : Style) : Cell :=
  { symbol := cell.symbol ++ symbol, style := cell.style.patch style }

def restyle (cell : Cell) (style : Style) : Cell :=
  { cell with style := cell.style.patch style }

end Cell

/-- A cluster of characters with its style. -/
structure Glyph where
  cluster : List Char
  style : Style
  deriving DecidableEq, Repr

/-- The clusters of a piece of text that can be drawn. -/
def Span.glyphs (span : Span) : List Glyph :=
  (Text.drawable span.text).map fun cluster => ⟨cluster, span.style⟩

/-- The cells that a piece of text takes. -/
def Span.width (span : Span) : Nat :=
  Text.width span.text

/-- The clusters of a line, each in the style of its piece over that of the
line. -/
def Line.glyphs (line : Line) : List Glyph :=
  line.spans.flatMap fun span =>
    { span with style := line.style.patch span.style }.glyphs

def Line.width (line : Line) : Nat :=
  (line.spans.map Span.width).foldr (· + ·) 0

namespace CellRow

def blank (width : Nat) : CellRow :=
  List.replicate width .blank

/-- Lays out clusters in the cells that are left of a row.  A cluster wider
than the whole row is passed over, and the first one that finds no room
ends the row. -/
def layOut (width : Nat) : (room : Nat) → List Glyph → CellRow
  | room, [] => blank room
  | room, glyph :: rest =>
    let cells := Text.clusterWidth glyph.cluster
    if cells = 0 || width < cells then layOut width room rest
    else if room < cells then blank room
    else
      (Cell.blank.draw glyph.cluster glyph.style :: blank (cells - 1)) ++
        layOut width (room - cells) rest

def ofLine (width : Nat) (line : Line) : CellRow :=
  layOut width width line.glyphs

/-- Clears cells from a place on. -/
def clear (row : CellRow) (place : Nat) : (count : Nat) → CellRow
  | 0 => row
  | count + 1 => clear (row.modify place fun _ => .blank) (place + 1) count

/-- Puts the clusters of one piece of text into a row, up to the right edge.
The piece begins at `start`.  A cluster that takes no cell joins the cell
before it. -/
def putGlyphs (right start : Nat) : (isFirst : Bool) → (x : Nat) → List Glyph →
    CellRow → CellRow
  | _, _, [], row => row
  | isFirst, x, glyph :: rest, row =>
    let cells := Text.clusterWidth glyph.cluster
    if right < x + cells then row
    else
      let put :=
        if isFirst then row.modify x fun cell => cell.draw glyph.cluster glyph.style
        else if x = start then row.modify x fun cell => cell.append glyph.cluster glyph.style
        else if cells = 0 then
          row.modify (x - 1) fun cell => cell.append glyph.cluster glyph.style
        else row.modify x fun cell => cell.draw glyph.cluster glyph.style
      putGlyphs right start false (x + cells) rest (clear put (x + 1) (cells - 1))

/-- Puts pieces of text into a row one after the other, up to the right
edge. -/
def putSpans (right : Nat) : (start : Nat) → List Span → CellRow → CellRow
  | _, [], row => row
  | start, span :: rest, row =>
    if span.width = 0 then putSpans right start rest row
    else if right ≤ start then row
    else
      putSpans right (start + span.width) rest
        (putGlyphs right start true start span.glyphs row)

def restyle (row : CellRow) (style : Style) : CellRow :=
  row.map fun cell => cell.restyle style

/-- A row of a list: the style of the line lies under the whole row. -/
def ofItem (width : Nat) (line : Line) : CellRow :=
  if line.width = 0 then blank width
  else putSpans width 0 line.spans (restyle (blank width) line.style)

/-- Whether a cell covers the one after it. -/
def covers (cell : Cell) : Bool :=
  1 < Text.clusterWidth cell.symbol && !cell.symbol.any fun c => c.toNat == 0xfe0f

/-- The cells as the terminal shows them, the first of them perhaps behind a
wide cluster. -/
def shownAfter : (isCovered : Bool) → CellRow → CellRow
  | _, [] => []
  | isCovered, cell :: rest =>
    (if isCovered then .blank else cell) :: shownAfter (!isCovered && covers cell) rest

/-- The row as the terminal shows it: nothing is seen of a cell behind a wide
cluster. -/
def shown (row : CellRow) : CellRow :=
  shownAfter false row

end CellRow

end ContainerBoard
