import ContainerBoard.Input.Cursor
import ContainerBoard.Screen.Cells
import ContainerBoard.Screen.Model

/-!
# Drawing

A screen is a header row, a body between borders and a status row.  A list
is scrolled only as far as the selected row needs, which is marked and
coloured over its whole width.
-/

namespace ContainerBoard

namespace ScreenModel

/-- The header: the name of the program, the screen and hints. -/
def headerLine (m : ScreenModel) : Line where
  spans :=
    [{ text := " dockdeck ", style := { foreground := some Theme.header, isBold := true } },
     { text := "│ ", style := .colored Theme.dim },
     { text := m.view.title, style := .colored Theme.header }] ++
    (if m.view = .networks then
      [{ text := "  sort: " ++ m.sort.label, style := .colored Theme.dim }]
    else []) ++
    [{ text := "  ? help", style := .colored Theme.dim }]

/-- The colour of a status message. -/
def statusColor (status : String) : Color :=
  if "Error".toList.isPrefixOf status.toList then Theme.error else Theme.status

def headerRow (m : ScreenModel) (width : Nat) : CellRow :=
  .ofLine width m.headerLine

def statusRow (m : ScreenModel) (width : Nat) : CellRow :=
  match m.status with
  | none => .blank width
  | some status =>
    .ofLine width
      { spans := [{ text := " " ++ status, style := .colored (statusColor status) }] }

/-- A cell of the border. -/
def borderCell (symbol : Char) : Cell :=
  Cell.blank.draw [symbol] (.colored Theme.border)

/-- A row of the border between two corners; the left one stays if there is
room for one cell only. -/
def borderRow (left right : Char) : Nat → CellRow
  | 0 => []
  | 1 => [borderCell left]
  | width + 2 =>
    borderCell left :: (List.replicate width (borderCell '─') ++ [borderCell right])

/-- A row between the borders of the two sides. -/
def framedRow (width : Nat) (inner : CellRow) : CellRow :=
  match width with
  | 0 => []
  | 1 => [borderCell '│']
  | _ + 2 => borderCell '│' :: (inner ++ [borderCell '│'])

def selectionStyle : Style :=
  { background := some Theme.selection, isBold := true }

/-- The mark of the selected row, or the room for it. -/
def markRow (width : Nat) (isSelected : Bool) : CellRow :=
  ((if isSelected then [{ symbol := ['>'] }, .blank] else [.blank, .blank]) : CellRow).take
    width

/-- A row of a list with the mark in front. -/
def listRow (width : Nat) (isSelected : Bool) (line : Line) : CellRow :=
  let row := markRow width isSelected ++ CellRow.ofItem (width - 2) line
  if isSelected then CellRow.restyle row selectionStyle else row

/-- The selected row of a list. -/
def selectedRow (count : Nat) (cursor : Cursor) : Nat :=
  min cursor.selected (count - 1)

/-- The first row of a list that is drawn. -/
def firstRow (height selected : Nat) : Nat :=
  selected + 1 - height

/-- The rows of a list that are drawn. -/
def listRows (width height : Nat) (lines : List Line) (cursor : Cursor) : List CellRow :=
  let selected := selectedRow lines.length cursor
  let first := firstRow height selected
  ((lines.zipIdx.drop first).take height).map fun (line, place) =>
    listRow width (place == selected) line

/-- The rows of a text that are drawn. -/
def textRows (width height : Nat) (lines : List Line) : List CellRow :=
  (lines.take height).map (CellRow.ofLine width)

/-- The rows of the body inside the borders. -/
def innerRows (m : ScreenModel) (width height : Nat) (cursor : Cursor) : List CellRow :=
  let rows :=
    if m.body.isSelectable then listRows width height m.body.lines cursor
    else textRows width height m.body.lines
  rows ++ List.replicate (height - rows.length) (.blank width)

/-- The rows of the body with its borders. -/
def bodyRows (m : ScreenModel) (width : Nat) (cursor : Cursor) : Nat → List CellRow
  | 0 => []
  | 1 => [borderRow '┌' '┐' width]
  | height + 2 =>
    borderRow '┌' '┐' width ::
      ((m.innerRows (width - 2) height cursor).map (framedRow width) ++
        [borderRow '└' '┘' width])

/-- The rows of the screen.  The status row is the last to be left out when
the screen gets too low, and the header the next. -/
def draw (m : ScreenModel) (width height : Nat) (cursor : Cursor) : List CellRow :=
  match height with
  | 0 => []
  | 1 => [m.statusRow width]
  | height + 2 =>
    m.headerRow width :: (m.bodyRows width cursor height ++ [m.statusRow width])

/-- The rows of the screen as the terminal shows them. -/
def shown (m : ScreenModel) (width height : Nat) (cursor : Cursor) : List CellRow :=
  (m.draw width height cursor).map CellRow.shown

end ScreenModel

end ContainerBoard
