import ContainerBoard.Proofs.Screen.Cells
import ContainerBoard.Proofs.Screen.Plain
import ContainerBoard.Screen.Draw

/-!
# The highlighted row

A list that is not empty is drawn with one of its rows highlighted.  The cursor is clamped to
the list and the list is scrolled to it, so that this row always lies between the borders of
the body, however long the list is and wherever the cursor was.  On all other screens a cell
looks highlighted only if the text in it has this style of its own.
-/

namespace ContainerBoard

/-- The cell has the background and the weight of the selected row. -/
def Cell.IsHighlighted (cell : Cell) : Prop :=
  cell.style.background = some Theme.selection ∧ cell.style.isBold = true

/-- All cells between the first and the last one of the row are highlighted. -/
def CellRow.IsHighlighted (row : CellRow) : Prop :=
  ∃ left cells right, row = left :: (cells ++ [right]) ∧ cells ≠ [] ∧
    ∀ cell ∈ cells, cell.IsHighlighted

theorem Cell.not_isHighlighted_blank : ¬ Cell.blank.IsHighlighted :=
  fun h => nomatch h.1

theorem Cell.isHighlighted_restyle (cell : Cell) :
    (cell.restyle ScreenModel.selectionStyle).IsHighlighted :=
  ⟨rfl, Bool.or_true _⟩

/-- In a highlighted row, the highlight begins right of the first cell. -/
theorem CellRow.IsHighlighted.exists_second {row : CellRow} (h : row.IsHighlighted) :
    ∃ cell, row[1]? = some cell ∧ cell.IsHighlighted := by
  obtain ⟨left, cells, right, rfl, hsome, hcells⟩ := h
  obtain ⟨cell, rest, rfl⟩ := List.exists_cons_of_ne_nil hsome
  exact ⟨cell, rfl, hcells cell List.mem_cons_self⟩

namespace ScreenModel

/-! ## Rows without a highlight -/

theorem not_isHighlighted_borderCell (symbol : Char) : ¬ (borderCell symbol).IsHighlighted :=
  fun h => nomatch h.1

theorem eq_borderCell_of_mem_borderRow
    {left right : Char} {width : Nat} {cell : Cell} (h : cell ∈ borderRow left right width) :
    ∃ symbol, cell = borderCell symbol := by
  match width with
  | 0 => cases h
  | 1 => exact ⟨left, List.mem_singleton.mp h⟩
  | width + 2 =>
      simp only [borderRow, List.mem_cons, List.mem_append, List.mem_replicate,
        List.not_mem_nil, or_false] at h
      rcases h with h | ⟨-, h⟩ | h
      · exact ⟨left, h⟩
      · exact ⟨'─', h⟩
      · exact ⟨right, h⟩

theorem mem_framedRow
    {width : Nat} {inner : CellRow} {cell : Cell} (h : cell ∈ framedRow width inner) :
    cell = borderCell '│' ∨ cell ∈ inner := by
  match width with
  | 0 => cases h
  | 1 => exact .inl (List.mem_singleton.mp h)
  | width + 2 =>
      simp only [framedRow, List.mem_cons, List.mem_append, List.not_mem_nil, or_false] at h
      rcases h with h | h | h
      · exact .inl h
      · exact .inr h
      · exact .inl h

theorem not_isHighlighted_of_mem_ofLine
    {width : Nat} {line : Line} {cell : Cell}
    (hspans : ∀ span ∈ line.spans, (line.style.patch span.style).background = none)
    (h : cell ∈ CellRow.ofLine width line) : ¬ cell.IsHighlighted := by
  rcases CellRow.style_of_mem_ofLine h with rfl | ⟨span, hspan, hstyle⟩
  · exact Cell.not_isHighlighted_blank
  · intro hcell
    have hnone := hspans span hspan
    rw [← hstyle, hcell.1] at hnone
    cases hnone

theorem not_isHighlighted_of_mem_headerRow
    {m : ScreenModel} {width : Nat} {cell : Cell} (h : cell ∈ m.headerRow width) :
    ¬ cell.IsHighlighted := by
  refine not_isHighlighted_of_mem_ofLine (fun span hspan => ?_) h
  simp only [headerLine, List.mem_append, List.mem_cons, List.not_mem_nil, or_false] at hspan
  rcases hspan with ((rfl | rfl | rfl) | hsort) | rfl
  · rfl
  · rfl
  · rfl
  · split at hsort
    · rw [List.mem_singleton.mp hsort]
      rfl
    · cases hsort
  · rfl

theorem not_isHighlighted_of_mem_statusRow
    {m : ScreenModel} {width : Nat} {cell : Cell} (h : cell ∈ m.statusRow width) :
    ¬ cell.IsHighlighted := by
  rw [statusRow] at h
  split at h
  · rw [CellRow.eq_blank_of_mem_blank h]
    exact Cell.not_isHighlighted_blank
  · refine not_isHighlighted_of_mem_ofLine (fun span hspan => ?_) h
    rw [List.mem_singleton.mp hspan]
    rfl

/-! ## Rows of a list -/

theorem selectedRow_of_lt {count : Nat} {cursor : Cursor} (h : cursor.selected < count) :
    selectedRow count cursor = cursor.selected :=
  Nat.min_eq_left (Nat.le_sub_one_of_lt h)

theorem selectedRow_lt {count : Nat} (hcount : 0 < count) (cursor : Cursor) :
    selectedRow count cursor < count :=
  Nat.lt_of_le_of_lt (Nat.min_le_right _ _) (Nat.sub_lt hcount Nat.one_pos)

/-- Where the selected row stands among the rows that are drawn. -/
def selectedPlace (height count : Nat) (cursor : Cursor) : Nat :=
  selectedRow count cursor - firstRow height (selectedRow count cursor)

/-- A list is scrolled so far that the selected row is among those that are drawn. -/
theorem selectedPlace_lt {height : Nat} (hheight : 0 < height) (count : Nat) (cursor : Cursor) :
    selectedPlace height count cursor < height := by
  rw [selectedPlace, firstRow]
  omega

theorem firstRow_add_selectedPlace
    {height : Nat} (hheight : 0 < height) (count : Nat) (cursor : Cursor) :
    firstRow height (selectedRow count cursor) + selectedPlace height count cursor =
      selectedRow count cursor := by
  rw [selectedPlace, firstRow]
  omega

/-- The rows that are drawn are those of the list from the first one on. -/
theorem getElem?_listRows (width height : Nat) (lines : List Line) (cursor : Cursor)
    {place : Nat} (hplace : place < height) :
    let selected := selectedRow lines.length cursor
    let first := firstRow height selected
    (listRows width height lines cursor)[place]? =
      lines[first + place]?.map (listRow width (first + place == selected)) := by
  intro selected first
  simp only [listRows, List.getElem?_map, List.getElem?_take, if_pos hplace,
    List.getElem?_drop, List.getElem?_zipIdx, Option.map_map]
  cases lines[first + place]? <;> simp [selected, first, Function.comp]

/-- The selected row of a list is drawn, with its mark, wherever there is room for
a row. -/
theorem getElem?_listRows_selectedPlace
    (width : Nat) {height : Nat} (hheight : 0 < height) (lines : List Line)
    (cursor : Cursor) :
    (listRows width height lines cursor)[selectedPlace height lines.length cursor]? =
      lines[selectedRow lines.length cursor]?.map (listRow width true) := by
  have hplace := selectedPlace_lt hheight lines.length cursor
  refine (getElem?_listRows width height lines cursor hplace).trans ?_
  rw [firstRow_add_selectedPlace hheight, beq_self_eq_true]

theorem getElem?_listRows_selected (width : Nat) {height : Nat} {lines : List Line}
    {cursor : Cursor} (hheight : 0 < height) (hselected : cursor.selected < lines.length) :
    (listRows width height lines cursor)[cursor.selected -
        firstRow height cursor.selected]? =
      lines[cursor.selected]?.map (listRow width true) := by
  have hrow := getElem?_listRows_selectedPlace width hheight lines cursor
  rwa [selectedPlace, selectedRow_of_lt hselected] at hrow

theorem markRow_of_wide (width : Nat) (isSelected : Bool) :
    markRow (width + 2) isSelected =
      if isSelected then [{ symbol := ['>'] }, .blank] else [.blank, .blank] := by
  cases isSelected <;> simp [markRow]

/-- The selected row: the mark and the line, in the style of the selection. -/
theorem listRow_selected (width : Nat) (line : Line) :
    listRow (width + 2) true line =
      { symbol := ['>'], style := selectionStyle } ::
        { symbol := [' '], style := selectionStyle } ::
          CellRow.restyle (.ofItem width line) selectionStyle := by
  rw [listRow, markRow_of_wide]
  rfl

/-- All other rows begin with room for the mark. -/
theorem listRow_unselected (width : Nat) (line : Line) :
    listRow (width + 2) false line = .blank :: .blank :: CellRow.ofItem width line := by
  rw [listRow, markRow_of_wide]
  rfl

/-- The selected row between the borders: the mark, and the line behind it. -/
def markedRow (width : Nat) (line : Line) : CellRow :=
  borderCell '│' :: { symbol := ['>'], style := selectionStyle } ::
    { symbol := [' '], style := selectionStyle } ::
      (CellRow.restyle (.ofItem (width - 4) line) selectionStyle ++ [borderCell '│'])

theorem framedRow_listRow_selected (width : Nat) (line : Line) :
    framedRow (width + 4) (listRow (width + 2) true line) = markedRow (width + 4) line := by
  rw [listRow_selected]
  rfl

theorem length_markedRow (width : Nat) (line : Line) :
    (markedRow (width + 4) line).length = width + 4 := by
  simp [markedRow, CellRow.length_restyle, CellRow.length_ofItem]

theorem isHighlighted_markedRow (width : Nat) (line : Line) :
    CellRow.IsHighlighted (markedRow width line) := by
  let cells := CellRow.restyle (.ofItem (width - 4) line) selectionStyle
  refine ⟨borderCell '│', { symbol := ['>'], style := selectionStyle } ::
    { symbol := [' '], style := selectionStyle } :: cells, borderCell '│', rfl,
    List.cons_ne_nil _ _, ?_⟩
  intro cell hcell
  rcases List.mem_cons.mp hcell with rfl | hcell
  · exact ⟨rfl, rfl⟩
  · rcases List.mem_cons.mp hcell with rfl | hcell
    · exact ⟨rfl, rfl⟩
    · obtain ⟨inside, -, rfl⟩ := List.mem_map.mp hcell
      exact inside.isHighlighted_restyle

/-- Nothing hides the mark from the terminal. -/
theorem take_shown_markedRow (width : Nat) (line : Line) :
    (CellRow.shown (markedRow width line)).take 3 = (markedRow width line).take 3 := by
  have hborder : CellRow.covers (borderCell '│') = false := by decide +kernel
  have hmark : CellRow.covers { symbol := ['>'], style := selectionStyle } = false := by
    decide +kernel
  have hspace : CellRow.covers { symbol := [' '], style := selectionStyle } = false := by
    decide +kernel
  rw [CellRow.shown, markedRow, CellRow.shownAfter_false_cons hborder,
    CellRow.shownAfter_false_cons hmark, CellRow.shownAfter_false_cons hspace]
  rfl

/-! ## The rows of the screen -/

theorem length_listRows_le (width height : Nat) (lines : List Line) (cursor : Cursor) :
    (listRows width height lines cursor).length ≤ height := by
  rw [listRows, List.length_map]
  exact List.length_take_le _ _

/-- The rows of the body without the blank ones below them. -/
def filledRows (m : ScreenModel) (width height : Nat) (cursor : Cursor) : List CellRow :=
  if m.body.isSelectable then listRows width height m.body.lines cursor
  else textRows width height m.body.lines

theorem innerRows_eq (m : ScreenModel) (width height : Nat) (cursor : Cursor) :
    m.innerRows width height cursor =
      m.filledRows width height cursor ++
        List.replicate (height - (m.filledRows width height cursor).length) (.blank width) :=
  rfl

theorem length_innerRows (m : ScreenModel) (width height : Nat) (cursor : Cursor) :
    (m.innerRows width height cursor).length = height := by
  have hfilled : (m.filledRows width height cursor).length ≤ height := by
    rw [filledRows]
    split
    · exact length_listRows_le _ _ _ _
    · rw [textRows, List.length_map]
      exact List.length_take_le _ _
  rw [innerRows_eq, List.length_append, List.length_replicate, Nat.add_sub_cancel' hfilled]

/-- A row inside the borders is a row of the body, or blank. -/
theorem getElem?_innerRows
    {m : ScreenModel} {width height : Nat} {cursor : Cursor} {place : Nat} {row : CellRow}
    (h : (m.innerRows width height cursor)[place]? = some row) :
    (m.filledRows width height cursor)[place]? = some row ∨ row = .blank width := by
  rw [innerRows_eq, List.getElem?_append] at h
  split at h
  · exact .inl h
  · exact .inr (List.eq_of_mem_replicate (List.mem_of_getElem? h))

theorem draw_eq (m : ScreenModel) (width height : Nat) (cursor : Cursor) :
    m.draw width (height + 4) cursor =
      m.headerRow width :: borderRow '┌' '┐' width ::
        ((m.innerRows (width - 2) height cursor).map (framedRow width) ++
          [borderRow '└' '┘' width, m.statusRow width]) := by
  simp [draw, bodyRows]

theorem getElem?_draw_inside
    (m : ScreenModel) (width : Nat) {height : Nat} (cursor : Cursor) {place : Nat}
    (hplace : place < height) :
    (m.draw width (height + 4) cursor)[place + 2]? =
      (m.innerRows (width - 2) height cursor)[place]?.map (framedRow width) := by
  have hlength : place < ((m.innerRows (width - 2) height cursor).map (framedRow width)).length := by
    rwa [List.length_map, length_innerRows]
  rw [draw_eq, List.getElem?_cons_succ, List.getElem?_cons_succ,
    List.getElem?_append_left hlength, List.getElem?_map]

theorem getElem?_draw_bottom (m : ScreenModel) (width height : Nat) (cursor : Cursor) :
    (m.draw width (height + 4) cursor)[height + 2]? = some (borderRow '└' '┘' width) := by
  have hlength : ((m.innerRows (width - 2) height cursor).map (framedRow width)).length =
      height := by
    rw [List.length_map, length_innerRows]
  rw [draw_eq, List.getElem?_cons_succ, List.getElem?_cons_succ,
    List.getElem?_append_right (Nat.le_of_eq hlength), hlength, Nat.sub_self]
  rfl

/-- A row of the screen is the header, the status row, a border, or inside the borders. -/
theorem getElem?_draw_cases
    {m : ScreenModel} {width height : Nat} {cursor : Cursor} {y : Nat} {row : CellRow}
    (h : (m.draw width (height + 4) cursor)[y]? = some row) :
    row ∈ [m.headerRow width, borderRow '┌' '┐' width, borderRow '└' '┘' width,
        m.statusRow width] ∨
      ∃ place inner, y = place + 2 ∧ place < height ∧
        (m.innerRows (width - 2) height cursor)[place]? = some inner ∧
        row = framedRow width inner := by
  rw [draw_eq] at h
  match y with
  | 0 =>
      cases h
      exact .inl List.mem_cons_self
  | 1 =>
      cases h
      exact .inl (List.mem_cons_of_mem _ List.mem_cons_self)
  | place + 2 =>
      rw [List.getElem?_cons_succ, List.getElem?_cons_succ, List.getElem?_append] at h
      rw [List.length_map, length_innerRows] at h
      split at h
      · rename_i hplace
        rw [List.getElem?_map] at h
        obtain ⟨inner, hinner, rfl⟩ := Option.map_eq_some_iff.mp h
        exact .inr ⟨place, inner, rfl, hplace, hinner, rfl⟩
      · have hlast := List.mem_of_getElem? h
        exact .inl (List.mem_cons_of_mem _ (List.mem_cons_of_mem _ hlast))

/-- Nothing but the body can be highlighted. -/
theorem not_isHighlighted_of_mem_frame
    {m : ScreenModel} {width : Nat} {row : CellRow} {cell : Cell}
    (hrow : row ∈ [m.headerRow width, borderRow '┌' '┐' width, borderRow '└' '┘' width,
      m.statusRow width]) (hcell : cell ∈ row) : ¬ cell.IsHighlighted := by
  have hborder {left right : Char} (h : cell ∈ borderRow left right width) :
      ¬ cell.IsHighlighted := by
    obtain ⟨symbol, rfl⟩ := eq_borderCell_of_mem_borderRow h
    exact not_isHighlighted_borderCell symbol
  simp only [List.mem_cons, List.not_mem_nil, or_false] at hrow
  rcases hrow with rfl | rfl | rfl | rfl
  · exact not_isHighlighted_of_mem_headerRow hcell
  · exact hborder hcell
  · exact hborder hcell
  · exact not_isHighlighted_of_mem_statusRow hcell

/-! ## Screens with a list -/

section List

variable {m : ScreenModel} {width height : Nat} {cursor : Cursor}

theorem getElem?_draw_selected
    (hselectable : m.body.isSelectable = true) (hheight : 0 < height) {line : Line}
    (hline : m.body.lines[selectedRow m.body.lines.length cursor]? = some line) :
    (m.draw (width + 4) (height + 4) cursor)[selectedPlace height m.body.lines.length cursor +
        2]? = some (markedRow (width + 4) line) := by
  have hdrawn := getElem?_listRows_selectedPlace (width + 2) hheight m.body.lines cursor
  rw [hline, Option.map_some] at hdrawn
  have hinner : (m.innerRows (width + 2) height cursor)[selectedPlace height
      m.body.lines.length cursor]? = some (listRow (width + 2) true line) := by
    obtain ⟨hlength, -⟩ := List.getElem?_eq_some_iff.mp hdrawn
    rw [innerRows_eq, filledRows, if_pos hselectable, List.getElem?_append_left hlength]
    exact hdrawn
  rw [getElem?_draw_inside m (width + 4) cursor (selectedPlace_lt hheight _ _),
    show width + 4 - 2 = width + 2 from rfl, hinner, Option.map_some,
    framedRow_listRow_selected]

/-- Only the selected row has a highlight next to the left border. -/
theorem eq_of_isHighlighted_second
    (hselectable : m.body.isSelectable = true) (hheight : 0 < height) {y : Nat}
    {row : CellRow} {cell : Cell}
    (hrow : (m.draw (width + 4) (height + 4) cursor)[y]? = some row)
    (hcell : row[1]? = some cell) (hlight : cell.IsHighlighted) :
    y = selectedPlace height m.body.lines.length cursor + 2 := by
  rcases getElem?_draw_cases hrow with hframe | ⟨place, inner, rfl, hplace, hinner, rfl⟩
  · exact absurd hlight (not_isHighlighted_of_mem_frame hframe (List.mem_of_getElem? hcell))
  · rcases getElem?_innerRows hinner with hfilled | rfl
    · rw [filledRows, if_pos hselectable, getElem?_listRows _ _ _ _ hplace] at hfilled
      obtain ⟨line, -, rfl⟩ := Option.map_eq_some_iff.mp hfilled
      have hselected := firstRow_add_selectedPlace hheight m.body.lines.length cursor
      cases hsame : firstRow height (selectedRow m.body.lines.length cursor) + place ==
          selectedRow m.body.lines.length cursor with
      | true =>
          have hsum := eq_of_beq hsame
          omega
      | false =>
          rw [hsame, show width + 4 - 2 = width + 2 from rfl, listRow_unselected] at hcell
          cases hcell
          exact absurd hlight Cell.not_isHighlighted_blank
    · cases hcell
      exact absurd hlight Cell.not_isHighlighted_blank

end List

/-! ## Screens without a list -/

section NoList

variable {m : ScreenModel} {width height : Nat}

theorem filledRows_of_noList
    (h : m.body.isSelectable = false ∨ m.body.lines = []) (width height : Nat)
    (cursor : Cursor) :
    m.filledRows width height cursor = textRows width height m.body.lines := by
  rw [filledRows]
  rcases h with htext | hempty
  · rw [htext]
    rfl
  · rw [hempty]
    split <;> simp [listRows, textRows]

/-- Without a list to select from, the cursor is not seen. -/
theorem draw_of_noList
    (h : m.body.isSelectable = false ∨ m.body.lines = []) (cursor cursor' : Cursor) :
    m.draw width (height + 4) cursor' = m.draw width (height + 4) cursor := by
  simp only [draw_eq, innerRows_eq, filledRows_of_noList h]

/-- Without a list to select from, a cell that looks highlighted has its style from the
text. -/
theorem style_of_isHighlighted
    (h : m.body.isSelectable = false ∨ m.body.lines = []) {cursor : Cursor} {row : CellRow}
    {cell : Cell} (hrow : row ∈ m.draw width (height + 4) cursor) (hcell : cell ∈ row)
    (hlight : cell.IsHighlighted) :
    ∃ line ∈ m.body.lines, ∃ span ∈ line.spans, cell.style = line.style.patch span.style := by
  obtain ⟨y, hy⟩ := List.mem_iff_getElem?.mp hrow
  rcases getElem?_draw_cases hy with hframe | ⟨place, inner, -, -, hinner, rfl⟩
  · exact absurd hlight (not_isHighlighted_of_mem_frame hframe hcell)
  · rcases mem_framedRow hcell with rfl | hinside
    · exact absurd hlight (not_isHighlighted_borderCell '│')
    · rcases getElem?_innerRows hinner with hfilled | rfl
      · rw [filledRows_of_noList h] at hfilled
        obtain ⟨line, hline, rfl⟩ := List.mem_map.mp (List.mem_of_getElem? hfilled)
        rcases CellRow.style_of_mem_ofLine hinside with rfl | hspan
        · exact absurd hlight Cell.not_isHighlighted_blank
        · exact ⟨line, List.mem_of_mem_take hline, hspan⟩
      · rw [CellRow.eq_blank_of_mem_blank hinside] at hlight
        exact absurd hlight Cell.not_isHighlighted_blank

/-- Without a list to select from, nothing looks highlighted if the text has no background. -/
theorem not_isHighlighted_of_noList
    (h : m.body.isSelectable = false ∨ m.body.lines = []) (hplain : m.body.IsPlain)
    {cursor : Cursor} {row : CellRow} {cell : Cell}
    (hrow : row ∈ m.draw width (height + 4) cursor) (hcell : cell ∈ row) :
    ¬ cell.IsHighlighted := by
  intro hlight
  obtain ⟨line, hline, span, hspan, hstyle⟩ := style_of_isHighlighted h hrow hcell hlight
  have hnone := (hplain line hline).background_patch hspan
  rw [← hstyle, hlight.1] at hnone
  cases hnone

end NoList

/-! ## The main result -/

/-- Which row of a screen is highlighted.

* On a list that is not empty it is the row of the selected line, or of the last one if the
  cursor is beyond it.  The row lies inside the borders, is highlighted as a whole, and shows
  the mark with the line behind it.  No other row is highlighted, and the terminal shows a
  highlight next to the left border in this row alone.
* On all other screens the cursor is not seen, and a cell looks highlighted only where the
  text is written in that style, which the dashboard does nowhere. -/
theorem selected_line_highlighted
    {width height : Nat} (hwidth : 4 ≤ width) (hheight : 5 ≤ height) (m : ScreenModel)
    (cursor : Cursor) :
    let screen := m.draw width height cursor
    let shown := m.shown width height cursor
    let lines := m.body.lines
    (m.body.isSelectable = true → lines ≠ [] → ∃ line y,
        lines[min cursor.selected (lines.length - 1)]? = some line ∧
          screen[y]? = some (markedRow width line) ∧
          (markedRow width line).length = width ∧
          CellRow.IsHighlighted (markedRow width line) ∧
          (screen[1]? = some (borderRow '┌' '┐' width) ∧ 1 < y ∧ y < height - 2 ∧
            screen[height - 2]? = some (borderRow '└' '┘' width)) ∧
          (∀ (other : Nat) (row : CellRow),
            screen[other]? = some row → CellRow.IsHighlighted row → other = y) ∧
          (∃ row, shown[y]? = some row ∧ row.take 3 = (markedRow width line).take 3) ∧
          ∀ (other : Nat) (row : CellRow) (cell : Cell),
            shown[other]? = some row → row[1]? = some cell → cell.IsHighlighted →
              other = y) ∧
      (m.body.isSelectable = false ∨ lines = [] →
        (∀ cursor', m.draw width height cursor' = screen) ∧
          (∀ row ∈ screen, ∀ cell ∈ row, cell.IsHighlighted →
            ∃ line ∈ lines, ∃ span ∈ line.spans, cell.style = line.style.patch span.style) ∧
          ∀ (ρ : Type) (b : Dashboard ρ) (status : Option String), m = (b.screen status).1 →
            ∀ row ∈ screen, ∀ cell ∈ row, ¬ cell.IsHighlighted) := by
  obtain ⟨width, rfl⟩ := Nat.exists_eq_add_of_le' hwidth
  obtain ⟨height, rfl⟩ := Nat.exists_eq_add_of_le' hheight
  intro screen shown lines
  constructor
  · intro hselectable hlines
    let y := selectedPlace (height + 1) lines.length cursor + 2
    have hselected : selectedRow lines.length cursor < lines.length :=
      selectedRow_lt (List.length_pos_iff.mpr hlines) cursor
    have hline : lines[selectedRow lines.length cursor]? =
        some lines[selectedRow lines.length cursor] := List.getElem?_eq_getElem hselected
    have hrow : screen[y]? =
        some (markedRow (width + 4) lines[selectedRow lines.length cursor]) :=
      getElem?_draw_selected hselectable (Nat.succ_pos height) hline
    have honly (other : Nat) (row : CellRow) (cell : Cell) (hother : screen[other]? = some row)
        (hcell : row[1]? = some cell) (hlight : cell.IsHighlighted) : other = y :=
      eq_of_isHighlighted_second hselectable (Nat.succ_pos height) hother hcell hlight
    refine ⟨_, y, hline, hrow, length_markedRow _ _, isHighlighted_markedRow _ _,
      ⟨?_, ?_, ?_, ?_⟩, ?_, ?_, ?_⟩
    · rfl
    · exact Nat.lt_add_left _ Nat.one_lt_two
    · exact Nat.add_lt_add_right (selectedPlace_lt (Nat.succ_pos height) _ _) 2
    · exact getElem?_draw_bottom m (width + 4) (height + 1) cursor
    · intro other row hother hlight
      obtain ⟨cell, hcell, hcell_light⟩ := hlight.exists_second
      exact honly other row cell hother hcell hcell_light
    · have hshown : shown[y]? = screen[y]?.map CellRow.shown := List.getElem?_map
      rw [hrow, Option.map_some] at hshown
      exact ⟨_, hshown, take_shown_markedRow _ _⟩
    · intro other row cell hother hcell hlight
      have hshown : shown[other]? = screen[other]?.map CellRow.shown := List.getElem?_map
      rw [hshown] at hother
      obtain ⟨drawn, hdrawn, rfl⟩ := Option.map_eq_some_iff.mp hother
      rcases CellRow.getElem?_shownAfter hcell with rfl | hcell
      · exact absurd hlight Cell.not_isHighlighted_blank
      · exact honly other drawn cell hdrawn hcell hlight
  · intro hnone
    refine ⟨fun cursor' => draw_of_noList hnone cursor cursor', ?_, ?_⟩
    · intro row hrow cell hcell hlight
      exact style_of_isHighlighted hnone hrow hcell hlight
    · rintro ρ b status rfl row hrow cell hcell
      exact not_isHighlighted_of_noList hnone b.isPlain_body hrow hcell

/-- Far below three lines, two of which fit on the screen, the cursor is on the last one.  Of
the same lines as a text, nothing is highlighted. -/
theorem last_of_three_lines_highlighted :
    let lines : List Line :=
      [{ spans := [{ text := "web" }] }, { spans := [{ text := "db" }] },
       { spans := [{ text := "cache" }] }]
    let m : ScreenModel := { view := .services, sort := .byId, body := .list lines }
    let cursor : Cursor := { selected := 99, rows := 3 }
    (4 ≤ 12 ∧ 5 ≤ 6) ∧
      (m.body.isSelectable = true ∧ lines ≠ [] ∧ ∃ y : Nat, 1 < y ∧ y < 6 - 2 ∧
        (m.draw 12 6 cursor)[y]? = some (markedRow 12 { spans := [{ text := "cache" }] }) ∧
        ∀ (other : Nat) (row : CellRow), (m.draw 12 6 cursor)[other]? = some row →
          CellRow.IsHighlighted row → other = y) ∧
      ∀ row ∈ draw { m with body := .text lines } 12 6 cursor, ∀ cell ∈ row,
        ¬ cell.IsHighlighted := by
  intro lines m cursor
  have hwidth : 4 ≤ 12 := by decide
  have hheight : 5 ≤ 6 := by decide
  have hlines : lines ≠ [] := List.cons_ne_nil _ _
  have hplain : ∀ line ∈ lines, ∀ span ∈ line.spans,
      (line.style.patch span.style).background = none := by decide
  refine ⟨⟨hwidth, hheight⟩, ⟨rfl, hlines, ?_⟩, ?_⟩
  · obtain ⟨hlist, -⟩ := selected_line_highlighted hwidth hheight m cursor
    obtain ⟨line, y, hline, hrow, -, -, ⟨-, htop, hbottom, -⟩, honly, -, -⟩ := hlist rfl hlines
    cases hline
    exact ⟨y, htop, hbottom, hrow, honly⟩
  · intro row hrow cell hcell hlight
    obtain ⟨-, htext⟩ :=
      selected_line_highlighted hwidth hheight { m with body := .text lines } cursor
    obtain ⟨-, hstyle, -⟩ := htext (.inl rfl)
    obtain ⟨line, hline, span, hspan, heq⟩ := hstyle row hrow cell hcell hlight
    have hnone := hplain line hline span hspan
    rw [← heq, hlight.1] at hnone
    cases hnone

end ScreenModel

end ContainerBoard
