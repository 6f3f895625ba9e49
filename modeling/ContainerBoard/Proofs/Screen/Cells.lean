import ContainerBoard.Screen.Cells

/-!
# Rows of cells

A row of a list has the width that it is laid out for, whatever its text is.  The style of a
cell comes from the text in it, and a cell without text is blank.  What the terminal shows of
a row differs from it only where a wide cluster hides a cell.
-/

namespace ContainerBoard

theorem Cell.style_draw_blank (symbol : List Char) (style : Style) :
    (Cell.blank.draw symbol style).style = style := by
  simp [Cell.draw, Cell.blank, Style.patch]

/-- The clusters of a line have the style of their piece over that of the line. -/
theorem Line.style_of_mem_glyphs {line : Line} {glyph : Glyph} (h : glyph ∈ line.glyphs) :
    ∃ span ∈ line.spans, glyph.style = line.style.patch span.style := by
  obtain ⟨span, hspan, hglyph⟩ := List.mem_flatMap.mp h
  obtain ⟨cluster, -, rfl⟩ := List.mem_map.mp hglyph
  exact ⟨span, hspan, rfl⟩

namespace CellRow

/-! ## Rows of text -/

theorem eq_blank_of_mem_blank {width : Nat} {cell : Cell} (h : cell ∈ blank width) :
    cell = .blank :=
  List.eq_of_mem_replicate h

theorem style_of_mem_layOut
    {width room : Nat} {glyphs : List Glyph} {cell : Cell}
    (h : cell ∈ layOut width room glyphs) :
    cell = .blank ∨ ∃ glyph ∈ glyphs, cell.style = glyph.style := by
  induction glyphs generalizing room with
  | nil => exact .inl (eq_blank_of_mem_blank h)
  | cons glyph rest ih =>
      have hlater {room : Nat} (h : cell ∈ layOut width room rest) :
          cell = .blank ∨ ∃ later ∈ glyph :: rest, cell.style = later.style := by
        refine (ih h).imp_right ?_
        rintro ⟨later, hmem, hstyle⟩
        exact ⟨later, List.mem_cons_of_mem glyph hmem, hstyle⟩
      simp only [layOut] at h
      split at h
      · exact hlater h
      · split at h
        · exact .inl (eq_blank_of_mem_blank h)
        · rcases List.mem_append.mp h with h | h
          · rcases List.mem_cons.mp h with rfl | h
            · exact .inr ⟨glyph, List.mem_cons_self, Cell.style_draw_blank _ _⟩
            · exact .inl (eq_blank_of_mem_blank h)
          · exact hlater h

/-- A cell of a row of text has the style of a piece of the text, or is blank. -/
theorem style_of_mem_ofLine
    {width : Nat} {line : Line} {cell : Cell} (h : cell ∈ ofLine width line) :
    cell = .blank ∨ ∃ span ∈ line.spans, cell.style = line.style.patch span.style := by
  refine (style_of_mem_layOut h).imp_right ?_
  rintro ⟨glyph, hglyph, hstyle⟩
  obtain ⟨span, hspan, hglyph_style⟩ := Line.style_of_mem_glyphs hglyph
  exact ⟨span, hspan, hstyle.trans hglyph_style⟩

/-! ## Rows of a list -/

theorem length_clear (row : CellRow) (place count : Nat) :
    (clear row place count).length = row.length := by
  induction count generalizing row place with
  | zero => rfl
  | succ count ih => rw [clear, ih, List.length_modify]

theorem length_putGlyphs
    (right start : Nat) (isFirst : Bool) (x : Nat) (glyphs : List Glyph) (row : CellRow) :
    (putGlyphs right start isFirst x glyphs row).length = row.length := by
  induction glyphs generalizing isFirst x row with
  | nil => rfl
  | cons glyph rest ih =>
      simp only [putGlyphs]
      split
      · rfl
      · rw [ih, length_clear]
        repeat' split
        all_goals exact List.length_modify _ _ _

theorem length_putSpans (right start : Nat) (spans : List Span) (row : CellRow) :
    (putSpans right start spans row).length = row.length := by
  induction spans generalizing start row with
  | nil => rfl
  | cons span rest ih =>
      rw [putSpans]
      split
      · exact ih start row
      · split
        · rfl
        · rw [ih, length_putGlyphs]

theorem length_restyle (row : CellRow) (style : Style) :
    (restyle row style).length = row.length :=
  List.length_map _

/-- A row of a list fills its width exactly. -/
theorem length_ofItem (width : Nat) (line : Line) : (ofItem width line).length = width := by
  rw [ofItem]
  split
  · exact List.length_replicate
  · rw [length_putSpans, length_restyle]
    exact List.length_replicate

/-! ## What the terminal shows -/

theorem shownAfter_false_cons {cell : Cell} (h : covers cell = false) (rest : CellRow) :
    shownAfter false (cell :: rest) = cell :: shownAfter false rest := by
  rw [shownAfter, h]
  rfl

/-- What the terminal shows in a place is what the row has there, unless it is hidden. -/
theorem getElem?_shownAfter
    {isCovered : Bool} {row : CellRow} {x : Nat} {cell : Cell}
    (h : (shownAfter isCovered row)[x]? = some cell) : cell = .blank ∨ row[x]? = some cell := by
  induction row generalizing isCovered x with
  | nil => cases h
  | cons first rest ih =>
      cases x with
      | zero =>
          rw [shownAfter, List.getElem?_cons_zero, Option.some.injEq] at h
          cases isCovered with
          | true => exact .inl h.symm
          | false => exact .inr (congrArg some h)
      | succ x => exact ih h

end CellRow

end ContainerBoard
