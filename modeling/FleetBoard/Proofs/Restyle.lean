import FleetBoard.Screen

/-!
# Text and Looks

The looks of the roles are there from the start: every glyph has one, and lines are
cut, broken, scrolled and painted with it. So it has to be seen that no step looks at
it. `restyle` puts other looks on what is drawn, and each step is shown to do the same
before and after: it is guided by symbols and columns alone. The breaking of lines is
the step with a state of its own, and there the row that is being filled is restyled
with the glyphs that are still to come.

A screen is therefore the screen of the roles with the looks put on last, whatever the
looks are. The marks of statuses are the one text that a theme gives, and all themes give
the same ones. Two themes then show the same text in every cell, since both are restylings
of one screen, and no cell of the plain theme has a colour, since no role has one.

## Main definitions

* `Glyph.restyle`, `Cell.restyle`, `Pending.restyle`, `Looks.restyle`: The same text with
  other looks.
* `restyleAll`: A part of the screen with other looks.
* `cellTexts`: The text of every cell.
* `StyledCell.isColorless`: A cell in the colours of the terminal.

## Theorems

* `wrap_restyle`, `clip_restyle`: Lines are fitted to a width whatever their looks.
* `draw_restyle`: The screen with other looks.
* `cellTexts_draw`: The text of a screen depends on the marks alone.
* `theme_keeps_text`: Plain and dark screens have the same text, and plain ones no
  colours.
-/

namespace FleetBoard

namespace Screen

variable {α β : Type} (f : α → β)

/-- The glyph with another look. -/
def Glyph.restyle (g : Glyph α) : Glyph β :=
  ⟨g.symbol, g.columns, f g.look⟩

/-- The cell with another look. -/
def Cell.restyle (c : Cell α) : Cell β :=
  ⟨c.symbol, f c.look⟩

section Fitting

variable (width : Nat) (gs : List (Glyph α))

@[simp] theorem isBlank_restyle (g : Glyph α) : (g.restyle f).isBlank = g.isBlank :=
  rfl

@[simp] theorem glyph_columns_restyle (g : Glyph α) : (g.restyle f).columns = g.columns :=
  rfl

@[simp] theorem columns_restyle : columns (gs.map (Glyph.restyle f)) = columns gs := by
  induction gs with
  | nil => rfl
  | cons g rest ih =>
      rw [columns, columns] at ih
      rw [columns, columns, List.map_cons, List.foldr_cons, List.foldr_cons, ih]
      rfl

theorem clipFrom_restyle (room : Nat) :
    clipFrom room (gs.map (Glyph.restyle f)) = (clipFrom room gs).map (Glyph.restyle f) := by
  induction gs generalizing room with
  | nil => rfl
  | cons g rest ih =>
      rw [List.map_cons, clipFrom, clipFrom, glyph_columns_restyle]
      split
      · rw [ih, List.map_cons]
      · rfl

theorem clip_restyle :
    clip width (gs.map (Glyph.restyle f)) = (clip width gs).map (Glyph.restyle f) := by
  rw [clip, clip, List.filter_map, clipFrom_restyle]
  rfl

namespace Pending

/-- The row that is being filled, with other looks. -/
def restyle (p : Pending α) : Pending β where
  row := p.row.map (Glyph.restyle f)
  blanks := p.blanks.map (Glyph.restyle f)
  word := p.word.map (Glyph.restyle f)
  inWord := p.inWord

variable (p : Pending α) (g : Glyph α)

theorem taken_restyle : (p.restyle f).taken = p.taken := by
  simp only [taken, restyle, columns_restyle]

theorem settle_restyle :
    (p.restyle f).settle width (g.restyle f) = (p.settle width g).restyle f := by
  simp only [settle, restyle, isBlank_restyle, glyph_columns_restyle, columns_restyle,
    List.isEmpty_map]
  split
  · simp only [List.map_append, List.map_nil]
  · rfl

theorem isFinished_restyle :
    (p.restyle f).isFinished width (g.restyle f) = p.isFinished width g := by
  have hrow : columns (p.restyle f).row = columns p.row := columns_restyle f p.row
  rw [isFinished, isFinished, taken_restyle, hrow]
  rfl

theorem dropBlanks_restyle (room : Nat) :
    dropBlanks room (gs.map (Glyph.restyle f)) = (dropBlanks room gs).map (Glyph.restyle f) := by
  induction gs generalizing room with
  | nil => rfl
  | cons g rest ih =>
      rw [List.map_cons, dropBlanks, dropBlanks, glyph_columns_restyle]
      split
      · rw [ih]
      · rfl

theorem nextRow_restyle : (p.restyle f).nextRow width = (p.nextRow width).restyle f := by
  simp only [nextRow, restyle, columns_restyle, dropBlanks_restyle, List.map_nil]

theorem add_restyle : (p.restyle f).add (g.restyle f) = (p.add g).restyle f := by
  rw [add, add, isBlank_restyle]
  split
  · simp only [restyle, List.map_append, List.map_cons, List.map_nil]
  · simp only [restyle, List.map_append, List.map_cons, List.map_nil]

theorem flush_restyle :
    (p.restyle f).flush = p.flush.map (List.map (Glyph.restyle f)) := by
  -- Whether anything is pending does not depend on its looks.
  simp only [flush, restyle, List.isEmpty_map, ← List.map_append]
  split <;> split <;> simp

end Pending

/-- Lines are broken at the same glyphs, whatever their looks. -/
theorem wrapFrom_restyle (p : Pending α) :
    wrapFrom width (p.restyle f) (gs.map (Glyph.restyle f)) =
      (wrapFrom width p gs).map (List.map (Glyph.restyle f)) := by
  -- On the glyphs, for any pending row: what a glyph leaves pending is what the rest
  -- begins with.
  induction gs generalizing p with
  | nil => exact p.flush_restyle f
  | cons g rest ih =>
      rw [List.map_cons, wrapFrom, wrapFrom, glyph_columns_restyle]
      by_cases hwide : width < g.columns
      · rw [if_pos hwide, if_pos hwide, ih]
      · rw [if_neg hwide, if_neg hwide]
        dsimp only
        -- What is settled and whether a row is finished are asked of symbols and columns.
        rw [Pending.settle_restyle, Pending.isFinished_restyle, Pending.nextRow_restyle]
        generalize p.settle width g = settled
        have hblanks : ((settled.nextRow width).restyle f).blanks.isEmpty =
            (settled.nextRow width).blanks.isEmpty := List.isEmpty_map
        rw [isBlank_restyle, hblanks, Pending.add_restyle, Pending.add_restyle, ih, ih, ih]
        split
        · split
          · rfl
          · rfl
        · rfl

theorem wrap_restyle :
    wrap width (gs.map (Glyph.restyle f)) =
      (wrap width gs).map (List.map (Glyph.restyle f)) := by
  have hrows := wrapFrom_restyle f width gs {}
  rw [wrap, wrap]
  change wrapFrom width {} (gs.map (Glyph.restyle f)) = _ at hrows
  rw [hrows]
  cases wrapFrom width {} gs with
  | nil => rfl
  | cons row rows => rfl

end Fitting

/-- A part of the screen with other looks. -/
def restyleAll (rows : List (Row α)) : List (Row β) :=
  rows.map fun row => row.map (Cell.restyle f)

section Painting

variable (look : Role → α) (width height : Nat)

theorem glyphs_restyle (l : Line) :
    (l.glyphs look).map (Glyph.restyle f) = l.glyphs (f ∘ look) := by
  have hspan : ∀ s : Span, (s.glyphs look).map (Glyph.restyle f) = s.glyphs (f ∘ look) := by
    intro s
    rw [Span.glyphs, Span.glyphs, List.map_map]
    rfl
  rw [Line.glyphs, Line.glyphs, List.map_flatMap]
  simp only [hspan]

theorem cells_restyle (g : Glyph α) :
    (g.cells look).map (Cell.restyle f) = (g.restyle f).cells (f ∘ look) := by
  rw [Glyph.cells, Glyph.cells, glyph_columns_restyle]
  cases g.columns with
  | zero => rfl
  | succ n =>
      dsimp only
      rw [List.map_cons, List.map_replicate]
      rfl

theorem flatMap_cells_restyle (gs : List (Glyph α)) :
    (gs.flatMap (Glyph.cells look)).map (Cell.restyle f) =
      (gs.map (Glyph.restyle f)).flatMap (Glyph.cells (f ∘ look)) := by
  rw [List.map_flatMap, List.flatMap_map]
  simp only [cells_restyle]

theorem fillTo_map {γ δ : Type} (h : γ → δ) (n : Nat) (filler : γ) (items : List γ) :
    (fillTo n filler items).map h = fillTo n (h filler) (items.map h) := by
  rw [fillTo, fillTo, List.map_append, List.map_take, List.map_replicate, List.length_map]

theorem paintRow_restyle (gs : List (Glyph α)) :
    (paintRow look width gs).map (Cell.restyle f) =
      paintRow (f ∘ look) width (gs.map (Glyph.restyle f)) := by
  rw [paintRow, paintRow, fillTo_map, flatMap_cells_restyle]
  rfl

theorem area_restyle (rows : List (List (Glyph α))) :
    restyleAll f (area look width height rows) =
      area (f ∘ look) width height (rows.map (List.map (Glyph.restyle f))) := by
  rw [restyleAll, area, area, fillTo_map, paintRow_restyle, List.map_map, List.map_map]
  simp only [Function.comp_def, paintRow_restyle, List.map_nil]

theorem clipped_restyle (lines : List Line) :
    restyleAll f (clipped look width height lines) = clipped (f ∘ look) width height lines := by
  rw [clipped, clipped, area_restyle, List.map_map]
  refine congrArg (area (f ∘ look) width height) (List.map_congr_left fun l _ => ?_)
  rw [Function.comp_apply, ← clip_restyle, glyphs_restyle]

theorem wrapAll_restyle (lines : List Line) :
    (wrapAll look width lines).map (List.map (Glyph.restyle f)) =
      wrapAll (f ∘ look) width lines := by
  rw [wrapAll, wrapAll, List.map_flatMap]
  simp only [← wrap_restyle, glyphs_restyle]

theorem wrapped_restyle (scroll : Nat) (lines : List Line) :
    restyleAll f (wrapped look width height scroll lines) =
      wrapped (f ∘ look) width height scroll lines := by
  rw [wrapped, wrapped, area_restyle, List.map_drop, wrapAll_restyle]

theorem restyleAll_append (above below : List (Row α)) :
    restyleAll f (above ++ below) = restyleAll f above ++ restyleAll f below :=
  List.map_append

theorem enclosed_map {γ δ : Type} (h : γ → δ) (room : Nat) (first last : γ) (items : List γ) :
    (enclosed room first items last).map h = enclosed room (h first) (items.map h) (h last) := by
  simp only [enclosed, List.map_take, List.map_append, List.map_cons, List.map_nil]

theorem frameTop_restyle :
    (frameTop look width).map (Cell.restyle f) = frameTop (f ∘ look) width := by
  rw [frameTop, frameTop, enclosed_map, fillTo_map, ← glyphs_restyle f look, clip_restyle,
    ← flatMap_cells_restyle]
  rfl

theorem frameBottom_restyle :
    (frameBottom look width).map (Cell.restyle f) = frameBottom (f ∘ look) width := by
  rw [frameBottom, frameBottom, enclosed_map, List.map_replicate]
  rfl

theorem frameRow_restyle (row : Row α) :
    (frameRow look width row).map (Cell.restyle f) =
      frameRow (f ∘ look) width (row.map (Cell.restyle f)) := by
  rw [frameRow, frameRow, enclosed_map]
  rfl

theorem drawHelp_restyle :
    restyleAll f (drawHelp look width height) = drawHelp (f ∘ look) width height := by
  -- The rows inside the frame are a wrapped area with an edge on both sides.
  rw [drawHelp, drawHelp, ← wrapped_restyle, ← frameTop_restyle, ← frameBottom_restyle, restyleAll,
    restyleAll, enclosed_map, List.map_map, List.map_map]
  simp only [Function.comp_def, frameRow_restyle]

section Pages

theorem Fitting.draw_restyle (fitting : Fitting) (lines : List Line) :
    restyleAll f (fitting.draw look width height lines) =
      fitting.draw (f ∘ look) width height lines := by
  cases fitting with
  | clipped => exact clipped_restyle f look width height lines
  | wrapped scroll => exact wrapped_restyle f look width height scroll lines

theorem drawParts_restyle (below : List Part) (heights : List Nat) :
    restyleAll f (drawParts look width below heights) =
      drawParts (f ∘ look) width below heights := by
  induction below generalizing heights with
  | nil => rfl
  | cons p below ih =>
      cases heights with
      | nil => rfl
      | cons rows heights =>
          rw [drawParts, drawParts, restyleAll_append, Fitting.draw_restyle, ih]

theorem Sheet.draw_restyle (layout : Layout) (s : Sheet) :
    restyleAll f (s.draw look layout width height) = s.draw (f ∘ look) layout width height := by
  rw [Sheet.draw, Sheet.draw, restyleAll_append, restyleAll_append, clipped_restyle,
    Fitting.draw_restyle, drawParts_restyle]

variable (looks : Looks α) (layout : Layout) (b : Board)

/-- Other looks with the same marks of statuses. -/
def Looks.restyle : Looks β where
  look := f ∘ looks.look
  icon := looks.icon

/-- The screen with other looks is the screen that is drawn with them. -/
theorem draw_restyle :
    restyleAll f (b.draw looks layout width height) =
      b.draw (Looks.restyle f looks) layout width height := by
  rw [Board.draw, Board.draw]
  split
  · exact drawHelp_restyle f looks.look width height
  · exact Sheet.draw_restyle f looks.look width height layout _

end Pages

/-- The text of every cell. -/
def cellTexts (rows : List (Row α)) : List (List (List Char)) :=
  rows.map fun row => row.map Cell.symbol

theorem cellTexts_restyleAll (rows : List (Row α)) :
    cellTexts (restyleAll f rows) = cellTexts rows := by
  rw [cellTexts, cellTexts, restyleAll, List.map_map]
  simp only [Function.comp_def, List.map_map]
  rfl

/-- The text of the screen depends on the marks of statuses, and on no other look: it is
    the text of the screen where all roles look alike. -/
theorem cellTexts_draw (looks : Looks α) (layout : Layout) (b : Board) :
    cellTexts (b.draw looks layout width height) =
      cellTexts (b.draw ⟨fun _ => (), looks.icon⟩ layout width height) := by
  rw [← cellTexts_restyleAll (fun _ => ()), draw_restyle]
  rfl

end Painting

end Screen

open Screen

/-- Whether a cell has the colours that the terminal has by default. -/
def StyledCell.isColorless (c : StyledCell) : Bool :=
  c.foreground = .reset && c.background = .reset

/-- No role has a colour in the plain theme. -/
theorem Theme.isColorless_plain (c : Cell Role) :
    (StyledCell.ofCell (c.restyle (Theme.style .plain))).isColorless = true := by
  cases c with
  | mk symbol role => cases role <;> rfl

variable (b : Board) (t : Theme) (width height : Nat) (layout : Layout)

/-- A theme may as well be put on a screen that was drawn with roles. -/
theorem Board.render_eq :
    b.render t width height layout =
      (b.draw ⟨id, t.icon⟩ layout width height).map fun row =>
        row.map fun c => StyledCell.ofCell (c.restyle t.style) := by
  -- Drawn with `id`, the roles are the looks themselves.
  have hlooks : Looks.restyle t.style ⟨id, t.icon⟩ = t.looks := rfl
  rw [render, ← hlooks, ← draw_restyle, restyleAll, List.map_map]
  simp only [Function.comp_def, List.map_map]

theorem Board.symbols_render :
    ((b.render t width height layout).map fun row => row.map StyledCell.symbol) =
      cellTexts (b.draw ⟨fun _ => (), t.icon⟩ layout width height) := by
  have htext := cellTexts_draw width height t.looks layout b
  rw [Theme.looks] at htext
  rw [← htext, render, Theme.looks, cellTexts, List.map_map]
  simp only [Function.comp_def, List.map_map]
  rfl

/-- All themes have the same marks of statuses. -/
theorem Theme.icon_eq (t' : Theme) : t.icon = t'.icon :=
  rfl

/-- **The theme never changes the text.** On a screen of any size a board shows the same
    text in every cell with the plain theme and with the dark one, whatever page is open,
    whatever covers it, and however the rows are shared among the parts of the page. The
    plain theme leaves all cells in the colours of the terminal. -/
theorem Board.theme_keeps_text :
    ((b.render .plain width height layout).map fun row => row.map StyledCell.symbol) =
        ((b.render .dark width height layout).map fun row => row.map StyledCell.symbol) ∧
      (b.render .plain width height layout).all (fun row => row.all StyledCell.isColorless) =
        true := by
  refine ⟨?_, ?_⟩
  · rw [symbols_render, symbols_render, Theme.icon_eq .plain .dark]
  · -- Every cell has the style of some role, and none of them has a colour.
    rw [render_eq]
    simp only [List.all_map, Function.comp_def, Theme.isColorless_plain, List.all_eq_true,
      implies_true]

/-- The mark of a project that is up. -/
example :
    let b : Board := { projects := [⟨"shop", .running, "php", "", ⟨"/srv/shop"⟩⟩] }
    let cell (t : Theme) := (b.render t 60 8)[2]?.bind fun row => row[19]?
    cell .plain = some ⟨['●'], .reset, .reset, false, false⟩ ∧
      cell .dark = some ⟨['●'], .rgb 78 201 176, .reset, false, false⟩ := by
  decide +kernel

end FleetBoard
