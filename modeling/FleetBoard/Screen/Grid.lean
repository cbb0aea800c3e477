import FleetBoard.Screen.Wrap

/-!
# Cells and Rows

The screen is a grid of cells, each with a symbol and a look. A glyph is put into
the first of its columns, and its other columns keep the blank cell that was
there. Glyphs without a column of their own are not drawn.

## Main definitions

* `Cell`: A place of the screen.
* `paintRow`: The cells of a row.
* `enclosed`: Something between two sides.
* `clipped`: An area with lines that are cut.
* `wrapped`: An area with lines that are broken, scrolled by some rows.

## Theorems

* `paintRow_length`: A row has as many cells as it is wide.
* `area_length`, `length_of_mem_area`: An area has as many rows as it is high, each as wide
  as the area.
* `length_enclosed`: What is enclosed is as long as there is room.
-/

namespace FleetBoard

namespace Screen

/-- A place of the screen. -/
structure Cell (Look : Type) where
  symbol : List Char
  look : Look
  deriving DecidableEq, Repr

/-- A row of cells. -/
abbrev Row (Look : Type) := List (Cell Look)

variable {Look : Type} (look : Role → Look)

/-- The cell of an empty screen. -/
def Cell.blank : Cell Look :=
  ⟨[' '], look .bare⟩

/-- A list cut or filled up to a length. -/
def fillTo {α : Type} (n : Nat) (filler : α) (items : List α) : List α :=
  items.take n ++ List.replicate (n - items.length) filler

theorem fillTo_length {α : Type} (n : Nat) (filler : α) (items : List α) :
    (fillTo n filler items).length = n := by
  simp only [fillTo, List.length_append, List.length_take, List.length_replicate]
  omega

/-- Items between a first and a last one, as far as there is room. The last one is the first
    to be left out. -/
def enclosed {α : Type} (room : Nat) (first : α) (items : List α) (last : α) : List α :=
  ([first] ++ items ++ [last]).take room

theorem length_enclosed {α : Type} (room : Nat) (first last : α) (items : List α)
    (hitems : items.length = room - 2) : (enclosed room first items last).length = room := by
  simp only [enclosed, List.length_take, List.length_append, List.length_singleton]
  omega

/-- The cells of a glyph. -/
def Glyph.cells (g : Glyph Look) : List (Cell Look) :=
  match g.columns with
  | 0 => []
  | n + 1 => ⟨g.symbol, g.look⟩ :: List.replicate n (Cell.blank look)

/-- The cells of a row. -/
def paintRow (width : Nat) (gs : List (Glyph Look)) : Row Look :=
  fillTo width (Cell.blank look) (gs.flatMap (Glyph.cells look))

theorem paintRow_length (width : Nat) (gs : List (Glyph Look)) :
    (paintRow look width gs).length = width :=
  fillTo_length width (Cell.blank look) _

/-- An area of a width and a height with the first of some rows. -/
def area (width height : Nat) (rows : List (List (Glyph Look))) : List (Row Look) :=
  fillTo height (paintRow look width []) (rows.map (paintRow look width))

theorem area_length (width height : Nat) (rows : List (List (Glyph Look))) :
    (area look width height rows).length = height :=
  fillTo_length height _ _

theorem length_of_mem_area (width height : Nat) (rows : List (List (Glyph Look))) :
    ∀ row ∈ area look width height rows, row.length = width := by
  intro row hrow
  rcases List.mem_append.mp hrow with hdrawn | hblank
  · rcases List.mem_map.mp (List.mem_of_mem_take hdrawn) with ⟨gs, -, hgs⟩
    rw [← hgs, paintRow_length]
  · rw [List.eq_of_mem_replicate hblank, paintRow_length]

/-- An area with lines that are cut at its width. -/
def clipped (width height : Nat) (lines : List Line) : List (Row Look) :=
  area look width height (lines.map fun l => clip width (l.glyphs look))

theorem length_clipped (width height : Nat) (lines : List Line) :
    (clipped look width height lines).length = height :=
  area_length look width height _

/-- The rows of some lines that are broken at a width. -/
def wrapAll (width : Nat) (lines : List Line) : List (List (Glyph Look)) :=
  lines.flatMap fun l => wrap width (l.glyphs look)

/-- An area with lines that are broken at its width, `scroll` rows scrolled
    away. -/
def wrapped (width height scroll : Nat) (lines : List Line) : List (Row Look) :=
  area look width height ((wrapAll look width lines).drop scroll)

end Screen

end FleetBoard
