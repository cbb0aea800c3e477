import FleetBoard.Text.Width
import FleetBoard.Theme

/-!
# Lines

A line is made of spans, each with a role. For drawing it is cut into glyphs,
the clusters of its spans with the columns they take. A glyph has the look that
stands for the role of its span. What looks are is left open: a style, or the
role itself. Line feeds inside a line draw nothing.

## Main definitions

* `Span`, `Line`: Pieces of text with their roles.
* `Glyph`: A cluster with its columns and its look.
* `Line.glyphs`: The glyphs of a line.
* `columns`: The columns of some glyphs.
-/

namespace FleetBoard

namespace Screen

/-- A piece of text with its role. -/
structure Span where
  text : String
  role : Role := .bare
  deriving DecidableEq, Repr

/-- A line of text, not yet fitted to any width. -/
abbrev Line := List Span

/-- A cluster of characters with the columns it takes and its look. -/
structure Glyph (Look : Type) where
  symbol : List Char
  columns : Nat
  look : Look
  deriving DecidableEq, Repr

variable {Look : Type}

/-- The glyphs of a span. -/
def Span.glyphs (look : Role → Look) (s : Span) : List (Glyph Look) :=
  ((Text.clusters s.text.toList).filter fun c => c != ['\n']).map fun c =>
    ⟨c, Text.clusterWidth c, look s.role⟩

/-- The glyphs of a line. -/
def Line.glyphs (look : Role → Look) (l : Line) : List (Glyph Look) :=
  l.flatMap (Span.glyphs look)

/-- The columns of some glyphs. -/
def columns (gs : List (Glyph Look)) : Nat :=
  gs.foldr (fun g n => g.columns + n) 0

/-- A span of spaces. -/
def gap (n : Nat) : Span :=
  ⟨String.ofList (List.replicate n ' '), .bare⟩

end Screen

end FleetBoard
