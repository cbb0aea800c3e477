import FleetBoard.Screen.Line

/-!
# Fitting Lines to a Width

A line that is clipped ends before the first glyph that has no room. A line that
is wrapped is broken between words, and inside a word only if the word alone is
too long for a row. The blanks at which a line is broken are dropped as far as
they would have filled the row before.

A glyph that is wider than the whole row is left out by both.

## Main definitions

* `clip`: A line cut to a width.
* `wrap`: The rows of a line broken at a width.
* `Pending`: The row that is being filled.
-/

namespace FleetBoard

namespace Screen

variable {Look : Type}

/-- The glyphs in front of the first one without room. -/
def clipFrom (room : Nat) : List (Glyph Look) → List (Glyph Look)
  | [] => []
  | g :: gs => if g.columns ≤ room then g :: clipFrom (room - g.columns) gs else []

/-- A line cut to a width. -/
def clip (width : Nat) (gs : List (Glyph Look)) : List (Glyph Look) :=
  clipFrom width (gs.filter fun g => g.columns ≤ width)

/-- Whether a line may be broken at a glyph: it is blank, and it is not the blank
    that keeps its neighbours together. -/
def Glyph.isBlank (g : Glyph Look) : Bool :=
  g.symbol == ['\u200B'] || (g.symbol.all Text.isBlank && g.symbol != ['\u00A0'])

/-- The row that is being filled: the glyphs that are in it for good, the blanks
    after them, and the word after those. -/
structure Pending (Look : Type) where
  row : List (Glyph Look) := []
  blanks : List (Glyph Look) := []
  word : List (Glyph Look) := []
  /-- Whether the last glyph belonged to a word. -/
  inWord : Bool := false
  deriving DecidableEq, Repr

namespace Pending

/-- The columns that are taken so far. -/
def taken (p : Pending Look) : Nat :=
  columns p.row + columns p.blanks + columns p.word

/-- The pending row with its blanks and its word in it for good, where the next
    glyph ends the word or the two alone are too long. -/
def settle (width : Nat) (g : Glyph Look) (p : Pending Look) : Pending Look :=
  if (p.inWord && g.isBlank) ||
      (p.row.isEmpty && width < columns p.word + columns p.blanks + g.columns)
  then { p with row := p.row ++ p.blanks ++ p.word, blanks := [], word := [] }
  else p

/-- Whether the row is finished before the next glyph. -/
def isFinished (width : Nat) (g : Glyph Look) (p : Pending Look) : Bool :=
  width ≤ columns p.row || (0 < g.columns && width ≤ p.taken)

/-- The blanks that are left of those at which a row was broken, when the row has
    some room left. -/
def dropBlanks : Nat → List (Glyph Look) → List (Glyph Look)
  | _, [] => []
  | room, g :: gs => if g.columns ≤ room then dropBlanks (room - g.columns) gs else g :: gs

/-- What is pending after the row was finished. -/
def nextRow (width : Nat) (p : Pending Look) : Pending Look :=
  { p with row := [], blanks := dropBlanks (width - columns p.row) p.blanks }

/-- The next glyph is pending too. -/
def add (g : Glyph Look) (p : Pending Look) : Pending Look :=
  if g.isBlank then { p with blanks := p.blanks ++ [g], inWord := false }
  else { p with word := p.word ++ [g], inWord := true }

/-- The rows at the end of the line. -/
def flush (p : Pending Look) : List (List (Glyph Look)) :=
  let all := p.row ++ p.blanks ++ p.word
  (if p.row.isEmpty && p.word.isEmpty && !p.blanks.isEmpty then [[]] else []) ++
    if all.isEmpty then [] else [all]

end Pending

/-- The rows of the rest of a line while some of it is pending. -/
def wrapFrom (width : Nat) (p : Pending Look) : List (Glyph Look) → List (List (Glyph Look))
  | [] => p.flush
  | g :: gs =>
    if width < g.columns then wrapFrom width p gs
    else
      let p := p.settle width g
      if p.isFinished width g then
        let next := p.nextRow width
        -- A blank that is the place of the break itself is dropped.
        if g.isBlank && next.blanks.isEmpty then p.row :: wrapFrom width next gs
        else p.row :: wrapFrom width (next.add g) gs
      else wrapFrom width (p.add g) gs

/-- The rows of a line broken at a width, at least one. -/
def wrap (width : Nat) (gs : List (Glyph Look)) : List (List (Glyph Look)) :=
  match wrapFrom width {} gs with
  | [] => [[]]
  | rows => rows

end Screen

end FleetBoard
