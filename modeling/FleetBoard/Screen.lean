import FleetBoard.Screen.Dashboard
import FleetBoard.Screen.Detail
import FleetBoard.Screen.Follow
import FleetBoard.Screen.Help

/-!
# The Screen

What a board looks like on a screen of some size. Every part of the screen is
drawn with the looks that a theme has for the roles of its text, in the rows that a
layout has for it. The screen may be of any size: there are always as many rows and
as many cells in a row as it has.

## Main definitions

* `Board.sheet`: The page of a board.
* `Board.draw`: The cells of the screen, for any looks of the roles.
* `StyledCell`: A cell as the terminal shows it.
* `Board.render`: The cells of the screen in a theme.

## Theorems

* `Board.length_draw`, `Board.length_of_mem_draw`: The size of what is drawn.
-/

namespace FleetBoard

open Screen

/-- The page of a board on a screen of some width. -/
def Board.sheet (icon : RunState → String) (b : Board) (width : Nat) : Sheet :=
  match b.page with
  | .dashboard => dashboardSheet icon b width
  | .detail page => detailSheet b page width
  | .logs page => streamSheet b (.ofLogs page) width
  | .operation op => streamSheet b (.ofOperation op) width

section Draw

variable {Look : Type} (looks : Looks Look) (layout : Layout) (b : Board) (width height : Nat)

/-- The cells of the screen. -/
def Board.draw : List (Row Look) :=
  if b.helpShown then drawHelp looks.look width height
  else (b.sheet looks.icon width).draw looks.look layout width height

/-- The screen is drawn with as many rows as it has, whatever its size. -/
theorem Board.length_draw : (b.draw looks layout width height).length = height := by
  rw [Board.draw]
  split
  · exact length_drawHelp looks.look width height
  · exact Sheet.length_draw looks.look layout _ width height

/-- Every row of the screen has as many cells as the screen is wide. -/
theorem Board.length_of_mem_draw :
    ∀ row ∈ b.draw looks layout width height, row.length = width := by
  rw [Board.draw]
  split
  · exact length_of_mem_drawHelp looks.look width height
  · exact Sheet.length_of_mem_draw looks.look layout _ width height

end Draw

/-- A cell as the terminal shows it. -/
structure StyledCell where
  symbol : List Char
  foreground : Color
  background : Color
  bold : Bool
  reversed : Bool
  deriving DecidableEq, Repr

/-- A cell with a style. What the style does not set is the default of the
    terminal. -/
def StyledCell.ofCell (c : Cell Style) : StyledCell where
  symbol := c.symbol
  foreground := c.look.foreground.getD .reset
  background := c.look.background.getD .reset
  bold := c.look.bold
  reversed := c.look.reversed

/-- The cells of the screen in a theme. The rows are shared in order unless another layout is
    given. -/
def Board.render (b : Board) (t : Theme) (width height : Nat) (layout : Layout := .inOrder) :
    List (List StyledCell) :=
  (b.draw t.looks layout width height).map fun row => row.map StyledCell.ofCell

end FleetBoard
