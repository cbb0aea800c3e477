import FleetBoard.KeyGuide
import FleetBoard.Screen.Sheet

/-!
# Parts of Every Page

## Main definitions

* `rule`: A line across the screen.
* `hintLine`: The hints of a page on one line.
* `hintTotal`: The characters of the hints of a page.
* `hintRows`: The rows that are kept free for the hints.
-/

namespace FleetBoard

namespace Screen

/-- A line across the screen. -/
def rule (width : Nat) : Line :=
  [⟨String.ofList (List.replicate width '─'), .border⟩]

/-- A hint: the key, and what it does. -/
def hintSpans (h : KeyHint) : List Span :=
  [⟨h.key, .keyHint⟩, ⟨" " ++ h.action, .dim⟩]

/-- The hints of a page on one line. -/
def hintLine (hints : List KeyHint) : Line :=
  ((hints.map hintSpans).intersperse [⟨"  ", .bare⟩]).flatten

/-- The characters of a hint and of the gap after it. -/
def hintLength (h : KeyHint) : Nat :=
  h.key.length + 1 + h.action.length + 2

/-- The characters of some hints, with a gap behind each of them. -/
def hintTotal (hints : List KeyHint) : Nat :=
  hints.foldr (fun h n => hintLength h + n) 0

/-- The rows that are kept free for the hints: as many as their characters fill, and
    at least one. Of a number with more than 16 bits the last 16 are left. -/
def hintRows (hints : List KeyHint) (width : Nat) : Nat :=
  let width := max width 1
  max ((hintTotal hints + width - 1) / width) 1 % 65536

end Screen

end FleetBoard
