import FleetBoard.Screen.Parts
import FleetBoard.Text.Fit

/-!
# The Help on the Screen

The help covers the whole screen: a frame with a title in its upper side, and
the sections of the help inside, broken at the width of the frame. Where there is no
room for both ends of a side, or for both sides, the upper and left ones are drawn.

## Main definitions

* `helpLines`: The sections of the help, line by line.
* `drawHelp`: The whole screen.

## Theorems

* `length_drawHelp`, `length_of_mem_drawHelp`: The help is as high and as wide as the
  screen.
-/

namespace FleetBoard

namespace Screen

/-- A section of the help and a blank line. -/
def sectionLines (s : HelpSection) : List Line :=
  [[⟨s.heading, .section⟩]] ++
    s.entries.map (fun h => [⟨"  " ++ Text.pad 16 h.key, .keyHint⟩, ⟨h.action, .text⟩]) ++ [[]]

/-- The sections of the help, line by line. -/
def helpLines : List Line :=
  helpSections.flatMap sectionLines ++ [[⟨"Press any key to close", .muted⟩]]

variable {Look : Type} (look : Role → Look)

/-- A symbol of the frame. -/
def frame (c : Char) : Cell Look :=
  ⟨[c], look .border⟩

/-- The upper side of the frame with the title after its corner. -/
def frameTop (width : Nat) : Row Look :=
  let title := (clip (width - 2) (Line.glyphs look [⟨" Help ", .title⟩])).flatMap (Glyph.cells look)
  enclosed width (frame look '┌') (fillTo (width - 2) (frame look '─') title) (frame look '┐')

/-- The lower side of the frame. -/
def frameBottom (width : Nat) : Row Look :=
  enclosed width (frame look '└') (List.replicate (width - 2) (frame look '─')) (frame look '┘')

/-- A row between the two sides of the frame. -/
def frameRow (width : Nat) (row : Row Look) : Row Look :=
  enclosed width (frame look '│') row (frame look '│')

/-- The screen with the help. -/
def drawHelp (width height : Nat) : List (Row Look) :=
  let inner := wrapped look (width - 2) (height - 2) 0 helpLines
  enclosed height (frameTop look width) (inner.map (frameRow look width)) (frameBottom look width)

section Size

variable (width height : Nat)

theorem length_frameTop : (frameTop look width).length = width :=
  length_enclosed width _ _ _ (fillTo_length (width - 2) _ _)

theorem length_frameBottom : (frameBottom look width).length = width :=
  length_enclosed width _ _ _ List.length_replicate

/-- The help has all rows of the screen, on the smallest screen too. -/
theorem length_drawHelp : (drawHelp look width height).length = height := by
  refine length_enclosed height _ _ _ ?_
  rw [List.length_map]
  exact area_length look (width - 2) (height - 2) _

theorem length_of_mem_drawHelp : ∀ row ∈ drawHelp look width height, row.length = width := by
  intro row hrow
  rcases List.mem_append.mp (List.mem_of_mem_take hrow) with habove | hlast
  · rcases List.mem_append.mp habove with hfirst | hinner
    · rw [List.mem_singleton.mp hfirst, length_frameTop]
    · rcases List.mem_map.mp hinner with ⟨inner, hmem, hframed⟩
      rw [← hframed]
      exact length_enclosed width _ _ _ (length_of_mem_area look (width - 2) _ _ inner hmem)
  · rw [List.mem_singleton.mp hlast, length_frameBottom]

end Size

/-- On a screen of one cell a corner is all of the help. -/
example : drawHelp id 1 1 = [[frame id '┌']] := rfl

end Screen

end FleetBoard
