import FleetBoard.Proofs.ScreenRows

/-!
# Rows for the Status

The status with the router stands between two rules, and as many rows are kept free for it
as it has lines. It is broken at the width though, so it has more rows than that as soon as
a line is too long, and then the last ones are not on the screen: the closing rule first,
then the router, or the end of the status. The rules are never broken, so it is the lines
between them that decide.

## Main definitions

* `Board.ShowsFooter`: Every row of the status with the router is on the screen.

## Theorems

* `length_wrapAll_footer_le_iff`: When the rows are enough.
* `footer_is_shown_unless_broken`: What is on the screen.
-/

namespace FleetBoard

open Screen

namespace Screen

variable {Look : Type} (look : Role → Look) (b : Board) (width : Nat)

/-- The rows are enough exactly if the status and the router are not broken. -/
theorem length_wrapAll_footer_le_iff :
    (wrapAll look width (dashboardFooter b width)).length ≤ (dashboardFooter b width).length ↔
      ∀ l ∈ statusLines b ++ routerLines b, (wrap width (l.glyphs look)).length = 1 := by
  have hrule := length_wrap_rule look width
  rw [length_wrapAll_le_iff, dashboardFooter, List.append_assoc [rule width]]
  refine ⟨fun hall l hl => hall l ?_, fun hall l hl => ?_⟩
  · exact List.mem_append_left _ (List.mem_append_right _ hl)
  · rcases List.mem_append.mp hl with hl | hl
    · rcases List.mem_append.mp hl with hl | hl
      · rw [List.mem_singleton.mp hl, hrule]
      · exact hall l hl
    · rw [List.mem_singleton.mp hl, hrule]

end Screen

variable {Look : Type} (looks : Looks Look) (layout : Layout) (b : Board) (width height : Nat)

/-- Every row of the status with the router has a row of the screen, above the hints. -/
def Board.ShowsFooter : Prop :=
  ∀ i < (wrapAll looks.look width (dashboardFooter b width)).length,
    i < (dashboardFooter b width).length ∧
      (b.draw looks layout width height)[height - hintRows dashboardHints width -
          (dashboardFooter b width).length + i]? =
        some (paintRow looks.look width
          ((wrapAll looks.look width (dashboardFooter b width))[i]?.getD []))

/-- **The status with the router on the screen.** On a screen that has a row for the list of
    projects the first rows of the status with the router are shown, as many as it has
    lines, each in its place above the hints. These are all of its rows, down to the closing
    rule, exactly if neither the status nor the router is broken. A line of glyphs with one
    column each that does not end in a blank is broken exactly if it has more columns than
    the screen. -/
theorem Board.footer_is_shown_unless_broken (hpage : b.page = .dashboard)
    (hhelp : b.helpShown = false)
    (htall : 2 + (dashboardFooter b width).length + hintRows dashboardHints width < height) :
    (∀ i < (dashboardFooter b width).length,
      (b.draw looks layout width height)[height - hintRows dashboardHints width -
          (dashboardFooter b width).length + i]? =
        some (paintRow looks.look width
          ((wrapAll looks.look width (dashboardFooter b width))[i]?.getD []))) ∧
      (b.ShowsFooter looks layout width height ↔
        ∀ l ∈ statusLines b ++ routerLines b, (wrap width (l.glyphs looks.look)).length = 1) ∧
      ∀ l ∈ statusLines b ++ routerLines b, 0 < width →
        (∀ g ∈ l.glyphs looks.look, g.columns = 1) →
        (∀ last, (l.glyphs looks.look).getLast? = some last → last.isBlank = false) →
          ((wrap width (l.glyphs looks.look)).length = 1 ↔
            columns (l.glyphs looks.look) ≤ width) := by
  have hdrawn := draw_footer_row width height looks layout b hpage hhelp htall
  refine ⟨hdrawn, ?_, fun l _ hwidth hone hlast =>
    length_wrap_eq_one_iff (l.glyphs looks.look) hwidth hone hlast⟩
  rw [← length_wrapAll_footer_le_iff]
  -- Only rows that are too many have no row of the screen.
  refine ⟨fun hall => Nat.le_of_not_lt fun hmore => ?_, fun hfew i hi => ?_⟩
  · have hlast := (hall _ hmore).1
    omega
  · have hline : i < (dashboardFooter b width).length := by omega
    exact ⟨hline, hdrawn i hline⟩

/-- While projects are loaded again the status and the router fit on a screen with 80
    columns. -/
theorem Board.refreshing_is_shown :
    let b : Board := { status := refreshingStatus, routerStatus := "healthy" }
    b.page = .dashboard ∧ b.helpShown = false ∧
      2 + (dashboardFooter b 80).length + hintRows dashboardHints 80 < 24 ∧
      b.ShowsFooter Theme.plain.looks .inOrder 80 24 := by
  intro b
  have htall : 2 + (dashboardFooter b 80).length + hintRows dashboardHints 80 < 24 := by decide
  have hshown :=
    (footer_is_shown_unless_broken Theme.plain.looks .inOrder b 80 24 rfl rfl htall).2.1
  exact ⟨rfl, rfl, htall, hshown.mpr (by decide +kernel)⟩

/-- The status of a list that could not be loaded is broken at 80 columns, though all its
    characters take one, and then the closing rule is not shown, with any layout. -/
theorem Board.closing_rule_is_cut_off :
    let b : Board :=
      { status := "Error loading projects: " ++
          "docker is not running, please start Docker Desktop and try again later"
        routerStatus := "healthy" }
    b.page = .dashboard ∧ b.helpShown = false ∧
      2 + (dashboardFooter b 80).length + hintRows dashboardHints 80 < 24 ∧
      Text.OneColumnEach b.status ∧
      (dashboardFooter b 80).length <
        (wrapAll Theme.plain.style 80 (dashboardFooter b 80)).length ∧
      ∀ layout, ¬ b.ShowsFooter Theme.plain.looks layout 80 24 := by
  intro b
  have hstatus : (wrap 80 (Line.glyphs Theme.plain.style [⟨b.status, .text⟩])).length = 2 := by
    decide +kernel
  have hmore : (dashboardFooter b 80).length <
      (wrapAll Theme.plain.style 80 (dashboardFooter b 80)).length := by
    refine Nat.lt_of_not_le fun hfew => ?_
    have hone := (length_wrapAll_footer_le_iff Theme.plain.style b 80).mp hfew _
      List.mem_cons_self
    exact absurd (hstatus.symm.trans hone) (by decide)
  refine ⟨rfl, rfl, by decide, by decide +kernel, hmore, fun layout hall => ?_⟩
  exact Nat.lt_irrefl _ (hall _ hmore).1

end FleetBoard
