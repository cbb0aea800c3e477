import FleetBoard.Proofs.OneColumn
import FleetBoard.Screen

/-!
# Rows of the Screen

A page is drawn as areas one below the other, so a row of an area is a row of the screen.
The body is found below the title, on every screen. The parts below the body are found from
the end of the screen, where the screen has enough rows. An area of lines that are broken
shows the rows of these lines from the scroll on, as many as it is high. It is high enough
for all of them, where it is as high as there are lines, exactly if no line is broken.

## Main definitions

* `detailHeights`, `detailRows`: The rows of the page of a project, and those for its
  facts.

## Theorems

* `length_wrapAll_le_iff`: When as many rows are enough as there are lines.
* `length_wrap_rule`: A rule is not broken.
* `getElem?_wrapped`: A row of an area.
* `Sheet.getElem?_draw_body`: A row of the body of a page.
* `Sheet.getElem?_draw_below`: A row of a part below it, on a screen with enough rows.
* `draw_footer_row`, `draw_dashboard_hint`, `draw_detail_hint`, `draw_fact_row`: Rows of
  the screen.
-/

namespace FleetBoard

namespace Screen

variable {Look : Type} (look : Role → Look) (width height scroll : Nat)

section Broken

variable (lines : List Line)

theorem wrapAll_cons (l : Line) :
    wrapAll look width (l :: lines) = wrap width (l.glyphs look) ++ wrapAll look width lines :=
  List.flatMap_cons

theorem wrapAll_singleton (l : Line) : wrapAll look width [l] = wrap width (l.glyphs look) :=
  List.flatMap_singleton _ l

theorem length_wrapAll_cons (l : Line) :
    (wrapAll look width (l :: lines)).length =
      (wrap width (l.glyphs look)).length + (wrapAll look width lines).length := by
  rw [wrapAll_cons, List.length_append]

/-- Every line has a row at least. -/
theorem length_le_wrapAll : lines.length ≤ (wrapAll look width lines).length := by
  induction lines with
  | nil => exact Nat.zero_le _
  | cons l lines ih =>
      have hpos := length_wrap_pos width (l.glyphs look)
      rw [length_wrapAll_cons, List.length_cons]
      omega

/-- As many rows as there are lines are enough exactly if no line is broken. -/
theorem length_wrapAll_le_iff : (wrapAll look width lines).length ≤ lines.length ↔
    ∀ l ∈ lines, (wrap width (l.glyphs look)).length = 1 := by
  induction lines with
  | nil => exact ⟨fun _ l hl => absurd hl List.not_mem_nil, fun _ => Nat.zero_le _⟩
  | cons l lines ih =>
      have hpos := length_wrap_pos width (l.glyphs look)
      have hrest := length_le_wrapAll look width lines
      rw [length_wrapAll_cons, List.length_cons, List.forall_mem_cons, ← ih]
      omega

/-- A glyph with a character that is not blank belongs to a word. -/
theorem isBlank_eq_false (g : Glyph Look) (c : Char) (hc : c ∈ g.symbol)
    (hblank : Text.isBlank c = false) (hzero : c ≠ '\u200B') : g.isBlank = false := by
  have hsymbol : g.symbol ≠ ['\u200B'] := by
    intro h
    rw [h, List.mem_singleton] at hc
    exact hzero hc
  have hall : g.symbol.all Text.isBlank = false :=
    List.all_eq_false.mpr ⟨c, hc, Bool.eq_false_iff.mp hblank⟩
  rw [Glyph.isBlank, hall, beq_eq_false_iff_ne.mpr hsymbol]
  rfl

/-- A line across the screen is never broken. -/
theorem length_wrap_rule : (wrap width ((rule width).glyphs look)).length = 1 := by
  have hone : Text.OneColumnEach (String.ofList (List.replicate width '─')) :=
    Text.oneColumnEach_replicate width '─' (by decide +kernel)
  have hcolumns : columns ((rule width).glyphs look) = width := by
    have hspans : ∀ s ∈ rule width, Text.OneColumnEach s.text := by
      intro s hs
      rw [List.mem_singleton.mp hs]
      exact hone
    rw [columns_line_eq_sum look (rule width) hspans]
    simp [rule]
  have hglyph : ∀ g ∈ (rule width).glyphs look, 0 < g.columns ∧ g.isBlank = false := by
    intro g hg
    rw [Line.glyphs, rule, List.flatMap_singleton] at hg
    rcases glyph_of_oneColumnEach look _ hone g hg with ⟨hne, hmem, hlength⟩
    rcases List.exists_mem_of_ne_nil g.symbol hne with ⟨c, hc⟩
    have hrule : c = '─' := by
      have hreplicate := hmem c hc
      rw [String.toList_ofList] at hreplicate
      exact List.eq_of_mem_replicate hreplicate
    refine ⟨by rw [hlength]; exact List.length_pos_iff.mpr hne, ?_⟩
    rw [hrule] at hc
    exact isBlank_eq_false g '─' hc (by decide) (by decide)
  -- Every glyph takes a column and is no blank, so the line fits as it is.
  cases hgs : (rule width).glyphs look with
  | nil => rfl
  | cons g gs =>
      rw [hgs] at hcolumns hglyph
      have hwidth : 0 < width := by
        have hpos := (hglyph g List.mem_cons_self).1
        rw [columns_cons] at hcolumns
        omega
      rw [wrap_of_fits (g :: gs) hwidth (Nat.le_of_eq hcolumns)
        (fun last hlast => (hglyph last (List.mem_of_getLast? hlast)).1)
        (words_ne_nil g _ List.mem_cons_self (hglyph g List.mem_cons_self).2)]
      rfl

end Broken

section Areas

/-- A row of an area, which is empty below the last row that there is. -/
theorem getElem?_area (rows : List (List (Glyph Look))) (i : Nat) (hi : i < height) :
    (area look width height rows)[i]? = some (paintRow look width (rows[i]?.getD [])) := by
  rw [area, fillTo, List.getElem?_append, List.length_take, List.length_map]
  split
  · rename_i hrow
    rw [List.getElem?_take_of_lt hi, List.getElem?_map,
      List.getElem?_eq_getElem (by omega : i < rows.length)]
    rfl
  · rename_i hnone
    rw [List.getElem?_replicate, if_pos (by omega),
      List.getElem?_eq_none (by omega : rows.length ≤ i)]
    rfl

/-- A row of an area with lines that are broken. -/
theorem getElem?_wrapped (lines : List Line) (i : Nat) (hi : i < height) :
    (wrapped look width height scroll lines)[i]? =
      some (paintRow look width ((wrapAll look width lines)[scroll + i]?.getD [])) := by
  rw [wrapped, getElem?_area look width height _ i hi, List.getElem?_drop]

theorem getElem?_below {α : Type} (above below : List α) (i : Nat) :
    (above ++ below)[above.length + i]? = below[i]? := by
  rw [List.getElem?_append_right (Nat.le_add_right _ _), Nat.add_sub_cancel_left]

/-- A row of a part stands below all that is above the part. -/
theorem getElem?_part {α : Type} (above part below : List α) (i : Nat) (hi : i < part.length) :
    (above ++ part ++ below)[above.length + i]? = part[i]? := by
  rw [List.append_assoc, getElem?_below, List.getElem?_append_left hi]

end Areas

section Parts

variable (layout : Layout) (s : Sheet)

/-- Parts that have the rows they ask for stand one below the other. -/
theorem drawParts_append (before after : List Part) :
    drawParts look width (before ++ after) ((before ++ after).map Part.rows) =
      drawParts look width before (before.map Part.rows) ++
        drawParts look width after (after.map Part.rows) := by
  induction before with
  | nil => rfl
  | cons p before ih =>
      rw [List.cons_append, List.map_cons, drawParts, ih, List.map_cons, drawParts,
        List.append_assoc]

/-- On a screen with enough rows the parts below the body are at its end, so the rows of a
    part are found from there. -/
theorem Sheet.getElem?_draw_below (before after : List Part) (p : Part)
    (hbelow : s.below = before ++ p :: after)
    (hfits : titleRows + sumRows (s.below.map Part.rows) < height) (i : Nat) (hi : i < p.rows) :
    (s.draw look layout width height)[height - sumRows ((p :: after).map Part.rows) + i]? =
      (p.fitting.draw look width p.rows p.lines)[i]? := by
  have hpart := p.fitting.length_draw look width p.rows p.lines
  have hdraw : ∃ above, s.draw look layout width height =
      above ++ p.fitting.draw look width p.rows p.lines ++
        drawParts look width after (after.map Part.rows) := by
    rw [s.draw_of_fits look layout width height hfits, hbelow, drawParts_append, List.map_cons,
      drawParts, ← List.append_assoc, ← List.append_assoc]
    exact ⟨_, rfl⟩
  rcases hdraw with ⟨above, hdraw⟩
  -- What is above has the rows of the screen that the part and those after it leave.
  have hlength := s.length_draw look layout width height
  rw [hdraw, List.length_append, List.length_append, hpart,
    length_drawParts look width after _ (List.length_map Part.rows)] at hlength
  have habove : height - sumRows ((p :: after).map Part.rows) = above.length := by
    rw [List.map_cons, sumRows_cons]
    omega
  rw [habove, hdraw]
  exact getElem?_part above _ _ i (by rw [hpart]; exact hi)

end Parts

section Pages

variable (looks : Looks Look) (layout : Layout) (b : Board)

theorem draw_of_dashboard (hpage : b.page = .dashboard) (hhelp : b.helpShown = false) :
    b.draw looks layout width height =
      (dashboardSheet looks.icon b width).draw looks.look layout width height := by
  rw [Board.draw, hhelp, if_neg Bool.false_ne_true, Board.sheet, hpage]

theorem draw_of_detail (page : DetailPage) (hpage : b.page = .detail page)
    (hhelp : b.helpShown = false) :
    b.draw looks layout width height =
      (detailSheet b page width).draw looks.look layout width height := by
  rw [Board.draw, hhelp, if_neg Bool.false_ne_true, Board.sheet, hpage]

section Dashboard

variable (hpage : b.page = .dashboard) (hhelp : b.helpShown = false)
  (htall : 2 + (dashboardFooter b width).length + hintRows dashboardHints width < height)

include htall

theorem dashboardSheet_fits :
    titleRows + sumRows ((dashboardSheet looks.icon b width).below.map Part.rows) < height := by
  show 2 + ((dashboardFooter b width).length + (hintRows dashboardHints width + 0)) < height
  omega

include hpage hhelp

/-- The status with the router stands above the hints, in as many rows as it has lines. -/
theorem draw_footer_row (i : Nat) (hi : i < (dashboardFooter b width).length) :
    (b.draw looks layout width height)[height - hintRows dashboardHints width -
        (dashboardFooter b width).length + i]? =
      some (paintRow looks.look width
        ((wrapAll looks.look width (dashboardFooter b width))[i]?.getD [])) := by
  have harea := getElem?_wrapped looks.look width _ 0 (dashboardFooter b width) i hi
  have hrow := Sheet.getElem?_draw_below looks.look width height layout
    (dashboardSheet looks.icon b width) [] _ _ rfl
    (dashboardSheet_fits width height looks b htall) i hi
  -- From the end of the screen: only the hints are below it.
  have hplace : height - hintRows dashboardHints width - (dashboardFooter b width).length =
      height - ((dashboardFooter b width).length + (hintRows dashboardHints width + 0)) := by
    omega
  rw [Nat.zero_add] at harea
  rw [draw_of_dashboard width height looks layout b hpage hhelp, hplace, ← harea]
  exact hrow

/-- The hints are the last rows of the list of projects. -/
theorem draw_dashboard_hint (i : Nat) (hi : i < hintRows dashboardHints width) :
    (b.draw looks layout width height)[height - hintRows dashboardHints width + i]? =
      some (paintRow looks.look width
        ((wrap width ((hintLine dashboardHints).glyphs looks.look))[i]?.getD [])) := by
  have harea := getElem?_wrapped looks.look width _ 0 [hintLine dashboardHints] i hi
  have hrow := Sheet.getElem?_draw_below looks.look width height layout
    (dashboardSheet looks.icon b width) [_] _ _ rfl
    (dashboardSheet_fits width height looks b htall) i hi
  rw [Nat.zero_add, wrapAll_singleton] at harea
  rw [draw_of_dashboard width height looks layout b hpage hhelp, ← harea]
  exact hrow

end Dashboard

/-- The hints are the last rows of the page of a project, below a rule. -/
theorem draw_detail_hint (page : DetailPage) (hpage : b.page = .detail page)
    (hhelp : b.helpShown = false) (htall : 2 + (1 + hintRows detailHints width) < height)
    (i : Nat) (hi : i < hintRows detailHints width) :
    (b.draw looks layout width height)[height - hintRows detailHints width + i]? =
      some (paintRow looks.look width
        ((wrap width ((hintLine detailHints).glyphs looks.look))[i]?.getD [])) := by
  -- The rule is one row of the area, and the hints have the rest of it.
  have hrule := length_wrap_rule looks.look width
  have harea := getElem?_wrapped looks.look width (1 + hintRows detailHints width) 0
    [rule width, hintLine detailHints] (1 + i) (by omega)
  have hrows : (wrapAll looks.look width [rule width, hintLine detailHints])[1 + i]? =
      (wrap width ((hintLine detailHints).glyphs looks.look))[i]? := by
    rw [wrapAll_cons, wrapAll_singleton, ← hrule, getElem?_below]
  have hrow := Sheet.getElem?_draw_below looks.look width height layout (detailSheet b page width)
    [] _ _ rfl htall (1 + i) (Nat.add_lt_add_left hi 1)
  have hplace : height - hintRows detailHints width + i =
      height - (1 + hintRows detailHints width + 0) + (1 + i) := by
    omega
  rw [Nat.zero_add, hrows] at harea
  rw [draw_of_detail width height looks layout b page hpage hhelp, hplace, ← harea]
  exact hrow

end Pages

end Screen

end FleetBoard
