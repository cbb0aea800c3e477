import FleetBoard.Proofs.Restyle
import FleetBoard.Proofs.RowCount
import FleetBoard.Proofs.ScreenRows
import Mathlib.Algebra.Order.Ring.Int

/-!
# Rows for the Hints

The rows that are kept free for the hints are as many as their characters fill, with two
more for the gap that is counted behind the last hint. They are counted in 16 bits, so this
is said of hints that do not fill more rows than that. The hints are broken between words
though, and every row but the last one may end with columns that are left free. So the
rows are enough exactly as long as these free columns are made up for by what the last row
takes, the blanks that are dropped at the breaks and the two that were counted too many.
They are never short of more than half of the rows that are needed.

At which widths the hints of a page have not enough rows can be worked out: a screen that is
wide enough for all of them shows them in one row, and the widths below are tried out.

## Main definitions

* `raggedness`: The columns left free at the end of the rows that are broken.
* `Tried`: The widths that are too few for the hints of a page.
* `Board.ShowsHints`: Every row of the hints is on the screen.

## Theorems

* `columns_hintLine`: The columns of the hints.
* `succ_le_hintRows_iff`: The rows that are kept free.
* `length_wrap_hintLine_le_iff`, `length_wrap_hintLine_le`: The rows that are needed.
* `length_wrap_le_iff_of_tried`: The rows that the hints of a page need.
* `hints_are_shown_unless_ragged`: When the rows are enough.
-/

namespace FleetBoard

namespace Screen

section Space

variable {Look : Type} (look : Role → Look) (width : Nat)

/-- Hints of characters that take one column each. -/
def OneColumnHints (hints : List KeyHint) : Prop :=
  ∀ h ∈ hints, Text.OneColumnEach h.key ∧ Text.OneColumnEach h.action

theorem columns_hintSpans (h : KeyHint)
    (hone : Text.OneColumnEach h.key ∧ Text.OneColumnEach h.action) :
    columns (Line.glyphs look (hintSpans h)) + 2 = hintLength h := by
  have hspace : Text.OneColumnEach " " := by decide +kernel
  rw [columns_line_eq_sum look (hintSpans h)]
  · simp only [hintSpans, hintLength, List.map_cons, List.map_nil, List.sum_cons, List.sum_nil,
      String.length_append]
    have hlength : " ".length = 1 := rfl
    omega
  · intro s hs
    rw [hintSpans, List.mem_cons, List.mem_singleton] at hs
    rcases hs with hs | hs <;> rw [hs]
    · exact hone.1
    · exact Text.oneColumnEach_append " " _ hspace hone.2

/-- The gap is counted behind the last hint too. -/
theorem columns_hintLine (h : KeyHint) (hints : List KeyHint) (hone : OneColumnHints (h :: hints)) :
    columns ((hintLine (h :: hints)).glyphs look) + 2 = hintTotal (h :: hints) := by
  have hgap : columns (Line.glyphs look [⟨"  ", .bare⟩]) = 2 :=
    columns_span look ⟨"  ", .bare⟩ (by decide +kernel)
  -- On the other hints, each with a gap in front of it.
  induction hints generalizing h with
  | nil =>
      have hline : hintLine [h] = hintSpans h := List.append_nil _
      rw [hline, columns_hintSpans look h (hone h List.mem_cons_self)]
      rfl
  | cons h' hints ih =>
      have hrest := ih h' fun x hx => hone x (List.mem_cons_of_mem _ hx)
      have hfirst := columns_hintSpans look h (hone h List.mem_cons_self)
      have hline : hintLine (h :: h' :: hints) =
          hintSpans h ++ ([⟨"  ", .bare⟩] ++ hintLine (h' :: hints)) := rfl
      have htotal : hintTotal (h :: h' :: hints) = hintLength h + hintTotal (h' :: hints) := rfl
      rw [hline, htotal, glyphs_append, glyphs_append, columns_append, columns_append, hgap]
      omega

/-- As long as they do not fill more rows than are counted in 16 bits, there is room for one
    row in any case, and for another one as long as the rows before it do not take all that
    is counted. -/
theorem succ_le_hintRows_iff (hints : List KeyHint) (hwidth : 0 < width)
    (hfew : hintTotal hints ≤ 65535 * width) (n : Nat) :
    n + 1 ≤ hintRows hints width ↔ n = 0 ∨ n * width < hintTotal hints := by
  have hrows : hintRows hints width = max ((hintTotal hints + width - 1) / width) 1 := by
    have hmax : max width 1 = width := by omega
    have hbits : (hintTotal hints + width - 1) / width < 65536 := by
      rw [Nat.div_lt_iff_lt_mul hwidth]
      omega
    rw [hintRows, hmax]
    exact Nat.mod_eq_of_lt (by omega)
  have hdiv : n + 1 ≤ (hintTotal hints + width - 1) / width ↔ n * width < hintTotal hints := by
    rw [Nat.le_div_iff_mul_le hwidth, Nat.succ_mul]
    omega
  rw [hrows, ← hdiv]
  omega

/-- The columns that are left free at the end of the rows, but for the last one. -/
def raggedness (rows : List (List (Glyph Look))) : Int :=
  (rows.dropLast.map fun row => (width : Int) - columns row).sum

theorem columns_flatten_eq (rows : List (List (Glyph Look))) (hne : rows ≠ []) :
    (columns rows.flatten : Int) =
      ((rows.length - 1) * width : Nat) - raggedness width rows + columns (rows.getLastD []) := by
  -- On the rows. The first of several takes the width but for what it leaves free.
  induction rows with
  | nil => exact absurd rfl hne
  | cons row rows ih =>
      cases rows with
      | nil => simp [raggedness, columns]
      | cons next rows =>
          have hrest := ih (List.cons_ne_nil _ _)
          rw [List.flatten_cons, columns_append, Int.natCast_add, hrest]
          have hrag : raggedness width (row :: next :: rows) =
              (width - columns row) + raggedness width (next :: rows) := rfl
          have hlast : (row :: next :: rows).getLastD [] = (next :: rows).getLastD [] := rfl
          rw [hrag, hlast]
          simp only [List.length_cons, Nat.add_sub_cancel, Nat.succ_mul]
          omega

section Rows

variable (hints : List KeyHint) (hone : OneColumnHints hints) (hwidth : 0 < width)
  (hfew : hintTotal hints ≤ 65535 * width)

include hone in
/-- Without hints there is nothing to count, and the line is not broken. -/
theorem columns_hintLine_cases : columns ((hintLine hints).glyphs look) + 2 = hintTotal hints ∨
    (columns ((hintLine hints).glyphs look) = 0 ∧
      wrap width ((hintLine hints).glyphs look) = [[]]) := by
  cases hints with
  | nil => exact Or.inr ⟨rfl, rfl⟩
  | cons h hints => exact Or.inl (columns_hintLine look h hints hone)

include hone hwidth hfew

/-- The rows are enough exactly if the columns that are left free are made up for. -/
theorem length_wrap_hintLine_le_iff :
    (wrap width ((hintLine hints).glyphs look)).length ≤ hintRows hints width ↔
      raggedness width (wrap width ((hintLine hints).glyphs look)) <
        columns ((wrap width ((hintLine hints).glyphs look)).getLastD []) +
          (columns ((hintLine hints).glyphs look) -
            columns (wrap width ((hintLine hints).glyphs look)).flatten : Nat) + 2 := by
  have htotal := columns_hintLine_cases look width hints hone
  have hlost := columns_flatten_wrap_le ((hintLine hints).glyphs look) hwidth
  have hpos := length_wrap_pos width ((hintLine hints).glyphs look)
  have hflat := columns_flatten_eq width (wrap width ((hintLine hints).glyphs look)) (wrap_ne_nil _)
  have hroom := succ_le_hintRows_iff width hints hwidth hfew
    ((wrap width ((hintLine hints).glyphs look)).length - 1)
  rw [Nat.sub_add_cancel hpos] at hroom
  rw [hroom]
  rcases htotal with htotal | ⟨hnone, hrows⟩
  · -- All rows but the last one, if they were full, against all that is counted.
    generalize wrap width ((hintLine hints).glyphs look) = rows at *
    have hfirst : (rows.length - 1 = 0 ∨ (rows.length - 1) * width < hintTotal hints) ↔
        (rows.length - 1) * width < hintTotal hints := by
      refine ⟨fun h => h.elim (fun hrow => ?_) id, Or.inr⟩
      rw [hrow, Nat.zero_mul, ← htotal]
      exact Nat.succ_pos _
    rw [hfirst, ← htotal]
    generalize (rows.length - 1) * width = filled at hflat ⊢
    omega
  · have hragged : raggedness width ([[]] : List (List (Glyph Look))) = 0 := rfl
    rw [hrows, hnone, hragged]
    exact ⟨fun _ => by omega, fun _ => Or.inl rfl⟩

/-- They are never short of more than half of the rows. -/
theorem length_wrap_hintLine_le :
    (wrap width ((hintLine hints).glyphs look)).length ≤ 2 * hintRows hints width := by
  have hrows := length_wrap_le ((hintLine hints).glyphs look) hwidth
  rcases columns_hintLine_cases look width hints hone with htotal | ⟨hnone, hone⟩
  · -- The rows that the columns fill are kept free, and one more for the gap.
    have hroom := succ_le_hintRows_iff width hints hwidth hfew
      (columns ((hintLine hints).glyphs look) / width)
    have hfilled := Nat.div_mul_le_self (columns ((hintLine hints).glyphs look)) width
    have := hroom.mpr (Or.inr (by omega))
    omega
  · have hroom := (succ_le_hintRows_iff width hints hwidth hfew 0).mpr (Or.inl rfl)
    rw [hone, List.length_singleton]
    omega

end Rows

end Space

section Tried

variable {Look : Type} (look : Role → Look) (width : Nat)

/-- Where the blanks are in the hints of a page. -/
def hintBlanks (hints : List KeyHint) : List Bool :=
  (hintLine hints).flatMap fun s => s.text.toList.map Text.isBlank

/-- Hints that are broken as their tally says, and the widths at which the rows kept free
    for them are too few. From as many columns as they have characters on they have one row,
    so the widths below can be tried out. -/
structure Tried (hints : List KeyHint) (narrow : List Nat) : Prop where
  glyphs : ((hintLine hints).glyphs fun _ => ()).map (fun g => (g.columns, g.isBlank)) =
    (hintBlanks hints).map (1, ·)
  word : false ∈ hintBlanks hints
  few : hintTotal hints ≤ 65535
  wide : ∀ width ∈ narrow, width < (hintBlanks hints).length
  below : ∀ width ∈ List.range' 1 (hintBlanks hints).length,
    max (({} : Tally).rows width (hintBlanks hints)) 1 ≤ hintRows hints width ↔ width ∉ narrow

variable {hints : List KeyHint} {narrow : List Nat} (h : Tried hints narrow)

include h

theorem glyphs_of_tried : (∀ g ∈ (hintLine hints).glyphs look, g.columns = 1) ∧
    ((hintLine hints).glyphs look).map Glyph.isBlank = hintBlanks hints := by
  have hpairs : ((hintLine hints).glyphs look).map (fun g => (g.columns, g.isBlank)) =
      (hintBlanks hints).map (1, ·) := by
    -- What was worked out without looks is so for all looks.
    have hplain := h.glyphs
    have hlook : (fun _ : Role => ()) = (fun _ => ()) ∘ look := rfl
    rw [hlook, ← glyphs_restyle (fun _ => ()) look (hintLine hints), List.map_map] at hplain
    exact hplain
  refine ⟨fun g hg => ?_, ?_⟩
  · have hmem : (g.columns, g.isBlank) ∈ (hintBlanks hints).map (1, ·) := by
      rw [← hpairs]
      exact List.mem_map_of_mem hg
    rcases List.mem_map.mp hmem with ⟨blank, -, hblank⟩
    exact (congrArg Prod.fst hblank).symm
  · have hblanks := congrArg (List.map Prod.snd) hpairs
    rw [List.map_map, List.map_map] at hblanks
    exact hblanks.trans (List.map_id _)

/-- The widths at which the rows are too few are those that were found by trying. -/
theorem length_wrap_le_iff_of_tried (hwidth : 0 < width) :
    (wrap width ((hintLine hints).glyphs look)).length ≤ hintRows hints width ↔
      width ∉ narrow := by
  rcases glyphs_of_tried look h with ⟨hone, hblanks⟩
  by_cases htried : width ≤ (hintBlanks hints).length
  · rw [length_wrap_eq_tally width _ hwidth hone, hblanks]
    exact h.below width (List.mem_range'_1.mpr ⟨hwidth, by omega⟩)
  · -- All hints fit into one row, and a row is always kept free.
    have hlength : ((hintLine hints).glyphs look).length = (hintBlanks hints).length := by
      rw [← hblanks, List.length_map]
    have hword : words ((hintLine hints).glyphs look) ≠ [] := by
      rcases List.mem_map.mp (hblanks ▸ h.word) with ⟨g, hg, hblank⟩
      exact words_ne_nil g _ hg hblank
    have hrow : (wrap width ((hintLine hints).glyphs look)).length = 1 := by
      rw [wrap_of_fits _ hwidth ?_ ?_ hword, List.length_singleton]
      · rw [columns_eq_length _ hone, hlength]
        omega
      · intro last hlast
        rw [hone last (List.mem_of_getLast? hlast)]
        exact Nat.one_pos
    have hfew : hintTotal hints ≤ 65535 * width := by
      have := h.few
      omega
    have hroom := (succ_le_hintRows_iff width hints hwidth hfew 0).mpr (Or.inl rfl)
    have hwide : width ∉ narrow := fun hnarrow => by
      have := h.wide width hnarrow
      omega
    rw [hrow]
    exact ⟨fun _ => hwide, fun _ => hroom⟩

end Tried

/-- The widths at which hints of the project list are cut off. -/
def narrowForDashboard : List Nat :=
  [4, 5, 6, 7, 8, 10, 11, 13, 14, 15, 21, 25, 29, 30]

/-- The widths at which hints of the page of a project are cut off. -/
def narrowForDetail : List Nat :=
  [4, 5, 6, 7, 12, 13, 14, 15, 16, 17, 24, 25]

theorem tried_dashboardHints : Tried dashboardHints narrowForDashboard where
  glyphs := by decide +kernel
  word := by decide +kernel
  few := by decide
  wide := by decide +kernel
  below := by decide +kernel

theorem tried_detailHints : Tried detailHints narrowForDetail where
  glyphs := by decide +kernel
  word := by decide +kernel
  few := by decide
  wide := by decide +kernel
  below := by decide +kernel

end Screen

open Screen

variable {Look : Type} (looks : Looks Look) (layout : Layout) (b : Board) (hints : List KeyHint)
  (width height : Nat)

/-- Every row of the hints is among the last rows of the screen. -/
def Board.ShowsHints : Prop :=
  ∀ i < (wrap width ((hintLine hints).glyphs looks.look)).length,
    (b.draw looks layout width height)[height - hintRows hints width + i]? =
      some (paintRow looks.look width
        ((wrap width ((hintLine hints).glyphs looks.look))[i]?.getD []))

/-- Where the rows kept free are the last ones of the screen and show the first rows of the
    hints, all of these are shown if no others are needed. -/
theorem Board.showsHints_iff (hroom : hintRows hints width ≤ height)
    (hdrawn : ∀ i < hintRows hints width,
      (b.draw looks layout width height)[height - hintRows hints width + i]? =
        some (paintRow looks.look width
          ((wrap width ((hintLine hints).glyphs looks.look))[i]?.getD []))) :
    b.ShowsHints looks layout hints width height ↔
      (wrap width ((hintLine hints).glyphs looks.look)).length ≤ hintRows hints width := by
  refine ⟨fun hall => Nat.le_of_not_lt fun hmore => ?_, fun hfew i hi => hdrawn i (by omega)⟩
  -- The first row too many would stand below the screen.
  have hlength := b.length_draw looks layout width height
  have hbelow := hall _ hmore
  rw [Nat.sub_add_cancel hroom, List.getElem?_eq_none (Nat.le_of_eq hlength)] at hbelow
  exact absurd hbelow.symm (Option.some_ne_none _)

/-- **The rows kept free for the hints.** For hints of characters with one column each and
    every width no glyph of a word that fits is lost when they are broken. As long as their
    characters do not fill more rows than are counted in 16 bits, the rows needed are at
    most twice as many as are kept free, and they are no more than are kept free exactly if
    the columns left free at the end of the rows, but for the last one, are fewer than the
    columns of the last row, those of the blanks that are dropped at the breaks and the two
    of the gap that is counted behind the last hint. So on a screen that has a row for the
    list, or for the facts, all hints of the page are shown except at 14 widths for the list
    of projects and at 12 for the page of a project. -/
theorem Board.hints_are_shown_unless_ragged (hwidth : 0 < width) :
    (∀ hints, OneColumnHints hints →
      let gs := (hintLine hints).glyphs looks.look
      let rows := wrap width gs
      words rows.flatten = words (fitting width gs) ∧
        (hintTotal hints ≤ 65535 * width →
          rows.length ≤ 2 * hintRows hints width ∧
            (rows.length ≤ hintRows hints width ↔
              raggedness width rows <
                columns (rows.getLastD []) + (columns gs - columns rows.flatten : Nat) + 2))) ∧
      (∀ (b : Board) (height : Nat), b.page = .dashboard → b.helpShown = false →
        2 + (dashboardFooter b width).length + hintRows dashboardHints width < height →
          (b.ShowsHints looks layout dashboardHints width height ↔
            width ∉ narrowForDashboard)) ∧
      ∀ (b : Board) (page : DetailPage) (height : Nat), b.page = .detail page →
        b.helpShown = false → 2 + (1 + hintRows detailHints width) < height →
          (b.ShowsHints looks layout detailHints width height ↔ width ∉ narrowForDetail) := by
  refine ⟨fun hints hone => ⟨words_wrap _, fun hfew =>
    ⟨length_wrap_hintLine_le looks.look width hints hone hwidth hfew,
      length_wrap_hintLine_le_iff looks.look width hints hone hwidth hfew⟩⟩, ?_, ?_⟩
  · intro b height hpage hhelp htall
    rw [b.showsHints_iff looks layout _ width height (by omega)
      (draw_dashboard_hint width height looks layout b hpage hhelp htall)]
    exact length_wrap_le_iff_of_tried looks.look width tried_dashboardHints hwidth
  · intro b page height hpage hhelp htall
    rw [b.showsHints_iff looks layout _ width height (by omega)
      (draw_detail_hint width height looks layout b page hpage hhelp htall)]
    exact length_wrap_le_iff_of_tried looks.look width tried_detailHints hwidth

/-- At 80 columns all hints of the list of projects are shown, in two rows. -/
theorem Board.hints_are_shown_at_eighty :
    let b : Board := {}
    0 < 80 ∧ OneColumnHints dashboardHints ∧ hintTotal dashboardHints ≤ 65535 * 80 ∧
      (wrap 80 ((hintLine dashboardHints).glyphs Theme.plain.style)).length ≤
        2 * hintRows dashboardHints 80 ∧
      2 + (dashboardFooter b 80).length + hintRows dashboardHints 80 < 24 ∧
      b.ShowsHints Theme.plain.looks .inOrder dashboardHints 80 24 := by
  intro b
  have hwidth : 0 < 80 := by decide
  have hone : OneColumnHints dashboardHints := by
    unfold OneColumnHints
    decide +kernel
  have hfew : hintTotal dashboardHints ≤ 65535 * 80 := by decide
  have htall : 2 + (dashboardFooter b 80).length + hintRows dashboardHints 80 < 24 := by
    decide
  rcases hints_are_shown_unless_ragged Theme.plain.looks .inOrder 80 hwidth with
    ⟨hrows, hlist, -⟩
  exact ⟨hwidth, hone, hfew, ((hrows _ hone).2 hfew).1, htall,
    (hlist b 24 rfl rfl htall).mpr (by decide)⟩

/-- At 30 columns no word is too long for a row, but the hints of the list of projects need
    six rows and have five: that a key quits is not shown, with any layout. -/
theorem Board.last_hint_is_cut_off :
    let b : Board := {}
    OneColumnHints dashboardHints ∧
      (∀ h ∈ dashboardHints, h.key.length ≤ 30 ∧ h.action.length ≤ 30) ∧
      hintRows dashboardHints 30 = 5 ∧
      (wrap 30 ((hintLine dashboardHints).glyphs Theme.plain.style)).length = 6 ∧
      ((wrap 30 ((hintLine dashboardHints).glyphs Theme.plain.style))[5]?.map fun row =>
        String.ofList (row.flatMap Glyph.symbol)) = some "quit" ∧
      ∀ layout, ¬ b.ShowsHints Theme.plain.looks layout dashboardHints 30 24 := by
  intro b
  have hrows : (wrap 30 ((hintLine dashboardHints).glyphs Theme.plain.style)).length = 6 := by
    decide +kernel
  have hkept : hintRows dashboardHints 30 = 5 := by decide
  have htall : 2 + (dashboardFooter b 30).length + hintRows dashboardHints 30 < 24 := by decide
  refine ⟨by unfold OneColumnHints; decide +kernel, by decide, hkept, hrows, by decide +kernel,
    fun layout => ?_⟩
  rw [b.showsHints_iff Theme.plain.looks layout _ 30 24 (by omega)
    (draw_dashboard_hint 30 24 Theme.plain.looks layout b rfl rfl htall)]
  have hlook : Theme.plain.looks.look = Theme.plain.style := rfl
  rw [hlook, hrows, hkept]
  decide

end FleetBoard
