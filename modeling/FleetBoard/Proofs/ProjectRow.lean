import FleetBoard.Proofs.OneColumn
import FleetBoard.Screen.Dashboard

/-!
# Rows of the Project List

The columns of the list are worked out from the longest name and the width of the screen,
and every text is cut or filled up to its column. So all rows put the status and the type
of a project into the same columns, and what is cut away is marked. What is left for the
address is the rest of the screen but for one column, and on a narrow screen the names have
a quarter of it at most, which leaves enough for the rest from 35 columns on.

## Main definitions

* `Text.ShownAs`: A text in full, or its beginning with a mark.
* `rowHead`, `statusSpan`: A row in front of the status, and the status.

## Theorems

* `fit_shownAs`: What is cut is marked.
* `nameColumns_bounds`: The width of the column of names.
* `columns_projectLine`: The columns of a row.
* `project_rows_fit`: No row is too long for the screen.
-/

namespace FleetBoard

namespace Text

/-- A text in full, or a beginning of it with an ellipsis behind. -/
def ShownAs (full shown : String) : Prop :=
  shown = full ∨ ∃ n < full.length, shown.toList = full.toList.take n ++ [ellipsis]

/-- What is cut is marked, where there is room for the mark. -/
theorem fit_shownAs (room : Nat) (s : String) (hroom : 0 < room) : ShownAs s (fit room s) := by
  by_cases hfits : s.length ≤ room
  · rw [fit, if_pos hfits]
    exact Or.inl rfl
  · rw [fit, if_neg hfits, if_neg (by omega), ShownAs, String.toList_ofList]
    exact Or.inr ⟨room - 1, by omega, rfl⟩

end Text

namespace Screen

open Text

section Columns

variable (projects : List Project) (width : Nat)

theorem le_foldl_max (lengths : List Nat) (n : Nat) : n ≤ lengths.foldl max n := by
  induction lengths generalizing n with
  | nil => exact Nat.le_refl n
  | cons m lengths ih => exact Nat.le_trans (Nat.le_max_left n m) (ih (max n m))

/-- On a narrow screen the names have a quarter of it, or 8 columns, and on another one a
    third of it. -/
theorem nameColumns_bounds (hwidth : 35 ≤ width) :
    8 ≤ nameColumns projects width ∧
      nameColumns projects width ≤ if isNarrow width then width / 4 else width / 3 := by
  have hsixteen := le_foldl_max (projects.map fun p => p.name.length) 16
  rw [nameColumns]
  -- The longest name counts as 16 characters at least, so only the screen limits it below.
  generalize (projects.map fun p => p.name.length).foldl max 16 = longest at hsixteen
  cases hnarrow : isNarrow width with
  | true =>
      rw [if_pos rfl, if_pos rfl]
      omega
  | false =>
      have hwide : 60 ≤ width := by
        rw [isNarrow, decide_eq_false_iff_not] at hnarrow
        omega
      rw [if_neg Bool.false_ne_true, if_neg Bool.false_ne_true]
      omega

end Columns

/-- The status of a project in its row. -/
def statusSpan (t : Theme) (p : Project) : Span :=
  ⟨t.icon p.status ++ " " ++ pad statusColumns p.status.label, Role.ofState p.status⟩

/-- A row in front of the status, with a name as it is shown. -/
def rowHead (selected : Bool) (names : Nat) (name : String) : Line :=
  [⟨if selected then cursorMarker else "  ", .accent⟩,
    ⟨pad names name, if selected then .selection else .text⟩, ⟨" ", .bare⟩]

section Rows

variable {Look : Type} (look : Role → Look) (t : Theme) (p : Project) (selected : Bool)
  (width names : Nat)

/-- A text that is cut and filled up to its column. -/
theorem padded_spec (room : Nat) (s : String) (hone : OneColumnEach s) :
    OneColumnEach (pad room (fit room s)) ∧ (pad room (fit room s)).length = room := by
  have hlength := fit_length_le room s
  refine ⟨oneColumnEach_pad _ room (oneColumnEach_fit s room hone), ?_⟩
  rw [length_pad]
  omega

theorem statusSpan_spec :
    OneColumnEach (statusSpan t p).text ∧ (statusSpan t p).text.length = 12 := by
  have htext : ∀ state : RunState,
      OneColumnEach (t.icon state ++ " " ++ pad statusColumns state.label) ∧
        (t.icon state ++ " " ++ pad statusColumns state.label).length = 12 := by
    intro state
    cases t <;> cases state <;> decide +kernel
  exact htext p.status

theorem marker_spec : OneColumnEach (if selected then cursorMarker else "  ") ∧
    (if selected then cursorMarker else "  ").length = 2 := by
  cases selected <;> decide +kernel

/-- The name ends 3 columns behind the width of its column. -/
theorem columns_rowHead (hname : OneColumnEach p.name) :
    columns ((rowHead selected names (fit names p.name)).glyphs look) = names + 3 := by
  have hmarker := marker_spec selected
  have hpadded := padded_spec names p.name hname
  have hgap : OneColumnEach " " := by decide +kernel
  rw [columns_line_eq_sum look]
  · simp only [rowHead, List.map_cons, List.map_nil, List.sum_cons, List.sum_nil, hmarker.2,
      hpadded.2]
    have hone : " ".length = 1 := rfl
    omega
  · simp only [rowHead, List.forall_mem_cons]
    exact ⟨hmarker.1, hpadded.1, hgap, fun _ h => absurd h List.not_mem_nil⟩

/-- The status takes 12 columns, whatever it is. -/
theorem columns_statusSpan : columns (Line.glyphs look [statusSpan t p]) = 12 := by
  have hstatus := statusSpan_spec t p
  rw [columns_span look (statusSpan t p) hstatus.1, hstatus.2]

theorem columns_kind (hkind : OneColumnEach p.kind) :
    columns (Line.glyphs look [⟨pad typeColumns (fit typeColumns p.kind), .dim⟩]) = 12 := by
  have hpadded := padded_spec typeColumns p.kind hkind
  have hspan := columns_span look ⟨pad typeColumns (fit typeColumns p.kind), .dim⟩ hpadded.1
  exact hspan.trans hpadded.2

/-- There is no address, or it is shown behind a gap, on a screen that is not narrow. -/
theorem urlSpans_cases : urlSpans p width names = [] ∨
    (isNarrow width = false ∧ 10 < urlRoom width names ∧
      urlSpans p width names = [⟨"  ", .bare⟩, ⟨fit (urlRoom width names) p.url, .accent⟩]) := by
  rw [urlSpans]
  split
  · rename_i hshown
    simp only [Bool.and_eq_true, Bool.not_eq_true', decide_eq_true_eq] at hshown
    exact Or.inr ⟨hshown.1.1.1, hshown.2, rfl⟩
  · exact Or.inl rfl

/-- The address takes what is left of the screen at most, with the gap in front of it. -/
theorem columns_url_le (room : Nat) (hurl : OneColumnEach p.url) :
    columns (Line.glyphs look [⟨"  ", .bare⟩, ⟨fit room p.url, .accent⟩]) ≤ 2 + room := by
  have hlength := fit_length_le room p.url
  have hgap : OneColumnEach "  " := by decide +kernel
  have htwo : "  ".length = 2 := rfl
  rw [columns_line_eq_sum look]
  · simp only [List.map_cons, List.map_nil, List.sum_cons, List.sum_nil]
    omega
  · simp only [List.forall_mem_cons]
    exact ⟨hgap, oneColumnEach_fit _ _ hurl, fun _ h => absurd h List.not_mem_nil⟩

/-- From 35 columns on the row of a project is no longer than the screen. -/
theorem columns_projectLine_le (hwidth : 35 ≤ width) (hsome : 8 ≤ names)
    (hmost : names ≤ if isNarrow width then width / 4 else width / 3)
    (hname : OneColumnEach p.name) (hkind : OneColumnEach p.kind) (hurl : OneColumnEach p.url) :
    columns ((projectLine t.icon p selected width names).glyphs look) ≤ width := by
  have hparts : columns ((projectLine t.icon p selected width names).glyphs look) =
      names + 27 + columns (Line.glyphs look (urlSpans p width names)) := by
    have hline : projectLine t.icon p selected width names =
        rowHead selected names (fit names p.name) ++ [statusSpan t p] ++
          [⟨pad typeColumns (fit typeColumns p.kind), .dim⟩] ++ urlSpans p width names := rfl
    rw [hline, glyphs_append, glyphs_append, glyphs_append, columns_append, columns_append,
      columns_append, columns_rowHead look p selected names hname, columns_statusSpan,
      columns_kind look p hkind]
  rw [hparts]
  rcases urlSpans_cases p width names with hnone | ⟨hwide, hroom, hurls⟩
  · -- Without an address only the column of names varies.
    rw [hnone]
    have hcolumns : columns (Line.glyphs look []) = 0 := rfl
    rw [hcolumns]
    cases hnarrow : isNarrow width with
    | true =>
        rw [hnarrow, if_pos rfl] at hmost
        omega
    | false =>
        rw [isNarrow, decide_eq_false_iff_not] at hnarrow
        have hthird : names ≤ width / 3 := by
          split at hmost <;> omega
        omega
  · -- The address takes all the other columns but one.
    have hle := columns_url_le look p (urlRoom width names) hurl
    rw [hurls]
    have hall : names + statusColumns + typeColumns + 8 = names + 30 := rfl
    rw [urlRoom, hall] at hroom hle
    rw [urlRoom, hall]
    omega

end Rows

section Clipping

variable {Look : Type} (gs : List (Glyph Look))

theorem clipFrom_of_fits (room : Nat) (hfits : columns gs ≤ room) : clipFrom room gs = gs := by
  induction gs generalizing room with
  | nil => rfl
  | cons g gs ih =>
      rw [columns_cons] at hfits
      rw [clipFrom, if_pos (by omega), ih _ (by omega)]

/-- Glyphs that fit are not clipped. -/
theorem clip_of_fits (width : Nat) (hfits : columns gs ≤ width) : clip width gs = gs := by
  have hall : gs.filter (fun g => g.columns ≤ width) = gs := by
    rw [List.filter_eq_self]
    intro g hg
    have hcolumns := columns_le_of_mem g gs hg
    exact decide_eq_true (by omega)
  rw [clip, hall, clipFrom_of_fits gs width hfits]

end Clipping

end Screen

open Screen

variable {Look : Type} (look : Role → Look) (t : Theme) (projects : List Project) (width : Nat)

/-- **Rows of the project list.** Let the names, the types and the addresses of some projects
    have characters of one column each, and let the screen have 35 columns at least. Then the
    row of every project, in every theme, whatever its status and whether it is selected, is
    no longer than the screen, so nothing of it is clipped. The status begins behind the column
    of names and the type 12 columns further on, the same in all rows. The name, the type and
    the address, if it is there, are shown in full or with an ellipsis behind their beginning. -/
theorem project_rows_fit (hwidth : 35 ≤ width)
    (hone : ∀ p ∈ projects, Text.OneColumnEach p.name ∧ Text.OneColumnEach p.kind ∧
      Text.OneColumnEach p.url) :
    ∀ p ∈ projects, ∀ selected : Bool,
      let names := nameColumns projects width
      let row := projectLine t.icon p selected width names
      columns (row.glyphs look) ≤ width ∧ clip width (row.glyphs look) = row.glyphs look ∧
        ∃ (name kind : String) (urls : Line),
          row = rowHead selected names name ++ [statusSpan t p] ++
            [⟨Text.pad typeColumns kind, .dim⟩] ++ urls ∧
          columns ((rowHead selected names name).glyphs look) = names + 3 ∧
          columns ((rowHead selected names name ++ [statusSpan t p]).glyphs look) = names + 15 ∧
          Text.ShownAs p.name name ∧ Text.ShownAs p.kind kind ∧
          (urls = [] ∨ ∃ url, urls = [⟨"  ", .bare⟩, ⟨url, .accent⟩] ∧ Text.ShownAs p.url url) := by
  intro p hp selected names row
  rcases hone p hp with ⟨hname, hkind, hurl⟩
  rcases nameColumns_bounds projects width hwidth with ⟨hsome, hmost⟩
  have hhead := columns_rowHead look p selected names hname
  have hfits := columns_projectLine_le look t p selected width names hwidth hsome hmost hname hkind
    hurl
  refine ⟨hfits, clip_of_fits _ width hfits, Text.fit names p.name, Text.fit typeColumns p.kind,
    urlSpans p width names, rfl, hhead, ?_, Text.fit_shownAs names p.name (by omega),
    Text.fit_shownAs typeColumns p.kind (by decide), ?_⟩
  · rw [glyphs_append, columns_append, hhead, columns_statusSpan]
  · rcases urlSpans_cases p width names with hnone | ⟨-, hroom, hurls⟩
    · exact Or.inl hnone
    · exact Or.inr ⟨_, hurls, Text.fit_shownAs _ p.url (by omega)⟩

/-- On a screen of 35 columns a name of 19 characters is cut, and its row fits. -/
theorem long_name_fits :
    let shop : Project := ⟨"shop", .running, "php", "https://shop.site", ⟨"/srv/shop"⟩⟩
    let store : Project := ⟨"storefront-staging2", .stopped, "typo3", "", ⟨"/srv/store"⟩⟩
    35 ≤ 35 ∧ (∀ p ∈ [shop, store], Text.OneColumnEach p.name ∧ Text.OneColumnEach p.kind ∧
      Text.OneColumnEach p.url) ∧ store ∈ [shop, store] ∧
      columns ((projectLine Theme.plain.icon store true 35
        (nameColumns [shop, store] 35)).glyphs id) ≤ 35 := by
  intro shop store
  have hone : ∀ p ∈ [shop, store], Text.OneColumnEach p.name ∧ Text.OneColumnEach p.kind ∧
      Text.OneColumnEach p.url := by
    decide +kernel
  have hstore : store ∈ [shop, store] := List.mem_cons_of_mem _ (List.mem_singleton.mpr rfl)
  exact ⟨by decide, hone, hstore,
    (project_rows_fit id .plain [shop, store] 35 (by decide) hone store hstore true).1⟩

end FleetBoard
