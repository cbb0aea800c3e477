import FleetBoard.Screen.Wrap

/-!
# Breaking Lines

What becomes of a line that is broken at a width. The breaking reads one glyph after
another and keeps a row pending, so what one glyph can do is said once, by `Takes`: it is
left out, it is added to the pending row, or it finishes the row, and then it either begins
the next one or is the blank that is dropped at the break. Everything else is an induction
over the glyphs that looks at these four cases.

Three things are counted. A row of glyphs with one column each is never wider than the
width. A line that fits is not broken at all. And a line never has more than about twice
the rows that its columns would fill: when a row is finished, what was pending reaches the
width, so of two rows in a row the second one has at least what the first one was short of.
This is what `assured` keeps track of, the columns that the next row has in any case.

## Main definitions

* `Pending.held`: The glyphs that are pending.
* `Pending.assured`: The columns that the next row has at least.
* `Pending.Orderly`: Blanks and words are told apart.
* `Takes`: What a glyph does to the pending row.
* `words`, `fitting`: The glyphs that are no blanks, and those that are not too wide.

## Theorems

* `held_of_takes`, `columns_of_takes`: Where the glyphs go, and how many columns they take.
* `columns_le_of_mem_wrap`: No row is wider than the width.
* `columns_flatten_wrap_le`: The rows have no more columns than the line.
* `words_wrap`: No glyph of a word is lost.
* `wrap_of_fits`, `length_wrap_eq_one_iff`: Lines that are not broken.
* `length_wrap_le`: The rows of a line are at most about twice as many as it fills.
-/

namespace FleetBoard

namespace Screen

variable {Look : Type}

section Columns

variable (g : Glyph Look) (gs hs : List (Glyph Look))

@[simp] theorem columns_nil : columns ([] : List (Glyph Look)) = 0 :=
  rfl

@[simp] theorem columns_cons : columns (g :: gs) = g.columns + columns gs :=
  rfl

@[simp] theorem columns_append : columns (gs ++ hs) = columns gs + columns hs := by
  induction gs with
  | nil => simp only [List.nil_append, columns_nil, Nat.zero_add]
  | cons g gs ih =>
      simp only [List.cons_append, columns_cons, ih]
      omega

theorem columns_le_of_mem (hg : g ∈ gs) : g.columns ≤ columns gs := by
  induction gs with
  | nil => exact absurd hg List.not_mem_nil
  | cons h gs ih =>
      rw [columns_cons]
      rcases List.mem_cons.mp hg with hg | hg
      · rw [hg]
        omega
      · have hrest := ih hg
        omega

theorem columns_pos (hne : gs ≠ []) (hone : ∀ g ∈ gs, 0 < g.columns) : 0 < columns gs := by
  cases gs with
  | nil => exact absurd rfl hne
  | cons g gs =>
      have hg := hone g List.mem_cons_self
      rw [columns_cons]
      omega

/-- The glyphs of words, without the blanks between them. -/
def words (gs : List (Glyph Look)) : List (Glyph Look) :=
  gs.filter fun g => !g.isBlank

/-- The glyphs that are no wider than a row. -/
def fitting (width : Nat) (gs : List (Glyph Look)) : List (Glyph Look) :=
  gs.filter fun g => g.columns ≤ width

theorem words_append : words (gs ++ hs) = words gs ++ words hs :=
  List.filter_append gs hs

theorem words_ne_nil (hg : g ∈ gs) (h : g.isBlank = false) : words gs ≠ [] :=
  List.ne_nil_of_mem (List.mem_filter.mpr ⟨hg, by rw [h]; rfl⟩)

theorem words_of_blanks (h : ∀ g ∈ gs, g.isBlank = true) : words gs = [] := by
  rw [words, List.filter_eq_nil_iff]
  intro g hg
  rw [h g hg]
  exact Bool.false_ne_true

end Columns

namespace Pending

variable (width : Nat) (g : Glyph Look) (p : Pending Look)

/-- The glyphs that are pending, in their order. -/
def held (p : Pending Look) : List (Glyph Look) :=
  p.row ++ p.blanks ++ p.word

/-- The columns that the next row has at least: those that are in it for good, or all
    that are pending while there are none, since they are settled together. -/
def assured (p : Pending Look) : Nat :=
  if p.row.isEmpty then p.taken else columns p.row

/-- What is pending is sorted into blanks and a word, and where there is a word it is
    still being read. -/
structure Orderly (p : Pending Look) : Prop where
  blanks : ∀ g ∈ p.blanks, g.isBlank = true
  word : ∀ g ∈ p.word, g.isBlank = false
  reading : p.word ≠ [] → p.inWord = true

theorem columns_held : columns p.held = p.taken := by
  simp only [held, columns_append, taken]

theorem assured_le_taken : p.assured ≤ p.taken := by
  unfold assured taken
  split <;> omega

theorem assured_of_row (h : p.row ≠ []) : p.assured = columns p.row := by
  rw [assured, if_neg (by rw [List.isEmpty_iff]; exact h)]

theorem assured_of_no_row (h : p.row = []) : p.assured = p.taken := by
  rw [assured, if_pos (by rw [List.isEmpty_iff]; exact h)]

theorem orderly_start : ({} : Pending Look).Orderly :=
  ⟨fun _ h => absurd h List.not_mem_nil, fun _ h => absurd h List.not_mem_nil,
    fun h => absurd rfl h⟩

section Settle

/-- The pending row with everything in it for good. -/
def settled (p : Pending Look) : Pending Look :=
  { p with row := p.held, blanks := [], word := [] }

/-- Before a glyph everything pending is settled, or nothing is: then no word ends here,
    and a row that is still empty has room for the glyph. -/
theorem settle_cases :
    p.settle width g = p.settled ∨
      (p.settle width g = p ∧ (p.inWord = true → g.isBlank = false) ∧
        (p.row = [] → p.taken + g.columns ≤ width)) := by
  unfold settle
  split
  · exact Or.inl rfl
  · rename_i hnot
    rw [Bool.or_eq_true, Bool.and_eq_true, Bool.and_eq_true, decide_eq_true_eq, not_or] at hnot
    refine Or.inr ⟨rfl, fun hin => ?_, fun hrow => ?_⟩
    · cases hg : g.isBlank with
      | false => rfl
      | true => exact absurd ⟨hin, hg⟩ hnot.1
    · have hroom := hnot.2
      rw [hrow, List.isEmpty_nil, eq_self, true_and, Nat.not_lt] at hroom
      simp only [taken, hrow, columns_nil]
      omega

theorem held_settle : (p.settle width g).held = p.held := by
  rcases settle_cases width g p with h | ⟨h, -⟩
  · rw [h]
    simp only [settled, held, List.append_nil]
  · rw [h]

theorem taken_settle : (p.settle width g).taken = p.taken := by
  rw [← columns_held, held_settle, columns_held]

theorem assured_le_settle : p.assured ≤ (p.settle width g).assured := by
  rcases settle_cases width g p with h | ⟨h, -⟩
  · -- The row that is settled has everything that was pending.
    have hrow : columns p.settled.row = p.taken := columns_held p
    have htaken : p.settled.taken = p.taken := by rw [← h, taken_settle]
    rw [h]
    by_cases hnone : p.settled.row = []
    · rw [p.settled.assured_of_no_row hnone, htaken]
      exact p.assured_le_taken
    · rw [p.settled.assured_of_row hnone, hrow]
      exact p.assured_le_taken
  · exact Nat.le_of_eq (congrArg assured h.symm)

theorem orderly_settle (h : p.Orderly) : (p.settle width g).Orderly := by
  rcases settle_cases width g p with hs | ⟨hs, -⟩
  · rw [hs]
    exact ⟨fun _ h => absurd h List.not_mem_nil, fun _ h => absurd h List.not_mem_nil,
      fun h => absurd rfl h⟩
  · rw [hs]
    exact h

/-- A blank ends the word before it. -/
theorem word_settle_of_blank (h : p.Orderly) (hg : g.isBlank = true) :
    (p.settle width g).word = [] := by
  rcases settle_cases width g p with hs | ⟨hs, hreading, -⟩
  · rw [hs]
    rfl
  · rw [hs]
    refine Decidable.byContradiction fun hword => ?_
    rw [hreading (h.reading hword)] at hg
    exact Bool.false_ne_true hg

/-- A row that is finished has something in it: an empty one would have been settled
    first. -/
theorem row_ne_nil_of_isFinished (hwidth : 0 < width)
    (hfull : (p.settle width g).isFinished width g = true) : (p.settle width g).row ≠ [] := by
  intro hempty
  rw [isFinished, Bool.or_eq_true, Bool.and_eq_true, decide_eq_true_eq, decide_eq_true_eq,
    decide_eq_true_eq, hempty, columns_nil, taken_settle] at hfull
  rcases settle_cases width g p with hs | ⟨hs, -, hroom⟩
  · -- Settled and still empty means that nothing was pending.
    rw [hs] at hempty
    have hnone : p.taken = 0 := by
      rw [← columns_held]
      exact congrArg columns hempty
    omega
  · rw [hs] at hempty
    have := hroom hempty
    omega

end Settle

section Add

theorem taken_add : (p.add g).taken = p.taken + g.columns := by
  unfold add taken
  split <;> simp only [columns_append, columns_cons, columns_nil] <;> omega

theorem row_add : (p.add g).row = p.row := by
  unfold add
  split <;> rfl

theorem assured_le_add : p.assured ≤ (p.add g).assured := by
  unfold assured
  rw [row_add, taken_add]
  split <;> omega

/-- A glyph is added behind everything else. -/
theorem held_add (h : g.isBlank = true → p.word = []) : (p.add g).held = p.held ++ [g] := by
  unfold add held
  split
  · rename_i hblank
    simp only [h hblank, List.append_nil, List.append_assoc]
  · simp only [List.append_assoc]

theorem orderly_add (h : p.Orderly) (hword : g.isBlank = true → p.word = []) :
    (p.add g).Orderly := by
  unfold add
  split
  · rename_i hblank
    refine ⟨fun x hx => ?_, h.word, fun hne => absurd (hword hblank) hne⟩
    rcases List.mem_append.mp hx with hx | hx
    · exact h.blanks x hx
    · rw [List.mem_singleton.mp hx]
      exact hblank
  · rename_i hsolid
    refine ⟨h.blanks, fun x hx => ?_, fun _ => rfl⟩
    rcases List.mem_append.mp hx with hx | hx
    · exact h.word x hx
    · rw [List.mem_singleton.mp hx]
      exact Bool.eq_false_iff.mpr hsolid

end Add

section NextRow

/-- What is left of some glyphs is their end. -/
theorem dropBlanks_suffix (room : Nat) (gs : List (Glyph Look)) :
    ∃ dropped, dropped ++ dropBlanks room gs = gs := by
  induction gs generalizing room with
  | nil => exact ⟨[], rfl⟩
  | cons g gs ih =>
      unfold dropBlanks
      split
      · rcases ih (room - g.columns) with ⟨dropped, hdropped⟩
        exact ⟨g :: dropped, by rw [List.cons_append, hdropped]⟩
      · exact ⟨[], rfl⟩

/-- Of a row that is finished the blanks may be lost, and the rest is still there. -/
theorem held_nextRow : ∃ dropped, (∀ g ∈ dropped, g ∈ p.blanks) ∧
    p.held = p.row ++ dropped ++ (p.nextRow width).held := by
  rcases dropBlanks_suffix (width - columns p.row) p.blanks with ⟨dropped, hdropped⟩
  refine ⟨dropped, fun g hg => ?_, ?_⟩
  · rw [← hdropped]
    exact List.mem_append_left _ hg
  · have hrest : (p.nextRow width).held =
        dropBlanks (width - columns p.row) p.blanks ++ p.word := by
      simp only [held, nextRow, List.nil_append]
    rw [hrest, held, List.append_assoc _ dropped, ← List.append_assoc dropped, hdropped,
      List.append_assoc]

theorem orderly_nextRow (h : p.Orderly) : (p.nextRow width).Orderly := by
  rcases dropBlanks_suffix (width - columns p.row) p.blanks with ⟨dropped, hdropped⟩
  refine ⟨fun g hg => h.blanks g ?_, h.word, h.reading⟩
  rw [← hdropped]
  exact List.mem_append_right _ hg

end NextRow

end Pending

/-- What a glyph does to the pending row, with the rows that are finished by it. Before
    it is looked at what is pending may be settled. -/
inductive Takes (width : Nat) (p : Pending Look) (g : Glyph Look) :
    List (List (Glyph Look)) → Pending Look → Prop
  /-- It is too wide for any row and is left out. -/
  | tooWide (hwide : width < g.columns) : Takes width p g [] p
  /-- There is room for it in the pending row. -/
  | added (hfits : g.columns ≤ width)
      (hopen : (p.settle width g).isFinished width g = false) :
      Takes width p g [] ((p.settle width g).add g)
  /-- It finishes the row and is pending in the next one. -/
  | broken (hfits : g.columns ≤ width)
      (hfull : (p.settle width g).isFinished width g = true) :
      Takes width p g [(p.settle width g).row] (((p.settle width g).nextRow width).add g)
  /-- It is a blank that finishes the row, and no blank before it is left. -/
  | dropped (hfits : g.columns ≤ width)
      (hfull : (p.settle width g).isFinished width g = true) (hblank : g.isBlank = true)
      (hnone : ((p.settle width g).nextRow width).blanks = []) :
      Takes width p g [(p.settle width g).row] ((p.settle width g).nextRow width)

section Steps

variable (width : Nat) (p : Pending Look) (g : Glyph Look) (gs : List (Glyph Look))

/-- The rows from a glyph on are those it finishes, and the rows from the next one on. -/
theorem wrapFrom_cons : ∃ rows p', Takes width p g rows p' ∧
    wrapFrom width p (g :: gs) = rows ++ wrapFrom width p' gs := by
  rw [wrapFrom]
  by_cases hwide : width < g.columns
  · exact ⟨[], p, .tooWide hwide, by rw [if_pos hwide, List.nil_append]⟩
  have hfits : g.columns ≤ width := Nat.le_of_not_lt hwide
  rw [if_neg hwide]
  dsimp only
  cases hfull : (p.settle width g).isFinished width g with
  | false => exact ⟨[], _, .added hfits hfull, by rw [if_neg Bool.false_ne_true, List.nil_append]⟩
  | true =>
      rw [if_pos rfl]
      split
      · rename_i hdrop
        rw [Bool.and_eq_true, List.isEmpty_iff] at hdrop
        exact ⟨_, _, .dropped hfits hfull hdrop.1 hdrop.2, rfl⟩
      · exact ⟨_, _, .broken hfits hfull, rfl⟩

variable {width p g} {rows : List (List (Glyph Look))} {p' : Pending Look}

theorem orderly_of_takes (h : p.Orderly) (htakes : Takes width p g rows p') : p'.Orderly := by
  have hsettle := p.orderly_settle width g h
  have hword : g.isBlank = true → (p.settle width g).word = [] := p.word_settle_of_blank width g h
  cases htakes with
  | tooWide _ => exact h
  | added _ _ => exact Pending.orderly_add g _ hsettle hword
  | broken _ _ => exact Pending.orderly_add g _ (Pending.orderly_nextRow width _ hsettle) hword
  | dropped _ _ _ _ => exact Pending.orderly_nextRow width _ hsettle

/-- Where the glyphs are after one more came: the finished row is in front, blanks may be
    lost behind it, and what is kept stands before the new glyph, unless this is the blank
    that is dropped itself. -/
theorem held_of_takes (h : p.Orderly) (hfits : g.columns ≤ width)
    (htakes : Takes width p g rows p') :
    ∃ lost kept, (∀ x ∈ lost, x.isBlank = true) ∧ p.held = rows.flatten ++ lost ++ kept ∧
      (p'.held = kept ++ [g] ∨ (g.isBlank = true ∧ kept = [] ∧ p'.held = [])) := by
  have hsettle := p.orderly_settle width g h
  have hheld : (p.settle width g).held = p.held := p.held_settle width g
  have hword : g.isBlank = true → (p.settle width g).word = [] := p.word_settle_of_blank width g h
  rcases (p.settle width g).held_nextRow width with ⟨lost, hlost, hnext⟩
  have hblank : ∀ x ∈ lost, x.isBlank = true := fun x hx => hsettle.blanks x (hlost x hx)
  rw [hheld] at hnext
  cases htakes with
  | tooWide hwide => exact absurd hwide (Nat.not_lt_of_le hfits)
  | added _ _ =>
      refine ⟨[], p.held, fun x hx => absurd hx List.not_mem_nil, rfl, Or.inl ?_⟩
      rw [Pending.held_add g _ hword, hheld]
  | broken _ _ =>
      refine ⟨lost, _, hblank, ?_, Or.inl (Pending.held_add g _ hword)⟩
      rw [List.flatten_singleton]
      exact hnext
  | dropped _ _ hg hnone =>
      -- Neither blanks nor a word are left before the blank that is dropped.
      have hempty : ((p.settle width g).nextRow width).held = [] := by
        rw [Pending.held, hnone]
        exact hword hg
      refine ⟨lost, [], hblank, ?_, Or.inr ⟨hg, rfl, hempty⟩⟩
      rw [List.flatten_singleton, hnext, hempty]

/-- A glyph that finishes no row is behind everything else. -/
theorem held_of_no_rows (h : p.Orderly) (hfits : g.columns ≤ width)
    (htakes : Takes width p g [] p') : p'.held = p.held ++ [g] := by
  cases htakes with
  | tooWide hwide => exact absurd hwide (Nat.not_lt_of_le hfits)
  | added _ _ => rw [Pending.held_add g _ (p.word_settle_of_blank width g h), Pending.held_settle]

/-- What a glyph does to the columns. It is added while there is some room, and then
    nothing is lost of what is assured. A row is finished only when what is pending reaches
    the width. It has all that was assured, and what is pending now is what the row did not
    take, less the blanks that are lost. -/
theorem columns_of_takes (hwidth : 0 < width) (htakes : Takes width p g rows p') :
    (rows = [] ∧ p'.taken ≤ p.taken + g.columns ∧ p.assured ≤ p'.assured ∧
      (0 < g.columns → g.columns ≤ width → p.taken < width)) ∨
    ∃ row, rows = [row] ∧ row ≠ [] ∧ p'.row = [] ∧ width ≤ p.taken ∧ columns row ≤ p.taken ∧
      p.assured ≤ columns row ∧ columns row + p'.taken ≤ p.taken + g.columns := by
  have htaken : (p.settle width g).taken = p.taken := p.taken_settle width g
  have hassured : p.assured ≤ (p.settle width g).assured := p.assured_le_settle width g
  -- A row that is finished, and what is left of it.
  have hfinished : (p.settle width g).isFinished width g = true →
      (p.settle width g).row ≠ [] ∧ width ≤ p.taken ∧ columns (p.settle width g).row ≤ p.taken ∧
        p.assured ≤ columns (p.settle width g).row ∧
        columns (p.settle width g).row + ((p.settle width g).nextRow width).taken ≤ p.taken := by
    intro hfull
    have hrow := p.row_ne_nil_of_isFinished width g hwidth hfull
    rcases (p.settle width g).held_nextRow width with ⟨lost, -, hheld⟩
    have hsum := congrArg columns hheld
    simp only [Pending.columns_held, columns_append] at hsum
    rw [Pending.isFinished, Bool.or_eq_true, Bool.and_eq_true, decide_eq_true_eq,
      decide_eq_true_eq, decide_eq_true_eq] at hfull
    rw [Pending.assured_of_row _ hrow] at hassured
    exact ⟨hrow, by omega, by omega, hassured, by omega⟩
  cases htakes with
  | tooWide hwide => exact Or.inl ⟨rfl, by omega, Nat.le_refl _, fun _ hfits => by omega⟩
  | added _ hopen =>
      rw [Pending.isFinished, htaken, Bool.or_eq_false_iff, Bool.and_eq_false_iff,
        decide_eq_false_iff_not, decide_eq_false_iff_not, decide_eq_false_iff_not] at hopen
      refine Or.inl ⟨rfl, ?_, Nat.le_trans hassured (Pending.assured_le_add g _), by omega⟩
      exact Nat.le_of_eq (by rw [Pending.taken_add, htaken])
  | broken _ hfull =>
      rcases hfinished hfull with ⟨hrow, hreach, hle, hmore, hsum⟩
      refine Or.inr ⟨_, rfl, hrow, ?_, hreach, hle, hmore, ?_⟩
      · rw [Pending.row_add]
        rfl
      · rw [Pending.taken_add]
        omega
  | dropped _ hfull _ _ =>
      rcases hfinished hfull with ⟨hrow, hreach, hle, hmore, hsum⟩
      exact Or.inr ⟨_, rfl, hrow, rfl, hreach, hle, hmore, by omega⟩

end Steps

section Flush

variable (p : Pending Look)

/-- The end of a line gives no row, one row with everything that is pending, or, when
    that is blanks only, an empty row before it. -/
theorem flush_cases :
    (p.held = [] ∧ p.flush = []) ∨
    (p.held ≠ [] ∧ (p.row ≠ [] ∨ p.word ≠ []) ∧ p.flush = [p.held]) ∨
    (p.held ≠ [] ∧ p.row = [] ∧ p.word = [] ∧ p.flush = [[], p.held]) := by
  unfold Pending.flush
  dsimp only
  rw [← Pending.held]
  by_cases hheld : p.held = []
  · -- Nothing is pending, so there are no blanks either.
    have hblanks : p.blanks = [] := by
      rw [Pending.held, List.append_eq_nil_iff, List.append_eq_nil_iff] at hheld
      exact hheld.1.2
    refine Or.inl ⟨hheld, ?_⟩
    simp only [hheld, hblanks, List.isEmpty_nil, Bool.not_true, Bool.and_false, Bool.false_eq_true,
      if_false, if_true, List.append_nil]
  right
  by_cases hsolid : p.row ≠ [] ∨ p.word ≠ []
  · refine Or.inl ⟨hheld, hsolid, ?_⟩
    rw [if_neg, if_neg]
    · rfl
    · rwa [List.isEmpty_iff]
    · simp only [Bool.and_eq_true, List.isEmpty_iff]
      exact fun h => hsolid.elim (fun hrow => hrow h.1.1) (fun hword => hword h.1.2)
  · rw [not_or, Decidable.not_not, Decidable.not_not] at hsolid
    refine Or.inr ⟨hheld, hsolid.1, hsolid.2, ?_⟩
    have hblanks : p.blanks ≠ [] := by
      intro hnone
      exact hheld (by rw [Pending.held, hsolid.1, hsolid.2, hnone]; rfl)
    rw [if_pos, if_neg]
    · rfl
    · rwa [List.isEmpty_iff]
    · simp only [Bool.and_eq_true, List.isEmpty_iff, Bool.not_eq_true', List.isEmpty_eq_false_iff]
      exact ⟨hsolid, hblanks⟩

end Flush

section Rows

variable {width : Nat} (p : Pending Look) (gs : List (Glyph Look))

/-- Whatever is pending or in a row after a glyph was pending before it, or is the
    glyph. -/
theorem mem_of_takes {g : Glyph Look} {rows : List (List (Glyph Look))} {p' : Pending Look}
    (h : p.Orderly) (htakes : Takes width p g rows p') (x : Glyph Look)
    (hx : x ∈ rows.flatten ++ p'.held) : x ∈ p.held ++ [g] := by
  by_cases hfits : g.columns ≤ width
  · rcases held_of_takes h hfits htakes with ⟨lost, kept, -, hheld, hp' | ⟨-, -, hp'⟩⟩
    · rw [hp', List.mem_append, List.mem_append] at hx
      simp only [hheld, List.mem_append]
      rcases hx with hx | hx | hx <;> simp only [hx, true_or, or_true]
    · rw [hp', List.append_nil] at hx
      simp only [hheld, List.mem_append, hx, true_or]
  · cases htakes with
    | tooWide _ => exact List.mem_append_left _ hx
    | added hfits' _ => exact absurd hfits' hfits
    | broken hfits' _ => exact absurd hfits' hfits
    | dropped hfits' _ _ _ => exact absurd hfits' hfits

/-- The rows at the end of a line have what is pending. -/
theorem mem_of_mem_flush (row : List (Glyph Look)) (hrow : row ∈ p.flush) :
    row = [] ∨ row = p.held := by
  rcases flush_cases p with ⟨-, hflush⟩ | ⟨-, -, hflush⟩ | ⟨-, -, -, hflush⟩
  · rw [hflush] at hrow
    exact absurd hrow List.not_mem_nil
  · rw [hflush, List.mem_singleton] at hrow
    exact Or.inr hrow
  · rw [hflush, List.mem_cons, List.mem_singleton] at hrow
    exact hrow

/-- Glyphs with one column each are pending, and not more of them than fit. -/
structure Pending.Single (width : Nat) (p : Pending Look) : Prop extends p.Orderly where
  one : ∀ g ∈ p.held, g.columns = 1
  room : p.taken ≤ width

/-- One more glyph with one column finishes no row that is too wide. -/
theorem single_of_takes {g : Glyph Look} {rows : List (List (Glyph Look))} {p' : Pending Look}
    (hwidth : 0 < width) (h : p.Single width) (hg : g.columns = 1)
    (htakes : Takes width p g rows p') :
    p'.Single width ∧ ∀ row ∈ rows, columns row ≤ width := by
  have hone : ∀ x ∈ rows.flatten ++ p'.held, x.columns = 1 := by
    intro x hx
    rcases List.mem_append.mp (mem_of_takes p h.toOrderly htakes x hx) with hx | hx
    · exact h.one x hx
    · rw [List.mem_singleton.mp hx, hg]
  have horderly := orderly_of_takes h.toOrderly htakes
  have hheld : ∀ x ∈ p'.held, x.columns = 1 := fun x hx => hone x (List.mem_append_right _ hx)
  have hroom := h.room
  rcases columns_of_takes hwidth htakes with
    ⟨hrows, hle, -, hopen⟩ | ⟨row, hrows, hne, -, -, hle, -, hsum⟩
  · refine ⟨⟨horderly, hheld, by omega⟩, fun row hrow => ?_⟩
    rw [hrows] at hrow
    exact absurd hrow List.not_mem_nil
  · -- The finished row took a column at least, so the glyph finds room behind it.
    have hpos : 0 < columns row := by
      refine columns_pos row hne fun x hx => ?_
      rw [hone x (by rw [hrows, List.flatten_singleton]; exact List.mem_append_left _ hx)]
      exact Nat.one_pos
    refine ⟨⟨horderly, hheld, by omega⟩, fun other hother => ?_⟩
    rw [hrows, List.mem_singleton] at hother
    rw [hother]
    omega

/-- Of glyphs with one column each no row is wider than the width. -/
theorem columns_le_of_mem_wrapFrom (hwidth : 0 < width) (h : p.Single width)
    (hone : ∀ g ∈ gs, g.columns = 1) : ∀ row ∈ wrapFrom width p gs, columns row ≤ width := by
  induction gs generalizing p with
  | nil =>
      intro row hrow
      have hroom := h.room
      rw [← Pending.columns_held] at hroom
      rcases mem_of_mem_flush p row hrow with hrow | hrow <;> rw [hrow]
      · exact Nat.zero_le _
      · exact hroom
  | cons g gs ih =>
      rcases wrapFrom_cons width p g gs with ⟨rows, p', htakes, hrows⟩
      rcases single_of_takes p hwidth h (hone g List.mem_cons_self) htakes with ⟨hp', hdone⟩
      intro row hrow
      rw [hrows, List.mem_append] at hrow
      rcases hrow with hrow | hrow
      · exact hdone row hrow
      · exact ih p' hp' (fun x hx => hone x (List.mem_cons_of_mem _ hx)) row hrow

/-- The rows have no more columns than what is pending and the rest of the line. -/
theorem columns_flatten_wrapFrom_le (hwidth : 0 < width) :
    columns (wrapFrom width p gs).flatten ≤ p.taken + columns gs := by
  induction gs generalizing p with
  | nil =>
      rw [wrapFrom, ← Pending.columns_held]
      rcases flush_cases p with ⟨-, hflush⟩ | ⟨-, -, hflush⟩ | ⟨-, -, -, hflush⟩ <;>
        simp [hflush]
  | cons g gs ih =>
      rcases wrapFrom_cons width p g gs with ⟨rows, p', htakes, hrows⟩
      have hrest := ih p'
      rw [hrows, List.flatten_append, columns_append, columns_cons]
      rcases columns_of_takes hwidth htakes with
        ⟨hrows, hle, -, -⟩ | ⟨row, hrows, -, -, -, -, -, hsum⟩
      · rw [hrows, List.flatten_nil, columns_nil]
        omega
      · rw [hrows, List.flatten_singleton]
        omega

/-- The glyphs of words are in the rows, in their order, unless they are wider than any
    row. -/
theorem words_wrapFrom (h : p.Orderly) :
    words (wrapFrom width p gs).flatten = words p.held ++ words (fitting width gs) := by
  induction gs generalizing p with
  | nil =>
      rw [wrapFrom]
      rcases flush_cases p with ⟨hheld, hflush⟩ | ⟨-, -, hflush⟩ | ⟨-, -, -, hflush⟩ <;>
        simp [*, words, fitting]
  | cons g gs ih =>
      rcases wrapFrom_cons width p g gs with ⟨rows, p', htakes, hrows⟩
      rw [hrows, List.flatten_append, words_append, ih p' (orderly_of_takes h htakes)]
      by_cases hfits : g.columns ≤ width
      · have hg : fitting width (g :: gs) = [g] ++ fitting width gs :=
          List.filter_cons_of_pos (decide_eq_true hfits)
        rcases held_of_takes h hfits htakes with ⟨lost, kept, hlost, hheld, hp'⟩
        rw [hg, hheld, words_append, words_append, words_append, words_of_blanks lost hlost,
          List.append_nil]
        rcases hp' with hp' | ⟨hblank, hkept, hp'⟩
        · rw [hp', words_append, List.append_assoc, List.append_assoc]
        · have hnone : words [g] = [] :=
            words_of_blanks [g] fun x hx => by rw [List.mem_singleton.mp hx, hblank]
          rw [hp', hkept, hnone]
          simp only [List.append_assoc, List.nil_append]
      · have hg : fitting width (g :: gs) = fitting width gs :=
          List.filter_cons_of_neg (by rw [decide_eq_true_eq]; exact hfits)
        rw [hg]
        cases htakes with
        | tooWide _ => rfl
        | added hfits' _ => exact absurd hfits' hfits
        | broken hfits' _ => exact absurd hfits' hfits
        | dropped hfits' _ _ _ => exact absurd hfits' hfits

/-- At most about two rows for every row that the columns fill. The row before owes what
    it was short of: with what is assured to the next row it reaches the width. -/
theorem length_wrapFrom_le (hwidth : 0 < width) :
    width * (((wrapFrom width p gs).length - 1) / 2) ≤ p.taken + columns gs ∧
      ∀ before, width ≤ before + p.assured →
        width * ((wrapFrom width p gs).length / 2) ≤ before + (p.taken + columns gs) := by
  induction gs generalizing p with
  | nil =>
      rw [wrapFrom, columns_nil, Nat.add_zero]
      rcases flush_cases p with ⟨-, hflush⟩ | ⟨-, -, hflush⟩ | ⟨-, hrow, -, hflush⟩ <;> rw [hflush]
      · simp
      · simp
      · refine ⟨by simp, fun before hreach => ?_⟩
        rw [Pending.assured_of_no_row p hrow] at hreach
        rw [List.length_cons, List.length_singleton]
        omega
  | cons g gs ih =>
      rcases wrapFrom_cons width p g gs with ⟨rows, p', htakes, hrows⟩
      rcases ih p' with ⟨hfresh, howed⟩
      rw [hrows, columns_cons]
      rcases columns_of_takes hwidth htakes with
        ⟨hnone, hle, hmore, -⟩ | ⟨row, hdone, -, hempty, hreach, -, hmore, hsum⟩
      · rw [hnone, List.nil_append]
        refine ⟨by omega, fun before hbefore => ?_⟩
        have hrest := howed before (by omega)
        omega
      · rw [hdone, List.length_append, List.length_singleton]
        generalize (wrapFrom width p' gs).length = n at hfresh howed
        refine ⟨?_, fun before hbefore => ?_⟩
        · -- The next row is owed what this one did not take of all that was pending.
          have hall := Pending.assured_of_no_row p' hempty
          have hrest := howed (p.taken + g.columns - p'.taken) (by omega)
          rw [show 1 + n - 1 = n by omega]
          omega
        · -- This row pays what it was owed, and the one behind it is owed by it.
          cases n with
          | zero => exact Nat.zero_le _
          | succ n =>
              rw [show (1 + (n + 1)) / 2 = n / 2 + 1 by omega, Nat.mul_succ]
              rw [Nat.add_sub_cancel] at hfresh
              omega

end Rows

section Fitting

variable {width : Nat} (p : Pending Look) (gs : List (Glyph Look))

/-- The last glyph of some glyphs is among them. -/
theorem columns_getLast_le (last : Glyph Look) (hlast : gs.getLast? = some last) :
    last.columns ≤ columns gs := by
  rcases List.getLast?_eq_some_iff.mp hlast with ⟨front, hfront⟩
  rw [hfront, columns_append, columns_cons]
  omega

/-- While everything fits no row is finished, and at the end all of it is pending. -/
theorem wrapFrom_of_fits (hwidth : 0 < width) (h : p.Orderly)
    (hfits : p.taken + columns gs ≤ width)
    (hlast : ∀ last, gs.getLast? = some last → 0 < last.columns)
    (hwords : words (p.held ++ gs) ≠ []) : wrapFrom width p gs = [p.held ++ gs] := by
  induction gs generalizing p with
  | nil =>
      rw [List.append_nil] at hwords ⊢
      rw [wrapFrom]
      rcases flush_cases p with ⟨hheld, -⟩ | ⟨-, -, hflush⟩ | ⟨-, hrow, hword, -⟩
      · rw [hheld] at hwords
        exact absurd rfl hwords
      · exact hflush
      · rw [Pending.held, hrow, hword, List.nil_append, List.append_nil] at hwords
        exact absurd (words_of_blanks _ h.blanks) hwords
  | cons g gs ih =>
      rcases wrapFrom_cons width p g gs with ⟨rows, p', htakes, hrows⟩
      -- There is room for the last glyph, which has a column, so no row is full before it.
      have hend := List.getLast?_eq_some_getLast (List.cons_ne_nil g gs)
      have hpos := hlast _ hend
      have hle := columns_getLast_le _ _ hend
      rcases columns_of_takes hwidth htakes with ⟨hnone, htaken, -, -⟩ | ⟨_, _, -, -, hreach, -⟩
      · subst hnone
        rw [columns_cons] at hfits
        have hheld := held_of_no_rows h (by omega) htakes
        have hrest : p.held ++ g :: gs = p'.held ++ gs := by
          rw [hheld, List.append_assoc, List.singleton_append]
        rw [hrest] at hwords ⊢
        rw [hrows, List.nil_append]
        refine ih p' (orderly_of_takes h htakes) (by omega) (fun last hl => hlast last ?_) hwords
        rw [List.getLast?_cons, hl]
        rfl
      · omega

/-- As long as a word is still to come there are rows to come. -/
theorem wrapFrom_ne_nil (h : p.Orderly) (hword : words p.held ++ words (fitting width gs) ≠ []) :
    wrapFrom width p gs ≠ [] := by
  intro hnone
  rw [← words_wrapFrom p gs h, hnone] at hword
  exact hword rfl

/-- A line of glyphs with one column each that does not fit and ends in a word takes two
    rows at least. -/
theorem two_le_length_wrapFrom (hwidth : 0 < width) (h : p.Single width)
    (hone : ∀ g ∈ gs, g.columns = 1)
    (hlast : ∀ last, gs.getLast? = some last → last.isBlank = false)
    (hlong : width < p.taken + columns gs) : 2 ≤ (wrapFrom width p gs).length := by
  induction gs generalizing p with
  | nil =>
      have hroom := h.room
      rw [columns_nil] at hlong
      omega
  | cons g gs ih =>
      rcases wrapFrom_cons width p g gs with ⟨rows, p', htakes, hrows⟩
      have hg := hone g List.mem_cons_self
      have hp' := (single_of_takes p hwidth h hg htakes).1
      rw [hrows, List.length_append]
      rcases columns_of_takes hwidth htakes with ⟨hnone, hle, -, -⟩ | ⟨row, hdone, -, -, -, -⟩
      · subst hnone
        have hheld := congrArg columns (held_of_no_rows h.toOrderly (by omega) htakes)
        simp only [Pending.columns_held, columns_append, columns_cons, columns_nil] at hheld hlong
        have hrest := ih p' hp' (fun x hx => hone x (List.mem_cons_of_mem _ hx))
          (fun last hl => hlast last (by rw [List.getLast?_cons, hl]; rfl)) (by omega)
        rw [List.length_nil]
        omega
      · -- The row is finished in front of the last glyph, which needs another one.
        have hrest : wrapFrom width p' gs ≠ [] := by
          refine wrapFrom_ne_nil p' gs hp'.toOrderly fun hnone => ?_
          rw [List.append_eq_nil_iff] at hnone
          cases hend : gs.getLast? with
          | none =>
              have hblank : g.isBlank = false := hlast g (by rw [List.getLast?_cons, hend]; rfl)
              rcases held_of_takes h.toOrderly (by omega) htakes with
                ⟨_, kept, -, -, hp' | ⟨hother, -, -⟩⟩
              · rw [hp'] at hnone
                exact words_ne_nil g _ (List.mem_append_right _ (List.mem_singleton.mpr rfl))
                  hblank hnone.1
              · rw [hblank] at hother
                exact Bool.false_ne_true hother
          | some last =>
              have hmem : last ∈ gs := List.mem_of_getLast? hend
              have hfits : last.columns ≤ width := by
                rw [hone last (List.mem_cons_of_mem _ hmem)]
                exact hwidth
              exact words_ne_nil last _ (List.mem_filter.mpr ⟨hmem, decide_eq_true hfits⟩)
                (hlast last (by rw [List.getLast?_cons, hend]; rfl)) hnone.2
        have hpos := List.length_pos_iff.mpr hrest
        rw [hdone, List.length_singleton]
        omega

end Fitting

section Lines

variable {width : Nat} (gs : List (Glyph Look))

theorem taken_start : ({} : Pending Look).taken = 0 :=
  rfl

theorem single_start : Pending.Single width ({} : Pending Look) :=
  ⟨Pending.orderly_start, fun _ h => absurd h List.not_mem_nil, Nat.zero_le _⟩

variable (width) in
/-- A line has the rows from its first glyph on, or one empty row. -/
theorem wrap_cases : wrap width gs = wrapFrom width {} gs ∨
    (wrapFrom width {} gs = [] ∧ wrap width gs = [[]]) := by
  unfold wrap
  split
  · exact Or.inr ⟨‹_›, rfl⟩
  · exact Or.inl rfl

theorem wrap_ne_nil : wrap width gs ≠ [] := by
  unfold wrap
  split
  · exact List.cons_ne_nil _ _
  · assumption

variable (width) in
theorem length_wrap_pos : 0 < (wrap width gs).length :=
  List.length_pos_iff.mpr (wrap_ne_nil gs)

/-- Of glyphs with one column each no row is wider than the width. -/
theorem columns_le_of_mem_wrap (hwidth : 0 < width) (hone : ∀ g ∈ gs, g.columns = 1) :
    ∀ row ∈ wrap width gs, columns row ≤ width := by
  rcases wrap_cases width gs with hrows | ⟨-, hrows⟩ <;> rw [hrows]
  · exact columns_le_of_mem_wrapFrom {} gs hwidth (single_start) hone
  · intro row hrow
    rw [List.mem_singleton.mp hrow]
    exact Nat.zero_le _

/-- The rows have no more columns than the line. -/
theorem columns_flatten_wrap_le (hwidth : 0 < width) :
    columns (wrap width gs).flatten ≤ columns gs := by
  rcases wrap_cases width gs with hrows | ⟨-, hrows⟩ <;> rw [hrows]
  · have hle := columns_flatten_wrapFrom_le {} gs hwidth
    rw [taken_start, Nat.zero_add] at hle
    exact hle
  · exact Nat.zero_le _

/-- The glyphs of words are in the rows, in their order, unless they are wider than any
    row. -/
theorem words_wrap : words (wrap width gs).flatten = words (fitting width gs) := by
  have hwords : words (wrapFrom width {} gs).flatten = words (fitting width gs) :=
    words_wrapFrom {} gs Pending.orderly_start
  rcases wrap_cases width gs with hrows | ⟨hnone, hrows⟩ <;> rw [hrows]
  · exact hwords
  · rw [hnone] at hwords
    exact hwords

/-- A line that fits, with something other than blanks in it and a last glyph that can be
    seen, is its only row. -/
theorem wrap_of_fits (hwidth : 0 < width) (hfits : columns gs ≤ width)
    (hlast : ∀ last, gs.getLast? = some last → 0 < last.columns) (hwords : words gs ≠ []) :
    wrap width gs = [gs] := by
  have hrows : wrapFrom width {} gs = [gs] := by
    refine wrapFrom_of_fits {} gs hwidth Pending.orderly_start ?_ hlast hwords
    rw [taken_start, Nat.zero_add]
    exact hfits
  rw [wrap, hrows]

/-- A line of glyphs with one column each that ends in a word is not broken exactly if it
    fits. -/
theorem length_wrap_eq_one_iff (hwidth : 0 < width) (hone : ∀ g ∈ gs, g.columns = 1)
    (hlast : ∀ last, gs.getLast? = some last → last.isBlank = false) :
    (wrap width gs).length = 1 ↔ columns gs ≤ width := by
  refine ⟨fun hrows => Nat.le_of_not_lt fun hlong => ?_, fun hfits => ?_⟩
  · have htwo := two_le_length_wrapFrom {} gs hwidth single_start hone hlast
      (by rw [taken_start, Nat.zero_add]; exact hlong)
    rcases wrap_cases width gs with h | ⟨hnone, -⟩
    · rw [h] at hrows
      omega
    · rw [hnone, List.length_nil] at htwo
      omega
  · cases hend : gs.getLast? with
    | none =>
        rw [List.getLast?_eq_none_iff.mp hend]
        rfl
    | some last =>
        have hmem := List.mem_of_getLast? hend
        have hwords := words_ne_nil last gs hmem (hlast last hend)
        rw [wrap_of_fits gs hwidth hfits ?_ hwords]
        · rfl
        · intro other hother
          rw [hone other (List.mem_of_getLast? hother)]
          exact Nat.one_pos

/-- A line has at most about twice the rows that its columns fill. -/
theorem length_wrap_le (hwidth : 0 < width) :
    (wrap width gs).length ≤ 2 * (columns gs / width) + 2 := by
  rcases wrap_cases width gs with hrows | ⟨-, hrows⟩ <;> rw [hrows]
  · have hle := (length_wrapFrom_le {} gs hwidth).1
    rw [taken_start, Nat.zero_add, Nat.mul_comm, ← Nat.le_div_iff_mul_le hwidth] at hle
    omega
  · exact Nat.le_add_left _ _

end Lines

end Screen

end FleetBoard
