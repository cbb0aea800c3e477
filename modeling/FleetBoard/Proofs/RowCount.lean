import FleetBoard.Proofs.Wrapping

/-!
# Counting Rows

How many rows a line has, without the rows. For glyphs with one column each the breaking
looks at nothing but how many glyphs the parts of the pending row have, and which glyphs
are blank. So the pending row may be replaced by a tally of its parts, and the line by the
places of its blanks. A tally is cheap to work with: the rows of a line can be counted for
many widths.

## Main definitions

* `Tally`: The columns of a row that is being filled.
* `Tally.rows`: The rows of the rest of a line.
* `Pending.tally`: The tally of a pending row.

## Theorems

* `tally_settle`, `tally_add`, `tally_nextRow`: What is done to a pending row is done to its
  tally.
* `length_wrapFrom_eq_tally`, `length_wrap_eq_tally`: The rows of a line.
-/

namespace FleetBoard

namespace Screen

/-- The columns of a row that is being filled, where every glyph takes one. -/
structure Tally where
  row : Nat := 0
  blanks : Nat := 0
  word : Nat := 0
  /-- Whether the last glyph belonged to a word. -/
  inWord : Bool := false

namespace Tally

variable (width : Nat) (blank : Bool)

/-- Everything in the row for good, where the next glyph ends the word or the two alone are
    too long. -/
def settle : Tally → Tally
  | ⟨row, blanks, word, inWord⟩ =>
    if (inWord && blank) || (row == 0 && width ≤ word + blanks)
    then ⟨row + blanks + word, 0, 0, inWord⟩
    else ⟨row, blanks, word, inWord⟩

/-- The next glyph is pending too. -/
def add : Tally → Tally
  | ⟨row, blanks, word, _⟩ =>
    if blank then ⟨row, blanks + 1, word, false⟩ else ⟨row, blanks, word + 1, true⟩

/-- The rows that the next glyph finishes, and what is pending after it. -/
def take : Tally → Nat × Tally
  | ⟨row, blanks, word, inWord⟩ =>
    if width ≤ row + blanks + word then
      let kept := blanks - (width - row)
      (1, if blank && kept == 0 then ⟨0, kept, word, inWord⟩ else add blank ⟨0, kept, word, inWord⟩)
    else (0, add blank ⟨row, blanks, word, inWord⟩)

/-- The rows at the end of the line. -/
def flush : Tally → Nat
  | ⟨row, blanks, word, _⟩ =>
    (if row == 0 && word == 0 && blanks != 0 then 1 else 0) +
      if row + blanks + word == 0 then 0 else 1

/-- The rows of the rest of a line, of which is only known where the blanks are. -/
def rows (t : Tally) : List Bool → Nat
  | [] => t.flush
  | blank :: rest =>
    match (t.settle width blank).take width blank with
    | (n, t) => n + t.rows rest

end Tally

section Tallies

variable {Look : Type} (width : Nat) (gs : List (Glyph Look))

theorem columns_eq_length (hone : ∀ g ∈ gs, g.columns = 1) : columns gs = gs.length := by
  induction gs with
  | nil => rfl
  | cons g gs ih =>
      rw [columns_cons, hone g List.mem_cons_self,
        ih fun g hg => hone g (List.mem_cons_of_mem _ hg), List.length_cons, Nat.add_comm]

theorem length_dropBlanks (room : Nat) (hone : ∀ g ∈ gs, g.columns = 1) :
    (Pending.dropBlanks room gs).length = gs.length - room ∧
      ∀ g ∈ Pending.dropBlanks room gs, g.columns = 1 := by
  induction gs generalizing room with
  | nil => exact ⟨(Nat.zero_sub _).symm, hone⟩
  | cons g gs ih =>
      rw [Pending.dropBlanks, hone g List.mem_cons_self]
      split
      · have hrest := ih (room - 1) fun g hg => hone g (List.mem_cons_of_mem _ hg)
        rw [hrest.1, List.length_cons]
        exact ⟨by omega, hrest.2⟩
      · rw [List.length_cons]
        exact ⟨by omega, hone⟩

theorem isEmpty_eq_length_beq {α : Type} (items : List α) :
    items.isEmpty = (items.length == 0) := by
  cases items <;> rfl

/-- The glyphs of the pending row have one column each. -/
structure Pending.OneEach (p : Pending Look) : Prop where
  row : ∀ g ∈ p.row, g.columns = 1
  blanks : ∀ g ∈ p.blanks, g.columns = 1
  word : ∀ g ∈ p.word, g.columns = 1

namespace Pending

/-- The columns of the pending row. -/
def tally (p : Pending Look) : Tally :=
  ⟨p.row.length, p.blanks.length, p.word.length, p.inWord⟩

variable (p : Pending Look) (g : Glyph Look)

theorem taken_eq_tally (h : p.OneEach) :
    p.taken = p.row.length + p.blanks.length + p.word.length := by
  rw [taken, columns_eq_length p.row h.row, columns_eq_length p.blanks h.blanks,
    columns_eq_length p.word h.word]

theorem tally_settle (h : p.OneEach) (hg : g.columns = 1) :
    (p.settle width g).OneEach ∧ (p.settle width g).tally = p.tally.settle width g.isBlank := by
  have hsettle : p.settle width g =
      if (p.inWord && g.isBlank) || (p.row.length == 0 && width ≤ p.word.length + p.blanks.length)
      then { p with row := p.row ++ p.blanks ++ p.word, blanks := [], word := [] } else p := by
    rw [settle, columns_eq_length p.word h.word, columns_eq_length p.blanks h.blanks, hg,
      isEmpty_eq_length_beq]
    simp only [Nat.lt_succ_iff]
  have htally : p.tally.settle width g.isBlank =
      if (p.inWord && g.isBlank) || (p.row.length == 0 && width ≤ p.word.length + p.blanks.length)
      then ⟨p.row.length + p.blanks.length + p.word.length, 0, 0, p.inWord⟩ else p.tally := rfl
  rw [hsettle, htally]
  split
  · refine ⟨⟨?_, fun _ hx => absurd hx List.not_mem_nil,
      fun _ hx => absurd hx List.not_mem_nil⟩, ?_⟩
    · intro x hx
      rw [List.mem_append, List.mem_append] at hx
      rcases hx with (hx | hx) | hx
      · exact h.row x hx
      · exact h.blanks x hx
      · exact h.word x hx
    · rw [tally, List.length_append, List.length_append]
      rfl
  · exact ⟨h, rfl⟩

theorem tally_add (h : p.OneEach) (hg : g.columns = 1) :
    (p.add g).OneEach ∧ (p.add g).tally = p.tally.add g.isBlank := by
  have hone : ∀ gs : List (Glyph Look), (∀ x ∈ gs, x.columns = 1) →
      ∀ x ∈ gs ++ [g], x.columns = 1 := by
    intro gs hgs x hx
    rcases List.mem_append.mp hx with hx | hx
    · exact hgs x hx
    · rw [List.mem_singleton.mp hx, hg]
  rw [add, tally, Tally.add]
  split
  · exact ⟨⟨h.row, hone _ h.blanks, h.word⟩, by rw [tally, List.length_append]; rfl⟩
  · exact ⟨⟨h.row, h.blanks, hone _ h.word⟩, by rw [tally, List.length_append]; rfl⟩

theorem tally_nextRow (h : p.OneEach) : (p.nextRow width).OneEach ∧
    (p.nextRow width).tally =
      ⟨0, p.blanks.length - (width - p.row.length), p.word.length, p.inWord⟩ := by
  have hkept := length_dropBlanks p.blanks (width - columns p.row) h.blanks
  rw [columns_eq_length p.row h.row] at hkept
  rw [nextRow, columns_eq_length p.row h.row]
  refine ⟨⟨fun _ hx => absurd hx List.not_mem_nil, hkept.2, h.word⟩, ?_⟩
  rw [tally, hkept.1]
  rfl

theorem isFinished_eq_tally (h : p.OneEach) (hg : g.columns = 1) :
    p.isFinished width g = decide (width ≤ p.row.length + p.blanks.length + p.word.length) := by
  rw [isFinished, taken_eq_tally p h, columns_eq_length p.row h.row, hg, Bool.eq_iff_iff]
  simp only [Bool.or_eq_true, Bool.and_eq_true, decide_eq_true_eq]
  omega

theorem length_flush : p.flush.length = p.tally.flush := by
  rw [flush, tally, Tally.flush, List.length_append, isEmpty_eq_length_beq p.row,
    isEmpty_eq_length_beq p.word, isEmpty_eq_length_beq p.blanks,
    isEmpty_eq_length_beq (p.row ++ p.blanks ++ p.word), List.length_append, List.length_append]
  rw [apply_ite List.length, apply_ite List.length]
  rfl

end Pending

/-- The rows of glyphs with one column each are counted with tallies. -/
theorem length_wrapFrom_eq_tally (hwidth : 0 < width) (p : Pending Look) (h : p.OneEach)
    (hone : ∀ g ∈ gs, g.columns = 1) :
    (wrapFrom width p gs).length = p.tally.rows width (gs.map Glyph.isBlank) := by
  -- On the glyphs, for any pending row, as what a glyph leaves pending is what the rest
  -- begins with.
  induction gs generalizing p with
  | nil => exact p.length_flush
  | cons g gs ih =>
      have hg := hone g List.mem_cons_self
      have hrest := fun q hq => ih q hq fun x hx => hone x (List.mem_cons_of_mem _ hx)
      rcases p.tally_settle width g h hg with ⟨hsettled, htally⟩
      rw [wrapFrom, if_neg (by omega), List.map_cons, Tally.rows, ← htally]
      dsimp only
      generalize p.settle width g = s at hsettled
      rcases s.tally_nextRow width hsettled with ⟨hkept, hnext⟩
      have htake : s.tally.take width g.isBlank =
          if width ≤ s.row.length + s.blanks.length + s.word.length then
            (1, if g.isBlank && (s.nextRow width).tally.blanks == 0 then (s.nextRow width).tally
              else (s.nextRow width).tally.add g.isBlank)
          else (0, s.tally.add g.isBlank) := by
        rw [hnext]
        rfl
      have hblanks : (s.nextRow width).blanks.isEmpty = ((s.nextRow width).tally.blanks == 0) :=
        isEmpty_eq_length_beq _
      -- Both ask whether the row is full, and then whether the blank at the break is dropped.
      rw [htake, s.isFinished_eq_tally width g hsettled hg, hblanks]
      generalize s.nextRow width = next at hkept
      rcases next.tally_add g hkept hg with ⟨hadded, hadd⟩
      rcases s.tally_add g hsettled hg with ⟨hlonger, hlong⟩
      by_cases hfull : width ≤ s.row.length + s.blanks.length + s.word.length
      · rw [if_pos hfull, if_pos (decide_eq_true hfull)]
        split
        · rw [List.length_cons, hrest next hkept, Nat.add_comm]
        · rw [List.length_cons, hrest _ hadded, hadd, Nat.add_comm]
      · rw [if_neg hfull, if_neg (by rw [decide_eq_true_eq]; exact hfull), hrest _ hlonger, hlong,
          Nat.zero_add]

/-- A line without rows still has an empty one. -/
theorem length_wrap_eq_tally (hwidth : 0 < width) (hone : ∀ g ∈ gs, g.columns = 1) :
    (wrap width gs).length = max (({} : Tally).rows width (gs.map Glyph.isBlank)) 1 := by
  have hrows := length_wrapFrom_eq_tally width gs hwidth {}
    ⟨fun _ hx => absurd hx List.not_mem_nil, fun _ hx => absurd hx List.not_mem_nil,
      fun _ hx => absurd hx List.not_mem_nil⟩ hone
  change _ = ({} : Tally).rows width _ at hrows
  have hpos := length_wrap_pos width gs
  rcases wrap_cases width gs with h | ⟨hnone, h⟩
  · rw [← h] at hrows
    omega
  · rw [hnone] at hrows
    rw [h, ← hrows]
    rfl

end Tallies

end Screen

end FleetBoard
