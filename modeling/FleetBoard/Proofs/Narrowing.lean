import FleetBoard.Board.Update
import FleetBoard.Proofs.Casing
import Mathlib.Data.List.Basic

/-!
# Typing Narrows the List

A project passes the filter if the text stands in its name or its type, whatever the
case, or in the word for its status. The text and the fields are put into lower case
apart, so what stands in a field literally is found only if its lower case stands in
the lower case of the field, and a longer text asks for more only if the lower case of
the shorter one is a piece of its own. Both hold for texts with a lower case that their
surroundings do not change.

They fail for a capital sigma that ends what has been typed so far. It is taken for the
end of a word and looked for in the final form, also in a name that goes on behind it.
The next letter brings the project back.

## Main definitions

* `Filter.Finds`: A search for a piece, all in lower case.

## Theorems

* `admits_iff`: What passes the filter is what the search finds.
* `admits_of_literal`: What has a settled text in it passes.
* `apply_push`: A longer text leaves fewer projects.
* `narrows_of_no_sigma`: Texts without a capital sigma do both.
* `typing_narrows_unless_sigma_turns`: Which texts are found, and when typing narrows.
* `sigma_hides_museum`: A name that is typed letter by letter vanishes and comes back.
-/

namespace FleetBoard

namespace Filter

variable (f : Filter) (p : Project) (c : Char) (projects : List Project)

/-- In lower case, the text is a piece of the name, of the type or of the word for the
    status. -/
def Finds : Prop :=
  Text.lower f.text.toList <:+: Text.lower p.name.toList ∨
    Text.lower f.text.toList <:+: Text.lower p.kind.toList ∨
    Text.lower f.text.toList <:+: p.status.label.toList

theorem admits_iff : f.admits p = true ↔ f.Finds p := by
  rw [admits, Finds]
  simp only [Bool.or_eq_true, Text.occurs_iff_infix, String.isEmpty_iff, or_assoc]
  -- The empty text needs no case of its own, since it is a piece of every name.
  refine or_iff_right_of_imp fun hempty => Or.inl ?_
  rw [hempty]
  exact List.nil_infix

/-- A project passes if a text that is settled stands literally in its name or its
    type. -/
theorem admits_of_literal (hsettled : Text.isSettled f.text.toList = true)
    (hliteral : f.text.toList <:+: p.name.toList ∨ f.text.toList <:+: p.kind.toList) :
    f.admits p = true := by
  rw [admits_iff]
  rcases hliteral with hname | hkind
  · exact Or.inl (Text.lower_infix_of_isSettled _ _ hsettled hname)
  · exact Or.inr (Or.inl (Text.lower_infix_of_isSettled _ _ hsettled hkind))

/-- What passes a longer text passes the shorter one, unless the longer one turns its
    last sigma. -/
theorem admits_of_push (hturns : Text.turnsSigma f.text.toList c = false)
    (h : (f.push c).admits p = true) : f.admits p = true := by
  have hpiece : Text.lower f.text.toList <:+: Text.lower (f.push c).text.toList := by
    rw [push, String.toList_push]
    exact ((Text.turnsSigma_eq_false_iff f.text.toList c).mp hturns).isInfix
  rw [admits_iff] at h ⊢
  -- Each field that has the longer text in it has the piece in it.
  rcases h with hname | hkind | hstatus
  · exact Or.inl (hpiece.trans hname)
  · exact Or.inr (Or.inl (hpiece.trans hkind))
  · exact Or.inr (Or.inr (hpiece.trans hstatus))

theorem apply_push (hturns : Text.turnsSigma f.text.toList c = false) :
    ((f.push c).apply projects).Sublist (f.apply projects) :=
  List.monotone_filter_right projects fun p h => f.admits_of_push p c hturns h

/-- A text without a capital sigma is found wherever it stands, and typing after it only
    narrows the list. -/
theorem narrows_of_no_sigma (h : 'Σ' ∉ f.text.toList) :
    (∀ p : Project, (f.text.toList <:+: p.name.toList ∨ f.text.toList <:+: p.kind.toList) →
        f.admits p = true) ∧
      ((f.push c).apply projects).Sublist (f.apply projects) := by
  have hsettled := Text.isSettled_of_no_sigma f.text.toList h
  exact ⟨fun p => f.admits_of_literal p hsettled,
    f.apply_push c projects (Text.turnsSigma_of_isSettled _ c hsettled)⟩

/-- With a character typed there is one to remove. -/
theorem isNarrowing_push : (f.push c).isNarrowing = true := by
  rw [isNarrowing, Bool.not_eq_true', Bool.eq_false_iff, Ne, String.isEmpty_iff]
  intro hempty
  have htext := congrArg String.toList hempty
  rw [push, String.toList_push] at htext
  exact List.append_ne_nil_of_right_ne_nil _ (List.cons_ne_nil c []) htext

/-- The character that was typed last is the one that is removed. -/
theorem pop_push : (f.push c).pop = f := by
  rw [push, pop, String.toList_push, List.dropLast_concat, String.ofList_toList]

/-- A filter with a last character is one where it has been typed. -/
theorem eq_push (t : String) (h : f.text = t.push c) : f = { f with text := t }.push c := by
  rw [push, ← h]

end Filter

/-- Filtering is a search for a piece, all in lower case, and typing only narrows the list.
    A project is in the list if the text stands in its name or its type as it was typed,
    provided that the text has the same lower case wherever it stands. With one more
    character the list has the same projects in their order or fewer, and with the last
    character removed the same or more, provided that the character does not turn a final
    sigma. -/
theorem Board.typing_narrows_unless_sigma_turns (b : Board) (c : Char) :
    (∀ p, p ∈ b.visible ↔ p ∈ b.projects ∧ b.filter.Finds p) ∧
    (Text.isSettled b.filter.text.toList = true → ∀ p ∈ b.projects,
      (b.filter.text.toList <:+: p.name.toList ∨ b.filter.text.toList <:+: p.kind.toList) →
      p ∈ b.visible) ∧
    (Text.turnsSigma b.filter.text.toList c = false →
      (b.filterKey (.char c)).visible.Sublist b.visible) ∧
    (∀ t : String, b.filter.text = t.push c → Text.turnsSigma t.toList c = false →
      b.visible.Sublist (b.filterKey .backspace).visible) := by
  refine ⟨fun p => ?_, fun hsettled p hp hliteral => ?_, fun hturns => ?_, fun t ht hturns => ?_⟩
  · rw [← b.filter.admits_iff]
    exact List.mem_filter
  · exact List.mem_filter.mpr ⟨hp, b.filter.admits_of_literal p hsettled hliteral⟩
  · exact b.filter.apply_push c b.projects hturns
  · have hpush := b.filter.eq_push c t ht
    have hremoved : (b.filterKey .backspace).visible =
        { b.filter with text := t }.apply b.projects := by
      rw [filterKey, hpush, if_pos (Filter.isNarrowing_push _ c), Filter.pop_push]
      rfl
    rw [hremoved, visible, hpush]
    exact Filter.apply_push _ c b.projects hturns

/-- A piece with a sigma inside, before a letter: the museum is in the list, the next letter
    keeps it there, and so does the removal of the last one. -/
theorem Board.sigma_inside_is_found :
    let museum : Project := ⟨"ΜΟΥΣΕΙΟ", .running, "php", "", ⟨"/srv/museum"⟩⟩
    let board : Board := { projects := [museum], filter := ⟨true, "ΣΕ"⟩ }
    Text.isSettled board.filter.text.toList = true ∧ museum ∈ board.projects ∧
      (board.filter.text.toList <:+: museum.name.toList ∨
        board.filter.text.toList <:+: museum.kind.toList) ∧
      Text.turnsSigma board.filter.text.toList 'Ι' = false ∧
      board.filter.text = "Σ".push 'Ε' ∧ Text.turnsSigma "Σ".toList 'Ε' = false ∧
      (∀ p, p ∈ board.visible ↔ p ∈ board.projects ∧ board.filter.Finds p) ∧
      museum ∈ board.visible ∧ (board.filterKey (.char 'Ι')).visible.Sublist board.visible ∧
      board.visible.Sublist (board.filterKey .backspace).visible := by
  intro museum board
  have hsettled : Text.isSettled board.filter.text.toList = true := by decide +kernel
  have hturns : Text.turnsSigma board.filter.text.toList 'Ι' = false := by decide +kernel
  have hliteral : board.filter.text.toList <:+: museum.name.toList :=
    ⟨['Μ', 'Ο', 'Υ'], ['Ι', 'Ο'], by decide⟩
  have hmember : museum ∈ board.projects := List.mem_singleton.mpr rfl
  have htext : board.filter.text = "Σ".push 'Ε' := by decide
  have hremoved : Text.turnsSigma "Σ".toList 'Ε' = false := by decide +kernel
  have hnarrows := board.typing_narrows_unless_sigma_turns 'Ι'
  have hwidens := board.typing_narrows_unless_sigma_turns 'Ε'
  exact ⟨hsettled, hmember, Or.inl hliteral, hturns, htext, hremoved, hnarrows.1,
    hnarrows.2.1 hsettled museum hmember (Or.inl hliteral), hnarrows.2.2.1 hturns,
    hwidens.2.2.2 "Σ" htext hremoved⟩

/-- The name of the museum is typed up to its sigma. The text stands in the name, and the
    museum is gone from the list. With the next letter it is back. -/
theorem Board.sigma_hides_museum :
    let museum : Project := ⟨"ΜΟΥΣΕΙΟ", .running, "php", "", ⟨"/srv/museum"⟩⟩
    let board : Board := { projects := [museum], filter := ⟨true, "ΜΟΥΣ"⟩ }
    board.filter.text.toList <:+: museum.name.toList ∧ board.visible = [] ∧
      (board.filterKey (.char 'Ε')).visible = [museum] := by
  intro museum board
  exact ⟨⟨[], ['Ε', 'Ι', 'Ο'], by decide⟩, by decide +kernel, by decide +kernel⟩

end FleetBoard
