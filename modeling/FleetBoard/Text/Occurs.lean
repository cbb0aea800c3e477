/-!
# Occurrences

Whether one text stands inside another one, and whether it can be another one at all.

## Main definitions

* `occurs`: Whether a text stands somewhere inside another one.

## Theorems

* `occurs_iff_infix`: A text occurs exactly where it is a piece of the other.
* `append_ne_of_head`: Texts that begin differently are different.
-/

namespace FleetBoard

namespace Text

/-- Whether `needle` stands somewhere inside a text. -/
def occurs (needle : List Char) : List Char → Bool
  | [] => needle.isEmpty
  | c :: cs => needle.isPrefixOf (c :: cs) || occurs needle cs

theorem occurs_iff_infix (needle hay : List Char) : occurs needle hay = true ↔ needle <:+: hay := by
  induction hay with
  | nil => simp [occurs]
  | cons c cs ih => simp [occurs, ih, List.infix_cons_iff]

/-- Texts that begin differently are different, whatever follows. -/
theorem append_ne_of_head (lead rest other : String) (c d : Char)
    (hlead : lead.toList.head? = some c) (hother : other.toList.head? = some d) (hne : c ≠ d) :
    lead ++ rest ≠ other := by
  intro h
  have hhead : (lead ++ rest).toList.head? = some d := by
    rw [h]
    exact hother
  rw [String.toList_append, List.head?_append, hlead, Option.some_or, Option.some.injEq] at hhead
  exact hne hhead

end Text

end FleetBoard
