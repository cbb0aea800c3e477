/-!
# Fitting Text into Columns

Texts of a table are counted in characters: a text that is too long is cut and
marked with an ellipsis, a text that is too short is filled up with spaces.

## Main definitions

* `fit`: A text cut to a number of characters.
* `pad`: A text filled up to a number of characters.

## Theorems

* `fit_length_le`: A fitted text has at most the characters asked for.
-/

namespace FleetBoard

namespace Text

/-- The mark at the end of a text that was cut. -/
def ellipsis : Char := '…'

/-- The text if it has at most `room` characters, and its beginning with an
    ellipsis otherwise. -/
def fit (room : Nat) (s : String) : String :=
  if s.length ≤ room then s
  else if room = 0 then ""
  else String.ofList (s.toList.take (room - 1) ++ [ellipsis])

/-- The text with spaces after it up to `width` characters. -/
def pad (width : Nat) (s : String) : String :=
  s ++ String.ofList (List.replicate (width - s.length) ' ')

theorem fit_length_le (room : Nat) (s : String) : (fit room s).length ≤ room := by
  unfold fit
  split
  · assumption
  · split
    · simp
    · simp only [String.length_ofList, List.length_append, List.length_take, List.length_singleton]
      omega

end Text

end FleetBoard
