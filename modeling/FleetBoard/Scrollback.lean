/-!
# Scrollback

The lines that a stream has shown so far. A view keeps only so many: when there
would be more than the cap, the older ones are let go at once, down to a smaller
number, so that this does not happen on every line.

## Main definitions

* `Scrollback`: The retained lines, oldest first.
* `Scrollback.push`: A line is added.
* `Scrollback.newest`: The newest lines.

## Theorems

* `push_length_le`: There are never more lines than the cap allows.
-/

namespace FleetBoard

/-- The lines that are retained of a stream, oldest first. -/
structure Scrollback where
  lines : List String := []
  deriving DecidableEq, Repr

namespace Scrollback

/-- How many lines may be retained. -/
def cap : Nat := 1000

/-- How many lines are left when the cap was exceeded. -/
def keep : Nat := 500

/-- The newest `n` items of a list, oldest first. -/
def takeNewest {α : Type} (n : Nat) (items : List α) : List α :=
  items.drop (items.length - n)

/-- A line is added. Past the cap only the newest lines stay. -/
def push (s : Scrollback) (line : String) : Scrollback :=
  let lines := s.lines ++ [line]
  if lines.length ≤ cap then ⟨lines⟩ else ⟨takeNewest keep lines⟩

/-- The newest `n` lines, oldest first. -/
def newest (s : Scrollback) (n : Nat) : List String :=
  takeNewest n s.lines

theorem push_length_le (s : Scrollback) (line : String) : (s.push line).lines.length ≤ cap := by
  simp only [push]
  split
  · assumption
  · simp only [takeNewest, List.length_drop, keep, cap]
    omega

end Scrollback

end FleetBoard
