/-!
# Sets of Characters as Ranges

A property of characters given as a table: ascending, closed ranges of code
points. The tables of the text modules are data of the character standard and
carry no decision of the dashboard.

## Main definitions

* `CharRanges`: A table of closed code point ranges.
* `CharRanges.mem`: Whether a character lies in one of them.
-/

namespace FleetBoard

namespace Text

/-- Closed ranges of code points, each given by its first and last member. -/
abbrev CharRanges := List (Nat × Nat)

namespace CharRanges

/-- Whether the character lies in one of the ranges. -/
def mem (table : CharRanges) (c : Char) : Bool :=
  table.any fun r => r.1 ≤ c.toNat && c.toNat ≤ r.2

end CharRanges

end Text

end FleetBoard
