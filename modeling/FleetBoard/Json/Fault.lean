/-!
# Reading Faults

Every reader of the interchange format works on a list of characters and
returns what it read together with the characters after it, or the reason why
it could not.

## Main definitions

* `Fault`: Why a text could not be read.
* `Reader`: A function that reads a value off the front of a text.
* `skipBlank`: A text without the blanks the format allows between its parts.
-/

namespace FleetBoard

namespace Json

/-- Why a text could not be read as the value it was expected to hold. -/
inductive Fault
  /-- The text breaks the rules of the format, or goes on after the value. -/
  | malformed
  /-- The text ends inside the value or before it. -/
  | truncated
  /-- The text follows the rules but holds another kind of value. -/
  | mismatch
  deriving DecidableEq, Repr

/-- A function that reads a value off the front of a text. -/
abbrev Reader (α : Type) := List Char → Except Fault (α × List Char)

/-- The blanks that the format allows between the parts of a value. -/
def isSpace (c : Char) : Bool :=
  c == ' ' || c == '\n' || c == '\t' || c == '\r'

/-- A text from its first character that is no blank. -/
def skipBlank (cs : List Char) : List Char :=
  cs.dropWhile isSpace

/-- The text after a word that has to stand at its front. -/
def readWord : List Char → Reader Unit
  | [], cs => .ok ((), cs)
  | _ :: _, [] => .error .truncated
  | w :: ws, c :: cs => if c = w then readWord ws cs else .error .malformed

end Json

end FleetBoard
