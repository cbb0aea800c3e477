import FleetBoard.JobError
import FleetBoard.Text.Blank
import FleetBoard.Text.Utf8

/-!
# Invocations

A program that is to be run, and what is known of it after it ended. A program
that failed is taken at its word: the last thing it printed among its errors is
the reason. Only a program that failed silently is reported by its status.

## Main definitions

* `Invocation`: A program that is to be run.
* `Outcome`: What is known of a program that ended.
* `failureOf`: The error of a program by its status and the errors it printed.
* `Outcome.failure?`: The error of a program that ended, if it failed.
-/

namespace FleetBoard

/-- A program that is to be run. -/
structure Invocation where
  program : String
  args : List String
  /-- The directory it is run in, if it is not the one of the dashboard. -/
  dir : Option Path := none
  /-- The variable of the environment that is set to `true`. -/
  marker : Option String := none
  /-- What it may read. -/
  input : String := ""
  deriving DecidableEq, Repr

/-- What is known of a program that ended. -/
structure Outcome where
  status : ExitStatus
  /-- What it printed. -/
  output : Text.Bytes
  /-- What it printed as errors. -/
  errors : Text.Bytes
  deriving DecidableEq, Repr

/-- The error of a program by its status and the errors it printed. -/
def failureOf (status : ExitStatus) (errors : Text.Bytes) : Option JobError :=
  if status.succeeded then none
  else
    match Text.lastFilledLine (Text.decodeLossy errors) with
    | some line => some (.failed (String.ofList line))
    | none => some (.exit status)

namespace Outcome

/-- The error of a program that ended, if it failed. -/
def failure? (o : Outcome) : Option JobError :=
  failureOf o.status o.errors

/-- What the program printed, as a text. -/
def outputText (o : Outcome) : String :=
  String.ofList (Text.decodeLossy o.output)

/-- What the program printed as errors, as a text. -/
def errorText (o : Outcome) : String :=
  String.ofList (Text.decodeLossy o.errors)

end Outcome

end FleetBoard
