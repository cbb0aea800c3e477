import FleetBoard.ExitStatus
import FleetBoard.Json.Fault
import FleetBoard.Path
import FleetBoard.SystemError

/-!
# Errors of Jobs

Why a job did not get done, and what the user is told of it. What is wrong with a reply is
told in the words of whatever has read it, so these words are a parameter.

## Main definitions

* `JobError`: Why a job did not get done.
* `JobError.message`: What the user is told, for any wording of faults.
* `JobError.ofStart`: The error of a program that could not be started.
* `JobError.ofStatus?`: The error of a program that ended, if it failed.

## Theorems

* `ofStatus?_eq_none_iff`: A program that ended is without error if it has
  succeeded.
-/

namespace FleetBoard

/-- Why a job did not get done. -/
inductive JobError
  | projectMissing (root : Path)
  | notFound (program : String)
  /-- A program is there and could not be started. -/
  | notStarted (program : String) (reason : String)
  | system (error : SystemError)
  /-- A program failed without a word. -/
  | exit (status : ExitStatus)
  /-- A program failed and said why. -/
  | failed (reason : String)
  | unexpectedOutput (fault : Json.Fault)
  | noClipboardTool
  | unsupportedPlatform (platform : String)
  deriving DecidableEq, Repr

namespace JobError

/-- What is wrong with an output, in words that serve where no others are given. -/
def faultText : Json.Fault → String
  | .malformed => "not a JSON text"
  | .truncated => "the JSON text breaks off"
  | .mismatch => "a JSON text of another shape"

/-- What the user is told of an error, with faults in the words of `wording`. -/
def message (e : JobError) (wording : Json.Fault → String := faultText) : String :=
  match e with
  | .projectMissing root => "project directory no longer exists: " ++ root.text
  | .notFound program => program ++ " not found in PATH"
  | .notStarted program reason => "failed to start " ++ program ++ ": " ++ reason
  | .system error => error.text
  | .exit status => status.text
  | .failed reason => reason
  | .unexpectedOutput fault => "unexpected output: " ++ wording fault
  | .noClipboardTool => "no clipboard tool found (install xclip, xsel, or wl-copy)"
  | .unsupportedPlatform platform => "clipboard not supported on " ++ platform

/-- The error of a program that could not be started. -/
def ofStart (program : String) (error : SystemError) : JobError :=
  match error.kind with
  | .notFound => .notFound program
  | .other => .notStarted program error.text

/-- The error of a program that ended, if it failed. -/
def ofStatus? (status : ExitStatus) : Option JobError :=
  if status.succeeded then none else some (.exit status)

theorem ofStatus?_eq_none_iff (status : ExitStatus) :
    ofStatus? status = none ↔ status.succeeded = true := by
  simp [ofStatus?]

end JobError

end FleetBoard
