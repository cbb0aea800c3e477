import FleetBoard.Filter
import FleetBoard.Job

/-!
# The Board

Everything the dashboard knows. It changes only by the messages it gets.

## Main definitions

* `BulkAction`: An action on all projects, which has to be confirmed.
* `Board`: Everything the dashboard knows.
* `Board.visible`: The projects that pass the filter.
* `Board.selected?`: The project under the cursor.
* `Board.clampCursor`: The cursor kept inside the list.
-/

namespace FleetBoard

/-- An action on all projects, which has to be confirmed by a second key. -/
inductive BulkAction
  | startAll
  | stopAll
  | poweroff
  deriving DecidableEq, Repr

namespace BulkAction

/-- How an action is confirmed. -/
def confirmHint : String := " (y to confirm, any key to cancel)"

/-- The question that an action is confirmed by. -/
def prompt (projectCount : Nat) : BulkAction → String
  | .startAll => "Start all " ++ toString projectCount ++ " projects?" ++ confirmHint
  | .stopAll => "Stop all " ++ toString projectCount ++ " projects?" ++ confirmHint
  | .poweroff => "Poweroff all projects and containers?" ++ confirmHint

/-- The name of the operation that an action launches. -/
def operationName : BulkAction → String
  | .startAll => "Starting all projects"
  | .stopAll => "Stopping all projects"
  | .poweroff => "Powering off"

/-- The subcommand that an action launches. -/
def arguments : BulkAction → List String
  | .startAll => ["start", "--all"]
  | .stopAll => ["stop", "--all"]
  | .poweroff => ["poweroff"]

end BulkAction

/-- How long the dashboard waits, in milliseconds. -/
structure Timings where
  /-- The time between two refreshes. -/
  refresh : Nat := 5000
  /-- The time that a finished operation stays on the screen. -/
  autoReturn : Nat := 2000
  deriving DecidableEq, Repr

/-- Everything the dashboard knows. -/
structure Board where
  projects : List Project := []
  /-- Why the project list could not be loaded the last time. -/
  loadError : Option String := none
  /-- Whether a load of the project list is on its way. -/
  loading : Bool := true
  /-- The row of the filtered list that is selected. -/
  cursor : Nat := 0
  filter : Filter := {}
  /-- The action that waits for its confirmation. -/
  confirmation : Option BulkAction := none
  helpShown : Bool := false
  routerStatus : String := ""
  /-- The status line. -/
  status : String := ""
  width : Nat := 0
  height : Nat := 0
  page : Page := .dashboard
  timings : Timings := {}
  /-- How many streams have been launched. -/
  launches : Nat := 0
  deriving DecidableEq, Repr

/-- The status line while a refresh that was asked for is on its way. -/
def refreshingStatus : String := "Refreshing..."

/-- The status line after an operation that succeeded. -/
def completedStatus : String := "Operation completed"

namespace Board

/-- Which kind of page is shown. -/
def mode (b : Board) : Mode :=
  b.page.mode

/-- The projects that pass the filter. -/
def visible (b : Board) : List Project :=
  b.filter.apply b.projects

/-- The project under the cursor. -/
def selected? (b : Board) : Option Project :=
  b.visible[b.cursor]?

/-- The cursor kept inside the list, and at the top of an empty one. -/
def clampCursor (b : Board) : Board :=
  { b with cursor := min b.cursor (b.visible.length - 1) }

/-- Whether every project is stopped. -/
def allStopped (b : Board) : Bool :=
  b.projects.all fun p => p.status = .stopped

/-- Whether the page that is shown waits for something. -/
def isLoading (b : Board) : Bool :=
  match b.page with
  | .operation op => !op.done
  | .detail page => page.loading
  | _ => b.loading

/-- The number of the next launch. -/
def nextLaunch (b : Board) : LaunchId :=
  ⟨b.launches + 1⟩

/-- The status line without the note that a refresh is on its way. -/
def withoutRefreshing (status : String) : String :=
  if status = refreshingStatus then "" else status

end Board

end FleetBoard
