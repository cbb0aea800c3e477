import FleetBoard.Page

/-!
# Jobs

The work that the dashboard asks for. A job is plain data: it is done outside,
and its results come back as messages.

## Main definitions

* `Job`: A unit of work.
* `Job.label`: Its short name.
-/

namespace FleetBoard

/-- A unit of work that the dashboard asks for. Times are in milliseconds. -/
inductive Job
  | loadProjects
  | loadDetail (root : Path)
  | loadRouterStatus
  /-- The logs of a project are followed. -/
  | followLogs (launch : LaunchId) (root : Path)
  /-- A subcommand is run and its status reported. -/
  | runOperation (launch : LaunchId) (dir : Option Path) (args : List String)
  /-- A subcommand gets the terminal. -/
  | runInteractive (dir : Option Path) (args : List String) (origin : Mode)
  /-- The configuration subcommand gets the terminal. -/
  | runConfig
  | toggleDebugger (root : Path)
  | copyText (text : String)
  | scheduleTick (after : Nat)
  /-- A finished operation is left after a while. -/
  | scheduleReturn (launch : LaunchId) (after : Nat)
  | killTree (process : ProcessId)
  | quit
  deriving DecidableEq, Repr

/-- The short name of a job. -/
def Job.label : Job → String
  | .loadProjects => "load-projects"
  | .loadDetail _ => "load-detail"
  | .loadRouterStatus => "load-router-status"
  | .followLogs .. => "start-log-stream"
  | .runOperation .. => "start-operation"
  | .runInteractive .. => "run-interactive"
  | .runConfig => "run-config"
  | .toggleDebugger _ => "toggle-debug"
  | .copyText _ => "copy-to-clipboard"
  | .scheduleTick _ => "schedule-tick"
  | .scheduleReturn .. => "schedule-auto-return"
  | .killTree _ => "kill-process-tree"
  | .quit => "quit"

end FleetBoard
