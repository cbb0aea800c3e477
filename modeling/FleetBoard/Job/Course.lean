import FleetBoard.Clipboard
import FleetBoard.Job
import FleetBoard.Message
import FleetBoard.Tool

/-!
# Courses of Jobs

What becomes of a job: most are planned and end in a message, some start a
stream or wait for a while, and some need the terminal.

## Main definitions

* `Course`: How a job gets done.
* `Job.course`: The course of a job.
* `Course.firstProgram?`: The program that a course begins with.
-/

namespace FleetBoard

/-- How a job gets done. Times are in milliseconds. -/
inductive Course
  /-- In the background, with a message at the end. -/
  | background (plan : Plan Message)
  /-- With a message after a while. -/
  | delayed (after : Nat) (message : Message)
  /-- By a program whose lines are followed. -/
  | stream (launch : LaunchId) (kind : StreamKind) (invocation : Invocation)
  /-- On the terminal, with a message at the end. -/
  | terminal (plan : Plan Message)
  /-- By killing the tree of a process. -/
  | kill (process : ProcessId)
  /-- By leaving the dashboard. -/
  | leave

/-- The course of a job, on a platform and with a wording of faults. -/
def Job.course (s : Settings) (platform : String) (wording : Json.Fault → String) :
    Job → Course
  | .loadProjects =>
    .background do
      pure (.projectsLoaded (← (Tool.projects s).result wording))
  | .loadDetail root =>
    .background do
      pure (.detailLoaded root (← (Tool.description s root).result wording))
  | .loadRouterStatus =>
    .background do
      pure (.routerStatus (← Tool.routerStatus s))
  | .followLogs launch root => .stream launch .logs (s.invoke (some root) Tool.logArgs)
  | .runOperation launch dir args => .stream launch .operation (s.invoke dir args)
  | .runInteractive dir args origin =>
    .terminal do
      pure (.interactiveFinished origin (← (Tool.onTerminal s dir args).error? wording))
  | .runConfig =>
    .terminal do
      pure (.interactiveFinished .dashboard (← (Tool.configure s).error? wording))
  | .toggleDebugger root =>
    .background do
      pure (.debuggerToggled (← (Tool.toggleDebugger s root).result wording))
  | .copyText text =>
    .background do
      pure (.textCopied (← (Clipboard.copy platform text).error? wording))
  | .scheduleTick after => .delayed after .tick
  | .scheduleReturn launch after => .delayed after (.returnDue launch)
  | .killTree process => .kill process
  | .quit => .leave

/-- The program that a plan begins with, if it begins with one. -/
def Plan.firstProgram? {α : Type} : Plan α → Option Invocation
  | .run i _ => some i
  | _ => none

/-- The program that a course begins with, if it begins with one. -/
def Course.firstProgram? : Course → Option Invocation
  | .background plan => plan.firstProgram?
  | .terminal plan => plan.firstProgram?
  | .stream _ _ i => some i
  | _ => none

end FleetBoard
