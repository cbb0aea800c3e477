import FleetBoard.Board
import FleetBoard.Key

/-!
# Commands

What the keys ask for on the pages that take more than the way back. A key is
first looked up as a command, and commands are then carried out.

## Main definitions

* `Lifecycle`: The subcommands that change how a project runs.
* `Site`: What can be opened in a browser.
* `DashboardCommand`: What a key asks for on the project list.
* `DetailCommand`: What a key asks for on the page of a project.
-/

namespace FleetBoard

/-- A subcommand that changes how a project runs. -/
inductive Lifecycle
  | start
  | stop
  | restart
  deriving DecidableEq, Repr

namespace Lifecycle

/-- The subcommand. -/
def subcommand : Lifecycle → String
  | .start => "start"
  | .stop => "stop"
  | .restart => "restart"

/-- The name of the operation on a project. -/
def operationName (l : Lifecycle) (project : String) : String :=
  match l with
  | .start => "Starting " ++ project
  | .stop => "Stopping " ++ project
  | .restart => "Restarting " ++ project

end Lifecycle

/-- What can be opened in a browser for a project. -/
inductive Site
  | project
  | mail
  | profiler
  deriving DecidableEq, Repr

/-- The subcommand that opens a site. -/
def Site.arguments : Site → List String
  | .project => ["launch"]
  | .mail => ["launch", "-m"]
  | .profiler => ["xhgui"]

/-- What a key asks for on the project list. -/
inductive DashboardCommand
  | previous
  | next
  | dropFilter
  | quit
  | pageUp
  | pageDown
  | openProject
  | lifecycle (action : Lifecycle)
  | browse (site : Site)
  | ask (action : BulkAction)
  | configure
  | refresh
  | beginFilter
  | showHelp
  deriving DecidableEq, Repr

/-- What a character asks for on the project list. -/
def DashboardCommand.ofChar? (c : Char) : Option DashboardCommand :=
  if c = 'k' then some .previous
  else if c = 'j' then some .next
  else if c = 'q' then some .quit
  else if c = 'd' then some .openProject
  else if c = 's' then some (.lifecycle .start)
  else if c = 'S' then some (.lifecycle .stop)
  else if c = 'r' then some (.lifecycle .restart)
  else if c = 'l' then some (.browse .project)
  else if c = 'm' then some (.browse .mail)
  else if c = 'x' then some (.browse .profiler)
  else if c = 'a' then some (.ask .startAll)
  else if c = 'A' then some (.ask .stopAll)
  else if c = 'P' then some (.ask .poweroff)
  else if c = 'C' then some .configure
  else if c = 'R' then some .refresh
  else if c = '/' then some .beginFilter
  else if c = '?' then some .showHelp
  else none

/-- What a key asks for on the project list. -/
def DashboardCommand.ofKey? : Key → Option DashboardCommand
  | .char c => ofChar? c
  | .up => some .previous
  | .down => some .next
  | .escape => some .dropFilter
  | .pageUp => some .pageUp
  | .pageDown => some .pageDown
  | .enter => some .openProject
  | _ => none

/-- What a key asks for on the page of a project. -/
inductive DetailCommand
  | scrollUp
  | scrollDown
  | pageUp
  | pageDown
  | back
  | quit
  | followLogs
  | lifecycle (action : Lifecycle)
  | browse (site : Site)
  | shell
  | toggleDebugger
  | copyUrl
  | refresh
  deriving DecidableEq, Repr

/-- What a character asks for on the page of a project. -/
def DetailCommand.ofChar? (c : Char) : Option DetailCommand :=
  if c = 'k' then some .scrollUp
  else if c = 'j' then some .scrollDown
  else if c = 'q' then some .quit
  else if c = 'L' then some .followLogs
  else if c = 's' then some (.lifecycle .start)
  else if c = 'S' then some (.lifecycle .stop)
  else if c = 'r' then some (.lifecycle .restart)
  else if c = 'l' then some (.browse .project)
  else if c = 'm' then some (.browse .mail)
  else if c = 'x' then some (.browse .profiler)
  else if c = 'e' then some .shell
  else if c = 'X' then some .toggleDebugger
  else if c = 'c' then some .copyUrl
  else if c = 'R' then some .refresh
  else none

/-- What a key asks for on the page of a project. -/
def DetailCommand.ofKey? : Key → Option DetailCommand
  | .char c => ofChar? c
  | .up => some .scrollUp
  | .down => some .scrollDown
  | .pageUp => some .pageUp
  | .pageDown => some .pageDown
  | .escape => some .back
  | .backspace => some .back
  | _ => none

end FleetBoard
