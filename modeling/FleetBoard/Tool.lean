import FleetBoard.Plan
import FleetBoard.Reply
import FleetBoard.Settings
import FleetBoard.Tee

/-!
# The Orchestration Tool

Everything that the dashboard knows of projects it learns by running the
orchestration tool. The tool is always told not to draw a screen of its own.

## Main definitions

* `Settings.invoke`: A subcommand of the tool.
* `Tool.projects`: The project list.
* `Tool.description`: The description of a project.
* `Tool.routerStatus`: The health of the router.
* `Tool.toggleDebugger`: The debugger is switched.
* `Tool.onTerminal`, `Tool.configure`: A subcommand that has the terminal.
-/

namespace FleetBoard

/-- A subcommand of the tool. -/
def Settings.invoke (s : Settings) (dir : Option Path) (args : List String) : Invocation where
  program := s.tool
  args := args
  dir := dir
  marker := some s.quietVariable

namespace Tool

/-- The subcommand that prints the project list. -/
def listArgs : List String := ["list", "--json-output"]

/-- The subcommand that prints the description of the project it is run in. -/
def describeArgs : List String := ["describe", "--json-output"]

/-- The subcommand that prints the add-ons of the project it is run in. -/
def addonArgs : List String := ["add-on", "list", "--installed", "--json-output"]

/-- The subcommand that switches the debugger of the project it is run in. -/
def debuggerArgs : List String := ["xdebug", "toggle"]

/-- The subcommand that follows the logs of the project it is run in. -/
def logArgs : List String := ["logs", "-f"]

/-- The subcommand that asks the user for the configuration of a project. -/
def configArgs : List String := ["config"]

/-- The project list. -/
def projects (s : Settings) : Attempt (List Project) := do
  let outcome ← Attempt.capture (s.invoke none listArgs)
  Attempt.expect (Reply.readProjects outcome.outputText)

/-- The add-ons of a project. -/
def addons (s : Settings) (root : Path) : Attempt (List String) := do
  let outcome ← Attempt.capture (s.invoke (some root) addonArgs)
  Attempt.expect (Reply.readAddons outcome.outputText)

/-- The description of a project. Nothing is run for a project whose directory is
    gone. Add-ons are an extra: where they cannot be had there are none. -/
def description (s : Settings) (root : Path) : Attempt Description := do
  let present ← Attempt.look root
  if !present then throw (.projectMissing root)
  let outcome ← Attempt.capture (s.invoke (some root) describeArgs)
  let description ← Attempt.expect (Reply.readDescription outcome.outputText root)
  let names ← tryCatch (addons s root) fun _ => pure description.addons
  pure { description with addons := names }

/-- The command that tells the health of the router. -/
def RouterProbe.invocation (probe : RouterProbe) : Invocation where
  program := probe.program
  args := probe.args

/-- The health of the router, empty where it cannot be told. -/
def routerStatus (s : Settings) : Plan String := do
  match ← ExceptT.run (Attempt.capture (RouterProbe.invocation s.router)) with
  | .ok outcome => pure (String.ofList (Text.trim outcome.outputText.toList))
  | .error _ => pure ""

/-- The debugger is switched, and its new state told. -/
def toggleDebugger (s : Settings) (root : Path) : Attempt Bool := do
  let outcome ← Attempt.capture (s.invoke (some root) debuggerArgs)
  pure (Reply.debuggerOn (outcome.outputText ++ outcome.errorText))

/-- A subcommand has the terminal, and the user sees what it prints. -/
def onTerminal (s : Settings) (dir : Option Path) (args : List String) : Attempt Unit := do
  let outcome ← Attempt.run (s.invoke dir args)
  Attempt.check (JobError.ofStatus? outcome.status)

/-- The configuration subcommand has the terminal. Its errors are shown and
    kept. That the terminal takes them is part of what an outcome stands for: a
    terminal that refuses some of them has no counterpart. -/
def configure (s : Settings) : Attempt Unit := do
  let outcome ← Attempt.run (s.invoke none configArgs)
  Attempt.check outcome.failureShown?

end Tool

end FleetBoard
