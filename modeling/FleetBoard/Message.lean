import FleetBoard.Key
import FleetBoard.Page

/-!
# Messages

What the dashboard is told: keys, the size of the screen, and the results of the
jobs it asked for.

## Main definitions

* `Message`: One piece of news.
-/

namespace FleetBoard

/-- One piece of news for the dashboard. -/
inductive Message
  | resized (width height : Nat)
  | projectsLoaded (result : Except String (List Project))
  | detailLoaded (root : Path) (result : Except String Description)
  | routerStatus (status : String)
  /-- The state of the debugger after it was switched. -/
  | debuggerToggled (result : Except String Bool)
  | textCopied (error : Option String)
  | interactiveFinished (origin : Mode) (error : Option String)
  | streamStarted (stream : Stream)
  | line (launch : LaunchId) (text : String)
  | streamEnded (launch : LaunchId) (kind : StreamKind) (error : Option String)
  /-- The time to leave a finished operation has come. -/
  | returnDue (launch : LaunchId)
  | tick
  | key (key : Key)
  deriving Repr

end FleetBoard
