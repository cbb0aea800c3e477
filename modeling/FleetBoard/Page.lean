import FleetBoard.Project
import FleetBoard.Scrollback
import FleetBoard.Stream

/-!
# Pages

The page that the dashboard shows, with what belongs to it. A description that
was open when its logs were followed, or when an operation was launched from it,
is parked in the page of the stream and comes back when that page is left.

## Main definitions

* `Mode`: Which kind of page is shown.
* `Slot`: Where a launched stream is in its life.
* `DetailPage`, `LogsPage`, `OperationPage`: The pages with what belongs to them.
* `Page`: The page that is shown.
* `Page.detail?`: The description that can be reached from a page.
* `OperationPage.leave`: The page after an operation.
-/

namespace FleetBoard

/-- Which kind of page is shown. -/
inductive Mode
  | dashboard
  | detail
  | logs
  | operation
  deriving DecidableEq, Repr

/-- The word for a kind of page. -/
def Mode.label : Mode → String
  | .dashboard => "dashboard"
  | .detail => "detail"
  | .logs => "logs"
  | .operation => "operation"

/-- Where a launched stream is in its life. -/
inductive Slot
  /-- The launch was asked for and has not been answered. -/
  | pending (launch : LaunchId)
  | live (stream : Stream)
  | closed
  deriving DecidableEq, Repr

namespace Slot

/-- The stream that is live. -/
def stream? : Slot → Option Stream
  | .live s => some s
  | _ => none

/-- Whether a stream is live. -/
def isLive (s : Slot) : Bool :=
  s.stream?.isSome

/-- Whether results of a launch belong here. -/
def expects (s : Slot) (launch : LaunchId) : Bool :=
  match s with
  | .pending id => id = launch
  | .live stream => stream.launch = launch
  | .closed => false

end Slot

/-- The page of one project. -/
structure DetailPage where
  name : String
  root : Path
  /-- The last description that was loaded. -/
  description : Option Description := none
  /-- Whether a load is on its way. -/
  loading : Bool := true
  /-- How many rows are scrolled away. -/
  scroll : Nat := 0
  deriving DecidableEq, Repr

/-- The page of the logs of a project. -/
structure LogsPage where
  /-- The page to come back to. -/
  detail : DetailPage
  scrollback : Scrollback := {}
  slot : Slot
  deriving DecidableEq, Repr

/-- The page of an operation. -/
structure OperationPage where
  launch : LaunchId
  name : String
  done : Bool := false
  error : Option String := none
  /-- The kind of page that comes after the operation. -/
  returnMode : Mode
  scrollback : Scrollback := {}
  slot : Slot
  /-- The page to come back to, if it is not the project list. -/
  origin : Option DetailPage
  deriving DecidableEq, Repr

/-- The page that is shown. -/
inductive Page
  | dashboard
  | detail (page : DetailPage)
  | logs (page : LogsPage)
  | operation (page : OperationPage)
  deriving DecidableEq, Repr

namespace OperationPage

/-- The page of an operation that was just launched. -/
def launched (name : String) (launch : LaunchId) (origin : Option DetailPage) :
    OperationPage where
  launch := launch
  name := name
  returnMode := if origin.isSome then .detail else .dashboard
  slot := .pending launch
  origin := origin

/-- The page after an operation. -/
def leave (op : OperationPage) : Page :=
  match op.origin with
  | some page => .detail page
  | none => .dashboard

/-- The operation without a page to come back to. -/
def forgetOrigin (op : OperationPage) : OperationPage :=
  { op with origin := none, returnMode := .dashboard }

end OperationPage

namespace Page

/-- Which kind of page it is. -/
def mode : Page → Mode
  | .dashboard => .dashboard
  | .detail _ => .detail
  | .logs _ => .logs
  | .operation _ => .operation

/-- The page of a project that can be reached: the one shown, or the one that is
    parked. -/
def detail? : Page → Option DetailPage
  | .dashboard => none
  | .detail page => some page
  | .logs page => some page.detail
  | .operation page => page.origin

/-- The page with a change to the page of a project that can be reached. -/
def mapDetail (f : DetailPage → DetailPage) : Page → Page
  | .dashboard => .dashboard
  | .detail page => .detail (f page)
  | .logs page => .logs { page with detail := f page.detail }
  | .operation page => .operation { page with origin := page.origin.map f }

/-- The page after its project could not be loaded: a description that is open
    is left, one that is parked under an operation is given up, and logs stay. -/
def dropDetail : Page → Page
  | .detail _ => .dashboard
  | .operation page => .operation page.forgetOrigin
  | page => page

/-- The slot of the stream of a page. -/
def slot? : Page → Option Slot
  | .logs page => some page.slot
  | .operation page => some page.slot
  | _ => none

/-- The page with another slot, if it has one. -/
def setSlot (slot : Slot) : Page → Page
  | .logs page => .logs { page with slot := slot }
  | .operation page => .operation { page with slot := slot }
  | page => page

/-- The stream that is live on a page. -/
def stream? (p : Page) : Option Stream :=
  p.slot?.bind Slot.stream?

/-- The retained lines of a page. -/
def scrollback? : Page → Option Scrollback
  | .logs page => some page.scrollback
  | .operation page => some page.scrollback
  | _ => none

/-- The page with one more line, if it has retained lines. -/
def pushLine (line : String) : Page → Page
  | .logs page => .logs { page with scrollback := page.scrollback.push line }
  | .operation page => .operation { page with scrollback := page.scrollback.push line }
  | page => page

end Page

end FleetBoard
