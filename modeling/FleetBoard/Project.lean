import FleetBoard.Path
import FleetBoard.Text.Blank
import FleetBoard.Text.LowerCase

/-!
# Projects

What the dashboard knows of a project: a row of the list, and the full
description that is loaded when one project is opened. Both are snapshots and
are replaced as a whole.

## Main definitions

* `RunState`: Whether a project runs.
* `Project`: One row of the project list.
* `Service`: A service of a project with its status.
* `Description`: The full description of one project.
* `Description.countedRows`: The rows that a description takes before wrapping.
* `orderServices`: The order in which services are shown.
-/

namespace FleetBoard

/-- Whether a project runs. -/
inductive RunState
  | running
  | stopped
  | paused
  | unknown
  deriving DecidableEq, Repr, Inhabited

namespace RunState

/-- The word for a status. -/
def label : RunState → String
  | .running => "running"
  | .stopped => "stopped"
  | .paused => "paused"
  | .unknown => "unknown"

/-- The status that a tag of the orchestration tool names, in any case and with
    blanks around it. -/
def parse (tag : String) : RunState :=
  let word := String.ofList (Text.lower (Text.trim tag.toList))
  if word = "running" then .running
  else if word = "stopped" then .stopped
  else if word = "paused" then .paused
  else .unknown

/-- Whether the project is up. -/
def isRunning : RunState → Bool
  | .running => true
  | _ => false

end RunState

/-- One row of the project list. -/
structure Project where
  name : String
  status : RunState
  kind : String
  url : String
  root : Path
  deriving DecidableEq, Repr

/-- A service of a project with its status as the tool words it. -/
structure Service where
  name : String
  status : String
  deriving DecidableEq, Repr

/-- The full description of one project. -/
structure Description where
  name : String := ""
  status : RunState := .unknown
  kind : String := ""
  phpVersion : String := ""
  webserverType : String := ""
  nodejsVersion : String := ""
  docroot : String := ""
  databaseType : String := ""
  databaseVersion : String := ""
  debugEnabled : Bool := false
  performanceMode : String := ""
  urls : List String := []
  /-- The address of the mail catcher, empty when there is none. -/
  mailUrl : String := ""
  /-- The address of the database on the host, empty when there is none. -/
  dbPublishedPort : String := ""
  addons : List String := []
  services : List Service := []
  root : Path := ⟨""⟩
  deriving DecidableEq, Repr

namespace Description

/-- The address that is opened and copied. -/
def primaryUrl (d : Description) : Option String :=
  d.urls.head?

/-- The rows that the description takes before wrapping, however many: a blank
    row, four rows of facts and a blank row, the addresses with their heading and
    a blank row, one row each for the mail catcher, the database port and the
    add-ons, and three for the services. -/
def rowCount (d : Description) : Nat :=
  6 + (if d.urls.isEmpty then 0 else d.urls.length + 2) + (if d.mailUrl = "" then 0 else 1) +
    (if d.dbPublishedPort = "" then 0 else 1) + (if d.addons.isEmpty then 0 else 1) +
    (if d.services.isEmpty then 0 else 3)

/-- The rows that the description takes before wrapping, as far as 16 bits
    count. -/
def countedRows (d : Description) : Nat :=
  min d.rowCount 65535

/-- The kind of database with its version, when that is known. -/
def databaseLabel (d : Description) : String :=
  if d.databaseVersion = "" then d.databaseType else d.databaseType ++ ":" ++ d.databaseVersion

end Description

/-- The place of a service by its name: the web server, the database, all
    others. -/
def servicePlace (name : String) : Nat :=
  if name = "web" then 0 else if name = "db" then 1 else 2

/-- Whether a service may stand before another one: by place, then by name. -/
def serviceLe (a b : Service) : Bool :=
  servicePlace a.name < servicePlace b.name ||
    (servicePlace a.name == servicePlace b.name && a.name ≤ b.name)

/-- The services in the order in which they are shown. Services of one name stay
    in their order. -/
def orderServices (services : List Service) : List Service :=
  services.mergeSort serviceLe

end FleetBoard
