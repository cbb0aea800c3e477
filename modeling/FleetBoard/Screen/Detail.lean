import FleetBoard.Board
import FleetBoard.Screen.Parts
import FleetBoard.Text.Fit

/-!
# A Project on the Screen

The page of one project: its name and status, its facts, and the hints. The
facts are broken at the width and can be scrolled. While they are loaded again
the previous ones stay on the screen.

## Main definitions

* `factLines`: The facts of a project, before they are broken.
* `detailBody`: What can be scrolled.
* `detailSheet`: The whole page.
-/

namespace FleetBoard

namespace Screen

/-- The name of a fact, in a column of its own. -/
def factName (s : String) : Span :=
  ⟨Text.pad 11 s, .dim⟩

/-- A line with two facts. -/
def factPair (name value otherName otherValue : String) : Line :=
  [⟨" ", .bare⟩, factName name, ⟨Text.pad 16 value, .text⟩, ⟨"  ", .bare⟩, factName otherName,
    ⟨otherValue, .text⟩]

/-- A line with one fact. -/
def factLine (name value : String) (role : Role) : Line :=
  [⟨" ", .bare⟩, factName name, ⟨value, role⟩]

/-- A line with the name of the facts below it. -/
def factHeading (name : String) : Line :=
  [⟨" ", .bare⟩, factName name]

/-- The characters of an address that are shown. -/
def urlLength (width : Nat) : Nat :=
  max (width - 5) 20

/-- The addresses with their heading, if there are any. -/
def urlLines (d : Description) (width : Nat) : List Line :=
  if d.urls.isEmpty then []
  else
    [factHeading "URLs:"] ++
      d.urls.map (fun url => [⟨"   ", .bare⟩, ⟨Text.fit (urlLength width) url, .accent⟩]) ++ [[]]

/-- A service with its status. -/
def serviceSpans (s : Service) : List Span :=
  [⟨s.name, .text⟩, ⟨" ", .bare⟩, ⟨s.status, Role.ofState (RunState.parse s.status)⟩]

/-- The services with their heading, if there are any. -/
def serviceLines (d : Description) : List Line :=
  if d.services.isEmpty then []
  else
    [[], factHeading "Services:",
      ⟨"   ", .bare⟩ ::
        (((orderServices d.services).map serviceSpans).intersperse [⟨", ", .bare⟩]).flatten]

/-- The facts of a project, before they are broken. -/
def factLines (d : Description) (width : Nat) : List Line :=
  [[],
    factPair "Type:" d.kind "PHP:" d.phpVersion,
    factPair "Webserver:" d.webserverType "Node.js:" d.nodejsVersion,
    factPair "Docroot:" d.docroot "Perf:"
      (if d.performanceMode = "" then "none" else d.performanceMode),
    factPair "Database:" d.databaseLabel "Xdebug:" (if d.debugEnabled then "on" else "off"),
    []] ++
  urlLines d width ++
  (if d.mailUrl = "" then []
    else [factLine "Mailpit:" (Text.fit (urlLength width) d.mailUrl) .accent]) ++
  (if d.dbPublishedPort = "" then [] else [factLine "DB Port:" d.dbPublishedPort .text]) ++
  (if d.addons.isEmpty then []
    else [factLine "Add-ons:" (String.intercalate ", " d.addons) .text]) ++
  serviceLines d

/-- The name of the project, with its status at the right once that is known. -/
def detailTitle (page : DetailPage) (width : Nat) : Line :=
  let title := "Project: " ++ page.name
  [⟨title, .title⟩] ++
    match page.description with
    | none => []
    | some d =>
      [gap (width - (title.length + d.status.label.length)),
        ⟨d.status.label, Role.ofState d.status⟩]

/-- The facts, or a note that they are on their way, and the status. -/
def detailBody (b : Board) (page : DetailPage) (width : Nat) : List Line :=
  let facts :=
    match page.description with
    | some d => factLines d width
    | none => [[], [⟨"  Loading project detail...", .dim⟩]]
  facts ++ if b.status = "" then [] else [[], [⟨b.status, .text⟩]]

/-- The page of one project. -/
def detailSheet (b : Board) (page : DetailPage) (width : Nat) : Sheet where
  title := [detailTitle page width, rule width]
  fitting := .wrapped page.scroll
  body _ := detailBody b page width
  below := [⟨1 + hintRows detailHints width, .wrapped 0, [rule width, hintLine detailHints]⟩]

end Screen

end FleetBoard
