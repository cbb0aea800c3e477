import FleetBoard.Board
import FleetBoard.Screen.Parts
import FleetBoard.Text.Fit

/-!
# The Project List on the Screen

A title, the filter, one row per project, the status with the router, and the
hints. The columns of the table depend on the longest name that passes the
filter and on the width. A narrow screen has no column of addresses.

## Main definitions

* `nameColumns`: The width of the column of names.
* `projectLine`: The row of a project.
* `listing`: The rows between the title and the status.
* `dashboardFooter`: The status with the router between two rules.
* `dashboardSheet`: The whole page.
-/

namespace FleetBoard

namespace Screen

/-- The version that the title shows. -/
def version : String := "0.1.0"

/-- The title with the version at the right. -/
def dashboardTitle (width : Nat) : Line :=
  let title := "Projects"
  [⟨title, .title⟩, gap (width - (title.length + version.length)), ⟨version, .muted⟩]

/-- The filter while it is typed or narrows the list, and a blank line. -/
def filterLines (f : Filter) : List Line :=
  let shown (text : String) : List Line := [[⟨text, .accent⟩], []]
  if f.active then shown ("Filter: " ++ f.text ++ "█")
  else if f.isNarrowing then shown ("Filter: " ++ f.text ++ " (press / to edit, esc to clear)")
  else []

/-- The columns of the type of a project. -/
def typeColumns : Nat := 12

/-- The columns of the word for a status. -/
def statusColumns : Nat := 10

/-- Whether a screen is too narrow for addresses. -/
def isNarrow (width : Nat) : Bool :=
  width < 60

/-- The width of the column of names: enough for the longest one, but at most a
    third of the screen, and at most a quarter of a narrow one. -/
def nameColumns (projects : List Project) (width : Nat) : Nat :=
  let longest := (projects.map fun p => p.name.length).foldl max 16
  let wanted := min longest (max (width / 3) 16)
  if isNarrow width then min wanted (max (width / 4) 8) else wanted

/-- The columns that are left for the address of a project. -/
def urlRoom (width names : Nat) : Nat :=
  width - (names + statusColumns + typeColumns + 8)

/-- The address of a project that is up, where there is room for it. -/
def urlSpans (p : Project) (width names : Nat) : List Span :=
  if !isNarrow width && p.status.isRunning && p.url ≠ "" && 10 < urlRoom width names then
    [⟨"  ", .bare⟩, ⟨Text.fit (urlRoom width names) p.url, .accent⟩]
  else []

/-- The marker of the row that is selected. -/
def cursorMarker : String := "> "

/-- The row of a project. -/
def projectLine (icon : RunState → String) (p : Project) (selected : Bool) (width names : Nat) :
    Line :=
  [⟨if selected then cursorMarker else "  ", .accent⟩,
    ⟨Text.pad names (Text.fit names p.name), if selected then .selection else .text⟩,
    ⟨" ", .bare⟩,
    ⟨icon p.status ++ " " ++ Text.pad statusColumns p.status.label, Role.ofState p.status⟩,
    ⟨Text.pad typeColumns (Text.fit typeColumns p.kind), .dim⟩] ++ urlSpans p width names

/-- The lines instead of a list without projects. -/
def emptyListing (b : Board) : List Line :=
  if b.loading then [[⟨"  Loading projects...", .dim⟩]]
  else
    match b.loadError with
    | some e =>
      [[⟨"  Error: " ++ e, .failure⟩], [⟨"  Is Docker running? Press R to retry.", .bare⟩]]
    | none =>
      [[⟨"  No projects found.", .bare⟩],
        [⟨"  Press C to configure a project in the current directory.", .dim⟩]]

/-- The first project that is shown, so that the selected one is on the
    screen. -/
def firstShown (cursor height : Nat) : Nat :=
  cursor + 1 - max height 1

/-- The rows of the projects that fit on the screen. -/
def projectLines (icon : RunState → String) (b : Board) (width height : Nat) : List Line :=
  if b.projects.isEmpty then emptyListing b
  else if b.visible.isEmpty then [[⟨"  No projects match the filter.", .bare⟩]]
  else
    let names := nameColumns b.visible width
    ((b.visible.zipIdx.drop (firstShown b.cursor height)).take height).map fun (p, i) =>
      projectLine icon p (i = b.cursor) width names

/-- The lines between the title and the status. -/
def listing (icon : RunState → String) (b : Board) (width height : Nat) : List Line :=
  let filter := filterLines b.filter
  filter ++ projectLines icon b width (height - filter.length)

/-- The question, the status or some advice, if there is any of them. -/
def statusLines (b : Board) : List Line :=
  match b.confirmation with
  | some action => [[⟨action.prompt b.projects.length, .warning⟩]]
  | none =>
    if b.status ≠ "" then [[⟨b.status, .text⟩]]
    else if !b.projects.isEmpty && b.allStopped then
      [[⟨"All projects stopped. Press 's' to start selected, 'a' to start all.", .dim⟩]]
    else []

/-- The health of the router, if it is known. -/
def routerLines (b : Board) : List Line :=
  if b.routerStatus = "" then []
  else [[⟨"Router: ", .dim⟩, ⟨b.routerStatus, Role.ofRouter b.routerStatus⟩]]

/-- The status with the router between two rules. -/
def dashboardFooter (b : Board) (width : Nat) : List Line :=
  [rule width] ++ statusLines b ++ routerLines b ++ [rule width]

/-- The page of the project list. -/
def dashboardSheet (icon : RunState → String) (b : Board) (width : Nat) : Sheet where
  title := [dashboardTitle width, rule width]
  fitting := .clipped
  body := listing icon b width
  below :=
    [⟨(dashboardFooter b width).length, .wrapped 0, dashboardFooter b width⟩,
      ⟨hintRows dashboardHints width, .wrapped 0, [hintLine dashboardHints]⟩]

end Screen

end FleetBoard
