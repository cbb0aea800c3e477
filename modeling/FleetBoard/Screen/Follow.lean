import FleetBoard.Board
import FleetBoard.Screen.Parts

/-!
# A Stream on the Screen

The page of logs or of an operation: the newest lines that fit, and below them
how the operation ended and the status.

## Main definitions

* `StreamPage`: What the two pages show.
* `retainedLines`: The lines between the title and the footer.
* `streamSheet`: The whole page.
-/

namespace FleetBoard

namespace Screen

/-- What a page of a stream shows. -/
structure StreamPage where
  title : String
  scrollback : Scrollback
  /-- What is shown as long as there are no lines. -/
  waiting : Option String
  /-- How the stream ended, if that is told. -/
  outcome : Option Span

/-- What the page of logs shows. -/
def StreamPage.ofLogs (page : LogsPage) : StreamPage where
  title := "Logs: " ++ page.detail.name
  scrollback := page.scrollback
  waiting :=
    some (if page.slot = .closed then "  Log stream ended" else "  Waiting for log output...")
  outcome := none

/-- How an operation ended. -/
def outcomeSpan (op : OperationPage) : Option Span :=
  if op.done then
    match op.error with
    | some e => some ⟨"Failed: " ++ e, .failure⟩
    | none => some ⟨"Completed, returning shortly...", .success⟩
  else none

/-- What the page of an operation shows. -/
def StreamPage.ofOperation (op : OperationPage) : StreamPage where
  title := if op.name = "" then "Operation" else op.name
  scrollback := op.scrollback
  waiting := if op.done then none else some "  Running..."
  outcome := outcomeSpan op

/-- The lines between the title and the footer: the newest that fit, or a note
    that there are none. -/
def retainedLines (p : StreamPage) (height : Nat) : List Line :=
  if p.scrollback.lines.isEmpty then
    match p.waiting with
    | some note => [[], [⟨note, .dim⟩]]
    | none => []
  else (p.scrollback.newest height).map fun line => [⟨line, .text⟩]

/-- How the operation ended, the status, a rule and the hints. -/
def streamFooter (p : StreamPage) (status : String) (width : Nat) : List Line :=
  (p.outcome.map fun s => [s]).toList ++ (if status = "" then [] else [[⟨status, .warning⟩]]) ++
    [rule width, hintLine streamHints]

/-- The page of a stream. -/
def streamSheet (b : Board) (p : StreamPage) (width : Nat) : Sheet where
  title := [[⟨p.title, .title⟩], rule width]
  fitting := .clipped
  body := retainedLines p
  below :=
    [⟨(streamFooter p b.status width).length, .clipped, streamFooter p b.status width⟩]

end Screen

end FleetBoard
