import FleetBoard.Board.Command
import FleetBoard.Message

/-!
# Updates

How the board changes by a message, and which jobs it asks for then. Nothing
else changes the board.

A stream that is given up while it is live has its process killed. Results that
carry the number of a launch count only while the page of that launch waits for
them.

## Main definitions

* `Board.startup`: The jobs to begin with.
* `Board.update`: The board after a message, with the jobs it asks for.

## Theorems

* `pressKey_of_dashboard`, `pressKey_of_detail`, `pressKey_of_logs`,
  `pressKey_of_operation`: Where keys go on each page.
-/

namespace FleetBoard

namespace Board

/-- The jobs that bring the project list up to date. -/
def listJobs : List Job :=
  [.loadProjects, .loadRouterStatus]

/-- The jobs to begin with. -/
def startup (b : Board) : List Job :=
  listJobs ++ [.scheduleTick b.timings.refresh]

/-- The jobs that a stream leaves behind when it is given up. -/
def killJobs (stream : Option Stream) : List Job :=
  ((stream.bind Stream.process).map Job.killTree).toList

/-- The jobs that bring the page of a project up to date, if there is one. -/
def detailJobs (page : Option DetailPage) : List Job :=
  (page.map fun p => Job.loadDetail p.root).toList

/-- A page of a project that waits for a load. -/
def awaitLoad (page : DetailPage) : DetailPage :=
  { page with loading := true }

/-- The board after the project list was loaded, or could not be. -/
def takeProjects (b : Board) : Except String (List Project) → Board
  | .ok projects =>
    clampCursor
      { b with
        loading := false
        loadError := none
        status := withoutRefreshing b.status
        projects := projects }
  | .error e =>
    { b with
      loading := false
      loadError := some e
      status := "Error loading projects: " ++ e }

/-- The board after a project was loaded, or could not be. The result counts
    only if the page of that project can be reached. -/
def takeDescription (b : Board) (root : Path) (result : Except String Description) : Board :=
  match b.page.detail? with
  | none => b
  | some page =>
    if page.root.same root then
      match result with
      | .ok d =>
        { b with
          page := b.page.mapDetail fun p => { p with loading := false, description := some d }
          status := withoutRefreshing b.status }
      | .error e =>
        { b with
          page := (b.page.mapDetail fun p => { p with loading := false }).dropDetail
          status := "Error loading detail: " ++ e }
    else b

/-- The status line after the debugger was switched. -/
def debuggerStatus : Except String Bool → String
  | .ok true => "Xdebug enabled"
  | .ok false => "Xdebug disabled"
  | .error e => "Xdebug toggle failed: " ++ e

/-- The board after the debugger was switched. A description that can be reached
    is loaded again. -/
def takeDebugger (b : Board) (result : Except String Bool) : Board × List Job :=
  let b := { b with status := debuggerStatus result }
  match b.page.detail? with
  | some page =>
    if page.description.isSome then
      ({ b with page := b.page.mapDetail awaitLoad }, detailJobs (some page))
    else (b, [])
  | none => (b, [])

/-- The status line after a text was copied. -/
def copyStatus : Option String → String
  | none => "URL copied to clipboard"
  | some e => "Copy failed: " ++ e

/-- The board after a subcommand gave the terminal back. -/
def takeInteractive (b : Board) (origin : Mode) (error : Option String) : Board × List Job :=
  let status :=
    match error with
    | none => completedStatus
    | some e => "Error: " ++ e
  let b := { b with status := status, loading := true }
  if origin = .detail then
    ({ b with page := b.page.mapDetail awaitLoad }, listJobs ++ detailJobs b.page.detail?)
  else (b, listJobs)

/-- The board after a stream was started. A stream that no page waits for is
    given up. -/
def takeStream (b : Board) (stream : Stream) : Board × List Job :=
  if b.page.slot? = some (.pending stream.launch) then
    ({ b with page := b.page.setSlot (.live stream) }, [])
  else (b, killJobs (some stream))

/-- Whether the page that is shown waits for results of a launch. -/
def expects (b : Board) (launch : LaunchId) : Bool :=
  match b.page.slot? with
  | some slot => slot.expects launch
  | none => false

/-- The board after a line of a stream. -/
def takeLine (b : Board) (launch : LaunchId) (text : String) : Board :=
  if b.expects launch then { b with page := b.page.pushLine text } else b

/-- The board after the end of the logs that are shown. -/
def endLogs (b : Board) (page : LogsPage) (error : Option String) : Board :=
  let b := { b with page := .logs { page with slot := .closed } }
  match error with
  | none => b
  | some e => { b with status := "Error following logs: " ++ e }

/-- The board after the end of the operation that is shown. One that succeeded
    is left after a while. -/
def endOperation (b : Board) (op : OperationPage) (launch : LaunchId) (error : Option String) :
    Board × List Job :=
  let ended :=
    { op with slot := .closed, done := true, error := error, origin := op.origin.map awaitLoad }
  ({ b with page := .operation ended },
    listJobs ++ detailJobs op.origin ++
      if error.isNone then [.scheduleReturn launch b.timings.autoReturn] else [])

/-- The board after the end of a stream. -/
def takeEnd (b : Board) (launch : LaunchId) (error : Option String) : Board × List Job :=
  match b.page with
  | .logs page => if page.slot.expects launch then (b.endLogs page error, []) else (b, [])
  | .operation op =>
    if op.slot.expects launch then b.endOperation op launch error else (b, [])
  | _ => (b, [])

/-- The board when it is time to leave an operation. Only the operation of that
    launch is left, and only after success. -/
def takeReturn (b : Board) (launch : LaunchId) : Board :=
  match b.page with
  | .operation op =>
    if op.launch = launch ∧ op.done ∧ op.error = none then
      { b with page := op.leave, status := completedStatus }
    else b
  | _ => b

/-- The jobs of a tick. A page that waits for a load does not ask for
    another one. -/
def tickJobs (b : Board) : List Job :=
  let jobs :=
    match b.page with
    | .dashboard => listJobs
    | .detail page =>
      if page.loading then [.loadRouterStatus] else [.loadDetail page.root, .loadRouterStatus]
    | _ => []
  jobs ++ [.scheduleTick b.timings.refresh]

/-- The program ends, and a live stream is given up. -/
def quit (b : Board) : Board × List Job :=
  ({ b with page := b.page.setSlot .closed }, killJobs b.page.stream? ++ [.quit])

/-- The rows of a page by the rows of the screen that are taken otherwise. -/
def pageRows (height taken : Nat) : Nat :=
  if height ≤ taken then 10 else height - taken

/-- An operation is launched. A page of a project is parked meanwhile. -/
def launchOperation (b : Board) (name : String) (dir : Option Path) (args : List String) :
    Board × List Job :=
  let origin :=
    match b.page with
    | .detail page => some page
    | _ => none
  let launch := b.nextLaunch
  ({ b with
      launches := b.launches + 1
      page := .operation (.launched name launch origin)
      status := "" },
    [.runOperation launch dir args])

/-- An action that has to be confirmed is asked about. -/
def askFor (b : Board) (action : BulkAction) : Board :=
  { b with status := action.prompt b.projects.length, confirmation := some action }

/-- The board after a key while an action waits for its confirmation. -/
def answerKey (b : Board) (action : BulkAction) (key : Key) : Board × List Job :=
  let b := { b with confirmation := none }
  if key.isConfirm then b.launchOperation action.operationName none action.arguments
  else ({ b with status := "" }, [])

/-- The board after a key while the filter is typed. -/
def filterKey (b : Board) : Key → Board
  | .escape => { b with filter := .cancel, cursor := 0 }
  | .enter => { b with filter := b.filter.confirm }
  | .backspace => if b.filter.isNarrowing then { b with filter := b.filter.pop, cursor := 0 } else b
  | .char c => { b with filter := b.filter.push c, cursor := 0 }
  | _ => b

/-- The jobs that open a site of a project that is selected. Only the profiler
    is there without an address. -/
def browseJobs (p : Project) (site : Site) : List Job :=
  if site = .profiler ∨ p.url ≠ "" then
    [.runInteractive (some p.root) site.arguments .dashboard]
  else []

/-- A command on the project list is carried out. -/
def runDashboard (b : Board) : DashboardCommand → Board × List Job
  | .previous => ({ b with cursor := b.cursor - 1 }, [])
  | .next =>
    (if b.cursor + 1 < b.visible.length then { b with cursor := b.cursor + 1 } else b, [])
  | .dropFilter =>
    (if b.filter.isNarrowing then { b with filter := .cancel, cursor := 0 } else b, [])
  | .quit => (b, [.quit])
  | .pageUp => ({ b with cursor := b.cursor - pageRows b.height 10 }, [])
  | .pageDown =>
    ({ b with cursor := min (b.cursor + pageRows b.height 10) (b.visible.length - 1) }, [])
  | .openProject =>
    match b.selected? with
    | none => (b, [])
    | some p =>
      ({ b with page := .detail { name := p.name, root := p.root }, status := "" },
        [.loadDetail p.root])
  | .lifecycle action =>
    match b.selected? with
    | none => (b, [])
    | some p =>
      b.launchOperation (action.operationName p.name) none [action.subcommand, p.name]
  | .browse site =>
    match b.selected? with
    | none => (b, [])
    | some p => (b, browseJobs p site)
  | .ask .poweroff => (b.askFor .poweroff, [])
  | .ask action => (if b.projects.isEmpty then b else b.askFor action, [])
  | .configure => (b, [.runConfig])
  | .refresh => ({ b with loading := true, status := refreshingStatus }, listJobs)
  | .beginFilter => ({ b with filter := .begin, cursor := 0 }, [])
  | .showHelp => ({ b with helpShown := true }, [])

/-- The board after a key on the project list. An action that waits for its
    confirmation goes first, then the filter while it is typed, then the help. -/
def dashboardKey (b : Board) (key : Key) : Board × List Job :=
  match b.confirmation with
  | some action => b.answerKey action key
  | none =>
    if b.filter.active then (b.filterKey key, [])
    else if b.helpShown then ({ b with helpShown := false }, [])
    else
      match DashboardCommand.ofKey? key with
      | some command => b.runDashboard command
      | none => (b, [])

/-- How far the page of a project can be scrolled: its last row stays on the
    screen. -/
def scrollLimit (page : DetailPage) : Nat :=
  match page.description with
  | some d => d.countedRows - 1
  | none => 0

/-- A command that works only on a description is carried out. -/
def runDescribed (b : Board) (page : DetailPage) (d : Description) :
    DetailCommand → Board × List Job
  | .followLogs =>
    let launch := b.nextLaunch
    ({ b with
        launches := b.launches + 1
        page := .logs { detail := page, slot := .pending launch } },
      [.followLogs launch page.root])
  | .lifecycle action =>
    b.launchOperation (action.operationName d.name) (some page.root) [action.subcommand]
  | .browse .project =>
    (b,
      if d.urls.isEmpty then []
      else [.runInteractive (some page.root) Site.project.arguments .detail])
  | .browse .mail =>
    (b,
      if d.mailUrl = "" then []
      else [.runInteractive (some page.root) Site.mail.arguments .detail])
  | .browse .profiler => (b, [.runInteractive (some page.root) Site.profiler.arguments .detail])
  | .shell => (b, [.runInteractive (some page.root) ["ssh"] .detail])
  | .toggleDebugger =>
    if d.status.isRunning then
      ({ b with status := "Toggling xdebug..." }, [.toggleDebugger page.root])
    else (b, [])
  | .copyUrl =>
    match d.primaryUrl with
    | some url => ({ b with status := "Copying URL..." }, [.copyText url])
    | none => (b, [])
  | .refresh =>
    ({ b with page := .detail (awaitLoad page), status := refreshingStatus },
      [.loadDetail page.root])
  | _ => (b, [])

/-- A command on the page of a project is carried out. -/
def runDetail (b : Board) (page : DetailPage) : DetailCommand → Board × List Job
  | .scrollUp => ({ b with page := .detail { page with scroll := page.scroll - 1 } }, [])
  | .scrollDown =>
    ({ b with page := .detail { page with scroll := min (page.scroll + 1) (scrollLimit page) } },
      [])
  | .pageUp =>
    ({ b with page := .detail { page with scroll := page.scroll - pageRows b.height 6 } }, [])
  | .pageDown =>
    ({ b with
        page := .detail
          { page with scroll := min (page.scroll + pageRows b.height 6) (scrollLimit page) } },
      [])
  | .back => ({ b with page := .dashboard, status := "" }, [])
  | .quit => (b, [.quit])
  | command =>
    match page.description with
    | some d => b.runDescribed page d command
    | none => (b, [])

/-- The board after a key on the page of a project. -/
def detailKey (b : Board) (page : DetailPage) (key : Key) : Board × List Job :=
  match DetailCommand.ofKey? key with
  | some command => b.runDetail page command
  | none => (b, [])

/-- The logs are left for the page they were followed from. -/
def leaveLogs (b : Board) (page : LogsPage) : Board × List Job :=
  ({ b with page := .detail page.detail }, killJobs page.slot.stream?)

/-- An operation is left for the page it was launched from, and what it may have
    changed is loaded again. -/
def leaveOperation (b : Board) (op : OperationPage) : Board × List Job :=
  ({ b with page := op.leave.mapDetail awaitLoad },
    killJobs op.slot.stream? ++ listJobs ++ detailJobs op.origin)

/-- The board after a key. -/
def pressKey (b : Board) (key : Key) : Board × List Job :=
  if key = .interrupt then b.quit
  else
    match b.page with
    | .dashboard => b.dashboardKey key
    | .detail page => b.detailKey page key
    | .logs page =>
      if key.isQuit then b.quit
      else if key.isBack then b.leaveLogs page
      else (b, [])
    | .operation op =>
      if key.isQuit then b.quit
      else if key.isBack then b.leaveOperation op
      else (b, [])

/-- The end of the program is asked for whenever a key quits. -/
theorem quit_mem_quit (b : Board) : Job.quit ∈ b.quit.2 :=
  List.mem_append.mpr (Or.inr (List.mem_singleton.mpr rfl))

theorem pressKey_interrupt (b : Board) : b.pressKey .interrupt = b.quit := by
  rw [pressKey, if_pos rfl]

theorem pressKey_of_dashboard (b : Board) (key : Key) (hp : b.page = .dashboard)
    (hkey : key ≠ .interrupt) : b.pressKey key = b.dashboardKey key := by
  rw [pressKey, if_neg hkey, hp]

theorem pressKey_of_detail (b : Board) (page : DetailPage) (key : Key) (hp : b.page = .detail page)
    (hkey : key ≠ .interrupt) : b.pressKey key = b.detailKey page key := by
  rw [pressKey, if_neg hkey, hp]

/-- On the project list a key answers the question that is asked, is typed into the
    filter, closes the help, does what its command says, or nothing. -/
theorem dashboardKey_cases (b : Board) (key : Key) :
    (∃ action, b.confirmation = some action ∧ b.dashboardKey key = b.answerKey action key) ∨
    (b.filter.active = true ∧ b.dashboardKey key = (b.filterKey key, [])) ∨
    (b.helpShown = true ∧ b.dashboardKey key = ({ b with helpShown := false }, [])) ∨
    (∃ command, DashboardCommand.ofKey? key = some command ∧
      b.dashboardKey key = b.runDashboard command) ∨
    b.dashboardKey key = (b, []) := by
  unfold dashboardKey
  cases hquestion : b.confirmation with
  | some action => exact Or.inl ⟨action, rfl, rfl⟩
  | none =>
      right
      dsimp only
      cases hactive : b.filter.active with
      | true => exact Or.inl ⟨rfl, if_pos rfl⟩
      | false =>
          right
          rw [if_neg Bool.false_ne_true]
          cases hhelp : b.helpShown with
          | true => exact Or.inl ⟨rfl, if_pos rfl⟩
          | false =>
              right
              rw [if_neg Bool.false_ne_true]
              cases DashboardCommand.ofKey? key with
              | none => exact Or.inr rfl
              | some command => exact Or.inl ⟨command, rfl, rfl⟩

/-- On the page of logs a key quits, goes back, or does nothing. -/
theorem pressKey_of_logs (b : Board) (page : LogsPage) (key : Key) (hp : b.page = .logs page) :
    (key.isQuit = true ∧ b.pressKey key = b.quit) ∨
    (key.isBack = true ∧ b.pressKey key = b.leaveLogs page) ∨
    (key.isQuit = false ∧ key.isBack = false ∧ b.pressKey key = (b, [])) := by
  by_cases hinterrupt : key = .interrupt
  · rw [hinterrupt]
    exact Or.inl ⟨rfl, pressKey_interrupt b⟩
  rw [pressKey, if_neg hinterrupt, hp]
  cases hquit : key.isQuit with
  | true => exact Or.inl ⟨rfl, if_pos rfl⟩
  | false =>
      cases hback : key.isBack with
      | true => exact Or.inr (Or.inl ⟨rfl, rfl⟩)
      | false => exact Or.inr (Or.inr ⟨rfl, rfl, rfl⟩)

/-- On the page of an operation a key quits, goes back, or does nothing. -/
theorem pressKey_of_operation (b : Board) (op : OperationPage) (key : Key)
    (hp : b.page = .operation op) :
    (key.isQuit = true ∧ b.pressKey key = b.quit) ∨
    (key.isBack = true ∧ b.pressKey key = b.leaveOperation op) ∨
    (key.isQuit = false ∧ key.isBack = false ∧ b.pressKey key = (b, [])) := by
  by_cases hinterrupt : key = .interrupt
  · rw [hinterrupt]
    exact Or.inl ⟨rfl, pressKey_interrupt b⟩
  rw [pressKey, if_neg hinterrupt, hp]
  cases hquit : key.isQuit with
  | true => exact Or.inl ⟨rfl, if_pos rfl⟩
  | false =>
      cases hback : key.isBack with
      | true => exact Or.inr (Or.inl ⟨rfl, rfl⟩)
      | false => exact Or.inr (Or.inr ⟨rfl, rfl, rfl⟩)

/-- The board after a message, with the jobs it asks for. -/
def update (b : Board) : Message → Board × List Job
  | .resized width height => ({ b with width := width, height := height }, [])
  | .projectsLoaded result => (b.takeProjects result, [])
  | .detailLoaded root result => (b.takeDescription root result, [])
  | .routerStatus status => ({ b with routerStatus := status }, [])
  | .debuggerToggled result => b.takeDebugger result
  | .textCopied error => ({ b with status := copyStatus error }, [])
  | .interactiveFinished origin error => b.takeInteractive origin error
  | .streamStarted stream => b.takeStream stream
  | .line launch text => (b.takeLine launch text, [])
  | .streamEnded launch _ error => b.takeEnd launch error
  | .returnDue launch => (b.takeReturn launch, [])
  | .tick => (b, b.tickJobs)
  | .key key => b.pressKey key

end Board

end FleetBoard
