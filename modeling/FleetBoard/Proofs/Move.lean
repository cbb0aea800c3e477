import FleetBoard.Proofs.Watch

/-!
# Moves

What one message can do about streams, said once. `Move` lists the nine ways in
which a message can treat the stream of the page that is shown, each with what
the watch was, what it is afterwards, how many launches there have been, and
exactly which jobs about streams are asked for. `update_move` says that every
message makes one of these moves, on every board, reachable or not. It is the
only place where the messages are gone through one by one; the laws about runs go
through the moves.

## Main definitions

* `SparesStream`: A message brings nothing that the page waits for.
* `Move`: What a message does about streams.

## Theorems

* `update_move`: Every message makes a move.
* `sound_of_move`: Moves preserve the invariant of the watch.
* `Run.sound_boardAt`: The invariant holds throughout every run.
* `Run.move`: Every step of a run makes a move.
-/

namespace FleetBoard

namespace Board

theorem streamJobs_killJobs (stream : Option Stream) :
    Job.streamJobs (killJobs stream) = killJobs stream := by
  rw [killJobs]
  cases stream.bind Stream.process <;> rfl

theorem streamJobs_detailJobs (page : Option DetailPage) :
    Job.streamJobs (detailJobs page) = [] := by
  cases page <;> rfl

theorem kills_killJobs (stream : Option Stream) :
    Job.kills (killJobs stream) = (stream.bind Stream.process).toList := by
  rw [killJobs]
  cases stream.bind Stream.process <;> rfl

theorem launches_killJobs (stream : Option Stream) : Job.launches (killJobs stream) = [] := by
  rw [killJobs]
  cases stream.bind Stream.process <;> rfl

theorem timers_killJobs (stream : Option Stream) : Job.timers (killJobs stream) = [] := by
  rw [killJobs]
  cases stream.bind Stream.process <;> rfl

/-- A message spares the stream of the page when it brings no stream, no end that
    the page waits for, and no word that a page with an operation that succeeded
    is to be left. -/
def SparesStream (b : Board) : Message → Prop
  | .streamStarted _ => False
  | .streamEnded launch _ _ =>
    ∀ slot, b.page.watch.slot? = some slot → slot.expects launch = false
  | .returnDue launch => ∀ slot, b.page.watch ≠ .operation launch true none slot
  | _ => True

/-- What a message does about streams: the board `b` takes the message `m`,
    becomes `b'` and asks for `jobs`. -/
inductive Move (b : Board) (m : Message) (b' : Board) (jobs : List Job) : Prop
  /-- Nothing is done about streams. -/
  | quiet (hm : b.SparesStream m) (hwatch : b'.page.watch = b.page.watch)
      (hlaunches : b'.launches = b.launches) (hjobs : Job.streamJobs jobs = [])
  /-- A stream that no page waits for is given up at once. -/
  | refused (s : Stream) (hm : m = .streamStarted s)
      (hslot : b.page.watch.slot? ≠ some (.pending s.launch)) (hboard : b' = b)
      (hjobs : jobs = killJobs (some s))
  /-- The stream that the page waits for becomes live. -/
  | adopted (s : Stream) (hm : m = .streamStarted s)
      (hslot : b.page.watch.slot? = some (.pending s.launch))
      (hwatch : b'.page.watch = b.page.watch.setSlot (.live s))
      (hlaunches : b'.launches = b.launches) (hjobs : jobs = [])
  /-- The logs that are shown have ended. -/
  | logsEnded (launch : LaunchId) (kind : StreamKind) (error : Option String) (slot : Slot)
      (hm : m = .streamEnded launch kind error) (hslot : slot.expects launch = true)
      (hbefore : b.page.watch = .logs slot) (hafter : b'.page.watch = .logs .closed)
      (hlaunches : b'.launches = b.launches) (hjobs : jobs = [])
  /-- The operation that is shown has ended. -/
  | operationEnded (launch : LaunchId) (kind : StreamKind) (error : Option String)
      (id : LaunchId) (done : Bool) (earlier : Option String) (slot : Slot)
      (hm : m = .streamEnded launch kind error) (hslot : slot.expects launch = true)
      (hbefore : b.page.watch = .operation id done earlier slot)
      (hafter : b'.page.watch = .operation id true error .closed)
      (hlaunches : b'.launches = b.launches)
      (hjobs : Job.streamJobs jobs =
        if error.isNone then [.scheduleReturn launch b.timings.autoReturn] else [])
  /-- An operation that succeeded is left because its time is over. -/
  | returned (launch : LaunchId) (slot : Slot) (hm : m = .returnDue launch)
      (hbefore : b.page.watch = .operation launch true none slot)
      (hafter : b'.page.watch = .idle) (hlaunches : b'.launches = b.launches) (hjobs : jobs = [])
  /-- The program ends, and the stream is given up. -/
  | quit (key : Key) (hm : m = .key key) (hwatch : b'.page.watch = b.page.watch.setSlot .closed)
      (hlaunches : b'.launches = b.launches)
      (hjobs : Job.streamJobs jobs = killJobs b.page.watch.stream?)
  /-- A page with a stream is left by a key, and the stream is given up. -/
  | left (key : Key) (hm : m = .key key) (hkey : key.isBack = true)
      (hbefore : b.page.watch ≠ .idle) (hafter : b'.page.watch = .idle)
      (hlaunches : b'.launches = b.launches)
      (hjobs : Job.streamJobs jobs = killJobs b.page.watch.stream?)
  /-- A page is opened for a new launch. -/
  | launched (key : Key) (launch : Launch) (job : Job) (hm : m = .key key)
      (hid : launch.id = b.nextLaunch) (hbefore : b.page.watch = .idle)
      (hafter : b'.page.watch = launch.opening) (hlaunches : b'.launches = b.launches + 1)
      (hjob : job.launch? = some launch) (hjobs : Job.streamJobs jobs = [job])

variable (b : Board)

theorem watch_takeProjects (result : Except String (List Project)) :
    (b.takeProjects result).page.watch = b.page.watch ∧
      (b.takeProjects result).launches = b.launches := by
  cases result with
  | ok projects => exact ⟨rfl, rfl⟩
  | error e => exact ⟨rfl, rfl⟩

theorem watch_takeDescription (root : Path) (result : Except String Description) :
    (b.takeDescription root result).page.watch = b.page.watch ∧
      (b.takeDescription root result).launches = b.launches := by
  unfold takeDescription
  cases b.page.detail? with
  | none => exact ⟨rfl, rfl⟩
  | some page =>
      dsimp only
      by_cases hroot : page.root.same root = true
      · rw [if_pos hroot]
        cases result with
        | ok d => exact ⟨Page.watch_mapDetail _ _, rfl⟩
        | error e =>
            -- The page may be replaced here, but only by one with the same watch.
            refine ⟨?_, rfl⟩
            dsimp only
            rw [Page.watch_dropDetail, Page.watch_mapDetail]
      · rw [if_neg hroot]
        exact ⟨rfl, rfl⟩

theorem watch_takeDebugger (result : Except String Bool) :
    (b.takeDebugger result).1.page.watch = b.page.watch ∧
      (b.takeDebugger result).1.launches = b.launches ∧
      Job.streamJobs (b.takeDebugger result).2 = [] := by
  unfold takeDebugger
  dsimp only
  cases b.page.detail? with
  | none => exact ⟨rfl, rfl, rfl⟩
  | some page =>
      dsimp only
      by_cases hd : page.description.isSome = true
      · rw [if_pos hd]
        exact ⟨Page.watch_mapDetail _ _, rfl, streamJobs_detailJobs (some page)⟩
      · rw [if_neg hd]
        exact ⟨rfl, rfl, rfl⟩

theorem watch_takeInteractive (origin : Mode) (error : Option String) :
    (b.takeInteractive origin error).1.page.watch = b.page.watch ∧
      (b.takeInteractive origin error).1.launches = b.launches ∧
      Job.streamJobs (b.takeInteractive origin error).2 = [] := by
  unfold takeInteractive
  dsimp only
  by_cases ho : origin = .detail
  · rw [if_pos ho]
    refine ⟨Page.watch_mapDetail _ _, rfl, ?_⟩
    rw [Job.streamJobs_append, streamJobs_detailJobs]
    rfl
  · rw [if_neg ho]
    exact ⟨rfl, rfl, rfl⟩

theorem watch_takeLine (launch : LaunchId) (text : String) :
    (b.takeLine launch text).page.watch = b.page.watch ∧
      (b.takeLine launch text).launches = b.launches := by
  unfold takeLine
  by_cases h : b.expects launch = true
  · rw [if_pos h]
    exact ⟨Page.watch_pushLine _ _, rfl⟩
  · rw [if_neg h]
    exact ⟨rfl, rfl⟩

theorem streamJobs_tickJobs : Job.streamJobs b.tickJobs = [] := by
  unfold tickJobs
  rw [Job.streamJobs_append]
  cases b.page with
  | dashboard => rfl
  | detail page =>
      dsimp only
      cases page.loading <;> rfl
  | logs page => rfl
  | operation op => rfl

theorem move_takeStream (s : Stream) :
    Move b (.streamStarted s) (b.takeStream s).1 (b.takeStream s).2 := by
  unfold takeStream
  by_cases h : b.page.slot? = some (.pending s.launch)
  · rw [if_pos h]
    refine .adopted s rfl ?_ (Page.watch_setSlot _ _) rfl rfl
    rw [Page.slot?_watch]
    exact h
  · rw [if_neg h]
    refine .refused s rfl ?_ rfl rfl
    rw [Page.slot?_watch]
    exact h

theorem move_takeEnd (launch : LaunchId) (kind : StreamKind) (error : Option String) :
    Move b (.streamEnded launch kind error) (b.takeEnd launch error).1
      (b.takeEnd launch error).2 := by
  -- An end that is not waited for is overlooked.
  have hquiet : (∀ slot, b.page.watch.slot? = some slot → slot.expects launch = false) →
      Move b (.streamEnded launch kind error) b [] :=
    fun hslot => .quiet hslot rfl rfl rfl
  unfold takeEnd
  cases hp : b.page with
  | dashboard =>
      refine hquiet (fun slot hslot => ?_)
      rw [hp] at hslot
      exact absurd hslot (Option.some_ne_none slot).symm
  | detail page =>
      refine hquiet (fun slot hslot => ?_)
      rw [hp] at hslot
      exact absurd hslot (Option.some_ne_none slot).symm
  | logs page =>
      by_cases h : page.slot.expects launch = true
      · simp only [if_pos h]
        refine .logsEnded launch kind error page.slot rfl h (by rw [hp]; rfl) ?_ ?_ rfl
        · cases error <;> rfl
        · cases error <;> rfl
      · simp only [if_neg h]
        refine hquiet (fun slot hslot => ?_)
        rw [hp, Page.watch, Watch.slot?, Option.some.injEq] at hslot
        rw [← hslot]
        exact Bool.eq_false_iff.mpr h
  | operation op =>
      by_cases h : op.slot.expects launch = true
      · simp only [if_pos h]
        refine .operationEnded launch kind error op.launch op.done op.error op.slot rfl h
          (by rw [hp]; rfl) rfl rfl ?_
        simp only [endOperation]
        rw [Job.streamJobs_append, Job.streamJobs_append, streamJobs_detailJobs]
        cases error <;> rfl
      · simp only [if_neg h]
        refine hquiet (fun slot hslot => ?_)
        rw [hp, Page.watch, Watch.slot?, Option.some.injEq] at hslot
        rw [← hslot]
        exact Bool.eq_false_iff.mpr h

theorem move_takeReturn (launch : LaunchId) :
    Move b (.returnDue launch) (b.takeReturn launch) [] := by
  have hquiet : (∀ slot, b.page.watch ≠ .operation launch true none slot) →
      Move b (.returnDue launch) b [] :=
    fun hslot => .quiet hslot rfl rfl rfl
  unfold takeReturn
  cases hp : b.page with
  | dashboard => exact hquiet (fun slot => by rw [hp]; exact Watch.noConfusion)
  | detail page => exact hquiet (fun slot => by rw [hp]; exact Watch.noConfusion)
  | logs page => exact hquiet (fun slot => by rw [hp]; exact Watch.noConfusion)
  | operation op =>
      by_cases h : op.launch = launch ∧ op.done ∧ op.error = none
      · simp only [if_pos h]
        rcases h with ⟨hlaunch, hdone, herror⟩
        refine .returned launch op.slot rfl ?_ ?_ rfl rfl
        · rw [hp, Page.watch, hlaunch, hdone, herror]
        · simp only [OperationPage.leave]
          cases op.origin <;> rfl
      · simp only [if_neg h]
        refine hquiet (fun slot hslot => h ?_)
        rw [hp, Page.watch, Watch.operation.injEq] at hslot
        exact ⟨hslot.1, hslot.2.1, hslot.2.2.1⟩

/-- A launch is always made by a key, from a page without a stream. -/
theorem move_launchOperation (key : Key) (name : String) (dir : Option Path) (args : List String)
    (hp : b.page.watch = .idle) :
    Move b (.key key) (b.launchOperation name dir args).1
      (b.launchOperation name dir args).2 :=
  .launched key ⟨b.nextLaunch, .operation⟩ (.runOperation b.nextLaunch dir args) rfl rfl hp rfl rfl
    rfl rfl

/-- A key that keeps the page does nothing about streams, unless its jobs do. -/
theorem move_of_page_eq (key : Key) (b' : Board) (jobs : List Job) (hpage : b'.page = b.page)
    (hlaunches : b'.launches = b.launches) (hjobs : Job.streamJobs jobs = []) :
    Move b (.key key) b' jobs :=
  .quiet trivial (by rw [hpage]) hlaunches hjobs

theorem move_runDashboard (key : Key) (hp : b.page = .dashboard) (command : DashboardCommand) :
    Move b (.key key) (b.runDashboard command).1 (b.runDashboard command).2 := by
  cases command with
  | previous => exact move_of_page_eq b key _ _ rfl rfl rfl
  | next =>
      simp only [runDashboard]
      split <;> exact move_of_page_eq b key _ _ rfl rfl rfl
  | dropFilter =>
      simp only [runDashboard]
      split <;> exact move_of_page_eq b key _ _ rfl rfl rfl
  | quit => exact move_of_page_eq b key _ _ rfl rfl rfl
  | pageUp => exact move_of_page_eq b key _ _ rfl rfl rfl
  | pageDown => exact move_of_page_eq b key _ _ rfl rfl rfl
  | openProject =>
      simp only [runDashboard]
      cases b.selected? with
      | none => exact move_of_page_eq b key _ _ rfl rfl rfl
      | some p =>
          refine .quiet trivial ?_ rfl rfl
          rw [hp]
          rfl
  | lifecycle action =>
      simp only [runDashboard]
      cases b.selected? with
      | none => exact move_of_page_eq b key _ _ rfl rfl rfl
      | some p => exact move_launchOperation b key _ _ _ (by rw [hp]; rfl)
  | browse site =>
      simp only [runDashboard]
      cases b.selected? with
      | none => exact move_of_page_eq b key _ _ rfl rfl rfl
      | some p =>
          refine move_of_page_eq b key _ _ rfl rfl ?_
          simp only [browseJobs]
          split <;> rfl
  | ask action =>
      cases action with
      | poweroff => exact move_of_page_eq b key _ _ rfl rfl rfl
      | startAll =>
          simp only [runDashboard]
          split <;> exact move_of_page_eq b key _ _ rfl rfl rfl
      | stopAll =>
          simp only [runDashboard]
          split <;> exact move_of_page_eq b key _ _ rfl rfl rfl
  | configure => exact move_of_page_eq b key _ _ rfl rfl rfl
  | refresh => exact move_of_page_eq b key _ _ rfl rfl rfl
  | beginFilter => exact move_of_page_eq b key _ _ rfl rfl rfl
  | showHelp => exact move_of_page_eq b key _ _ rfl rfl rfl

theorem move_answerKey (action : BulkAction) (key : Key) (hp : b.page = .dashboard) :
    Move b (.key key) (b.answerKey action key).1 (b.answerKey action key).2 := by
  unfold answerKey
  dsimp only
  by_cases hkey : key.isConfirm = true
  · rw [if_pos hkey]
    -- The launch is made by the board without the question, which has the same page.
    exact .launched key ⟨b.nextLaunch, .operation⟩ (.runOperation b.nextLaunch none action.arguments)
      rfl rfl (by rw [hp]; rfl) (by simp only [launchOperation]; rfl) rfl rfl rfl
  · rw [if_neg hkey]
    exact move_of_page_eq b key _ _ rfl rfl rfl

theorem move_filterKey (key : Key) : Move b (.key key) (b.filterKey key) [] := by
  refine move_of_page_eq b key _ _ ?_ ?_ rfl
  · cases key <;> simp only [filterKey]
    split <;> rfl
  · cases key <;> simp only [filterKey]
    split <;> rfl

theorem move_dashboardKey (key : Key) (hp : b.page = .dashboard) :
    Move b (.key key) (b.dashboardKey key).1 (b.dashboardKey key).2 := by
  rcases dashboardKey_cases b key with ⟨action, _, hkey⟩ | ⟨_, hkey⟩ | ⟨_, hkey⟩ |
    ⟨command, _, hkey⟩ | hkey
  · rw [hkey]
    exact move_answerKey b action key hp
  · rw [hkey]
    exact move_filterKey b key
  · rw [hkey]
    exact move_of_page_eq b key _ _ rfl rfl rfl
  · rw [hkey]
    exact move_runDashboard b key hp command
  · rw [hkey]
    exact move_of_page_eq b key _ _ rfl rfl rfl

/-- A key that stays on the page of a project, or leaves it for the list, does
    nothing about streams, unless its jobs do. -/
theorem move_of_watch_idle (key : Key) (b' : Board) (jobs : List Job)
    (hp : b.page.watch = .idle) (hp' : b'.page.watch = .idle) (hlaunches : b'.launches = b.launches)
    (hjobs : Job.streamJobs jobs = []) : Move b (.key key) b' jobs :=
  .quiet trivial (by rw [hp, hp']) hlaunches hjobs

theorem move_runDescribed (page : DetailPage) (d : Description) (key : Key)
    (hp : b.page = .detail page) (command : DetailCommand) :
    Move b (.key key) (b.runDescribed page d command).1 (b.runDescribed page d command).2 := by
  have hidle : b.page.watch = .idle := by rw [hp]; rfl
  have hstay : ∀ jobs, Job.streamJobs jobs = [] → Move b (.key key) b jobs :=
    fun jobs hjobs => move_of_page_eq b key b jobs rfl rfl hjobs
  cases command with
  | followLogs =>
      exact .launched key ⟨b.nextLaunch, .logs⟩ (.followLogs b.nextLaunch page.root) rfl rfl hidle
        rfl rfl rfl rfl
  | lifecycle action => exact move_launchOperation b key _ _ _ hidle
  | browse site =>
      cases site with
      | project =>
          refine hstay _ ?_
          simp only [runDescribed]
          split <;> rfl
      | mail =>
          refine hstay _ ?_
          simp only [runDescribed]
          split <;> rfl
      | profiler => exact hstay _ rfl
  | shell => exact hstay _ rfl
  | toggleDebugger =>
      simp only [runDescribed]
      split
      · exact move_of_page_eq b key _ _ rfl rfl rfl
      · exact hstay _ rfl
  | copyUrl =>
      simp only [runDescribed]
      split
      · exact move_of_page_eq b key _ _ rfl rfl rfl
      · exact hstay _ rfl
  | refresh => exact move_of_watch_idle b key _ _ hidle rfl rfl rfl
  | scrollUp => exact hstay _ rfl
  | scrollDown => exact hstay _ rfl
  | pageUp => exact hstay _ rfl
  | pageDown => exact hstay _ rfl
  | back => exact hstay _ rfl
  | quit => exact hstay _ rfl

theorem move_runDetail (page : DetailPage) (key : Key) (hp : b.page = .detail page)
    (command : DetailCommand) :
    Move b (.key key) (b.runDetail page command).1 (b.runDetail page command).2 := by
  have hidle : b.page.watch = .idle := by rw [hp]; rfl
  cases command with
  | scrollUp => exact move_of_watch_idle b key _ _ hidle rfl rfl rfl
  | scrollDown => exact move_of_watch_idle b key _ _ hidle rfl rfl rfl
  | pageUp => exact move_of_watch_idle b key _ _ hidle rfl rfl rfl
  | pageDown => exact move_of_watch_idle b key _ _ hidle rfl rfl rfl
  | back => exact move_of_watch_idle b key _ _ hidle rfl rfl rfl
  | quit => exact move_of_page_eq b key _ _ rfl rfl rfl
  | _ =>
      -- What works only on a description does nothing without one.
      simp only [runDetail]
      split
      · exact move_runDescribed b page _ key hp _
      · exact move_of_page_eq b key _ _ rfl rfl rfl

/-- The end of the program closes the slot of a page with a stream, and changes
    nothing on a page without one. -/
theorem move_quit (key : Key) : Move b (.key key) b.quit.1 b.quit.2 := by
  refine .quit key rfl (Page.watch_setSlot _ _) rfl ?_
  rw [quit, Job.streamJobs_append, streamJobs_killJobs, Page.stream?_watch]
  exact List.append_nil _

theorem move_detailKey (page : DetailPage) (key : Key) (hp : b.page = .detail page) :
    Move b (.key key) (b.detailKey page key).1 (b.detailKey page key).2 := by
  unfold detailKey
  cases DetailCommand.ofKey? key with
  | some command => exact move_runDetail b page key hp command
  | none => exact move_of_page_eq b key _ _ rfl rfl rfl

theorem move_leaveLogs (page : LogsPage) (key : Key) (hp : b.page = .logs page)
    (hkey : key.isBack = true) :
    Move b (.key key) (b.leaveLogs page).1 (b.leaveLogs page).2 := by
  refine .left key rfl hkey (by rw [hp]; exact Watch.noConfusion) rfl rfl ?_
  rw [leaveLogs, streamJobs_killJobs, hp]
  rfl

theorem move_leaveOperation (op : OperationPage) (key : Key) (hp : b.page = .operation op)
    (hkey : key.isBack = true) :
    Move b (.key key) (b.leaveOperation op).1 (b.leaveOperation op).2 := by
  refine .left key rfl hkey (by rw [hp]; exact Watch.noConfusion)
    (Page.watch_mapDetail_leave op awaitLoad) rfl ?_
  rw [leaveOperation, Job.streamJobs_append, Job.streamJobs_append, streamJobs_killJobs,
    streamJobs_detailJobs, hp]
  -- What is loaded again after an operation concerns no stream.
  change killJobs op.slot.stream? ++ [] ++ [] = _
  rw [List.append_nil, List.append_nil]
  rfl

theorem move_pressKey (key : Key) : Move b (.key key) (b.pressKey key).1 (b.pressKey key).2 := by
  unfold pressKey
  by_cases hinterrupt : key = .interrupt
  · rw [if_pos hinterrupt]
    exact move_quit b key
  rw [if_neg hinterrupt]
  cases hp : b.page with
  | dashboard => exact move_dashboardKey b key hp
  | detail page => exact move_detailKey b page key hp
  | logs page =>
      dsimp only
      by_cases hquit : key.isQuit = true
      · rw [if_pos hquit]
        exact move_quit b key
      rw [if_neg hquit]
      by_cases hback : key.isBack = true
      · rw [if_pos hback]
        exact move_leaveLogs b page key hp hback
      · rw [if_neg hback]
        exact move_of_page_eq b key _ _ rfl rfl rfl
  | operation op =>
      dsimp only
      by_cases hquit : key.isQuit = true
      · rw [if_pos hquit]
        exact move_quit b key
      rw [if_neg hquit]
      by_cases hback : key.isBack = true
      · rw [if_pos hback]
        exact move_leaveOperation b op key hp hback
      · rw [if_neg hback]
        exact move_of_page_eq b key _ _ rfl rfl rfl

/-- Every message makes one of the moves, on every board. -/
theorem update_move (m : Message) : Move b m (b.update m).1 (b.update m).2 := by
  cases m with
  | resized width height => exact .quiet trivial rfl rfl rfl
  | projectsLoaded result =>
      rcases watch_takeProjects b result with ⟨hwatch, hlaunches⟩
      exact .quiet trivial hwatch hlaunches rfl
  | detailLoaded root result =>
      rcases watch_takeDescription b root result with ⟨hwatch, hlaunches⟩
      exact .quiet trivial hwatch hlaunches rfl
  | routerStatus status => exact .quiet trivial rfl rfl rfl
  | debuggerToggled result =>
      rcases watch_takeDebugger b result with ⟨hwatch, hlaunches, hjobs⟩
      exact .quiet trivial hwatch hlaunches hjobs
  | textCopied error => exact .quiet trivial rfl rfl rfl
  | interactiveFinished origin error =>
      rcases watch_takeInteractive b origin error with ⟨hwatch, hlaunches, hjobs⟩
      exact .quiet trivial hwatch hlaunches hjobs
  | streamStarted s => exact move_takeStream b s
  | line launch text =>
      rcases watch_takeLine b launch text with ⟨hwatch, hlaunches⟩
      exact .quiet trivial hwatch hlaunches rfl
  | streamEnded launch kind error => exact move_takeEnd b launch kind error
  | returnDue launch => exact move_takeReturn b launch
  | tick => exact .quiet trivial rfl rfl (streamJobs_tickJobs b)
  | key key => exact move_pressKey b key

/-- Moves preserve the invariant. -/
theorem sound_of_move (b' : Board) (m : Message) (jobs : List Job) (hmove : Move b m b' jobs)
    (hb : b.page.watch.Sound b.launches) : b'.page.watch.Sound b'.launches := by
  cases hmove with
  | quiet _ hwatch hlaunches _ =>
      rw [hwatch, hlaunches]
      exact hb
  | refused s _ _ hboard _ =>
      rw [hboard]
      exact hb
  | adopted s _ hslot hwatch hlaunches _ =>
      rw [hwatch, hlaunches]
      refine Watch.sound_setSlot _ _ _ hb (fun id hid => ⟨_, hslot, hid⟩) (Or.inr ?_)
      rw [hslot]
      simp only [ne_eq, Option.some.injEq, reduceCtorEq, not_false_eq_true]
  | logsEnded launch kind error slot _ _ _ hafter _ _ =>
      rw [hafter]
      intro id hid
      exact absurd hid Bool.false_ne_true
  | operationEnded launch kind error id done earlier slot _ _ hbefore hafter hlaunches _ =>
      rw [hbefore] at hb
      rw [hafter, hlaunches]
      refine ⟨hb.1, fun other h => absurd h Bool.false_ne_true, fun _ => rfl, fun h => ?_⟩
      exact absurd h.symm Bool.false_ne_true
  | returned launch slot _ _ hafter _ _ =>
      rw [hafter]
      exact trivial
  | quit key _ hwatch hlaunches _ =>
      rw [hwatch, hlaunches]
      exact Watch.sound_setSlot_closed _ _ hb
  | left key _ _ _ hafter _ _ =>
      rw [hafter]
      exact trivial
  | launched key launch job _ hid _ hafter hlaunches _ _ =>
      rw [hafter, hlaunches]
      have hnumber : b.launches + 1 = launch.id.number := by rw [hid, nextLaunch]
      rw [hnumber]
      exact Watch.sound_opening launch

end Board

namespace Run

variable (r : Run)

theorem move (k : Nat) (m : Message) (h : r.messages[k]? = some m) :
    Board.Move (r.boardAt k) m (r.boardAt (k + 1)) (r.jobsAt k) := by
  rw [boardAt_step r k m h, jobsAt_step r k m h]
  exact Board.update_move _ m

/-- The invariant holds throughout every run. -/
theorem sound_boardAt (k : Nat) :
    (r.boardAt k).page.watch.Sound (r.boardAt k).launches :=
  boardAt_invariant (fun b => b.page.watch.Sound b.launches) (fun _ => trivial)
    (fun b m hb => Board.sound_of_move b _ m _ (Board.update_move b m) hb) r k

end Run

end FleetBoard
