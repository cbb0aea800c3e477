import FleetBoard.Proofs.Deed
import FleetBoard.Proofs.Footing
import Mathlib.Logic.Basic

/-!
# Turns

What one message can do about the pages of projects and about loads, said once.
A turn tells what the footing was and what it is afterwards, whether the board
waits for the project list, what became of the status line, and exactly which
jobs with an answer are asked for. `update_turn` says that every message makes
one of these turns, on every board, reachable or not. Laws about parked pages and
about loads go through the turns and never through the messages.

Only the loads and the tick are answered, and each of them once. The other jobs
are told apart here because no law about waiting looks at them.

The note that a refresh is on its way is the only status line that stands for a
load. Everything else that is ever written there begins otherwise.

## Main definitions

* `Job.isAwaited`: A job has an answer that the board waits for.
* `Message.isAnswer`: A message answers a job.
* `Board.settle`, `Board.describe`: A page of a project after an answer.
* `Board.Turn`: What a message does about pages of projects and loads.

## Theorems

* `ne_refreshing_of_append`: Other status lines begin otherwise.
* `update_turn`: Every message makes a turn.
-/

namespace FleetBoard

/-- Whether a job has an answer that the board waits for. -/
def Job.isAwaited : Job → Bool
  | .loadProjects => true
  | .loadDetail _ => true
  | .scheduleTick _ => true
  | _ => false

/-- The jobs whose answers the board waits for. -/
def Job.awaited (jobs : List Job) : List Job :=
  jobs.filter isAwaited

/-- Whether a message answers a job. -/
def Message.isAnswer : Message → Bool
  | .projectsLoaded _ => true
  | .detailLoaded .. => true
  | .tick => true
  | _ => false

namespace Board

/-- A page of a project that waits for nothing. -/
def settle (page : DetailPage) : DetailPage :=
  { page with loading := false }

/-- A page of a project after its description was loaded. -/
def describe (d : Description) (page : DetailPage) : DetailPage :=
  { page with loading := false, description := some d }

/-- What a message does about the pages of projects and about loads: the board
    `b` takes the message `m`, becomes `b'` and asks for `jobs`. -/
inductive Turn (b : Board) (m : Message) (b' : Board) (jobs : List Job) : Prop
  /-- Nothing is done about them. -/
  | kept (hm : m.isAnswer = false) (hfooting : b'.page.footing = b.page.footing)
      (hloading : b'.loading = b.loading)
      (hstatus : b'.status = b.status ∨ b'.status ≠ refreshingStatus)
      (hjobs : Job.awaited jobs = [])
  /-- The project list was loaded, or could not be. -/
  | listed (result : Except String (List Project)) (hm : m = .projectsLoaded result)
      (hfooting : b'.page.footing = b.page.footing) (hloading : b'.loading = false)
      (hstatus : b'.status ≠ refreshingStatus) (hjobs : jobs = [])
  /-- A project was loaded whose page cannot be reached. -/
  | overlooked (root : Path) (result : Except String Description)
      (hm : m = .detailLoaded root result)
      (hother : ∀ page, b.page.detail? = some page → page.root.same root = false)
      (hboard : b' = b) (hjobs : jobs = [])
  /-- The project whose page can be reached was loaded. -/
  | described (root : Path) (d : Description) (page : DetailPage)
      (hm : m = .detailLoaded root (.ok d)) (hpage : b.page.detail? = some page)
      (hroot : page.root.same root = true)
      (hfooting : b'.page.footing = b.page.footing.map (describe d))
      (hloading : b'.loading = b.loading) (hstatus : b'.status ≠ refreshingStatus)
      (hjobs : jobs = [])
  /-- The project whose page can be reached could not be loaded. -/
  | lost (root : Path) (e : String) (page : DetailPage) (hm : m = .detailLoaded root (.error e))
      (hpage : b.page.detail? = some page) (hroot : page.root.same root = true)
      (hfooting : b'.page.footing = (b.page.footing.map settle).drop)
      (hloading : b'.loading = b.loading) (hstatus : b'.status ≠ refreshingStatus)
      (hjobs : jobs = [])
  /-- It is time to look again. -/
  | ticked (hm : m = .tick) (hboard : b' = b) (hjobs : jobs = b.tickJobs)
  /-- The project list is loaded again. -/
  | relisted (hm : m.isAnswer = false) (hfooting : b'.page.footing = b.page.footing)
      (hloading : b'.loading = true) (hjobs : Job.awaited jobs = [.loadProjects])
  /-- The project whose page can be reached is loaded again, if there is one, and
      the project list possibly too. -/
  | refetched (listing : Bool) (hm : m.isAnswer = false)
      (hfooting : b'.page.footing = b.page.footing.map awaitLoad)
      (hloading : b'.loading = b.loading ∨ listing = true)
      (hstatus : b'.status = b.status ∨ b'.status ≠ refreshingStatus ∨
        b.page.detail?.isSome = true)
      (hjobs : Job.awaited jobs =
        (if listing then [.loadProjects] else []) ++ detailJobs b.page.detail?)
  /-- The page of a project is scrolled. -/
  | scrolled (key : Key) (page : DetailPage) (rows : Nat) (hm : m = .key key)
      (hrows : rows ≤ page.scroll ∨ rows ≤ scrollLimit page)
      (hbefore : b.page.footing = .detail page)
      (hafter : b'.page.footing = .detail { page with scroll := rows })
      (hloading : b'.loading = b.loading) (hstatus : b'.status = b.status) (hjobs : jobs = [])
  /-- The page of a project is opened. -/
  | opened (key : Key) (p : Project) (hm : m = .key key) (hbefore : b.page.footing = .list)
      (hafter : b'.page.footing = .detail { name := p.name, root := p.root })
      (hloading : b'.loading = b.loading) (hstatus : b'.status = "")
      (hjobs : jobs = [.loadDetail p.root])
  /-- The page of a project is left by a key. -/
  | closed (key : Key) (page : DetailPage) (hm : m = .key key) (hkey : key.isBack = true)
      (hbefore : b.page.footing = .detail page) (hafter : b'.page.footing = .list)
      (hloading : b'.loading = b.loading) (hstatus : b'.status = "") (hjobs : jobs = [])
  /-- The logs of a project are followed. -/
  | followed (key : Key) (page : DetailPage) (hm : m = .key key)
      (hdescription : page.description.isSome = true) (hbefore : b.page.footing = .detail page)
      (hafter : b'.page.footing = .logs page) (hloading : b'.loading = b.loading)
      (hstatus : b'.status = b.status) (hjobs : Job.awaited jobs = [])
  /-- An operation is launched. -/
  | launched (key : Key) (origin : Option DetailPage) (hm : m = .key key)
      (hdescription : ∀ page, origin = some page → page.description.isSome = true)
      (hbefore : b.page.footing = .ofOrigin origin)
      (hafter : b'.page.footing =
        .operation origin (if origin.isSome then .detail else .dashboard))
      (hloading : b'.loading = b.loading) (hstatus : b'.status = "")
      (hjobs : Job.awaited jobs = [])
  /-- Logs are left by a key. -/
  | leftLogs (key : Key) (page : DetailPage) (hm : m = .key key) (hkey : key.isBack = true)
      (hbefore : b.page.footing = .logs page) (hafter : b'.page.footing = .detail page)
      (hloading : b'.loading = b.loading) (hstatus : b'.status = b.status)
      (hjobs : Job.awaited jobs = [])
  /-- An operation is left by a key. -/
  | leftOperation (key : Key) (origin : Option DetailPage) (returnMode : Mode)
      (hm : m = .key key) (hkey : key.isBack = true)
      (hbefore : b.page.footing = .operation origin returnMode)
      (hafter : b'.page.footing = (Footing.ofOrigin origin).map awaitLoad)
      (hloading : b'.loading = b.loading) (hstatus : b'.status = b.status)
      (hjobs : Job.awaited jobs = .loadProjects :: detailJobs origin)
  /-- An operation that succeeded is left because its time is over. -/
  | returned (launch : LaunchId) (origin : Option DetailPage) (returnMode : Mode)
      (hm : m = .returnDue launch) (hbefore : b.page.footing = .operation origin returnMode)
      (hafter : b'.page.footing = .ofOrigin origin) (hloading : b'.loading = b.loading)
      (hstatus : b'.status = completedStatus) (hjobs : jobs = [])

/-- A status line that begins otherwise is not the note that a refresh is on its
    way. -/
theorem ne_refreshing_of_append (lead rest : String) (c : Char)
    (hlead : lead.toList.head? = some c) (hc : c ≠ 'R') : lead ++ rest ≠ refreshingStatus :=
  Text.append_ne_of_head lead rest refreshingStatus c 'R' hlead rfl hc

theorem withoutRefreshing_ne (status : String) : withoutRefreshing status ≠ refreshingStatus := by
  rw [withoutRefreshing]
  by_cases h : status = refreshingStatus
  · rw [if_pos h]
    decide
  · rw [if_neg h]
    exact h

theorem debuggerStatus_ne (result : Except String Bool) :
    debuggerStatus result ≠ refreshingStatus := by
  rcases result with e | enabled
  · exact ne_refreshing_of_append _ _ 'X' rfl (by decide)
  · cases enabled <;> decide

theorem copyStatus_ne (error : Option String) : copyStatus error ≠ refreshingStatus := by
  cases error with
  | none => decide
  | some e => exact ne_refreshing_of_append _ _ 'C' rfl (by decide)

theorem prompt_ne (action : BulkAction) (count : Nat) :
    action.prompt count ≠ refreshingStatus := by
  have hstart : ∀ rest, "Start all " ++ rest ≠ refreshingStatus :=
    fun rest => ne_refreshing_of_append _ rest 'S' rfl (by decide)
  have hstop : ∀ rest, "Stop all " ++ rest ≠ refreshingStatus :=
    fun rest => ne_refreshing_of_append _ rest 'S' rfl (by decide)
  cases action with
  | startAll =>
      change "Start all " ++ toString count ++ " projects?" ++ BulkAction.confirmHint ≠ _
      rw [String.append_assoc, String.append_assoc]
      exact hstart _
  | stopAll =>
      change "Stop all " ++ toString count ++ " projects?" ++ BulkAction.confirmHint ≠ _
      rw [String.append_assoc, String.append_assoc]
      exact hstop _
  | poweroff =>
      change "Poweroff all projects and containers?" ++ BulkAction.confirmHint ≠ _
      exact ne_refreshing_of_append _ _ 'P' rfl (by decide)

theorem awaited_append (js ks : List Job) :
    Job.awaited (js ++ ks) = Job.awaited js ++ Job.awaited ks := by
  rw [Job.awaited, Job.awaited, Job.awaited, List.filter_append]

theorem awaited_killJobs (stream : Option Stream) : Job.awaited (killJobs stream) = [] := by
  rw [killJobs]
  cases stream.bind Stream.process <;> rfl

theorem awaited_detailJobs (page : Option DetailPage) :
    Job.awaited (detailJobs page) = detailJobs page := by
  cases page <;> rfl

theorem awaited_browseJobs (p : Project) (site : Site) : Job.awaited (browseJobs p site) = [] := by
  rw [browseJobs]
  split <;> rfl

variable (b : Board)

theorem turn_takeProjects (result : Except String (List Project)) :
    Turn b (.projectsLoaded result) (b.takeProjects result) [] := by
  cases result with
  | ok projects => exact .listed _ rfl rfl rfl (withoutRefreshing_ne _) rfl
  | error e => exact .listed _ rfl rfl rfl (ne_refreshing_of_append _ _ 'E' rfl (by decide)) rfl

theorem turn_takeDescription (root : Path) (result : Except String Description) :
    Turn b (.detailLoaded root result) (b.takeDescription root result) [] := by
  unfold takeDescription
  cases hpage : b.page.detail? with
  | none =>
      refine .overlooked root result rfl (fun page h => ?_) rfl rfl
      rw [hpage] at h
      exact absurd h (Option.some_ne_none page).symm
  | some page =>
      dsimp only
      by_cases hroot : page.root.same root = true
      · rw [if_pos hroot]
        cases result with
        | ok d =>
            exact .described root d page rfl hpage hroot (Page.footing_mapDetail _ _) rfl
              (withoutRefreshing_ne _) rfl
        | error e =>
            refine .lost root e page rfl hpage hroot ?_ rfl
              (ne_refreshing_of_append _ _ 'E' rfl (by decide)) rfl
            dsimp only
            rw [Page.footing_dropDetail, Page.footing_mapDetail]
            rfl
      · rw [if_neg hroot]
        refine .overlooked root result rfl (fun other h => ?_) rfl rfl
        rw [hpage, Option.some.injEq] at h
        rw [← h]
        exact Bool.eq_false_iff.mpr hroot

theorem turn_takeDebugger (result : Except String Bool) :
    Turn b (.debuggerToggled result) (b.takeDebugger result).1 (b.takeDebugger result).2 := by
  have hkept : Turn b (.debuggerToggled result) { b with status := debuggerStatus result } [] :=
    .kept rfl rfl rfl (Or.inr (debuggerStatus_ne result)) rfl
  unfold takeDebugger
  dsimp only
  cases hpage : b.page.detail? with
  | none => exact hkept
  | some page =>
      dsimp only
      by_cases hd : page.description.isSome = true
      · rw [if_pos hd]
        refine .refetched false rfl (Page.footing_mapDetail _ _) (Or.inl rfl)
          (Or.inr (Or.inl (debuggerStatus_ne result))) ?_
        rw [hpage]
        rfl
      · rw [if_neg hd]
        exact hkept

theorem turn_takeInteractive (origin : Mode) (error : Option String) :
    Turn b (.interactiveFinished origin error) (b.takeInteractive origin error).1
      (b.takeInteractive origin error).2 := by
  unfold takeInteractive
  dsimp only
  by_cases ho : origin = .detail
  · rw [if_pos ho]
    refine .refetched true rfl (Page.footing_mapDetail _ _) (Or.inr rfl) (Or.inr (Or.inl ?_)) ?_
    · dsimp only
      cases error with
      | none => decide
      | some e => exact ne_refreshing_of_append _ _ 'E' rfl (by decide)
    · rw [awaited_append, awaited_detailJobs]
      rfl
  · rw [if_neg ho]
    exact .relisted rfl rfl rfl rfl

theorem turn_takeStream (s : Stream) :
    Turn b (.streamStarted s) (b.takeStream s).1 (b.takeStream s).2 := by
  unfold takeStream
  by_cases h : b.page.slot? = some (.pending s.launch)
  · rw [if_pos h]
    exact .kept rfl (Page.footing_setSlot _ _) rfl (Or.inl rfl) rfl
  · rw [if_neg h]
    exact .kept rfl rfl rfl (Or.inl rfl) (awaited_killJobs _)

theorem turn_takeLine (launch : LaunchId) (text : String) :
    Turn b (.line launch text) (b.takeLine launch text) [] := by
  unfold takeLine
  by_cases h : b.expects launch = true
  · rw [if_pos h]
    exact .kept rfl (Page.footing_pushLine _ _) rfl (Or.inl rfl) rfl
  · rw [if_neg h]
    exact .kept rfl rfl rfl (Or.inl rfl) rfl

/-- The end of an operation has everything loaded again that it may have
    changed. -/
theorem turn_endOperation (op : OperationPage) (launch : LaunchId) (kind : StreamKind)
    (error : Option String) (hp : b.page = .operation op) :
    Turn b (.streamEnded launch kind error) (b.endOperation op launch error).1
      (b.endOperation op launch error).2 := by
  refine .refetched true rfl ?_ (Or.inl rfl) (Or.inl rfl) ?_
  · rw [hp]
    rfl
  · have htimer : Job.awaited
        (if error.isNone then [Job.scheduleReturn launch b.timings.autoReturn] else []) = [] := by
      cases error <;> rfl
    rw [endOperation, awaited_append, awaited_append, awaited_detailJobs, htimer,
      List.append_nil, hp]
    rfl

theorem turn_takeEnd (launch : LaunchId) (kind : StreamKind) (error : Option String) :
    Turn b (.streamEnded launch kind error) (b.takeEnd launch error).1
      (b.takeEnd launch error).2 := by
  have hkept : Turn b (.streamEnded launch kind error) b [] :=
    .kept rfl rfl rfl (Or.inl rfl) rfl
  unfold takeEnd
  cases hp : b.page with
  | dashboard => exact hkept
  | detail page => exact hkept
  | logs page =>
      by_cases h : page.slot.expects launch = true
      · simp only [if_pos h]
        cases error with
        | none => exact .kept rfl (by rw [hp]; rfl) rfl (Or.inl rfl) rfl
        | some e =>
            exact .kept rfl (by rw [hp]; rfl) rfl
              (Or.inr (ne_refreshing_of_append _ _ 'E' rfl (by decide))) rfl
      · simp only [if_neg h]
        exact hkept
  | operation op =>
      by_cases h : op.slot.expects launch = true
      · simp only [if_pos h]
        exact turn_endOperation b op launch kind error hp
      · simp only [if_neg h]
        exact hkept

theorem turn_takeReturn (launch : LaunchId) :
    Turn b (.returnDue launch) (b.takeReturn launch) [] := by
  have hkept : Turn b (.returnDue launch) b [] := .kept rfl rfl rfl (Or.inl rfl) rfl
  unfold takeReturn
  cases hp : b.page with
  | dashboard => exact hkept
  | detail page => exact hkept
  | logs page => exact hkept
  | operation op =>
      by_cases h : op.launch = launch ∧ op.done ∧ op.error = none
      · simp only [if_pos h]
        exact .returned launch op.origin op.returnMode rfl (by rw [hp]; rfl)
          (Page.footing_leave op) rfl rfl rfl
      · simp only [if_neg h]
        exact hkept

/-- A key that keeps the page and what it waits for makes no turn, unless its jobs
    do. -/
theorem turn_of_page_eq (key : Key) (b' : Board) (jobs : List Job) (hpage : b'.page = b.page)
    (hloading : b'.loading = b.loading)
    (hstatus : b'.status = b.status ∨ b'.status ≠ refreshingStatus)
    (hjobs : Job.awaited jobs = []) : Turn b (.key key) b' jobs :=
  .kept rfl (by rw [hpage]) hloading hstatus hjobs

/-- A launch parks the page of a project under the operation. -/
theorem turn_launchOperation (key : Key) (origin : Option DetailPage) (name : String)
    (dir : Option Path) (args : List String)
    (hp : b.page = origin.elim .dashboard .detail)
    (hdescription : ∀ page, origin = some page → page.description.isSome = true) :
    Turn b (.key key) (b.launchOperation name dir args).1
      (b.launchOperation name dir args).2 := by
  refine .launched key origin rfl hdescription ?_ ?_ rfl rfl rfl
  · rw [hp]
    cases origin <;> rfl
  · rw [launchOperation, hp]
    cases origin <;> rfl

theorem turn_runDashboard (key : Key) (hp : b.page = .dashboard) (command : DashboardCommand) :
    Turn b (.key key) (b.runDashboard command).1 (b.runDashboard command).2 := by
  cases deed_runDashboard b command with
  | idle hboard hjobs =>
      rw [hboard, hjobs]
      exact turn_of_page_eq b key _ _ rfl rfl (Or.inl rfl) rfl
  | moved cursor _ hboard hjobs =>
      rw [hboard, hjobs]
      exact turn_of_page_eq b key _ _ rfl rfl (Or.inl rfl) rfl
  | widened _ hboard hjobs =>
      rw [hboard, hjobs]
      exact turn_of_page_eq b key _ _ rfl rfl (Or.inl rfl) rfl
  | quit _ hboard hjobs =>
      rw [hboard, hjobs]
      exact turn_of_page_eq b key _ _ rfl rfl (Or.inl rfl) rfl
  | opened p _ _ hboard hjobs =>
      rw [hboard, hjobs]
      exact .opened key p rfl (by rw [hp]; rfl) rfl rfl rfl rfl
  | launched action p _ _ hboard hjobs =>
      rw [hboard, hjobs]
      refine turn_launchOperation b key none _ _ _ hp (fun page h => ?_)
      exact absurd h (Option.some_ne_none page).symm
  | browsed site p _ _ hboard hjobs =>
      rw [hboard, hjobs]
      exact turn_of_page_eq b key _ _ rfl rfl (Or.inl rfl) (awaited_browseJobs p site)
  | asked action _ _ hboard hjobs =>
      rw [hboard, hjobs]
      exact turn_of_page_eq b key _ _ rfl rfl (Or.inr (prompt_ne action _)) rfl
  | configured _ hboard hjobs =>
      rw [hboard, hjobs]
      exact turn_of_page_eq b key _ _ rfl rfl (Or.inl rfl) rfl
  | refreshed _ hboard hjobs =>
      rw [hboard, hjobs]
      exact .relisted rfl rfl rfl rfl
  | begun _ hboard hjobs =>
      rw [hboard, hjobs]
      exact turn_of_page_eq b key _ _ rfl rfl (Or.inl rfl) rfl
  | helped _ hboard hjobs =>
      rw [hboard, hjobs]
      exact turn_of_page_eq b key _ _ rfl rfl (Or.inl rfl) rfl

theorem turn_answerKey (action : BulkAction) (key : Key) (hp : b.page = .dashboard) :
    Turn b (.key key) (b.answerKey action key).1 (b.answerKey action key).2 := by
  unfold answerKey
  dsimp only
  by_cases hkey : key.isConfirm = true
  · rw [if_pos hkey]
    -- The launch is made by the board without the question, which has the same page.
    refine .launched key none rfl (fun page h => ?_) (by rw [hp]; rfl) ?_ rfl rfl rfl
    · exact absurd h (Option.some_ne_none page).symm
    · simp only [launchOperation, hp]
      rfl
  · rw [if_neg hkey]
    exact turn_of_page_eq b key _ _ rfl rfl (Or.inr (by dsimp only; decide)) rfl

theorem turn_filterKey (key : Key) : Turn b (.key key) (b.filterKey key) [] := by
  cases key with
  | backspace =>
      simp only [filterKey]
      split <;> exact turn_of_page_eq b _ _ _ rfl rfl (Or.inl rfl) rfl
  | _ => exact turn_of_page_eq b _ _ _ rfl rfl (Or.inl rfl) rfl

theorem turn_dashboardKey (key : Key) (hp : b.page = .dashboard) :
    Turn b (.key key) (b.dashboardKey key).1 (b.dashboardKey key).2 := by
  rcases dashboardKey_cases b key with ⟨action, _, hkey⟩ | ⟨_, hkey⟩ | ⟨_, hkey⟩ |
    ⟨command, _, hkey⟩ | hkey
  · rw [hkey]
    exact turn_answerKey b action key hp
  · rw [hkey]
    exact turn_filterKey b key
  · rw [hkey]
    exact turn_of_page_eq b key _ _ rfl rfl (Or.inl rfl) rfl
  · rw [hkey]
    exact turn_runDashboard b key hp command
  · rw [hkey]
    exact turn_of_page_eq b key _ _ rfl rfl (Or.inl rfl) rfl

theorem turn_runDescribed (page : DetailPage) (d : Description) (key : Key)
    (hp : b.page = .detail page) (hd : page.description = some d) (command : DetailCommand) :
    Turn b (.key key) (b.runDescribed page d command).1 (b.runDescribed page d command).2 := by
  have hsome : page.description.isSome = true := by
    rw [hd]
    rfl
  have hstay : ∀ jobs, Job.awaited jobs = [] → Turn b (.key key) b jobs :=
    fun jobs hjobs => turn_of_page_eq b key b jobs rfl rfl (Or.inl rfl) hjobs
  cases command with
  | followLogs => exact .followed key page rfl hsome (by rw [hp]; rfl) rfl rfl rfl rfl
  | lifecycle action =>
      refine turn_launchOperation b key (some page) _ _ _ hp (fun other h => ?_)
      rw [Option.some.injEq] at h
      rw [← h]
      exact hsome
  | browse site =>
      cases site with
      | project =>
          refine hstay _ ?_
          simp only [runDescribed]
          split <;> rfl
      | mail =>
          refine hstay _ ?_
          simp only [runDescribed]
          split <;> rfl
      | profiler => exact hstay _ rfl
  | shell => exact hstay _ rfl
  | toggleDebugger =>
      simp only [runDescribed]
      split
      · exact turn_of_page_eq b key _ _ rfl rfl (Or.inr (by dsimp only; decide)) rfl
      · exact hstay _ rfl
  | copyUrl =>
      simp only [runDescribed]
      split
      · exact turn_of_page_eq b key _ _ rfl rfl (Or.inr (by dsimp only; decide)) rfl
      · exact hstay _ rfl
  | refresh =>
      have hreachable : b.page.detail? = some page := by rw [hp]; rfl
      refine .refetched false rfl ?_ (Or.inl rfl) (Or.inr (Or.inr ?_)) ?_
      · rw [hp]
        rfl
      · rw [hreachable]
        rfl
      · rw [hreachable]
        rfl
  | scrollUp => exact hstay _ rfl
  | scrollDown => exact hstay _ rfl
  | pageUp => exact hstay _ rfl
  | pageDown => exact hstay _ rfl
  | back => exact hstay _ rfl
  | quit => exact hstay _ rfl

theorem turn_runDetail (page : DetailPage) (key : Key) (hp : b.page = .detail page)
    (command : DetailCommand) (hkey : command = .back → key.isBack = true) :
    Turn b (.key key) (b.runDetail page command).1 (b.runDetail page command).2 := by
  have hbefore : b.page.footing = .detail page := by rw [hp]; rfl
  cases command with
  | scrollUp =>
      exact .scrolled key page _ rfl (Or.inl (Nat.sub_le _ _)) hbefore rfl rfl rfl rfl
  | scrollDown =>
      exact .scrolled key page _ rfl (Or.inr (Nat.min_le_right _ _)) hbefore rfl rfl rfl rfl
  | pageUp =>
      exact .scrolled key page _ rfl (Or.inl (Nat.sub_le _ _)) hbefore rfl rfl rfl rfl
  | pageDown =>
      exact .scrolled key page _ rfl (Or.inr (Nat.min_le_right _ _)) hbefore rfl rfl rfl rfl
  | back => exact .closed key page rfl (hkey rfl) hbefore rfl rfl rfl rfl
  | quit => exact turn_of_page_eq b key _ _ rfl rfl (Or.inl rfl) rfl
  | _ =>
      -- What works only on a description does nothing without one.
      simp only [runDetail]
      split
      next d hd => exact turn_runDescribed b page d key hp hd _
      next => exact turn_of_page_eq b key _ _ rfl rfl (Or.inl rfl) rfl

theorem isBack_of_ofKey? (key : Key) (h : DetailCommand.ofKey? key = some .back) :
    key.isBack = true := by
  cases key with
  | char c =>
      -- No character leads back.
      change DetailCommand.ofChar? c = some .back at h
      simp only [DetailCommand.ofChar?, ite_eq_iff, Option.some.injEq, reduceCtorEq, and_false,
        or_false] at h
  | escape => rfl
  | backspace => rfl
  | _ => cases h

theorem turn_detailKey (page : DetailPage) (key : Key) (hp : b.page = .detail page) :
    Turn b (.key key) (b.detailKey page key).1 (b.detailKey page key).2 := by
  unfold detailKey
  cases hcommand : DetailCommand.ofKey? key with
  | some command =>
      refine turn_runDetail b page key hp command (fun hback => ?_)
      rw [hback] at hcommand
      exact isBack_of_ofKey? key hcommand
  | none => exact turn_of_page_eq b key _ _ rfl rfl (Or.inl rfl) rfl

theorem turn_quit (key : Key) : Turn b (.key key) b.quit.1 b.quit.2 := by
  refine .kept rfl (Page.footing_setSlot _ _) rfl (Or.inl rfl) ?_
  rw [quit, awaited_append, awaited_killJobs]
  rfl

theorem turn_leaveLogs (page : LogsPage) (key : Key) (hp : b.page = .logs page)
    (hkey : key.isBack = true) :
    Turn b (.key key) (b.leaveLogs page).1 (b.leaveLogs page).2 :=
  .leftLogs key page.detail rfl hkey (by rw [hp]; rfl) rfl rfl rfl (awaited_killJobs _)

theorem turn_leaveOperation (op : OperationPage) (key : Key) (hp : b.page = .operation op)
    (hkey : key.isBack = true) :
    Turn b (.key key) (b.leaveOperation op).1 (b.leaveOperation op).2 := by
  refine .leftOperation key op.origin op.returnMode rfl hkey (by rw [hp]; rfl) ?_ rfl rfl ?_
  · rw [leaveOperation, Page.footing_mapDetail, Page.footing_leave]
  · rw [leaveOperation, awaited_append, awaited_append, awaited_killJobs, awaited_detailJobs]
    rfl

theorem turn_pressKey (key : Key) : Turn b (.key key) (b.pressKey key).1 (b.pressKey key).2 := by
  have hstay : Turn b (.key key) b [] := turn_of_page_eq b key _ _ rfl rfl (Or.inl rfl) rfl
  by_cases hinterrupt : key = .interrupt
  · rw [hinterrupt, pressKey_interrupt]
    exact turn_quit b .interrupt
  cases hp : b.page with
  | dashboard =>
      rw [pressKey_of_dashboard b key hp hinterrupt]
      exact turn_dashboardKey b key hp
  | detail page =>
      rw [pressKey_of_detail b page key hp hinterrupt]
      exact turn_detailKey b page key hp
  | logs page =>
      rcases pressKey_of_logs b page key hp with ⟨_, hquits⟩ | ⟨hback, hleaves⟩ | ⟨_, _, hstays⟩
      · rw [hquits]
        exact turn_quit b key
      · rw [hleaves]
        exact turn_leaveLogs b page key hp hback
      · rw [hstays]
        exact hstay
  | operation op =>
      rcases pressKey_of_operation b op key hp with ⟨_, hquits⟩ | ⟨hback, hleaves⟩ | ⟨_, _, hstays⟩
      · rw [hquits]
        exact turn_quit b key
      · rw [hleaves]
        exact turn_leaveOperation b op key hp hback
      · rw [hstays]
        exact hstay

/-- Every message makes one of the turns, on every board. -/
theorem update_turn (m : Message) : Turn b m (b.update m).1 (b.update m).2 := by
  cases m with
  | resized width height => exact .kept rfl rfl rfl (Or.inl rfl) rfl
  | projectsLoaded result => exact turn_takeProjects b result
  | detailLoaded root result => exact turn_takeDescription b root result
  | routerStatus status => exact .kept rfl rfl rfl (Or.inl rfl) rfl
  | debuggerToggled result => exact turn_takeDebugger b result
  | textCopied error => exact .kept rfl rfl rfl (Or.inr (copyStatus_ne error)) rfl
  | interactiveFinished origin error => exact turn_takeInteractive b origin error
  | streamStarted s => exact turn_takeStream b s
  | line launch text => exact turn_takeLine b launch text
  | streamEnded launch kind error => exact turn_takeEnd b launch kind error
  | returnDue launch => exact turn_takeReturn b launch
  | tick => exact .ticked rfl rfl rfl
  | key key => exact turn_pressKey b key

end Board

end FleetBoard
