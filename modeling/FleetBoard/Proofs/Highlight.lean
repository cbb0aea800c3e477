import FleetBoard.Proofs.Cursor
import FleetBoard.Proofs.Reach
import FleetBoard.Screen.Dashboard

/-!
# What is Highlighted is What is Acted on

The screen and the keys look for the selected project on their own. The screen
shows as many rows as fit, moved so far that the row of the cursor is among them,
and marks a row by its number. A key takes what stands under the cursor. Neither
asks the other, so it has to be seen that they mean the same project.

Both hang on the cursor being on the list. Then the rows on the screen are a
window of the list without gaps, as high as there is room or as long as the list
is, and the row under the cursor is in it. Beside the list a job is about the page
of a project that is open, or that can be reached: whatever is loaded again is
what the page after the step stands for.

## Main definitions

* `Screen.isMarked`: A row carries the marker of the selection.
* `Screen.Shown`: The part of the list that is on the screen.
* `Screen.linesAround`: Rows of which one is selected.
* `Job.isOnProject`: A job is done on one project.
* `Job.Names`, `Job.StaysIn`: The project or the place that a job names.

## Theorems

* `exists_window`: A list that is shown around a cursor.
* `projectLines_eq`: The rows on the screen, one of them marked.
* `names_of_deed`: What a command on the project list acts on.
* `staysIn_runDetail`: What a command on the page of a project acts on.
* `reached_of_turn`: What is loaded again can be reached.
* `highlighted_is_acted_on`: The selection over runs.
-/

namespace FleetBoard

namespace Screen

/-- Whether a row carries the marker of the selection. -/
def isMarked (row : Line) : Bool :=
  row.head?.any fun span => span.text == cursorMarker

theorem isMarked_projectLine (icon : RunState → String) (p : Project) (selected : Bool)
    (width names : Nat) : isMarked (projectLine icon p selected width names) = selected := by
  cases selected <;> rfl

/-- The part of the list that is on the screen: rows without a gap, with the
    selected project among them, and as many as fit. -/
structure Shown (b : Board) (height : Nat) (before : List Project) (p : Project)
    (after : List Project) : Prop where
  window : ∃ above below, b.visible = above ++ (before ++ p :: after) ++ below ∧
    above.length = firstShown b.cursor height ∧ above.length + before.length = b.cursor
  selected : b.selected? = some p
  filled : (before ++ p :: after).length = min height b.visible.length

/-- The rows of some projects, of which one is selected. -/
def linesAround (icon : RunState → String) (width names : Nat) (before : List Project)
    (p : Project) (after : List Project) : List Line :=
  (before.map fun q => projectLine icon q false width names) ++
    projectLine icon p true width names ::
      after.map fun q => projectLine icon q false width names

section Window

variable {α : Type} (items : List α) (cursor height : Nat)

/-- Where the cursor is on a list, the items that are shown are a window around
    it. -/
theorem exists_window (hcursor : cursor < items.length) (hheight : 1 ≤ height) :
    ∃ above before item after below, items = above ++ (before ++ item :: after) ++ below ∧
      above.length = firstShown cursor height ∧ above.length + before.length = cursor ∧
      (before ++ item :: after).length = min height items.length := by
  have hfirst : firstShown cursor height = cursor + 1 - height := by
    rw [firstShown, Nat.max_eq_left hheight]
  generalize firstShown cursor height = first at hfirst
  have habove : (items.take first).length = first := by
    rw [List.length_take]
    omega
  have hitems : items = items.take first ++ (items.drop first).take height ++
      (items.drop first).drop height := by
    rw [List.append_assoc, List.take_append_drop, List.take_append_drop]
  have hlength : ((items.drop first).take height).length = min height items.length := by
    rw [List.length_take, List.length_drop]
    omega
  generalize (items.drop first).take height = window at hitems hlength
  -- The cursor is as far into the window as it is behind the rows above.
  have hrow : cursor - first < window.length := by omega
  refine ⟨items.take first, window.take (cursor - first), window[cursor - first],
    window.drop (cursor - first + 1), (items.drop first).drop height, ?_, habove, ?_, ?_⟩
  · rw [List.getElem_cons_drop, List.take_append_drop]
    exact hitems
  · rw [habove, List.length_take]
    omega
  · rw [List.getElem_cons_drop, List.take_append_drop]
    exact hlength

/-- The numbered items that are shown are the ones of the window. -/
theorem zipIdx_window (above window below : List α) (hitems : items = above ++ window ++ below)
    (hwindow : window.length = min height items.length) :
    (items.zipIdx.drop above.length).take height = window.zipIdx above.length := by
  have hall : items.length = above.length + window.length + below.length := by
    rw [hitems, List.length_append, List.length_append]
  have hzip : items.zipIdx = above.zipIdx ++ (window.zipIdx above.length ++
      below.zipIdx (above.length + window.length)) := by
    rw [hitems, List.zipIdx_append, List.zipIdx_append, List.append_assoc, List.length_append,
      Nat.zero_add, Nat.zero_add]
  rw [hzip, List.drop_left' (List.length_zipIdx), List.take_append, List.length_zipIdx,
    List.take_of_length_le (by rw [List.length_zipIdx]; omega)]
  -- Below the window there is no room, or there are no items.
  by_cases hroom : height ≤ window.length
  · rw [Nat.sub_eq_zero_of_le hroom, List.take_zero, List.append_nil]
  · have hnone : below = [] := List.eq_nil_of_length_eq_zero (by omega)
    rw [hnone, List.zipIdx_nil, List.take_nil, List.append_nil]

end Window

variable (icon : RunState → String)

/-- Rows whose numbers are not the one of the cursor are not marked. -/
theorem map_zipIdx_unselected (rows : List Project) (first cursor width names : Nat)
    (h : cursor < first ∨ first + rows.length ≤ cursor) :
    (rows.zipIdx first).map (fun row => projectLine icon row.1 (row.2 = cursor) width names) =
      rows.map fun p => projectLine icon p false width names := by
  induction rows generalizing first with
  | nil => rfl
  | cons p rest ih =>
      rw [List.length_cons] at h
      have hother : decide (first = cursor) = false := decide_eq_false (by omega)
      rw [List.zipIdx_cons, List.map_cons, List.map_cons, ih (first + 1) (by omega), hother]

variable (b : Board) (width height : Nat)

/-- Where the cursor is on the list, the screen shows the part of it around the
    cursor, and marks the row of the selected project. -/
theorem projectLines_eq (hlist : b.OnList) (hvisible : b.visible ≠ []) (hheight : 1 ≤ height) :
    ∃ before p after, Shown b height before p after ∧
      projectLines icon b width height =
        linesAround icon width (nameColumns b.visible width) before p after := by
  have hcursor : b.cursor < b.visible.length := by
    have hsome := List.length_pos_iff.mpr hvisible
    rcases hlist with htop | hrow <;> omega
  rcases exists_window b.visible b.cursor height hcursor hheight with
    ⟨above, before, p, after, below, hitems, hfirst, hrow, hfilled⟩
  refine ⟨before, p, after, ⟨⟨above, below, hitems, hfirst, hrow⟩, ?_, hfilled⟩, ?_⟩
  · -- The row of the cursor stands behind what is above it.
    have hbehind : b.visible = (above ++ before) ++ p :: (after ++ below) := by
      rw [hitems]
      simp only [List.append_assoc, List.cons_append]
    rw [Board.selected?, hbehind, ← hrow, ← List.length_append, List.getElem?_append_right
      (Nat.le_refl _), Nat.sub_self]
    rfl
  · have hprojects : b.projects.isEmpty = false := by
      cases hprojects : b.projects with
      | nil =>
          refine absurd ?_ hvisible
          rw [Board.visible, hprojects]
          rfl
      | cons q rest => rfl
    have hshown : b.visible.isEmpty = false := by
      rw [Bool.eq_false_iff]
      exact fun hempty => hvisible (List.isEmpty_iff.mp hempty)
    rw [projectLines, if_neg (Bool.eq_false_iff.mp hprojects),
      if_neg (Bool.eq_false_iff.mp hshown)]
    dsimp only
    rw [← hfirst, zipIdx_window b.visible height above _ below hitems hfilled,
      List.zipIdx_append, List.zipIdx_cons, List.map_append, List.map_cons,
      map_zipIdx_unselected icon before _ b.cursor width _ (Or.inr (by omega)),
      map_zipIdx_unselected icon after _ b.cursor width _ (Or.inl (by omega)), hrow,
      decide_eq_true rfl]
    rfl

/-- One of the rows is marked. -/
theorem countP_isMarked (before after : List Project) (p : Project) (names : Nat) :
    (linesAround icon width names before p after).countP isMarked = 1 := by
  have hplain : ∀ rows : List Project,
      (rows.map fun q => projectLine icon q false width names).countP isMarked = 0 := by
    intro rows
    rw [List.countP_eq_zero]
    intro row hrow
    rcases List.mem_map.mp hrow with ⟨q, _, hq⟩
    rw [← hq, isMarked_projectLine]
    exact Bool.false_ne_true
  rw [linesAround, List.countP_append, List.countP_cons, hplain, hplain, isMarked_projectLine]
  rfl

end Screen

namespace Job

/-- Whether a job is done on one project. -/
def isOnProject : Job → Bool
  | .loadDetail _ => true
  | .followLogs .. => true
  | .runOperation .. => true
  | .runInteractive .. => true
  | .toggleDebugger _ => true
  | _ => false

/-- A job names a project of the list: an operation by its name, anything else by
    its root. -/
def Names (p : Project) : Job → Prop
  | .loadDetail root => root = p.root
  | .followLogs _ root => root = p.root
  | .runOperation _ dir args => dir = none ∧ ∃ action : Lifecycle, args = [action.subcommand, p.name]
  | .runInteractive dir _ _ => dir = some p.root
  | .toggleDebugger root => root = p.root
  | _ => False

/-- A job names the root of a project whose page is open, operations too. -/
def StaysIn (root : Path) : Job → Prop
  | .loadDetail place => place = root
  | .followLogs _ place => place = root
  | .runOperation _ dir args => dir = some root ∧ ∃ action : Lifecycle, args = [action.subcommand]
  | .runInteractive dir _ _ => dir = some root
  | .toggleDebugger place => place = root
  | _ => False

end Job

namespace Board

variable (b b' : Board) (jobs : List Job)

/-- Nothing that the end of a stream or of the program asks for is done on a
    project. -/
theorem not_isOnProject_of_quit (job : Job) (h : job ∈ b.quit.2) : job.isOnProject = false := by
  rw [quit, List.mem_append, killJobs, Option.mem_toList, Option.map_eq_some_iff,
    List.mem_singleton] at h
  rcases h with ⟨process, _, hkill⟩ | hquit
  · rw [← hkill]
    rfl
  · rw [hquit]
    rfl

/-- What a command on the project list does on a project, it does on the selected
    one. -/
theorem names_of_deed (command : DashboardCommand) (hdeed : Deed b command b' jobs) (job : Job)
    (hjob : job ∈ jobs) (hon : job.isOnProject = true) :
    ∃ p, b.selected? = some p ∧ job.Names p := by
  -- Most deeds ask for nothing, or for nothing that is done on a project.
  have hother : ∀ others : List Job, jobs = others → (∀ j ∈ others, j.isOnProject = false) →
      ∃ p, b.selected? = some p ∧ job.Names p := by
    intro others hjobs hnone
    rw [hjobs] at hjob
    exact absurd (hon.symm.trans (hnone job hjob)) Bool.noConfusion
  cases hdeed with
  | opened p _ hselected _ hjobs =>
      rw [hjobs, List.mem_singleton] at hjob
      rw [hjob]
      exact ⟨p, hselected, rfl⟩
  | launched action p _ hselected _ hjobs =>
      rw [hjobs, List.mem_singleton] at hjob
      rw [hjob]
      exact ⟨p, hselected, rfl, action, rfl⟩
  | browsed site p _ hselected _ hjobs =>
      rw [hjobs, browseJobs] at hjob
      split at hjob
      · rw [List.mem_singleton] at hjob
        rw [hjob]
        exact ⟨p, hselected, rfl⟩
      · exact absurd hjob List.not_mem_nil
  | idle _ hjobs => exact hother _ hjobs (by decide)
  | moved _ _ _ hjobs => exact hother _ hjobs (by decide)
  | widened _ _ hjobs => exact hother _ hjobs (by decide)
  | quit _ _ hjobs => exact hother _ hjobs (by decide)
  | asked _ _ _ _ hjobs => exact hother _ hjobs (by decide)
  | configured _ _ hjobs => exact hother _ hjobs (by decide)
  | refreshed _ _ hjobs => exact hother _ hjobs (by decide)
  | begun _ _ hjobs => exact hother _ hjobs (by decide)
  | helped _ _ hjobs => exact hother _ hjobs (by decide)

/-- What a key on the project list does on a project, it does on the selected one,
    unless it confirms an action on all of them. -/
theorem names_of_key (key : Key) (hp : b.page = .dashboard) (job : Job)
    (hjob : job ∈ (b.update (.key key)).2) (hon : job.isOnProject = true) :
    (∃ p, b.selected? = some p ∧ job.Names p) ∨
      ∃ action, b.confirmation = some action ∧ key.isConfirm = true ∧
        job = .runOperation b.nextLaunch none action.arguments := by
  rw [update] at hjob
  by_cases hinterrupt : key = .interrupt
  · rw [hinterrupt, pressKey_interrupt] at hjob
    exact absurd (hon.symm.trans (not_isOnProject_of_quit b job hjob)) Bool.noConfusion
  rw [pressKey_of_dashboard b key hp hinterrupt] at hjob
  rcases dashboardKey_cases b key with ⟨action, hquestion, hkey⟩ | ⟨_, hkey⟩ | ⟨_, hkey⟩ |
    ⟨command, _, hkey⟩ | hkey
  · rw [hkey, answerKey] at hjob
    by_cases hconfirm : key.isConfirm = true
    · rw [if_pos hconfirm, launchOperation, List.mem_singleton] at hjob
      exact Or.inr ⟨action, hquestion, hconfirm, hjob⟩
    · rw [if_neg hconfirm] at hjob
      exact absurd hjob List.not_mem_nil
  · -- The filter and the help take the key without asking for anything.
    rw [hkey] at hjob
    exact absurd hjob List.not_mem_nil
  · rw [hkey] at hjob
    exact absurd hjob List.not_mem_nil
  · rw [hkey] at hjob
    exact Or.inl (names_of_deed b _ _ command (deed_runDashboard b command) job hjob hon)
  · rw [hkey] at hjob
    exact absurd hjob List.not_mem_nil

/-- What a command on a description does on a project, it does where the page of
    the project says. -/
theorem staysIn_runDescribed (page : DetailPage) (d : Description) (command : DetailCommand)
    (job : Job) (hjob : job ∈ (b.runDescribed page d command).2) (hon : job.isOnProject = true) :
    job.StaysIn page.root := by
  have hone : ∀ other : Job, job ∈ [other] → other.StaysIn page.root → job.StaysIn page.root := by
    intro other hmem hother
    rw [List.mem_singleton] at hmem
    rw [hmem]
    exact hother
  cases command with
  | followLogs => exact hone _ hjob rfl
  | lifecycle action => exact hone _ hjob ⟨rfl, action, rfl⟩
  | browse site =>
      cases site with
      | project =>
          simp only [runDescribed] at hjob
          split at hjob
          · exact absurd hjob List.not_mem_nil
          · exact hone _ hjob rfl
      | mail =>
          simp only [runDescribed] at hjob
          split at hjob
          · exact absurd hjob List.not_mem_nil
          · exact hone _ hjob rfl
      | profiler => exact hone _ hjob rfl
  | shell => exact hone _ hjob rfl
  | toggleDebugger =>
      simp only [runDescribed] at hjob
      split at hjob
      · exact hone _ hjob rfl
      · exact absurd hjob List.not_mem_nil
  | copyUrl =>
      simp only [runDescribed] at hjob
      split at hjob
      · rw [List.mem_singleton] at hjob
        rw [hjob] at hon
        exact absurd hon Bool.false_ne_true
      · exact absurd hjob List.not_mem_nil
  | refresh => exact hone _ hjob rfl
  | _ => exact absurd hjob List.not_mem_nil

theorem staysIn_runDetail (page : DetailPage) (command : DetailCommand) (job : Job)
    (hjob : job ∈ (b.runDetail page command).2) (hon : job.isOnProject = true) :
    job.StaysIn page.root := by
  cases command with
  | scrollUp => exact absurd hjob List.not_mem_nil
  | scrollDown => exact absurd hjob List.not_mem_nil
  | pageUp => exact absurd hjob List.not_mem_nil
  | pageDown => exact absurd hjob List.not_mem_nil
  | back => exact absurd hjob List.not_mem_nil
  | quit =>
      rw [runDetail, List.mem_singleton] at hjob
      rw [hjob] at hon
      exact absurd hon Bool.false_ne_true
  | _ =>
      simp only [runDetail] at hjob
      split at hjob
      next d hd => exact staysIn_runDescribed b page d _ job hjob hon
      next => exact absurd hjob List.not_mem_nil

/-- What a key on the page of a project does on a project, it does on that one. -/
theorem staysIn_of_key (page : DetailPage) (key : Key) (hp : b.page = .detail page) (job : Job)
    (hjob : job ∈ (b.update (.key key)).2) (hon : job.isOnProject = true) :
    job.StaysIn page.root := by
  rw [update] at hjob
  by_cases hinterrupt : key = .interrupt
  · rw [hinterrupt, pressKey_interrupt] at hjob
    exact absurd (hon.symm.trans (not_isOnProject_of_quit b job hjob)) Bool.noConfusion
  rw [pressKey_of_detail b page key hp hinterrupt, detailKey] at hjob
  cases hcommand : DetailCommand.ofKey? key with
  | none =>
      rw [hcommand] at hjob
      exact absurd hjob List.not_mem_nil
  | some command =>
      rw [hcommand] at hjob
      exact staysIn_runDetail b page command job hjob hon

/-- What is loaded again can be reached afterwards. Without a key it could be
    reached before. -/
theorem reached_of_turn (m : Message) (hturn : Turn b m b' jobs) (root : Path)
    (hjob : Job.loadDetail root ∈ jobs) :
    (∃ page', b'.page.detail? = some page' ∧ page'.root = root) ∧
      (m.key? = none → ∃ page, b.page.detail? = some page ∧ page.root = root) := by
  have hidle : jobs ≠ [] := List.ne_nil_of_mem hjob
  cases reach_of_turn b b' m jobs hturn with
  | same _ hpage hjobs =>
      rcases hjobs root hjob with ⟨_, page, hopen, _, hroot⟩
      have hbefore : b.page.detail? = some page := by
        rw [hopen]
        rfl
      exact ⟨⟨page, by rw [hpage, hbefore], hroot⟩, fun _ => ⟨page, hbefore, hroot⟩⟩
  | awaiting _ hpage hjobs =>
      rcases (hjobs root).mp hjob with ⟨page, hbefore, hroot⟩
      exact ⟨⟨awaitLoad page, by rw [hpage, hbefore]; rfl, hroot⟩, fun _ => ⟨page, hbefore, hroot⟩⟩
  | described _ _ _ _ _ _ _ hjobs => exact absurd hjobs hidle
  | lost _ _ _ _ _ _ _ hjobs => exact absurd hjobs hidle
  | scrolled _ _ _ _ _ _ _ hjobs => exact absurd hjobs hidle
  | opened key p hm hpage hjobs =>
      rw [hjobs, List.mem_singleton, Job.loadDetail.injEq] at hjob
      refine ⟨⟨_, hpage, hjob.symm⟩, fun hnews => ?_⟩
      rw [hm] at hnews
      exact absurd hnews (Option.some_ne_none key)
  | closed _ _ _ hjobs => exact absurd hjobs hidle

end Board

namespace Run

variable (r : Run) (icon : RunState → String)

/-- What is highlighted is what is acted on. Wherever there is room for a row and a
    project to show, the rows on the screen are a window of the list, without gaps,
    as long as fits, and exactly one of them is marked, the one of the selected
    project, whatever the marks of statuses are. What a key on the list does on a
    project it does on that one, unless it confirms an action on all projects. On the
    page of a project a key acts on the project of the page. What is loaded again
    without a key is the page of a project that can be reached, before the message
    and after it. -/
theorem highlighted_is_acted_on (k : Nat) :
    (∀ width height, 1 ≤ height → (r.boardAt k).visible ≠ [] →
      ∃ before p after, Screen.Shown (r.boardAt k) height before p after ∧
        Screen.projectLines icon (r.boardAt k) width height = Screen.linesAround icon width
          (Screen.nameColumns (r.boardAt k).visible width) before p after ∧
        (Screen.projectLines icon (r.boardAt k) width height).countP Screen.isMarked = 1) ∧
    (∀ key job, (r.boardAt k).page = .dashboard →
      job ∈ ((r.boardAt k).update (.key key)).2 → job.isOnProject = true →
      (∃ p, (r.boardAt k).selected? = some p ∧ job.Names p) ∨
      ∃ action, (r.boardAt k).confirmation = some action ∧ key.isConfirm = true ∧
        job = .runOperation (r.boardAt k).nextLaunch none action.arguments) ∧
    (∀ key job page, (r.boardAt k).page = .detail page →
      job ∈ ((r.boardAt k).update (.key key)).2 → job.isOnProject = true →
      job.StaysIn page.root) ∧
    (∀ m root, (∀ key, m ≠ .key key) → Job.loadDetail root ∈ ((r.boardAt k).update m).2 →
      (∃ page, (r.boardAt k).page.detail? = some page ∧ page.root = root) ∧
      ∃ page', ((r.boardAt k).update m).1.page.detail? = some page' ∧ page'.root = root) := by
  refine ⟨fun width height hheight hvisible => ?_, fun key job hp => ?_, fun key job page hp => ?_,
    fun m root hnews hjob => ?_⟩
  · rcases Screen.projectLines_eq icon _ width height (onList_boardAt r k) hvisible hheight with
      ⟨before, p, after, hshown, hlines⟩
    refine ⟨before, p, after, hshown, hlines, ?_⟩
    rw [hlines]
    exact Screen.countP_isMarked icon width before after p _
  · exact Board.names_of_key _ key hp job
  · exact Board.staysIn_of_key _ page key hp job
  · rcases Board.reached_of_turn _ _ _ m (Board.update_turn _ m) root hjob with ⟨hafter, hbefore⟩
    refine ⟨hbefore ?_, hafter⟩
    cases hkey : m.key? with
    | none => rfl
    | some key => exact absurd ((Message.key?_eq_some_iff m key).mp hkey) (hnews key)

/-- Of three projects the last two fit on the screen while the last one is selected.
    It is the one that is stopped by a key, and the one whose page is opened, left
    to logs and loaded again. -/
theorem last_row_is_acted_on :
    let project (name : String) : Project := ⟨name, .running, "php", "", ⟨"/srv/" ++ name⟩⟩
    let run : Run :=
      { timings := {}
        messages := [.projectsLoaded (.ok [project "blog", project "docs", project "shop"]),
          .key .pageDown, .key .enter, .detailLoaded ⟨"/srv/shop"⟩ (.ok {}), .key (.char 'L')] }
    (∃ before p after, Screen.Shown (run.boardAt 2) 2 before p after ∧
      p = project "shop" ∧ before.length + 1 + after.length = 2) ∧
    ((Screen.projectLines Theme.plain.icon (run.boardAt 2) 80 2).countP Screen.isMarked = 1) ∧
    (Job.runOperation ⟨1⟩ none ["stop", "shop"]).Names (project "shop") ∧
    (Job.followLogs ⟨1⟩ ⟨"/srv/shop"⟩).StaysIn ⟨"/srv/shop"⟩ ∧
    ∃ page, ((run.boardAt 5).update (.debuggerToggled (.ok true))).1.page.detail? = some page ∧
      page.root = ⟨"/srv/shop"⟩ := by
  intro project run
  have hselected : (run.boardAt 2).selected? = some (project "shop") := by decide
  have hunasked : (run.boardAt 2).confirmation = none := by decide
  have hstop : Job.runOperation ⟨1⟩ none ["stop", "shop"] ∈
      ((run.boardAt 2).update (.key (.char 'S'))).2 := by decide
  have hpage : (run.boardAt 4).page =
      .detail ⟨"shop", ⟨"/srv/shop"⟩, some {}, false, 0⟩ := by decide
  have hlogs : Job.followLogs ⟨1⟩ ⟨"/srv/shop"⟩ ∈
      ((run.boardAt 4).update (.key (.char 'L'))).2 := by decide
  rcases highlighted_is_acted_on run Theme.plain.icon 2 with ⟨hscreen, hlist, _, _⟩
  rcases hscreen 80 2 (by decide) (by decide) with ⟨before, p, after, hshown, _, hmarked⟩
  refine ⟨⟨before, p, after, hshown, ?_, ?_⟩, hmarked, ?_, ?_, ?_⟩
  · exact Option.some.inj (hshown.selected.symm.trans hselected)
  · have hfilled := hshown.filled
    have htwo : min 2 (run.boardAt 2).visible.length = 2 := by decide
    rw [htwo, List.length_append, List.length_cons] at hfilled
    omega
  · rcases hlist (.char 'S') _ (by decide) hstop rfl with ⟨p, hp, hnames⟩ | ⟨action, hquestion, _⟩
    · rw [hselected, Option.some.injEq] at hp
      rw [hp]
      exact hnames
    · exact absurd (hunasked.symm.trans hquestion) (Option.some_ne_none action).symm
  · exact (highlighted_is_acted_on run Theme.plain.icon 4).2.2.1 (.char 'L') _ _ hpage hlogs rfl
  · exact ((highlighted_is_acted_on run Theme.plain.icon 5).2.2.2 (.debuggerToggled (.ok true)) _
      (fun _ => Message.noConfusion) (by decide)).2

end Run

end FleetBoard
