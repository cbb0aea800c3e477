import FleetBoard.Proofs.Deed
import FleetBoard.Proofs.Run
import FleetBoard.Proofs.SameList

/-!
# The Cursor on the List

The cursor is a number, and three things it depends on change apart from it: the
projects that were loaded, the text that narrows them, and the rows that a page
key goes. Nothing ties them together but the code that changes one of them. So it
has to be seen of every change that the cursor still is on a row that is shown,
or at the top.

That is why the selected project is there whenever any project is shown. All keys
on the list act on it, and none of them would do anything otherwise.

The projects themselves are a snapshot. A filter hides some of them and shows
them again, and no key loads, drops or reorders any.

## Main definitions

* `Board.OnList`: The cursor is on a row that is shown, or at the top.
* `Board.Steady`: The projects are the same ones, and the cursor stays on them.

## Theorems

* `onList_clampCursor`: A list that was loaded takes the cursor along.
* `selected?_isSome_iff`: Where the cursor is on the list, a project is selected.
* `steady_pressKey`: No key drops a project or leads off the list.
* `onList_update`: No message leads off the list.
* `cursor_on_list`: The laws of the cursor over runs.
-/

namespace FleetBoard

namespace Board

/-- The cursor is on a row that is shown, or at the top. -/
def OnList (b : Board) : Prop :=
  b.cursor = 0 ∨ b.cursor < b.visible.length

/-- The projects are the same ones, and a cursor that was on the list still is. -/
structure Steady (b b' : Board) : Prop where
  projects : b'.projects = b.projects
  onList : b.OnList → b'.OnList

variable (b b' : Board)

/-- Where the cursor is on the list, a project is selected as soon as one is
    shown. -/
theorem selected?_isSome_iff (h : b.OnList) : b.selected?.isSome = true ↔ b.visible ≠ [] := by
  have hselected : b.selected?.isSome = true ↔ b.cursor < b.visible.length := by
    simp [selected?]
  rw [hselected, ← List.length_pos_iff]
  constructor
  · intro hrow
    omega
  · intro hshown
    rcases h with htop | hrow <;> omega

/-- A list that was loaded takes the cursor along, however short it is. -/
theorem onList_clampCursor : b.clampCursor.OnList := by
  have hcursor : b.clampCursor.cursor = min b.cursor (b.visible.length - 1) := rfl
  have hvisible : b.clampCursor.visible = b.visible := rfl
  rw [OnList, hcursor, hvisible]
  omega

theorem steady_refl : b.Steady b :=
  ⟨rfl, id⟩

/-- What is shown depends on the projects and the filter only. -/
theorem steady_of_same (h : b.SameList b') : b.Steady b' := by
  have hvisible : b'.visible = b.visible := by
    rw [visible, visible, h.projects, h.filter]
  refine ⟨h.projects, fun hb => ?_⟩
  rw [OnList, h.cursor, hvisible]
  exact hb

/-- A filter that begins, ends or loses a character may show any row again, so the
    cursor goes to the top with it. -/
theorem steady_top (filter : Filter) : b.Steady { b with filter := filter, cursor := 0 } :=
  ⟨rfl, fun _ => Or.inl rfl⟩

/-- The cursor goes up, or to another row that is there. -/
theorem steady_moved (cursor : Nat) (h : cursor ≤ b.cursor ∨ cursor < b.visible.length) :
    b.Steady { b with cursor := cursor } := by
  refine ⟨rfl, fun hb => ?_⟩
  -- The same rows are shown as before.
  change cursor = 0 ∨ cursor < b.visible.length
  rcases hb with htop | hrow <;> omega

theorem steady_runDashboard (command : DashboardCommand) :
    b.Steady (b.runDashboard command).1 := by
  have hsame : ∀ b' : Board, (b.runDashboard command).1 = b' → b.SameList b' →
      b.Steady (b.runDashboard command).1 := by
    intro b' hboard hb'
    rw [hboard]
    exact steady_of_same b b' hb'
  cases deed_runDashboard b command with
  | moved cursor hcursor hboard _ =>
      rw [hboard]
      exact steady_moved b cursor hcursor
  | widened _ hboard _ =>
      rw [hboard]
      exact steady_top b .cancel
  | begun _ hboard _ =>
      rw [hboard]
      exact steady_top b .begin
  | asked action _ _ hboard _ =>
      rw [hboard]
      exact ⟨rfl, id⟩
  | helped _ hboard _ =>
      rw [hboard]
      exact ⟨rfl, id⟩
  | idle hboard _ => exact hsame _ hboard (sameList_refl b)
  | quit _ hboard _ => exact hsame _ hboard (sameList_refl b)
  | opened _ _ _ hboard _ => exact hsame _ hboard (sameList_page b _ _ _ _)
  | launched _ _ _ _ hboard _ => exact hsame _ hboard (sameList_page b _ _ _ _)
  | browsed _ _ _ _ hboard _ => exact hsame _ hboard (sameList_refl b)
  | configured _ hboard _ => exact hsame _ hboard (sameList_refl b)
  | refreshed _ hboard _ => exact hsame _ hboard (sameList_page b _ _ _ _)

/-- A question is answered without a look at the list. -/
theorem steady_answerKey (action : BulkAction) (key : Key) :
    b.Steady (b.answerKey action key).1 := by
  unfold answerKey
  dsimp only
  split <;> exact ⟨rfl, id⟩

/-- Every edit of the filter takes the cursor to the top. To confirm it is no edit,
    since what was typed goes on narrowing the list. -/
theorem steady_filterKey (key : Key) : b.Steady (b.filterKey key) := by
  cases key with
  | char c => exact steady_top b _
  | escape => exact steady_top b _
  | backspace =>
      simp only [filterKey]
      split
      · exact steady_top b _
      · exact steady_refl b
  | enter => exact ⟨rfl, id⟩
  | _ => exact steady_refl b

theorem steady_dashboardKey (key : Key) : b.Steady (b.dashboardKey key).1 := by
  rcases dashboardKey_cases b key with ⟨action, _, hkey⟩ | ⟨_, hkey⟩ | ⟨_, hkey⟩ |
    ⟨command, _, hkey⟩ | hkey
  · rw [hkey]
    exact steady_answerKey b action key
  · rw [hkey]
    exact steady_filterKey b key
  · rw [hkey]
    exact ⟨rfl, id⟩
  · rw [hkey]
    exact steady_runDashboard b command
  · rw [hkey]
    exact steady_refl b

/-- No key drops a project or leads off the list, whatever page is shown. -/
theorem steady_pressKey (key : Key) : b.Steady (b.pressKey key).1 := by
  by_cases hp : b.page = .dashboard
  · by_cases hinterrupt : key = .interrupt
    · rw [hinterrupt, pressKey_interrupt]
      exact steady_of_same b _ (sameList_quit b)
    · rw [pressKey_of_dashboard b key hp hinterrupt]
      exact steady_dashboardKey b key
  · exact steady_of_same b _ (sameList_pressKey b key hp)

/-- Nothing but a list that was loaded brings or takes a project. -/
theorem steady_update (m : Message) (hlisted : ∀ projects, m ≠ .projectsLoaded (.ok projects)) :
    b.Steady (b.update m).1 := by
  cases hm : m.key? with
  | none => exact steady_of_same b _ (sameList_of_news b m hm hlisted)
  | some key =>
      rw [(Message.key?_eq_some_iff m key).mp hm]
      exact steady_pressKey b key

theorem onList_update (m : Message) (hb : b.OnList) : (b.update m).1.OnList := by
  by_cases hlisted : ∃ projects, m = .projectsLoaded (.ok projects)
  · rcases hlisted with ⟨projects, hprojects⟩
    rw [hprojects]
    exact onList_clampCursor _
  · exact (steady_update b m (not_exists.mp hlisted)).onList hb

end Board

namespace Run

variable (r : Run)

theorem onList_boardAt (k : Nat) : (r.boardAt k).OnList :=
  boardAt_invariant Board.OnList (fun _ => Or.inl rfl) Board.onList_update r k

/-- The laws of the cursor. At every point of a run it is on a row that is shown,
    or at the top where none is. So a project is selected exactly where one is
    shown. What is shown are projects of the list, in their order. No key and no edit
    of the filter changes the list, nor does anything but a list that was loaded. -/
theorem cursor_on_list (k : Nat) :
    ((r.boardAt k).visible = [] → (r.boardAt k).cursor = 0) ∧
    ((r.boardAt k).visible ≠ [] → (r.boardAt k).cursor < (r.boardAt k).visible.length) ∧
    ((r.boardAt k).selected?.isSome = true ↔ (r.boardAt k).visible ≠ []) ∧
    (r.boardAt k).visible.Sublist (r.boardAt k).projects ∧
    ∀ m, (∀ projects, m ≠ .projectsLoaded (.ok projects)) →
      ((r.boardAt k).update m).1.projects = (r.boardAt k).projects := by
  have hcursor := onList_boardAt r k
  refine ⟨fun hnone => ?_, fun hshown => ?_, Board.selected?_isSome_iff _ hcursor,
    Filter.apply_sublist _ _, fun m hlisted => (Board.steady_update _ m hlisted).projects⟩
  · rcases hcursor with htop | hrow
    · exact htop
    · rw [hnone] at hrow
      exact absurd hrow (Nat.not_lt_zero _)
  · have hrows := List.length_pos_iff.mpr hshown
    rcases hcursor with htop | hrow <;> omega

/-- The last of three rows is selected when the list becomes shorter and is then
    narrowed to nothing. -/
theorem shorter_list_keeps_cursor :
    let project (name : String) : Project := ⟨name, .stopped, "php", "", ⟨"/srv/" ++ name⟩⟩
    let run : Run :=
      { timings := {}
        messages := [.projectsLoaded (.ok [project "blog", project "docs", project "shop"]),
          .key .pageDown, .projectsLoaded (.ok [project "blog", project "docs"]),
          .key (.char '/'), .key (.char 'z')] }
    (run.boardAt 2).cursor = 2 ∧
    (run.boardAt 3).cursor = 1 ∧ (run.boardAt 3).cursor < (run.boardAt 3).visible.length ∧
    (run.boardAt 3).selected? = some (project "docs") ∧
    (run.boardAt 5).visible = [] ∧ (run.boardAt 5).cursor = 0 ∧
    ((run.boardAt 3).update .tick).1.projects = (run.boardAt 3).projects := by
  intro project run
  rcases cursor_on_list run 3 with ⟨_, hrow, _, _, hprojects⟩
  rcases cursor_on_list run 5 with ⟨htop, _⟩
  have hnone : (run.boardAt 5).visible = [] := by decide
  exact ⟨by decide, by decide, hrow (by decide), by decide, hnone, htop hnone,
    hprojects .tick (fun _ => Message.noConfusion)⟩

end Run

end FleetBoard
