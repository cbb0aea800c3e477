import FleetBoard.Board.Update

/-!
# Deeds

What a command on the project list can do, said once. Most commands look at the
board before they do anything: whether a project is selected, whether there is a
row to go on to, whether there are any projects at all. A deed tells what came of
it, with what was seen on the board. Laws about the list go by cases on the deeds
and never through the commands.

## Main definitions

* `Board.Deed`: What a command on the project list does.

## Theorems

* `deed_runDashboard`: Every command does one of the deeds.
-/

namespace FleetBoard

namespace Board

/-- What a command on the project list does: the board `b` carries it out, becomes
    `b'` and asks for `jobs`. -/
inductive Deed (b : Board) (command : DashboardCommand) (b' : Board) (jobs : List Job) : Prop
  /-- There is nothing to do it with. -/
  | idle (hboard : b' = b) (hjobs : jobs = [])
  /-- The cursor goes up, or to another row that is there. -/
  | moved (cursor : Nat) (hcursor : cursor ≤ b.cursor ∨ cursor < b.visible.length)
      (hboard : b' = { b with cursor := cursor }) (hjobs : jobs = [])
  /-- A filter that narrows the list is dropped. -/
  | widened (hcommand : command = .dropFilter)
      (hboard : b' = { b with filter := .cancel, cursor := 0 }) (hjobs : jobs = [])
  | quit (hcommand : command = .quit) (hboard : b' = b) (hjobs : jobs = [.quit])
  /-- The page of the selected project is opened. -/
  | opened (p : Project) (hcommand : command = .openProject) (hselected : b.selected? = some p)
      (hboard : b' = { b with page := .detail { name := p.name, root := p.root }, status := "" })
      (hjobs : jobs = [.loadDetail p.root])
  /-- An operation is launched on the selected project. -/
  | launched (action : Lifecycle) (p : Project) (hcommand : command = .lifecycle action)
      (hselected : b.selected? = some p)
      (hboard : b' =
        (b.launchOperation (action.operationName p.name) none [action.subcommand, p.name]).1)
      (hjobs : jobs = [.runOperation b.nextLaunch none [action.subcommand, p.name]])
  /-- A site of the selected project is opened, if it has one. -/
  | browsed (site : Site) (p : Project) (hcommand : command = .browse site)
      (hselected : b.selected? = some p) (hboard : b' = b) (hjobs : jobs = browseJobs p site)
  /-- It is asked whether an action on all projects is meant. Only the power is
      switched off without any. -/
  | asked (action : BulkAction) (hcommand : command = .ask action)
      (hprojects : action = .poweroff ∨ b.projects ≠ []) (hboard : b' = b.askFor action)
      (hjobs : jobs = [])
  | configured (hcommand : command = .configure) (hboard : b' = b) (hjobs : jobs = [.runConfig])
  | refreshed (hcommand : command = .refresh)
      (hboard : b' = { b with loading := true, status := refreshingStatus })
      (hjobs : jobs = listJobs)
  | begun (hcommand : command = .beginFilter)
      (hboard : b' = { b with filter := .begin, cursor := 0 }) (hjobs : jobs = [])
  | helped (hcommand : command = .showHelp) (hboard : b' = { b with helpShown := true })
      (hjobs : jobs = [])

variable (b : Board)

/-- A question that needs projects is asked only where there are some. -/
theorem deed_of_ask (action : BulkAction)
    (hrun : b.runDashboard (.ask action) = (if b.projects.isEmpty then b else b.askFor action, [])) :
    Deed b (.ask action) (b.runDashboard (.ask action)).1 (b.runDashboard (.ask action)).2 := by
  rw [hrun]
  cases hempty : b.projects.isEmpty with
  | true => exact .idle rfl rfl
  | false =>
      have hprojects : b.projects ≠ [] := by
        intro hnil
        rw [hnil] at hempty
        exact Bool.noConfusion hempty
      exact .asked action rfl (Or.inr hprojects) rfl rfl

/-- Every command does one of the deeds, on every board. -/
theorem deed_runDashboard (command : DashboardCommand) :
    Deed b command (b.runDashboard command).1 (b.runDashboard command).2 := by
  cases command with
  | previous => exact .moved _ (Or.inl (Nat.sub_le _ _)) rfl rfl
  | next =>
      simp only [runDashboard]
      split
      next hthere => exact .moved _ (Or.inr hthere) rfl rfl
      next => exact .idle rfl rfl
  | dropFilter =>
      simp only [runDashboard]
      split
      · exact .widened rfl rfl rfl
      · exact .idle rfl rfl
  | quit => exact .quit rfl rfl rfl
  | pageUp => exact .moved _ (Or.inl (Nat.sub_le _ _)) rfl rfl
  | pageDown =>
      refine .moved _ ?_ rfl rfl
      -- Without any rows the cursor goes to where the list would begin.
      omega
  | openProject =>
      simp only [runDashboard]
      cases hselected : b.selected? with
      | none => exact .idle rfl rfl
      | some p => exact .opened p rfl hselected rfl rfl
  | lifecycle action =>
      simp only [runDashboard]
      cases hselected : b.selected? with
      | none => exact .idle rfl rfl
      | some p => exact .launched action p rfl hselected rfl rfl
  | browse site =>
      simp only [runDashboard]
      cases hselected : b.selected? with
      | none => exact .idle rfl rfl
      | some p => exact .browsed site p rfl hselected rfl rfl
  | ask action =>
      cases action with
      | poweroff => exact .asked .poweroff rfl (Or.inl rfl) rfl rfl
      | startAll => exact deed_of_ask b .startAll rfl
      | stopAll => exact deed_of_ask b .stopAll rfl
  | configure => exact .configured rfl rfl rfl
  | refresh => exact .refreshed rfl rfl rfl
  | beginFilter => exact .begun rfl rfl rfl
  | showHelp => exact .helped rfl rfl rfl

end Board

end FleetBoard
