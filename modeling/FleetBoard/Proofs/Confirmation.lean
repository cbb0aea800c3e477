import FleetBoard.Proofs.Overlay
import Mathlib.Logic.Basic

/-!
# Confirmation

What it takes to start, stop or power off everything: the key of the action on the
bare project list, and then `y` as the very next key. Between the two anything may
be loaded, started or ended, and the screen may change its size. None of it asks
the question, answers it, or brings up another page that would take the second
key.

The board only keeps the action that was asked for, not when. So the law is about
runs: whenever an action waits for its confirmation, the latest key was the one of
that action. It holds as long as the program has not been told to end, since the
interrupt is the one key that leaves a question open.

## Main definitions

* `BulkAction.key`, `Lifecycle.key`: The keys of actions on the project list.
* `Run.LatestKey`: The latest key before a point.
* `Run.AskedFor`: The latest key has asked for an action.
* `Run.AskedAt`: The latest key that is no interrupt has asked for it.
* `Run.Going`: The program has not been told to end.

## Theorems

* `confirmation_of_key`: A question is asked by the key of its action.
* `operation_of_key`: What launches an operation from the project list.
* `askedAt_of_pending`: A question that waits was asked, and only interrupts came since.
* `askedFor_of_pending`: A question that waits was asked by the latest key.
* `destructive_keys_are_confirmed`: The laws of confirmation over runs.
-/

namespace FleetBoard

/-- The key that asks for an action on all projects. -/
def BulkAction.key : BulkAction → Key
  | .startAll => .char 'a'
  | .stopAll => .char 'A'
  | .poweroff => .char 'P'

/-- The key that changes how the selected project runs. -/
def Lifecycle.key : Lifecycle → Key
  | .start => .char 's'
  | .stop => .char 'S'
  | .restart => .char 'r'

namespace DashboardCommand

theorem key_of_ask (key : Key) (action : BulkAction) (h : ofKey? key = some (.ask action)) :
    key = action.key := by
  cases key with
  | char c =>
      change ofChar? c = some (.ask action) at h
      simp only [ofChar?, ite_eq_iff, Option.some.injEq, reduceCtorEq, and_false, false_or,
        or_false, ask.injEq] at h
      rcases h with ⟨_, _, _, _, _, _, _, _, _, _, ⟨hc, hask⟩ | ⟨_, ⟨hc, hask⟩ | ⟨_, hc, hask⟩⟩⟩
      all_goals
        rw [hc, ← hask]
        rfl
  | _ => cases h

theorem key_of_lifecycle (key : Key) (action : Lifecycle)
    (h : ofKey? key = some (.lifecycle action)) : key = action.key := by
  cases key with
  | char c =>
      change ofChar? c = some (.lifecycle action) at h
      simp only [ofChar?, ite_eq_iff, Option.some.injEq, reduceCtorEq, and_false, false_or,
        or_false, lifecycle.injEq] at h
      rcases h with ⟨_, _, _, _, ⟨hc, haction⟩ | ⟨_, ⟨hc, haction⟩ | ⟨_, hc, haction⟩⟩⟩
      all_goals
        rw [hc, ← haction]
        rfl
  | _ => cases h

end DashboardCommand

namespace Board

variable (b : Board)

/-- On the bare list a question is asked by its command only. -/
theorem confirmation_runDashboard (command : DashboardCommand) (action : BulkAction)
    (hnone : b.confirmation = none) (h : (b.runDashboard command).1.confirmation = some action) :
    command = .ask action := by
  have hstill : ∀ b' : Board, (b.runDashboard command).1 = b' →
      b'.confirmation = b.confirmation → command = .ask action := by
    intro b' hboard hsame
    rw [hboard, hsame, hnone] at h
    exact absurd h (Option.some_ne_none action).symm
  cases deed_runDashboard b command with
  | asked other hcommand _ hboard _ =>
      rw [hboard, askFor, Option.some.injEq] at h
      rw [hcommand, h]
  | idle hboard _ => exact hstill _ hboard rfl
  | moved _ _ hboard _ => exact hstill _ hboard rfl
  | widened _ hboard _ => exact hstill _ hboard rfl
  | quit _ hboard _ => exact hstill _ hboard rfl
  | opened _ _ _ hboard _ => exact hstill _ hboard rfl
  | launched _ _ _ _ hboard _ => exact hstill _ hboard rfl
  | browsed _ _ _ _ hboard _ => exact hstill _ hboard rfl
  | configured _ hboard _ => exact hstill _ hboard rfl
  | refreshed _ hboard _ => exact hstill _ hboard rfl
  | begun _ hboard _ => exact hstill _ hboard rfl
  | helped _ hboard _ => exact hstill _ hboard rfl

/-- Nothing that opens a site launches an operation. -/
theorem not_mem_browseJobs (p : Project) (site : Site) (launch : LaunchId) (dir : Option Path)
    (args : List String) : Job.runOperation launch dir args ∉ browseJobs p site := by
  rw [browseJobs]
  split <;> simp

/-- On the bare list an operation is launched for the selected project only. -/
theorem operation_of_runDashboard (command : DashboardCommand) (launch : LaunchId)
    (dir : Option Path) (args : List String)
    (h : Job.runOperation launch dir args ∈ (b.runDashboard command).2) :
    ∃ action p, command = .lifecycle action ∧ b.selected? = some p ∧ dir = none ∧
      args = [action.subcommand, p.name] := by
  have hother : ∀ jobs, (b.runDashboard command).2 = jobs →
      Job.runOperation launch dir args ∉ jobs →
      ∃ action p, command = .lifecycle action ∧ b.selected? = some p ∧ dir = none ∧
        args = [action.subcommand, p.name] := by
    intro jobs hjobs hno_operation
    rw [hjobs] at h
    exact absurd h hno_operation
  cases deed_runDashboard b command with
  | launched action p hcommand hselected _ hjobs =>
      rw [hjobs, List.mem_singleton, Job.runOperation.injEq] at h
      exact ⟨action, p, hcommand, hselected, h.2.1, h.2.2⟩
  | idle _ hjobs => exact hother _ hjobs List.not_mem_nil
  | moved _ _ _ hjobs => exact hother _ hjobs List.not_mem_nil
  | widened _ _ hjobs => exact hother _ hjobs List.not_mem_nil
  | quit _ _ hjobs => exact hother _ hjobs (by simp)
  | opened _ _ _ _ hjobs => exact hother _ hjobs (by simp)
  | browsed site p _ _ _ hjobs => exact hother _ hjobs (not_mem_browseJobs p site launch dir args)
  | asked _ _ _ _ hjobs => exact hother _ hjobs List.not_mem_nil
  | configured _ _ hjobs => exact hother _ hjobs (by simp)
  | refreshed _ _ hjobs => exact hother _ hjobs (by simp [listJobs])
  | begun _ _ hjobs => exact hother _ hjobs List.not_mem_nil
  | helped _ _ hjobs => exact hother _ hjobs List.not_mem_nil

/-- A question is asked by the key of its action on the bare list, or it is left
    open by an interrupt. -/
theorem confirmation_of_key (key : Key) (action : BulkAction) (hb : b.Covered)
    (h : (b.update (.key key)).1.confirmation = some action) :
    key = .interrupt ∨ (key = action.key ∧ b.page = .dashboard ∧ b.overlays = []) := by
  by_cases hinterrupt : key = .interrupt
  · exact Or.inl hinterrupt
  by_cases hp : b.page = .dashboard
  · cases hb with
    | bare hquestion hfilter hhelp =>
        rw [update_bare b key hp hquestion hfilter hhelp hinterrupt] at h
        cases hcommand : DashboardCommand.ofKey? key with
        | none =>
            rw [hcommand] at h
            exact absurd (h.symm.trans hquestion) (Option.some_ne_none action)
        | some command =>
            rw [hcommand] at h
            rw [confirmation_runDashboard b command action hquestion h] at hcommand
            exact Or.inr ⟨DashboardCommand.key_of_ask key action hcommand, hp,
              (overlays_eq_nil_iff b).mpr ⟨hquestion, hfilter, hhelp⟩⟩
    | question other _ hquestion _ _ =>
        -- Whatever the key is, the question is gone after it.
        rw [update_question b key other hp hquestion hinterrupt, answerKey] at h
        dsimp only at h
        split at h <;> exact absurd h (Option.some_ne_none action).symm
    | typing _ hquestion hfilter _ =>
        rw [update_typing b key hp hquestion hfilter hinterrupt] at h
        rcases filterKey_eq b key with ⟨filter, cursor, hafter⟩
        rw [hafter] at h
        exact absurd (h.symm.trans hquestion) (Option.some_ne_none action)
    | help _ hquestion hfilter hhelp =>
        rw [update_help b key hp hquestion hfilter hhelp hinterrupt] at h
        exact absurd (h.symm.trans hquestion) (Option.some_ne_none action)
  · rw [update, (sameList_pressKey b key hp).confirmation] at h
    exact absurd (question_of_covered b action hb h) hp

/-- An operation is launched from the project list by the key of the selected
    project's action on the bare list, or by the confirmation of what was asked. -/
theorem operation_of_key (key : Key) (launch : LaunchId) (dir : Option Path) (args : List String)
    (hb : b.Covered) (hp : b.page = .dashboard)
    (h : Job.runOperation launch dir args ∈ (b.update (.key key)).2) :
    (∃ action p, key = Lifecycle.key action ∧ b.overlays = [] ∧ b.selected? = some p ∧
      dir = none ∧ args = [action.subcommand, p.name]) ∨
    (∃ action, key = .char 'y' ∧ b.confirmation = some action ∧ dir = none ∧
      args = action.arguments) := by
  by_cases hinterrupt : key = .interrupt
  · rw [hinterrupt, update, pressKey_interrupt, quit, hp] at h
    simp [killJobs, Page.stream?, Page.slot?] at h
  cases hb with
  | bare hquestion hfilter hhelp =>
      rw [update_bare b key hp hquestion hfilter hhelp hinterrupt] at h
      cases hcommand : DashboardCommand.ofKey? key with
      | none =>
          rw [hcommand] at h
          exact absurd h List.not_mem_nil
      | some command =>
          rw [hcommand] at h
          rcases operation_of_runDashboard b command launch dir args h with
            ⟨action, p, hlifecycle, hselected, hdir, hargs⟩
          rw [hlifecycle] at hcommand
          exact Or.inl ⟨action, p, DashboardCommand.key_of_lifecycle key action hcommand,
            (overlays_eq_nil_iff b).mpr ⟨hquestion, hfilter, hhelp⟩, hselected, hdir, hargs⟩
  | question action _ hquestion _ _ =>
      rw [update_question b key action hp hquestion hinterrupt, answerKey] at h
      dsimp only at h
      by_cases hkey : key.isConfirm = true
      · rw [if_pos hkey, launchOperation, List.mem_singleton, Job.runOperation.injEq] at h
        rw [Key.isConfirm, beq_iff_eq] at hkey
        exact Or.inr ⟨action, hkey, hquestion, h.2.1, h.2.2⟩
      · rw [if_neg hkey] at h
        exact absurd h List.not_mem_nil
  | typing _ hquestion hfilter _ =>
      rw [update_typing b key hp hquestion hfilter hinterrupt] at h
      exact absurd h List.not_mem_nil
  | help _ hquestion hfilter hhelp =>
      rw [update_help b key hp hquestion hfilter hhelp hinterrupt] at h
      exact absurd h List.not_mem_nil

/-- Any other key takes the question away, with the status line. -/
theorem update_cancelled (key : Key) (action : BulkAction) (hb : b.Covered)
    (hquestion : b.confirmation = some action) (hkey : key ≠ .char 'y')
    (hinterrupt : key ≠ .interrupt) :
    b.update (.key key) = ({ b with confirmation := none, status := "" }, []) := by
  have hp := question_of_covered b action hb hquestion
  have hno_confirm : ¬ key.isConfirm = true := by
    rw [Key.isConfirm, beq_iff_eq]
    exact hkey
  rw [update_question b key action hp hquestion hinterrupt, answerKey]
  dsimp only
  rw [if_neg hno_confirm]

end Board

namespace Run

/-- The latest key before a point is the one of step `j`. -/
def LatestKey (r : Run) (k j : Nat) (key : Key) : Prop :=
  j < k ∧ r.keyAt j = some key ∧ ∀ i, j < i → i < k → r.keyAt i = none

/-- The latest key before a point has asked for an action, on the bare project
    list. -/
def AskedFor (r : Run) (k : Nat) (action : BulkAction) : Prop :=
  ∃ j, r.LatestKey k j action.key ∧ (r.boardAt j).page = .dashboard ∧ (r.boardAt j).overlays = []

/-- A step has asked for an action, on the bare project list, and no key but
    interrupts has come since, before a point. -/
structure AskedAt (r : Run) (k j : Nat) (action : BulkAction) : Prop where
  before : j < k
  key : r.keyAt j = some action.key
  page : (r.boardAt j).page = .dashboard
  bare : (r.boardAt j).overlays = []
  asked : (r.boardAt (j + 1)).confirmation = some action
  since : ∀ i, j < i → i < k → r.keyAt i = none ∨ r.keyAt i = some .interrupt

/-- The program has not been told to end before a point. -/
def Going (r : Run) (k : Nat) : Prop :=
  ∀ j < k, Job.quit ∉ r.jobsAt j

variable (r : Run)

/-- An interrupt tells the program to end. -/
theorem not_going_of_interrupt (k : Nat) (h : r.keyAt k = some .interrupt) :
    ¬ r.Going (k + 1) := by
  intro hgoing
  refine hgoing k (by omega) ?_
  rw [jobsAt_step r k _ (message_of_keyAt r k _ h), Board.update, Board.pressKey_interrupt]
  exact Board.quit_mem_quit _

/-- What was asked goes on being asked while no key comes but interrupts. -/
theorem askedAt_succ (k j : Nat) (action : BulkAction) (h : r.AskedAt k j action)
    (hkey : r.keyAt k = none ∨ r.keyAt k = some .interrupt) : r.AskedAt (k + 1) j action := by
  refine ⟨Nat.lt_succ_of_lt h.before, h.key, h.page, h.bare, h.asked, fun i hji hik => ?_⟩
  by_cases hi : i = k
  · rw [hi]
    exact hkey
  · exact h.since i hji (by omega)

/-- A question that waits for its answer was asked, and every key since was an
    interrupt. -/
theorem askedAt_of_pending (k : Nat) (action : BulkAction)
    (h : (r.boardAt k).confirmation = some action) : ∃ j, r.AskedAt k j action := by
  induction k with
  | zero =>
      rw [boardAt_zero] at h
      exact absurd h (Option.some_ne_none action).symm
  | succ k ih =>
      cases hkey : r.keyAt k with
      | none =>
          -- Without a key the question is the one before.
          rw [(sameOverlays_step r k hkey).confirmation] at h
          rcases ih h with ⟨j, hasked⟩
          exact ⟨j, askedAt_succ r k j action hasked (Or.inl hkey)⟩
      | some key =>
          have hafter := h
          rw [boardAt_step r k _ (message_of_keyAt r k key hkey)] at h
          rcases Board.confirmation_of_key _ key action (covered_boardAt r k) h with
            hinterrupt | ⟨hasked, hp, hbare⟩
          · -- An interrupt leaves the question open.
            rw [hinterrupt] at hkey
            rw [hinterrupt, Board.update, Board.pressKey_interrupt] at h
            rcases ih h with ⟨j, hasked⟩
            exact ⟨j, askedAt_succ r k j action hasked (Or.inr hkey)⟩
          · rw [hasked] at hkey
            exact ⟨k, Nat.lt_succ_self k, hkey, hp, hbare, hafter, fun i hki hik => by omega⟩

/-- As long as the program has not been told to end, a question that waits for its
    answer was asked by the latest key. -/
theorem askedFor_of_pending (k : Nat) (action : BulkAction) (hgoing : r.Going k)
    (h : (r.boardAt k).confirmation = some action) : r.AskedFor k action := by
  rcases askedAt_of_pending r k action h with ⟨j, hasked⟩
  refine ⟨j, ⟨hasked.before, hasked.key, fun i hji hik => ?_⟩, hasked.page, hasked.bare⟩
  rcases hasked.since i hji hik with hnone | hinterrupt
  · exact hnone
  · exact absurd (fun l hl => hgoing l (by omega)) (not_going_of_interrupt r i hinterrupt)

/-- The laws of confirmation. As long as the program has not been told to end, an
    operation is launched from the project list in two ways: by the key of an
    action on the selected project, on the bare list, or by `y` while an action on
    all projects waits for its confirmation, and then the latest key before was
    the one of that action, on the bare list. Any other key but an interrupt takes
    the question away with the status line, changes nothing else and asks for
    nothing. What is no key neither asks a question nor takes one away. -/
theorem destructive_keys_are_confirmed :
    (∀ k key launch dir args, r.Going k → r.messages[k]? = some (.key key) →
      (r.boardAt k).page = .dashboard → Job.runOperation launch dir args ∈ r.jobsAt k →
      (∃ action p, key = Lifecycle.key action ∧ (r.boardAt k).overlays = [] ∧
        (r.boardAt k).selected? = some p ∧ dir = none ∧ args = [action.subcommand, p.name]) ∨
      (∃ action, key = .char 'y' ∧ (r.boardAt k).confirmation = some action ∧ dir = none ∧
        args = action.arguments ∧ r.AskedFor k action)) ∧
    (∀ k key action, (r.boardAt k).confirmation = some action →
      r.messages[k]? = some (.key key) → key ≠ .char 'y' → key ≠ .interrupt →
      r.jobsAt k = [] ∧
        r.boardAt (k + 1) = { r.boardAt k with confirmation := none, status := "" }) ∧
    (∀ k m, r.messages[k]? = some m → (∀ key, m ≠ .key key) →
      (r.boardAt (k + 1)).confirmation = (r.boardAt k).confirmation) := by
  refine ⟨?_, ?_, ?_⟩
  · intro k key launch dir args hgoing hm hp hjob
    rw [jobsAt_step r k _ hm] at hjob
    rcases Board.operation_of_key _ key launch dir args (covered_boardAt r k) hp hjob with
      hproject | ⟨action, hkey, hquestion, hdir, hargs⟩
    · exact Or.inl hproject
    · exact Or.inr ⟨action, hkey, hquestion, hdir, hargs,
        askedFor_of_pending r k action hgoing hquestion⟩
  · intro k key action hquestion hm hkey hinterrupt
    rw [jobsAt_step r k _ hm, boardAt_step r k _ hm,
      Board.update_cancelled _ key action (covered_boardAt r k) hquestion hkey hinterrupt]
    exact ⟨rfl, rfl⟩
  · intro k m hm hnews
    refine (sameOverlays_step r k ?_).confirmation
    rw [keyAt, hm, Option.bind_some]
    cases hkey : m.key? with
    | none => rfl
    | some key => exact absurd ((Message.key?_eq_some_iff m key).mp hkey) (hnews key)

/-- All projects are stopped, after the list was loaded again and the screen has
    changed its size. -/
theorem stop_is_confirmed :
    let shop : Project := ⟨"shop", .running, "php", "", ⟨"/srv/shop"⟩⟩
    let run : Run :=
      { timings := {}
        messages := [.projectsLoaded (.ok [shop]), .key (.char 'j'), .key (.char 'A'),
          .projectsLoaded (.ok []), .resized 80 24, .key (.char 'y')] }
    Job.runOperation ⟨1⟩ none ["stop", "--all"] ∈ run.jobsAt 5 ∧
    (run.boardAt 5).confirmation = some .stopAll ∧ run.AskedFor 5 .stopAll ∧
    (run.boardAt 5).confirmation = (run.boardAt 4).confirmation := by
  intro shop run
  rcases destructive_keys_are_confirmed run with ⟨hlaunched, _, hnews⟩
  have hgoing : run.Going 5 := by
    unfold Going
    decide
  have hjob : Job.runOperation ⟨1⟩ none ["stop", "--all"] ∈ run.jobsAt 5 := by decide
  have hsame := hnews 4 (.resized 80 24) rfl (fun _ => Message.noConfusion)
  rcases hlaunched 5 (.char 'y') ⟨1⟩ none _ hgoing rfl (by decide) hjob with
    ⟨action, p, hkey, _⟩ | ⟨action, _, hquestion, _, _, hasked⟩
  · cases action <;> exact absurd hkey (by decide)
  · have hstop : (run.boardAt 5).confirmation = some .stopAll := by decide
    rw [hstop, Option.some.injEq] at hquestion
    rw [hquestion]
    exact ⟨hjob, hstop.trans (congrArg some hquestion), hasked, hsame⟩

end Run

end FleetBoard
