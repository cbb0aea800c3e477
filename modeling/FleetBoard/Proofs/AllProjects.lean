import FleetBoard.Proofs.Confirmation
import FleetBoard.Proofs.Cursor

/-!
# Actions on All Projects

To start or stop all projects there have to be some. That is looked at when the
question is asked, and the answer does not look again. Between the two the list may
be loaded any number of times, since a load brings no key. So the action is confirmed
on the list that was loaded last, whatever is on it, and not on the one that the
question told the number of.

The projects at the answer are the ones at the question, unless a load came between.
That is all there is to tell: the action is confirmed without a project exactly if
the last of those loads brought none.

## Main definitions

* `Message.listed?`: The projects that a message brings.
* `Run.listedAt`, `Run.listedBetween`: The projects that steps of a run bring.

## Theorems

* `projects_of_listed`: What a message does to the list.
* `projects_of_asked`: A question about all projects is asked where there are some.
* `projects_since`: The list is the one that was loaded last.
* `confirmed_unless_emptied`: When all projects are started or stopped without any.
-/

namespace FleetBoard

/-- The projects that a message brings. -/
def Message.listed? : Message → Option (List Project)
  | .projectsLoaded (.ok projects) => some projects
  | _ => none

namespace BulkAction

theorem ofKey?_key (action : BulkAction) :
    DashboardCommand.ofKey? action.key = some (.ask action) := by
  cases action <;> rfl

theorem key_ne_interrupt (action : BulkAction) : action.key ≠ .interrupt := by
  cases action <;> exact Key.noConfusion

end BulkAction

namespace Board

variable (b : Board) (action : BulkAction)

/-- The list is the one that the message brings, or else the one before. -/
theorem projects_of_listed (m : Message) :
    (b.update m).1.projects = m.listed?.getD b.projects := by
  cases hlisted : m.listed? with
  | some projects =>
      cases m with
      | projectsLoaded result =>
          cases result with
          | ok other =>
              rw [Message.listed?, Option.some.injEq] at hlisted
              rw [← hlisted]
              rfl
          | error e => exact absurd hlisted (Option.some_ne_none projects).symm
      | _ => exact absurd hlisted (Option.some_ne_none projects).symm
  | none =>
      refine (steady_update b m fun projects hm => ?_).projects
      rw [hm] at hlisted
      exact Option.some_ne_none projects hlisted

/-- What is asked about all projects is asked on the bare list only where there are
    some, unless it is about the power. -/
theorem projects_of_asked (hall : action ≠ .poweroff) (hp : b.page = .dashboard)
    (hbare : b.overlays = [])
    (h : (b.update (.key action.key)).1.confirmation = some action) : b.projects ≠ [] := by
  intro hempty
  rcases (overlays_eq_nil_iff b).mp hbare with ⟨hquestion, hfilter, hhelp⟩
  have hidle : b.runDashboard (.ask action) = (b, []) := by
    cases action with
    | poweroff => exact absurd rfl hall
    | _ => simp only [runDashboard, hempty, List.isEmpty_nil, if_true]
  rw [update_bare b _ hp hquestion hfilter hhelp action.key_ne_interrupt, action.ofKey?_key,
    Option.elim_some, hidle, hquestion] at h
  exact Option.some_ne_none action h.symm

/-- An action that is confirmed is launched, whatever is on the list. -/
theorem update_confirmed (hb : b.Covered) (hquestion : b.confirmation = some action) :
    (b.update (.key (.char 'y'))).2 = [.runOperation b.nextLaunch none action.arguments] := by
  have hp := question_of_covered b action hb hquestion
  rw [update_question b _ action hp hquestion Key.noConfusion]
  rfl

end Board

namespace Run

/-- The projects that a step of a run brings. -/
def listedAt (r : Run) (k : Nat) : Option (List Project) :=
  r.messages[k]?.bind Message.listed?

/-- The projects that came last from one step of a run on, before another one. -/
def listedBetween (r : Run) (j k : Nat) : Option (List Project) :=
  ((List.range' j (k - j)).filterMap r.listedAt).getLast?

variable (r : Run) (j k : Nat)

theorem projects_step :
    (r.boardAt (k + 1)).projects = (r.listedAt k).getD (r.boardAt k).projects := by
  cases hm : r.messages[k]? with
  | none => rw [boardAt_idle r k hm, listedAt, hm, Option.bind_none, Option.getD_none]
  | some m =>
      rw [boardAt_step r k m hm, listedAt, hm, Option.bind_some]
      exact Board.projects_of_listed _ m

theorem listedBetween_succ (h : j ≤ k) :
    r.listedBetween j (k + 1) = (r.listedAt k).or (r.listedBetween j k) := by
  rw [listedBetween, listedBetween, filterMap_range'_succ r.listedAt j k h, List.getLast?_append]
  cases r.listedAt k <;> rfl

/-- The list at a point is the one that was loaded last since another point, or else
    the one that was there. -/
theorem projects_since (h : j ≤ k) :
    (r.boardAt k).projects = (r.listedBetween j k).getD (r.boardAt j).projects := by
  induction h with
  | refl =>
      rw [listedBetween, Nat.sub_self]
      rfl
  | @step k hjk ih =>
      rw [projects_step, listedBetween_succ r j k hjk, ih]
      cases r.listedAt k <;> rfl

/-- Where all projects are started or stopped by `y`, they were asked about at an
    earlier step, on the bare list, and there were some. Only interrupts came as keys
    since. At the answer there is no project exactly if lists were loaded between the
    two and the last of them was empty. -/
theorem confirmed_unless_emptied (action : BulkAction) (hall : action ≠ .poweroff)
    (hquestion : (r.boardAt k).confirmation = some action)
    (hkey : r.messages[k]? = some (.key (.char 'y'))) :
    r.jobsAt k = [.runOperation (r.boardAt k).nextLaunch none action.arguments] ∧
    ∃ j, r.AskedAt k j action ∧ (r.boardAt j).projects ≠ [] ∧
      ((r.boardAt k).projects = [] ↔ r.listedBetween j k = some []) := by
  refine ⟨?_, ?_⟩
  · rw [jobsAt_step r k _ hkey]
    exact Board.update_confirmed _ action (covered_boardAt r k) hquestion
  · rcases askedAt_of_pending r k action hquestion with ⟨j, hasked⟩
    have hnext := hasked.asked
    rw [boardAt_step r j _ (message_of_keyAt r j _ hasked.key)] at hnext
    have hsome := Board.projects_of_asked _ action hall hasked.page hasked.bare hnext
    refine ⟨j, hasked, hsome, ?_⟩
    -- There were some at the question, so they are gone only if a list came that was empty.
    rw [projects_since r j k (Nat.le_of_lt hasked.before)]
    cases r.listedBetween j k with
    | none =>
        rw [Option.getD_none]
        exact ⟨fun hempty => absurd hempty hsome, fun h => absurd h.symm (Option.some_ne_none [])⟩
    | some projects => rw [Option.getD_some, Option.some.injEq]

/-- All projects are stopped after another list was loaded, which is not empty. -/
theorem stop_of_others_is_confirmed :
    let project (name : String) : Project := ⟨name, .running, "php", "", ⟨"/srv/" ++ name⟩⟩
    let run : Run :=
      { timings := {}
        messages := [.projectsLoaded (.ok [project "shop"]), .key (.char 'A'),
          .projectsLoaded (.ok [project "blog", project "docs"]), .key (.char 'y')] }
    run.jobsAt 3 = [.runOperation ⟨1⟩ none ["stop", "--all"]] ∧
    ∃ j, run.AskedAt 3 j .stopAll ∧ (run.boardAt j).projects ≠ [] ∧
      ((run.boardAt 3).projects = [] ↔ run.listedBetween j 3 = some []) := by
  intro project run
  exact confirmed_unless_emptied run 3 .stopAll (by decide) (by decide) rfl

/-- The only project is gone when it is confirmed that all of them are stopped. -/
theorem stop_of_none_is_confirmed :
    let shop : Project := ⟨"shop", .running, "php", "", ⟨"/srv/shop"⟩⟩
    let run : Run :=
      { timings := {}
        messages := [.projectsLoaded (.ok [shop]), .key (.char 'A'), .projectsLoaded (.ok []),
          .key (.char 'y')] }
    (run.boardAt 3).projects = [] ∧ (run.boardAt 3).confirmation = some .stopAll ∧
      run.jobsAt 3 = [.runOperation ⟨1⟩ none ["stop", "--all"]] := by
  decide

end Run

end FleetBoard
