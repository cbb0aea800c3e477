import FleetBoard.Proofs.Move
import FleetBoard.Proofs.Turn

/-!
# Well-formed Pages

What the pages that are ever shown have in common. A page type admits more than
the board ever shows: an operation that failed and is not done, a slot that waits
for another launch, a parked page that has nothing on it. None of these is
reached, and whoever draws or leaves a page relies on it.

The facts about the stream of an operation are those of its watch. The facts about
parked pages are facts about footings, and they hold together or not at all: the
page under logs has a description only because nothing but a page with a
description is ever parked, a page comes back from under an operation with its
description, and what is shown without one is still on its way.

An operation whose slot is closed is done, with one exception. The program may be
told to end while the operation runs, and then its stream is given up without an
end. `quit_of_cutOff` says that nothing else leads there.

## Main definitions

* `Footing.WellFormed`: What holds of the footing of a page.
* `OperationPage.WellFormed`, `Page.WellFormed`: What holds of a page.
* `Board.CutOff`: An operation has lost its stream before its end.

## Theorems

* `wellFormed_of_turn`: Turns preserve what holds of footings.
* `cutOff_of_update`: An operation is cut off by the end of the program only.
* `pages_well_formed`: Every page that is shown is well-formed.
-/

namespace FleetBoard

/-- What holds of the footing of every page that is shown. A page of a project is
    parked with its description, and shown without one only while it waits for
    it. -/
def Footing.WellFormed : Footing → Prop
  | .list => True
  | .detail page => page.description = none → page.loading = true
  | .logs page => page.description.isSome = true
  | .operation origin returnMode =>
    returnMode = (if origin.isSome then .detail else .dashboard) ∧
      ∀ page, origin = some page → page.description.isSome = true

/-- What holds of the page of every operation that is shown. -/
structure OperationPage.WellFormed (op : OperationPage) : Prop where
  /-- The kind of page that comes after it is the kind of the page it is left for. -/
  returns : op.returnMode = op.leave.mode
  returns_detail : op.returnMode = .detail ↔ op.origin.isSome = true
  failed_done : op.error ≠ none → op.done = true
  done_closed : op.done = true → op.slot = .closed
  /-- A slot that is not closed is for the launch of the page. -/
  own : op.slot = .closed ∨ op.slot = .pending op.launch ∨
    ∃ s, op.slot = .live s ∧ s.launch = op.launch
  parked : ∀ page, op.origin = some page → page.description.isSome = true

/-- What holds of every page that is shown. -/
def Page.WellFormed : Page → Prop
  | .dashboard => True
  | .detail page => page.description = none → page.loading = true
  | .logs page => page.detail.description.isSome = true
  | .operation op => op.WellFormed

namespace Footing

/-- A change that keeps descriptions keeps footings well-formed, as long as a page
    without a description waits for it afterwards as it did before. -/
theorem wellFormed_map (f : DetailPage → DetailPage) (footing : Footing)
    (hkeeps : ∀ page, page.description.isSome = true → (f page).description.isSome = true)
    (hwaits : ∀ page, (page.description = none → page.loading = true) →
      (f page).description = none → (f page).loading = true)
    (h : footing.WellFormed) : (footing.map f).WellFormed := by
  cases footing with
  | list => trivial
  | detail page => exact hwaits page h
  | logs page => exact hkeeps page h
  | operation origin returnMode =>
      rcases h with ⟨hmode, hparked⟩
      refine ⟨?_, fun page hpage => ?_⟩
      · rw [Option.isSome_map]
        exact hmode
      · rcases Option.map_eq_some_iff.mp hpage with ⟨before, hbefore, hafter⟩
        rw [← hafter]
        exact hkeeps before (hparked before hbefore)

theorem wellFormed_awaitLoad (footing : Footing) (h : footing.WellFormed) :
    (footing.map Board.awaitLoad).WellFormed :=
  wellFormed_map _ footing (fun _ hd => hd) (fun _ _ _ => rfl) h

theorem wellFormed_describe (d : Description) (footing : Footing) (h : footing.WellFormed) :
    (footing.map (Board.describe d)).WellFormed :=
  wellFormed_map _ footing (fun _ _ => rfl)
    (fun _ _ hnone => absurd hnone (Option.some_ne_none d)) h

/-- A page that could not be loaded is left if it was shown, since it may have
    nothing on it. -/
theorem wellFormed_drop_settle (footing : Footing) (h : footing.WellFormed) :
    (footing.map Board.settle).drop.WellFormed := by
  cases footing with
  | list => trivial
  | detail page => trivial
  | logs page => exact h
  | operation origin returnMode =>
      exact ⟨rfl, fun page hpage => absurd hpage (Option.some_ne_none page).symm⟩

end Footing

namespace Board

variable (b b' : Board) (m : Message) (jobs : List Job)

/-- Turns preserve what holds of footings. -/
theorem wellFormed_of_turn (hturn : Turn b m b' jobs) (hb : b.page.footing.WellFormed) :
    b'.page.footing.WellFormed := by
  cases hturn with
  | kept _ hfooting _ _ _ =>
      rw [hfooting]
      exact hb
  | listed _ _ hfooting _ _ _ =>
      rw [hfooting]
      exact hb
  | overlooked _ _ _ _ hboard _ =>
      rw [hboard]
      exact hb
  | described root d page _ _ _ hfooting _ _ _ =>
      rw [hfooting]
      exact Footing.wellFormed_describe d _ hb
  | lost _ _ _ _ _ _ hfooting _ _ _ =>
      rw [hfooting]
      exact Footing.wellFormed_drop_settle _ hb
  | ticked _ hboard _ =>
      rw [hboard]
      exact hb
  | relisted _ hfooting _ _ =>
      rw [hfooting]
      exact hb
  | refetched _ _ hfooting _ _ _ =>
      rw [hfooting]
      exact Footing.wellFormed_awaitLoad _ hb
  | scrolled key page rows _ _ hbefore hafter _ _ _ =>
      rw [hbefore] at hb
      rw [hafter]
      exact hb
  | opened _ _ _ _ hafter _ _ _ =>
      rw [hafter]
      intro _
      rfl
  | closed _ _ _ _ _ hafter _ _ _ =>
      rw [hafter]
      trivial
  | followed _ _ _ hdescription _ hafter _ _ _ =>
      rw [hafter]
      exact hdescription
  | launched _ _ _ hdescription _ hafter _ _ _ =>
      rw [hafter]
      exact ⟨rfl, hdescription⟩
  | leftLogs key page _ _ hbefore hafter _ _ _ =>
      rw [hbefore] at hb
      rw [hafter]
      -- What comes back from under the logs has a description.
      intro hnone
      rw [Footing.WellFormed, hnone] at hb
      exact absurd hb Bool.false_ne_true
  | leftOperation key origin returnMode _ _ hbefore hafter _ _ _ =>
      rw [hafter]
      cases origin with
      | none => trivial
      | some page => exact fun _ => rfl
  | returned launch origin returnMode _ hbefore hafter _ _ _ =>
      rw [hbefore] at hb
      rw [hafter]
      cases origin with
      | none => trivial
      | some page =>
          intro hnone
          have hsome := hb.2 page rfl
          rw [hnone] at hsome
          exact absurd hsome Bool.false_ne_true

/-- An operation has lost its stream before its end. -/
def CutOff (b : Board) : Prop :=
  ∃ launch error, b.page.watch = .operation launch false error .closed

/-- A key cuts an operation off only by ending the program. -/
theorem cutOff_of_pressKey (key : Key) (op : OperationPage) (hp : b.page = .operation op)
    (h : (b.pressKey key).1.CutOff) : b.CutOff ∨ Job.quit ∈ (b.pressKey key).2 := by
  rcases pressKey_of_operation b op key hp with ⟨_, hquits⟩ | ⟨_, hleaves⟩ | ⟨_, _, hstays⟩
  · rw [hquits]
    exact Or.inr (quit_mem_quit b)
  · -- The page that comes after an operation has no stream to lose.
    rcases h with ⟨launch, error, hwatch⟩
    rw [hleaves, leaveOperation, Page.watch_mapDetail_leave] at hwatch
    exact Watch.noConfusion hwatch
  · rw [hstays] at h
    exact Or.inl h

/-- An operation is cut off by the end of the program only. -/
theorem cutOff_of_update (h : (b.update m).1.CutOff) : b.CutOff ∨ Job.quit ∈ (b.update m).2 := by
  rcases h with ⟨launch, error, hcut⟩
  cases update_move b m with
  | quiet _ hwatch _ _ => exact Or.inl ⟨launch, error, by rw [← hwatch, hcut]⟩
  | refused _ _ _ hboard _ =>
      rw [hboard] at hcut
      exact Or.inl ⟨launch, error, hcut⟩
  | adopted s _ hslot hwatch _ _ =>
      -- What was adopted is live.
      have hlive : (b.update m).1.page.watch.slot? = some (.live s) := by
        rw [hwatch, Watch.slot?_setSlot, hslot, Option.map_some]
      rw [hcut, Watch.slot?, Option.some.injEq] at hlive
      exact Slot.noConfusion hlive
  | logsEnded _ _ _ _ _ _ _ hafter _ _ =>
      rw [hafter] at hcut
      exact Watch.noConfusion hcut
  | operationEnded _ _ _ _ _ _ _ _ _ _ hafter _ _ =>
      rw [hafter, Watch.operation.injEq] at hcut
      exact absurd hcut.2.1.symm Bool.false_ne_true
  | returned _ _ _ _ hafter _ _ =>
      rw [hafter] at hcut
      exact Watch.noConfusion hcut
  | quit key hm hwatch _ _ =>
      rw [hwatch] at hcut
      rcases Watch.exists_of_setSlot_eq_operation _ _ _ _ _ _ hcut with ⟨before, hbefore⟩
      rcases (Page.watch_eq_operation_iff _ _ _ _ _).mp hbefore with ⟨op, hp, _⟩
      rw [← hwatch, hm] at hcut
      rw [hm]
      exact cutOff_of_pressKey b key op hp ⟨launch, error, hcut⟩
  | left _ _ _ _ hafter _ _ =>
      rw [hafter] at hcut
      exact Watch.noConfusion hcut
  | launched key new job _ _ _ hafter _ _ _ =>
      -- The slot of a new page is pending.
      have hpending := Watch.slot?_opening new
      rw [← hafter, hcut, Watch.slot?, Option.some.injEq] at hpending
      exact Slot.noConfusion hpending

/-- What the watch and the footing of a page tell is all there is to its form. -/
theorem wellFormed_page (hwatch : b.page.watch.Sound b.launches)
    (hfooting : b.page.footing.WellFormed) : b.page.WellFormed := by
  cases hp : b.page with
  | dashboard => trivial
  | detail page =>
      rw [hp] at hfooting
      exact hfooting
  | logs page =>
      rw [hp] at hfooting
      exact hfooting
  | operation op =>
      rw [hp] at hwatch hfooting
      rcases hwatch with ⟨_, hids, hdone, herror⟩
      rcases hfooting with ⟨hmode, hparked⟩
      refine ⟨?_, ?_, fun hfailed => ?_, hdone, ?_, hparked⟩
      · rw [hmode, OperationPage.leave]
        cases op.origin <;> rfl
      · rw [hmode]
        cases op.origin <;> simp
      · cases hrunning : op.done with
        | true => rfl
        | false => exact absurd (herror hrunning) hfailed
      · cases hslot : op.slot with
        | closed => exact Or.inl rfl
        | pending launch =>
            rw [hslot] at hids
            exact Or.inr (Or.inl (by rw [hids launch (decide_eq_true rfl)]))
        | live s =>
            rw [hslot] at hids
            exact Or.inr (Or.inr ⟨s, rfl, hids s.launch (decide_eq_true rfl)⟩)

end Board

namespace Run

variable (r : Run)

theorem footing_wellFormed (k : Nat) : (r.boardAt k).page.footing.WellFormed :=
  boardAt_invariant (fun b => b.page.footing.WellFormed) (fun _ => trivial)
    (fun b m hb => Board.wellFormed_of_turn b _ m _ (Board.update_turn b m) hb) r k

/-- An operation that is cut off at a point was cut off by the end of the program
    before it. -/
theorem quit_of_cutOff (k : Nat) (h : (r.boardAt k).CutOff) : ∃ j < k, Job.quit ∈ r.jobsAt j := by
  induction k with
  | zero =>
      rcases h with ⟨launch, error, hwatch⟩
      rw [boardAt_zero] at hwatch
      exact Watch.noConfusion hwatch
  | succ k ih =>
      -- The program ended in this step, or the operation was cut off already.
      have hstep : (r.boardAt k).CutOff ∨ Job.quit ∈ r.jobsAt k := by
        rcases hm : r.messages[k]? with _ | m
        · rw [boardAt_idle r k hm] at h
          exact Or.inl h
        · rw [boardAt_step r k m hm] at h
          rw [jobsAt_step r k m hm]
          exact Board.cutOff_of_update _ m h
      rcases hstep with hbefore | hnow
      · rcases ih hbefore with ⟨j, hj, hquit⟩
        exact ⟨j, by omega, hquit⟩
      · exact ⟨k, by omega, hnow⟩

/-- Every page that is shown at a point of a run is well-formed, and an operation
    whose slot is closed before it is done shows that the program was told to end
    before. -/
theorem pages_well_formed (k : Nat) :
    (r.boardAt k).page.WellFormed ∧
    ∀ op, (r.boardAt k).page = .operation op → op.slot = .closed → op.done = false →
      ∃ j < k, Job.quit ∈ r.jobsAt j := by
  refine ⟨Board.wellFormed_page _ (sound_boardAt r k) (footing_wellFormed r k), ?_⟩
  intro op hp hclosed hrunning
  refine quit_of_cutOff r k ⟨op.launch, op.error, ?_⟩
  rw [hp, Page.watch_eq_operation, hclosed, hrunning]

/-- The program is told to end while a project restarts whose page is parked. -/
theorem restart_is_cut_off :
    let shop : Project := ⟨"shop", .stopped, "php", "", ⟨"/srv/shop"⟩⟩
    let stream : Stream := { launch := ⟨1⟩, kind := .operation, process := some ⟨7⟩, capacity := 8 }
    let run : Run :=
      { timings := {}
        messages := [.projectsLoaded (.ok [shop]), .key .enter,
          .detailLoaded ⟨"/srv/shop"⟩ (.ok { name := "shop" }), .key (.char 'r'),
          .streamStarted stream, .key (.char 'q')] }
    ∃ op, (run.boardAt 6).page = .operation op ∧ op.origin.isSome = true ∧ op.WellFormed ∧
      op.slot = .closed ∧ op.done = false ∧ ∃ j < 6, Job.quit ∈ run.jobsAt j := by
  intro shop stream run
  let parked : DetailPage :=
    { name := "shop", root := ⟨"/srv/shop"⟩, description := some { name := "shop" },
      loading := false }
  let op : OperationPage :=
    { OperationPage.launched "Restarting shop" ⟨1⟩ (some parked) with slot := .closed }
  have hpage : (run.boardAt 6).page = .operation op := by decide
  rcases pages_well_formed run 6 with ⟨hform, hquit⟩
  rw [hpage] at hform
  exact ⟨op, hpage, rfl, hform, rfl, rfl, hquit op hpage rfl rfl⟩

end Run

end FleetBoard
