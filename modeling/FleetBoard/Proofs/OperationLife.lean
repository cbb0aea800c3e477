import FleetBoard.Proofs.Opener

/-!
# The Life of an Operation

An operation that succeeded stays on the screen for a while and is then left by
itself. For that a timer is set, and its notice names the launch. Everything
depends on the timer being set exactly once, and on no page being left for the
notice of another.

A timer is set where the end of an operation is accepted, and that closes the
slot of the page. A slot that is closed accepts nothing, and no slot ever expects
the launch again, because launches are numbered in order. So a second end of the
same launch sets no second timer, whenever it comes.

The way out is bounded from the other side by the moves: of all that can happen
to the page of an operation, only a key that goes back and the due notice of its
own launch take it away, and the notice does so only after success.

A page that shows a success has therefore an open timer. This holds whatever the
notices are: one that comes for this page takes the page away, and one for
another launch leaves the timer alone.

## Main definitions

* `Board.Succeeds`: An operation succeeds by a message.
* `Run.timersAt`, `Run.scheduled`: The timers set in a step, and before a point.
* `Run.TimerRuns`: The timer of a launch is set and not over.

## Theorems

* `timers_of_move`: A timer is set by success, and by nothing else.
* `stays_or_leaves_of_move`: How the page of an operation goes.
* `scheduled_nodup`: No timer is set twice.
* `timerRuns_of_succeeded`: A page that shows a success has an open timer.
* `operations_leave_once`: The life of an operation.
-/

namespace FleetBoard

namespace Board

/-- The operation of a launch succeeds by a message: its page is shown and waits
    for results, and the message tells the end without an error. -/
def Succeeds (b : Board) (m : Message) (launch : LaunchId) : Prop :=
  ∃ op kind, b.page = .operation op ∧ op.launch = launch ∧ op.slot.expects launch = true ∧
    m = .streamEnded launch kind none

variable (b b' : Board) (m : Message) (jobs : List Job)

theorem not_succeeds_of_message (hm : ∀ launch kind, m ≠ .streamEnded launch kind none)
    (launch : LaunchId) : ¬ b.Succeeds m launch := by
  rintro ⟨op, kind, _, _, _, hend⟩
  exact hm launch kind hend

/-- A timer is set by success, and by nothing else. Afterwards the slot is
    closed. -/
theorem timers_of_move (hmove : Move b m b' jobs) (hb : b.page.watch.Sound b.launches) :
    (Job.timers jobs = [] ∧ ∀ launch, ¬ b.Succeeds m launch) ∨
    (∃ launch, Job.timers jobs = [launch] ∧ b.Succeeds m launch ∧
      b'.page.watch = .operation launch true none .closed ∧
      launch.number = b.launches ∧ b'.launches = b.launches) := by
  have hnone : ∀ sjobs, Job.streamJobs jobs = sjobs → Job.timers sjobs = [] →
      Job.timers jobs = [] := fun sjobs hjobs htimers => by
    rw [Job.timers_of_streamJobs jobs sjobs hjobs, htimers]
  cases hmove with
  | quiet hm _ _ hjobs =>
      refine Or.inl ⟨hnone [] hjobs rfl, ?_⟩
      rintro launch ⟨op, kind, hp, _, hexpects, hend⟩
      -- An end that is accepted does not spare the stream.
      rw [hend] at hm
      have hnot := hm op.slot (by rw [hp]; rfl)
      rw [hexpects] at hnot
      exact absurd hnot.symm Bool.false_ne_true
  | refused s hm _ _ hjobs =>
      refine Or.inl ⟨by rw [hjobs]; exact timers_killJobs _, not_succeeds_of_message b m ?_⟩
      intro launch kind
      rw [hm]
      exact Message.noConfusion
  | adopted s hm _ _ _ hjobs =>
      refine Or.inl ⟨by rw [hjobs]; rfl, not_succeeds_of_message b m ?_⟩
      intro launch kind
      rw [hm]
      exact Message.noConfusion
  | logsEnded launch kind error slot _ _ hbefore _ _ hjobs =>
      refine Or.inl ⟨by rw [hjobs]; rfl, ?_⟩
      rintro other ⟨op, kind', hp, _, _, _⟩
      rw [hp] at hbefore
      exact Watch.noConfusion hbefore
  | operationEnded launch kind error id done earlier slot hm hslot hbefore hafter hlaunches hjobs =>
      cases error with
      | some e =>
          refine Or.inl ⟨hnone _ hjobs rfl, not_succeeds_of_message b m ?_⟩
          intro other kind' hend
          rw [hm, Message.streamEnded.injEq] at hend
          exact absurd hend.2.2 (Option.some_ne_none e)
      | none =>
          right
          have hsound := hb
          rw [hbefore] at hsound
          rcases hsound with ⟨hnumber, hids, _, _⟩
          have hid : launch = id := hids launch hslot
          rcases (Page.watch_eq_operation_iff _ _ _ _ _).mp hbefore with ⟨op, hp, hop, _, _, hs⟩
          refine ⟨launch, ?_, ⟨op, kind, hp, by rw [hop, hid], by rw [hs]; exact hslot, hm⟩, ?_, ?_,
            hlaunches⟩
          · rw [Job.timers_of_streamJobs jobs _ hjobs]
            rfl
          · rw [hafter, hid]
          · rw [hid]
            exact hnumber
  | returned launch slot hm _ _ _ hjobs =>
      refine Or.inl ⟨by rw [hjobs]; rfl, not_succeeds_of_message b m ?_⟩
      intro other kind
      rw [hm]
      exact Message.noConfusion
  | quit key hm _ _ hjobs =>
      refine Or.inl ⟨hnone _ hjobs (timers_killJobs _), not_succeeds_of_message b m ?_⟩
      intro launch kind
      rw [hm]
      exact Message.noConfusion
  | left key hm _ _ _ _ hjobs =>
      refine Or.inl ⟨hnone _ hjobs (timers_killJobs _), not_succeeds_of_message b m ?_⟩
      intro launch kind
      rw [hm]
      exact Message.noConfusion
  | launched key launch job hm _ _ _ _ hjob hjobs =>
      refine Or.inl ⟨hnone _ hjobs (Job.only_launch_of_launch? job launch hjob).2.1,
        not_succeeds_of_message b m ?_⟩
      intro other kind
      rw [hm]
      exact Message.noConfusion

/-- How the page of an operation goes. It stays, with what it was launched for,
    unless a key goes back, or the notice of its own launch comes after
    success. -/
theorem stays_or_leaves_of_move (hmove : Move b m b' jobs) (op : OperationPage)
    (hp : b.page = .operation op) :
    (∃ op', b'.page = .operation op' ∧ op'.launch = op.launch) ∨
    (∃ key, m = .key key ∧ key.isBack = true) ∨
    (m = .returnDue op.launch ∧ op.done = true ∧ op.error = none) := by
  have hwatching : b.page.watch = .operation op.launch op.done op.error op.slot := by
    rw [hp, Page.watch_eq_operation]
  have hstays : ∀ done error slot, b'.page.watch = .operation op.launch done error slot →
      ∃ op', b'.page = .operation op' ∧ op'.launch = op.launch := by
    intro done error slot hafter
    rcases (Page.watch_eq_operation_iff _ _ _ _ _).mp hafter with ⟨op', hp', hlaunch, _, _, _⟩
    exact ⟨op', hp', hlaunch⟩
  cases hmove with
  | quiet _ hwatch _ _ =>
      rw [hwatching] at hwatch
      exact Or.inl (hstays _ _ _ hwatch)
  | refused s _ _ hboard _ => exact Or.inl ⟨op, by rw [hboard, hp], rfl⟩
  | adopted s _ _ hwatch _ _ =>
      rw [hwatching] at hwatch
      exact Or.inl (hstays _ _ _ hwatch)
  | logsEnded _ _ _ _ _ _ hbefore _ _ _ =>
      rw [hwatching] at hbefore
      exact Watch.noConfusion hbefore
  | operationEnded _ _ _ _ _ _ _ _ _ hbefore hafter _ _ =>
      rw [hwatching, Watch.operation.injEq] at hbefore
      rw [← hbefore.1] at hafter
      exact Or.inl (hstays _ _ _ hafter)
  | returned launch slot hm hbefore _ _ _ =>
      rw [hwatching, Watch.operation.injEq] at hbefore
      rcases hbefore with ⟨hlaunch, hdone, herror, _⟩
      exact Or.inr (Or.inr ⟨by rw [hm, hlaunch], hdone, herror⟩)
  | quit key _ hwatch _ _ =>
      rw [hwatching] at hwatch
      exact Or.inl (hstays _ _ _ hwatch)
  | left key hm hkey _ _ _ _ => exact Or.inr (Or.inl ⟨key, hm, hkey⟩)
  | launched _ _ _ _ _ hbefore _ _ _ _ =>
      rw [hwatching] at hbefore
      exact Watch.noConfusion hbefore

/-- An operation that succeeded is left for the page it was launched from. -/
theorem update_returnDue (op : OperationPage) (hp : b.page = .operation op)
    (hdone : op.done = true) (herror : op.error = none) :
    b.update (.returnDue op.launch) =
      ({ b with page := op.origin.elim .dashboard .detail, status := completedStatus }, []) := by
  have hleave : op.leave = op.origin.elim .dashboard .detail := by
    rw [OperationPage.leave]
    cases op.origin <;> rfl
  rw [update, takeReturn, hp]
  dsimp only
  rw [if_pos ⟨rfl, hdone, herror⟩, hleave]

end Board

namespace Run

/-- The operations for which a timer is set in a step. -/
def timersAt (r : Run) (k : Nat) : List LaunchId :=
  Job.timers (r.jobsAt k)

/-- The operations for which a timer was set before a point, in order. -/
def scheduled (r : Run) (k : Nat) : List LaunchId :=
  (List.range k).flatMap r.timersAt

/-- The operation of a launch succeeds in a step. -/
def SucceedsAt (r : Run) (launch : LaunchId) (k : Nat) : Prop :=
  ∃ m, r.messages[k]? = some m ∧ (r.boardAt k).Succeeds m launch

/-- The timer of a launch runs at a point: it was set before, and its notice has
    not come since. -/
def TimerRuns (r : Run) (launch : LaunchId) (k : Nat) : Prop :=
  ∃ j, j < k ∧ launch ∈ r.timersAt j ∧
    ∀ i, j < i → i < k → r.messages[i]? ≠ some (.returnDue launch)

variable (r : Run)

theorem scheduled_succ (k : Nat) : r.scheduled (k + 1) = r.scheduled k ++ r.timersAt k := by
  rw [scheduled, List.range_succ, List.flatMap_append, List.flatMap_singleton, scheduled]

/-- What a step does about timers: it sets one for an operation that succeeds in
    it, or none. -/
theorem timers_step (k : Nat) :
    (r.timersAt k = [] ∧ ∀ launch, ¬ r.SucceedsAt launch k) ∨
    (∃ launch, r.timersAt k = [launch] ∧ r.SucceedsAt launch k ∧
      (r.boardAt (k + 1)).page.watch = .operation launch true none .closed ∧
      launch.number = (r.boardAt k).launches ∧
      (r.boardAt (k + 1)).launches = (r.boardAt k).launches) := by
  rcases hm : r.messages[k]? with _ | m
  · left
    refine ⟨?_, ?_⟩
    · rw [timersAt, jobsAt_idle r k hm]
      rfl
    · rintro launch ⟨m, hm', _⟩
      rw [hm] at hm'
      exact absurd hm' (Option.some_ne_none m).symm
  · rcases Board.timers_of_move _ _ m _ (move r k m hm) (sound_boardAt r k) with
      ⟨hnone, hnot⟩ | ⟨launch, hsome, hsucceeds, hrest⟩
    · refine Or.inl ⟨hnone, ?_⟩
      rintro launch ⟨m', hm', hsucceeds⟩
      rw [hm, Option.some.injEq] at hm'
      rw [← hm'] at hsucceeds
      exact hnot launch hsucceeds
    · exact Or.inr ⟨launch, hsome, ⟨m, hm, hsucceeds⟩, hrest⟩

theorem mem_timersAt_iff (k : Nat) (launch : LaunchId) :
    launch ∈ r.timersAt k ↔ r.SucceedsAt launch k := by
  rcases timers_step r k with ⟨hnone, hnot⟩ | ⟨new, hsome, hsucceeds, _⟩
  · rw [hnone]
    exact ⟨fun h => absurd h List.not_mem_nil, fun h => absurd h (hnot launch)⟩
  · rw [hsome, List.mem_singleton]
    refine ⟨fun h => by rw [h]; exact hsucceeds, ?_⟩
    rintro ⟨m, hm, _, _, _, _, _, hend⟩
    rcases hsucceeds with ⟨m', hm', _, _, _, _, _, hend'⟩
    -- One message tells the end of one launch.
    rw [hm, hend, hend', Option.some.injEq, Message.streamEnded.injEq] at hm'
    exact hm'.1

/-- A launch for which a timer was set is one of the launches so far, and nothing
    is expected of it any more. -/
theorem settled_of_scheduled (k : Nat) (launch : LaunchId) (h : launch ∈ r.scheduled k) :
    r.Settled launch k := by
  induction k with
  | zero => exact absurd h List.not_mem_nil
  | succ k ih =>
      rw [scheduled_succ, List.mem_append] at h
      rcases h with hearlier | hnow
      · exact settled_succ r launch k (ih hearlier)
      · rcases timers_step r k with ⟨hnone, _⟩ | ⟨new, hsome, _, hwatch, hnumber, hlaunches⟩
        · rw [hnone] at hnow
          exact absurd hnow List.not_mem_nil
        · rw [hsome, List.mem_singleton] at hnow
          rw [hnow]
          refine ⟨by omega, Bool.eq_false_iff.mpr fun hexpects => ?_⟩
          rcases (Board.expects_iff _ new).mp hexpects with ⟨slot, hslot, hexpects'⟩
          rw [hwatch, Watch.slot?, Option.some.injEq] at hslot
          rw [← hslot] at hexpects'
          exact Bool.false_ne_true hexpects'

/-- No timer is set twice for one launch. -/
theorem scheduled_nodup (k : Nat) : (r.scheduled k).Nodup := by
  induction k with
  | zero => exact List.nodup_nil
  | succ k ih =>
      rw [scheduled_succ, List.nodup_append]
      rcases timers_step r k with ⟨hnone, _⟩ | ⟨launch, hsome, hsucceeds, _⟩
      · rw [hnone]
        exact ⟨ih, List.nodup_nil, fun _ _ _ h => absurd h List.not_mem_nil⟩
      · rw [hsome]
        refine ⟨ih, List.pairwise_singleton _ launch, fun other hother new hnew heq => ?_⟩
        rw [List.mem_singleton] at hnew
        rw [heq, hnew] at hother
        -- An end is accepted only by a slot that expects it.
        rcases hsucceeds with ⟨m, _, op, kind, hp, _, hexpects, _⟩
        have hnot := (settled_of_scheduled r k launch hother).2
        rw [Board.expects, hp] at hnot
        exact absurd (hexpects.symm.trans hnot) Bool.noConfusion

theorem timerRuns_succ (k : Nat) (launch : LaunchId) (h : r.TimerRuns launch k)
    (hm : r.messages[k]? ≠ some (.returnDue launch)) : r.TimerRuns launch (k + 1) := by
  rcases h with ⟨j, hjk, hset, hsince⟩
  refine ⟨j, by omega, hset, fun i hji hik => ?_⟩
  by_cases hi : i = k
  · rw [hi]
    exact hm
  · exact hsince i hji (by omega)

/-- A page that shows a success has an open timer. The timer was set in the step
    of the success, and its notice would have taken the page away. -/
theorem timerRuns_of_succeeded (k : Nat) (launch : LaunchId) (slot : Slot)
    (h : (r.boardAt k).page.watch = .operation launch true none slot) : r.TimerRuns launch k := by
  induction k generalizing slot with
  | zero =>
      rw [boardAt_zero] at h
      exact Watch.noConfusion h
  | succ k ih =>
      rcases hm : r.messages[k]? with _ | m
      · rw [boardAt_idle r k hm] at h
        refine timerRuns_succ r k launch (ih slot h) ?_
        rw [hm]
        exact (Option.some_ne_none _).symm
      -- Where the page showed the success already, any message but its notice will do.
      have hstill : ∀ slot, (r.boardAt k).page.watch = .operation launch true none slot →
          m ≠ .returnDue launch → r.TimerRuns launch (k + 1) := by
        intro slot hbefore hother
        refine timerRuns_succ r k launch (ih slot hbefore) ?_
        rw [hm, ne_eq, Option.some.injEq]
        exact hother
      cases move r k m hm with
      | quiet hspares hwatch _ _ =>
          rw [hwatch] at h
          refine hstill slot h fun hdue => ?_
          rw [hdue] at hspares
          exact hspares slot h
      | refused s hm' _ hboard _ =>
          rw [hboard] at h
          exact hstill slot h (by rw [hm']; exact Message.noConfusion)
      | adopted s hm' hslot hwatch _ _ =>
          rw [hwatch] at h
          rcases Watch.exists_of_setSlot_eq_operation _ _ _ _ _ _ h with ⟨before, hbefore⟩
          exact hstill before hbefore (by rw [hm']; exact Message.noConfusion)
      | logsEnded _ _ _ _ _ _ _ hafter _ _ =>
          rw [hafter] at h
          exact Watch.noConfusion h
      | operationEnded ended kind error id done earlier old _ hexpects hbefore hafter _ hjobs =>
          rw [hafter, Watch.operation.injEq] at h
          rcases h with ⟨hid, _, herror, _⟩
          have hsound := sound_boardAt r k
          rw [hbefore] at hsound
          have hended : ended = launch := by rw [hsound.2.1 ended hexpects, hid]
          have hset : r.timersAt k = [launch] := by
            rw [timersAt, Job.timers_of_streamJobs _ _ hjobs, herror, hended]
            rfl
          refine ⟨k, by omega, ?_, fun i hki hik => by omega⟩
          rw [hset]
          exact List.mem_singleton.mpr rfl
      | returned _ _ _ _ hafter _ _ =>
          rw [hafter] at h
          exact Watch.noConfusion h
      | quit key hm' hwatch _ _ =>
          rw [hwatch] at h
          rcases Watch.exists_of_setSlot_eq_operation _ _ _ _ _ _ h with ⟨before, hbefore⟩
          exact hstill before hbefore (by rw [hm']; exact Message.noConfusion)
      | left _ _ _ _ hafter _ _ =>
          rw [hafter] at h
          exact Watch.noConfusion h
      | launched _ new _ _ _ _ hafter _ _ _ =>
          -- No operation is done when it begins.
          rcases new with ⟨id, _ | _⟩
          · rw [hafter] at h
            exact Watch.noConfusion h
          · rw [hafter, Launch.opening, Watch.operation.injEq] at h
            exact absurd h.2.1 Bool.false_ne_true

/-- The life of an operation. A timer is set at most once for a launch, and
    exactly in the step in which its operation succeeds. The page of an operation
    stays, with its launch, until a key goes back or the notice of its own launch
    comes after success; an operation that failed or has not ended is not left by
    itself. The notice leads to the page the operation was launched from, asks for
    nothing, and changes only the page and the status line. And a page that shows
    a success has an open timer, whose notice has not come yet. -/
theorem operations_leave_once :
    (∀ k, (r.scheduled k).Nodup) ∧
    (∀ k launch, launch ∈ r.timersAt k ↔ r.SucceedsAt launch k) ∧
    (∀ k op, (r.boardAt k).page = .operation op →
      (∃ op', (r.boardAt (k + 1)).page = .operation op' ∧ op'.launch = op.launch) ∨
      r.messages[k]? = some (.key .escape) ∨ r.messages[k]? = some (.key .backspace) ∨
      (r.messages[k]? = some (.returnDue op.launch) ∧ op.done = true ∧ op.error = none)) ∧
    (∀ k op, (r.boardAt k).page = .operation op → op.done = true → op.error = none →
      r.messages[k]? = some (.returnDue op.launch) →
      r.jobsAt k = [] ∧ r.boardAt (k + 1) =
        { r.boardAt k with
          page := op.origin.elim .dashboard .detail
          status := completedStatus }) ∧
    (∀ k op, (r.boardAt k).page = .operation op → op.done = true → op.error = none →
      r.TimerRuns op.launch k) := by
  refine ⟨scheduled_nodup r, mem_timersAt_iff r, ?_, ?_, ?_⟩
  · intro k op hp
    rcases hm : r.messages[k]? with _ | m
    · exact Or.inl ⟨op, by rw [boardAt_idle r k hm, hp], rfl⟩
    rcases Board.stays_or_leaves_of_move _ _ m _ (move r k m hm) op hp with
      hstays | ⟨key, hkey, hback⟩ | ⟨hdue, hdone, herror⟩
    · exact Or.inl hstays
    · rw [hkey]
      rw [Key.isBack, Bool.or_eq_true, beq_iff_eq, beq_iff_eq] at hback
      rcases hback with hescape | hbackspace
      · exact Or.inr (Or.inl (by rw [hescape]))
      · exact Or.inr (Or.inr (Or.inl (by rw [hbackspace])))
    · exact Or.inr (Or.inr (Or.inr ⟨by rw [hdue], hdone, herror⟩))
  · intro k op hp hdone herror hm
    rw [jobsAt_step r k _ hm, boardAt_step r k _ hm,
      Board.update_returnDue _ op hp hdone herror]
    exact ⟨rfl, rfl⟩
  · intro k op hp hdone herror
    refine timerRuns_of_succeeded r k op.launch op.slot ?_
    rw [hp, Page.watch_eq_operation, hdone, herror]

/-- An operation succeeds and is left when its time is over. -/
theorem restart_leaves_once :
    let shop : Project := ⟨"shop", .stopped, "php", "", ⟨"/srv/shop"⟩⟩
    let stream : Stream := { launch := ⟨1⟩, kind := .operation, process := some ⟨7⟩, capacity := 8 }
    let run : Run :=
      { timings := {}
        messages := [.projectsLoaded (.ok [shop]), .key (.char 'r'), .streamStarted stream,
          .streamEnded ⟨1⟩ .operation none, .returnDue ⟨1⟩] }
    run.timersAt 3 = [⟨1⟩] ∧ run.SucceedsAt ⟨1⟩ 3 ∧
    (∃ op, (run.boardAt 4).page = .operation op ∧ op.done = true ∧ op.error = none ∧
      run.TimerRuns op.launch 4) ∧
    run.jobsAt 4 = [] ∧ (run.boardAt 5).page = .dashboard := by
  intro shop stream run
  rcases operations_leave_once run with ⟨_, hset, _, hleave, hruns⟩
  let op : OperationPage :=
    { OperationPage.launched "Restarting shop" ⟨1⟩ none with slot := .closed, done := true }
  have hpage : (run.boardAt 4).page = .operation op := by decide
  rcases hleave 4 op hpage rfl rfl rfl with ⟨hjobs, hboard⟩
  refine ⟨by decide, (hset 3 ⟨1⟩).mp (by decide), ⟨op, hpage, rfl, rfl, hruns 4 op hpage rfl rfl⟩,
    hjobs, ?_⟩
  rw [hboard]
  rfl

end Run

end FleetBoard
