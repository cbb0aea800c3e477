import FleetBoard.Proofs.Delivery

/-!
# Arrival of the End

A queue with little room makes the parties of a relay wait for each other: a scanner
for the reader, the reader for a scanner or the keeper, and the keeper for both
scanners. They never wait in a circle. Once a program has ended and its pipes are
shut, every schedule can be continued until the reader is told the end, as long as
the queue has room for one line.

Each party has some work to do, `Relay.work` in all. At any time before the end is
told there is a party whose step makes the work less: a scanner that does not wait,
or else the reader if the queue is full; after both have stopped the keeper until it
is gone; and then the reader.

## Main definitions

* `Scanner.work`, `Relay.work`: How much there is to do.
* `Relay.Endable`: The program has ended, and there is room for a line.

## Theorems

* `Scanner.work_step`: A scanner that does not wait gets on.
* `Relay.exists_step_work_lt`: Somebody gets on until the end is told.
* `Relay.exists_schedule_over`: Every schedule can be continued to the end.
-/

namespace FleetBoard

namespace Scanner

/-- How much a scanner has to do at most. A byte counts for the line that it may be,
    and a line for its way into the queue. -/
def work (s : Scanner) : Nat :=
  s.reads.length + 3 * (s.held.length + s.reads.flatten.length) + 2 * s.waiting.toList.length +
    s.scanning.toNat

variable (s : Scanner)

/-- The scanner waits for room in the queue. -/
def Waits (near : Stream) : Prop :=
  s.waiting ≠ none ∧ near.capacity ≤ near.queue.length

theorem work_advance (hwaiting : s.waiting = none) (hscanning : s.scanning = true)
    (hshut : s.shut = true) : s.advance.work < s.work ∧ s.advance.shut = true := by
  by_cases hfeed : Text.lineFeed ∈ s.held
  · rcases List.eq_append_cons_of_mem hfeed with ⟨line, rest, hheld, hline⟩
    rw [s.advance_of_feed line rest hheld hline]
    refine ⟨?_, hshut⟩
    simp only [work, hwaiting, hheld, List.length_append, List.length_cons, Option.toList_some,
      Option.toList_none, List.length_nil]
    omega
  · cases hreads : s.reads with
    | cons read reads =>
        rw [s.advance_of_read read reads hreads hfeed]
        refine ⟨?_, hshut⟩
        simp only [work, hreads, List.flatten_cons, List.length_append, List.length_cons]
        omega
    | nil =>
        rw [s.advance_of_rest hreads hfeed, if_neg (by rw [hshut]; exact Bool.false_ne_true)]
        by_cases hempty : s.held = []
        · rw [if_pos hempty]
          refine ⟨?_, hshut⟩
          simp only [work, hscanning, Bool.toNat_true, Bool.toNat_false]
          omega
        · rw [if_neg hempty]
          refine ⟨?_, hshut⟩
          have hlength := List.length_pos_iff.mpr hempty
          simp only [work, hwaiting, Option.toList_some, Option.toList_none, List.length_cons,
            List.length_nil]
          omega

/-- A scanner that does not wait gets on. -/
theorem work_step (near : Stream) (hscanning : s.scanning = true) (hshut : s.shut = true)
    (hroom : ¬ s.Waits near) :
    (s.step near).1.work + (s.step near).2.queue.length < s.work + near.queue.length := by
  rw [step, if_neg (by rw [hscanning]; exact Bool.false_ne_true)]
  cases hwaiting : s.waiting with
  | none => exact Nat.add_lt_add_right (s.work_advance hwaiting hscanning hshut).1 _
  | some line =>
      have hfits : near.queue.length < near.capacity := by
        rw [Waits, hwaiting, not_and, Nat.not_le] at hroom
        exact hroom (Option.some_ne_none line)
      dsimp only [Stream.offer]
      rw [if_pos hfits]
      simp only [work, hwaiting, Option.toList_some, Option.toList_none, List.length_append,
        List.length_cons, List.length_nil]
      omega

/-- A step of a scanner changes neither its pipe nor anything about the stream but the
    queue. -/
theorem frame_step (near : Stream) (hshut : s.shut = true) :
    (s.step near).1.shut = true ∧ (s.step near).2.capacity = near.capacity ∧
      (s.step near).2.completion = near.completion := by
  rw [step]
  by_cases hscanning : s.scanning = true
  · rw [if_neg (by rw [hscanning]; exact Bool.false_ne_true)]
    cases hwaiting : s.waiting with
    | none => exact ⟨(s.work_advance hwaiting hscanning hshut).2, rfl, rfl⟩
    | some line =>
        dsimp only [Stream.offer]
        by_cases hfits : near.queue.length < near.capacity
        · rw [if_pos hfits]
          exact ⟨hshut, rfl, rfl⟩
        · rw [if_neg hfits]
          exact ⟨hshut, rfl, rfl⟩
  · rw [if_pos (by rw [Bool.eq_false_iff.mpr hscanning]; rfl)]
    exact ⟨hshut, rfl, rfl⟩

end Scanner

/-- How many steps a keeper has left. -/
def Keeper.work : Keeper → Nat
  | .waiting => 2
  | .reported => 1
  | .gone => 0

/-- Whether the end is still to be told. -/
def Completion.work : Completion → Nat
  | .told => 0
  | _ => 1

namespace Relay

/-- How much there is to do until the end is told, at most. -/
def work (r : Relay) : Nat :=
  r.output.work + r.errors.work + r.near.queue.length + r.keeper.work + r.near.completion.work

/-- The program has ended and closed its pipes, and there is room for a line. -/
structure Endable (r : Relay) : Prop where
  output_shut : r.output.shut = true
  errors_shut : r.errors.shut = true
  ended : r.ending.isSome = true
  room : 0 < r.near.capacity

theorem work_swap (r : Relay) : r.swap.work = r.work := by
  simp only [work, swap]
  omega

variable {kind : StreamKind} {output errors : Pipe}
  {ending : Option (Except SystemError ExitStatus)} {events : List StreamEvent} {r : Relay}

theorem endable_swap (h : r.Endable) : r.swap.Endable :=
  ⟨h.errors_shut, h.output_shut, h.ended, h.room⟩

theorem endable_output (h : r.Endable) : (r.step .output).2.Endable := by
  have hframe := r.output.frame_step r.near h.output_shut
  refine ⟨hframe.1, h.errors_shut, h.ended, ?_⟩
  change 0 < (r.output.step r.near).2.capacity
  rw [hframe.2.1]
  exact h.room

theorem endable_keeper (h : r.Endable) : (r.step .keeper).2.Endable := by
  change r.keep.refresh.Endable
  by_cases hkeeper : r.keeper = .waiting
  · rw [keep, hkeeper]
    cases hending : r.ending with
    | none => exact ⟨h.output_shut, h.errors_shut, h.ended, h.room⟩
    | some e =>
        dsimp only
        by_cases hbusy : (r.output.scanning || r.errors.scanning) = true
        · rw [if_pos hbusy]
          exact ⟨h.output_shut, h.errors_shut, h.ended, h.room⟩
        · rw [if_neg hbusy]
          exact ⟨h.output_shut, h.errors_shut, rfl, h.room⟩
  · rw [keep_of_ne_waiting hkeeper]
    exact ⟨h.output_shut, h.errors_shut, h.ended, h.room⟩

theorem endable_reader (h : r.Endable) : (r.step .reader).2.Endable := by
  have hpolling := r.near.polling_poll
  change Endable { r with near := r.near.poll.2 }
  generalize r.near.poll.1 = event, r.near.poll.2 = near at hpolling ⊢
  refine ⟨h.output_shut, h.errors_shut, h.ended, ?_⟩
  cases hpolling <;> exact h.room

/-- Nothing that a party does puts the end out of reach. -/
theorem endable_step (party : Party) (h : r.Endable) : (r.step party).2.Endable := by
  cases party with
  | output => exact endable_output h
  | errors =>
      rw [step_errors]
      exact endable_swap (endable_output (endable_swap h))
  | keeper => exact endable_keeper h
  | reader => exact endable_reader h

/-- A scanner at work gets on, or else the reader does. -/
theorem exists_step_of_scanning (h : r.Endable) (hscanning : r.output.scanning = true) :
    (r.step .output).2.work < r.work ∨ (r.step .reader).2.work < r.work := by
  by_cases hwaits : r.output.Waits r.near
  · -- The queue is full, so the reader gets a line.
    right
    have hroom := h.room
    cases hqueue : r.near.queue with
    | nil =>
        have hfull := hwaits.2
        rw [hqueue, List.length_nil] at hfull
        omega
    | cons text rest =>
        have hpoll : r.near.poll.2 = { r.near with queue := rest } := by
          rw [Stream.poll, hqueue]
        change work { r with near := r.near.poll.2 } < r.work
        rw [hpoll]
        simp only [work, hqueue, List.length_cons]
        omega
  · left
    have hwork := r.output.work_step r.near hscanning h.output_shut hwaits
    have hframe := r.output.frame_step r.near h.output_shut
    change work { r with output := (r.output.step r.near).1
                         near := (r.output.step r.near).2 } < r.work
    simp only [work, hframe.2.2]
    omega

/-- After both scanners have stopped, the keeper gets on, and after it the reader. -/
theorem exists_step_of_stopped (h : r.Sound kind output errors ending events) (hend : r.Endable)
    (houtput : r.output.scanning = false) (herrors : r.errors.scanning = false)
    (hopen : r.near.completion ≠ .told) :
    (r.step .keeper).2.work < r.work ∨ (r.step .reader).2.work < r.work := by
  cases hkeeper : r.keeper with
  | waiting =>
      left
      rcases Option.isSome_iff_exists.mp hend.ended with ⟨e, he⟩
      have hbusy : ¬ (r.output.scanning || r.errors.scanning) = true := by
        rw [houtput, herrors]
        exact Bool.false_ne_true
      -- The slot is empty, since the keeper has not reported.
      have hawaited : r.near.completion = .awaited := by
        cases h.stage with
        | waiting _ hcompletion _ => exact hcompletion
        | reported _ hwatched _ _ => exact absurd hkeeper hwatched.1
        | told _ hwatched _ _ _ => exact absurd hkeeper hwatched.1
      have hkeep : r.keep = { r with keeper := .reported
                                     near.completion := .reported (endingError e) } := by
        simp only [keep, hkeeper, he, if_neg hbusy]
      change r.keep.work < r.work
      rw [hkeep]
      simp only [work, hkeeper, hawaited, Keeper.work, Completion.work]
      omega
  | reported =>
      left
      have hkeep : r.keep = { r with keeper := .gone } :=
        keep_of_ne_waiting (by rw [hkeeper]; exact Keeper.noConfusion)
      change r.keep.work < r.work
      rw [hkeep]
      simp only [work, hkeeper, Keeper.work]
      omega
  | gone =>
      right
      have hdry : r.near.flowing = false := by
        rw [h.flowing_eq, hasSender, houtput, herrors, hkeeper]
        rfl
      have hpolling := r.near.polling_poll
      change work { r with near := r.near.poll.2 } < r.work
      generalize r.near.poll.1 = event, r.near.poll.2 = near at hpolling ⊢
      cases hpolling with
      | line text rest hqueue =>
          simp only [work, hqueue, List.length_cons]
          omega
      | pending _ hwait =>
          -- The keeper has reported before it went.
          exfalso
          cases h.stage with
          | waiting hwaiting _ _ => exact Keeper.noConfusion (hkeeper.symm.trans hwaiting)
          | reported _ _ hcompletion _ =>
              rw [hdry, hcompletion] at hwait
              simp only [Bool.false_eq_true, reduceCtorEq, or_self] at hwait
          | told _ _ hcompletion _ _ => exact hopen hcompletion
      | reported error _ _ hcompletion =>
          simp only [work, hcompletion, Completion.work]
          omega
      | abandoned _ _ hcompletion => exact absurd hcompletion h.stage.completion_ne_abandoned
      | past _ _ hcompletion => exact absurd hcompletion hopen

/-- Somebody gets on until the end is told. -/
theorem exists_step_work_lt (h : r.Sound kind output errors ending events) (hend : r.Endable)
    (hopen : r.near.completion ≠ .told) : ∃ party, (r.step party).2.work < r.work := by
  by_cases houtput : r.output.scanning = true
  · rcases exists_step_of_scanning hend houtput with hwork | hwork
    · exact ⟨.output, hwork⟩
    · exact ⟨.reader, hwork⟩
  · by_cases herrors : r.errors.scanning = true
    · -- The same with the pipes exchanged, which the reader does not see.
      rcases exists_step_of_scanning (endable_swap hend) herrors with hwork | hwork
      · refine ⟨.errors, ?_⟩
        rw [step_errors, work_swap, ← r.work_swap]
        exact hwork
      · refine ⟨.reader, ?_⟩
        change (r.step .reader).2.swap.work < r.swap.work at hwork
        rw [work_swap, work_swap] at hwork
        exact hwork
    · rcases exists_step_of_stopped h hend (Bool.eq_false_iff.mpr houtput)
        (Bool.eq_false_iff.mpr herrors) hopen with hwork | hwork
      · exact ⟨.keeper, hwork⟩
      · exact ⟨.reader, hwork⟩

/-- The end is told at last. -/
theorem exists_schedule_told (h : r.Sound kind output errors ending events) (hend : r.Endable) :
    ∃ schedule, (r.run schedule).2.near.completion = .told := by
  induction hwork : r.work using Nat.strongRecOn generalizing r events with
  | ind n ih =>
      by_cases htold : r.near.completion = .told
      · exact ⟨[], htold⟩
      · rcases exists_step_work_lt h hend htold with ⟨party, hless⟩
        rw [hwork] at hless
        rcases ih _ hless (sound_step party h) (endable_step party hend) rfl with
          ⟨schedule, hlast⟩
        exact ⟨party :: schedule, hlast⟩

theorem endable_run (schedule : List Party) (h : r.Endable) : (r.run schedule).2.Endable := by
  induction schedule generalizing r with
  | nil => exact h
  | cons party schedule ih => exact ih (endable_step party h)

theorem run_append (schedule more : List Party) :
    (r.run (schedule ++ more)).1 = (r.run schedule).1 ++ ((r.run schedule).2.run more).1 := by
  induction schedule generalizing r with
  | nil => rfl
  | cons party schedule ih =>
      have hnext := ih (r := (r.step party).2)
      simp only [List.cons_append, run, hnext, List.append_assoc]

/-- Every schedule can be continued until the reader is told the end, if the program
    has ended, its pipes are shut and there is room for a line. -/
theorem exists_schedule_over (launch : LaunchId) (kind : StreamKind) (process : Option ProcessId)
    (capacity : Nat) (output errors : Pipe) (e : Except SystemError ExitStatus)
    (schedule : List Party) (hroom : 0 < capacity) (houtput : output.shut = true)
    (herrors : errors.shut = true) :
    ∃ more error, StreamEvent.Over error
      ((begun launch kind process capacity output errors (some e)).run (schedule ++ more)).1 := by
  have hbegun : (begun launch kind process capacity output errors (some e)).Endable :=
    ⟨houtput, herrors, rfl, hroom⟩
  have hsound₀ : (begun launch kind process capacity output errors (some e)).Sound kind output
      errors (some e) [] := sound_begun launch process capacity
  have hsound := sound_run schedule hsound₀
  rcases exists_schedule_told hsound (endable_run schedule hbegun) with ⟨more, htold⟩
  rcases (sound_run more hsound).stage.told_of_completion htold with ⟨_, _, hover⟩
  rw [List.nil_append, ← run_append] at hover
  exact ⟨more, _, hover⟩

end Relay

end FleetBoard
