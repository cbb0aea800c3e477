import FleetBoard.Computer
import FleetBoard.Proofs.PipeLines
import FleetBoard.Proofs.Polling
import FleetBoard.Text.Occurs

/-!
# Delivery of Output

A relay has four parties that move in any order: a scanner for each of the two pipes
of a program, the keeper that reports how the program ended, and the reader. What the
reader has got and what waits for it in the queue is, at every point of every
schedule, an interleaving of what the two scanners have sent, and each scanner has
sent the first of the lines of its pipe and has the rest of them still to send.

The queue closes when nobody is left who may send, and that the end has been reported
by then is a matter of what the keeper has seen. `Relay.Stage` follows it. As long as
the keeper waits, the queue stays open. Once it has reported, both scanners have
stopped, and a scanner stops only when it has no line left. So whoever sees the queue
closed and empty has got every line and finds the report in the slot.

The two pipes are treated alike, and `Relay.swap` is used to say each thing of the
scanners only once.

## Main definitions

* `Interleaving`: Two lists merged into one, each in its order.
* `Pipe`: What a pipe delivers.
* `Relay.begun`: The relay of a program that was just started.
* `Relay.Reports`: What an error tells of the end of a program.
* `Relay.Faithful`: The reader gets what the program wrote and how it ended.
* `Relay.Stage`: How far the keeper has come, and what follows from it.
* `Relay.Carries`: Where the lines of the two pipes are.

## Theorems

* `Relay.reports_endingError`: The keeper reports how the program ended.
* `Relay.sound_step`: One step of anybody loses nothing.
* `Relay.sound_run`: No schedule does.
* `Relay.faithful_run`: So every schedule delivers faithfully.
-/

namespace FleetBoard

/-- The third list is the first two merged, each in its order. -/
inductive Interleaving {α : Type} : List α → List α → List α → Prop
  | nil : Interleaving [] [] []
  | left (x : α) {xs ys zs : List α} (h : Interleaving xs ys zs) :
    Interleaving (x :: xs) ys (x :: zs)
  | right (y : α) {xs ys zs : List α} (h : Interleaving xs ys zs) :
    Interleaving xs (y :: ys) (y :: zs)

namespace Interleaving

variable {α : Type} {xs ys zs : List α}

theorem symm (h : Interleaving xs ys zs) : Interleaving ys xs zs := by
  induction h with
  | nil => exact nil
  | left x _ ih => exact right x ih
  | right y _ ih => exact left y ih

/-- The first list may get longer at its end. -/
theorem concat (x : α) (h : Interleaving xs ys zs) :
    Interleaving (xs ++ [x]) ys (zs ++ [x]) := by
  induction h with
  | nil => exact left x nil
  | left x' _ ih => exact left x' ih
  | right y _ ih => exact right y ih

end Interleaving

/-- What a pipe delivers, read by read, and whether it ends after that. -/
structure Pipe where
  reads : List Text.Bytes
  shut : Bool := true
  deriving DecidableEq, Repr

namespace Pipe

/-- The scanner of a pipe of which nothing was read. -/
def scanner (p : Pipe) : Scanner where
  reads := p.reads
  shut := p.shut

/-- The lines that a pipe delivers. -/
def lines (p : Pipe) : List String :=
  Text.linesOf p.reads.flatten

end Pipe

namespace Relay

/-- The relay of a program that was just started, by what its pipes will deliver and
    how it will end. -/
def begun (launch : LaunchId) (kind : StreamKind) (process : Option ProcessId) (capacity : Nat)
    (output errors : Pipe) (ending : Option (Except SystemError ExitStatus)) : Relay where
  output := output.scanner
  errors := errors.scanner
  ending := ending
  near := { launch := launch, kind := kind, process := process, capacity := capacity }

/-- What an error tells of the end of a program. -/
structure Reports (ending : Except SystemError ExitStatus) (error : Option String) : Prop where
  /-- There is no error exactly if the program has succeeded. -/
  none_iff : error = none ↔ ∃ status, ending = .ok status ∧ status.succeeded = true
  /-- A program that has failed is reported with its status. -/
  exit : ∀ status, ending = .ok status → status.succeeded = false → error = some status.text
  /-- A program that could not be waited for is reported with the reason. -/
  failure : ∀ reason, ending = .error reason → error = some reason.text
  /-- Nobody but the system says that the status is missing. -/
  missing : error = some missingStatus →
    ∃ reason, ending = .error reason ∧ reason.text = missingStatus

/-- The reader gets what the program wrote and how it ended. -/
structure Faithful (kind : StreamKind) (output errors : Pipe)
    (ending : Option (Except SystemError ExitStatus)) (events : List StreamEvent) (r : Relay) :
    Prop where
  /-- Once the queue is closed, the slot has been filled with the end of the program.
      It is empty again only if the reader was told. -/
  settled : r.near.flowing = false → ∃ e, ending = some e ∧
    (r.near.completion = .reported (endingError e) ∨
      (r.near.completion = .told ∧ ∃ error, StreamEvent.Over error events))
  /-- The report is never missing. -/
  reported : r.near.completion ≠ .abandoned
  /-- The reader got either lines only so far, or all lines of both pipes, each pipe
      in its order, and then the end. -/
  delivered : StreamEvent.Open events ∨
    ∃ e error, ending = some e ∧ StreamEvent.Over error events ∧
      Interleaving output.lines errors.lines (StreamEvent.lines events) ∧
      (kind = .logs → error = none) ∧ (kind = .operation → Reports e error)

end Relay

namespace ExitStatus

/-- The text of a status begins with the way in which the process ended, and that is
    never the word for an operation. -/
theorem text_ne_missingStatus (s : ExitStatus) : s.text ≠ missingStatus := by
  have hlead : ∀ (lead rest : String) (c : Char), lead.toList.head? = some c → c ≠ 'o' →
      lead ++ rest ≠ missingStatus :=
    fun lead rest c hlead hc => Text.append_ne_of_head lead rest missingStatus c 'o' hlead rfl hc
  rw [text]
  by_cases hexit : s.signal = 0
  · rw [if_pos hexit]
    exact hlead _ _ 'e' rfl (by decide)
  · rw [if_neg hexit]
    by_cases hsignal : s.signal ≠ 127
    · rw [if_pos hsignal, String.append_assoc]
      exact hlead _ _ 's' rfl (by decide)
    · rw [if_neg hsignal]
      by_cases hdumped : (!s.dumped) = true
      · rw [if_pos hdumped]
        exact hlead _ _ 's' rfl (by decide)
      · rw [if_neg hdumped]
        by_cases hword : s.word = 0xFFFF
        · rw [if_pos hword]
          decide
        · rw [if_neg hword, String.append_assoc, String.append_assoc]
          exact hlead _ _ 'u' rfl (by decide)

end ExitStatus

namespace Relay

/-- The keeper reports how the program ended. -/
theorem reports_endingError (ending : Except SystemError ExitStatus) :
    Reports ending (endingError ending) := by
  cases ending with
  | error reason =>
      have herror : endingError (.error reason) = some reason.text := rfl
      rw [herror]
      refine ⟨?_, ?_, ?_, ?_⟩
      · simp only [reduceCtorEq, false_and, exists_false]
      · intro status h
        cases h
      · intro other h
        rw [Except.error.inj h]
      · intro h
        exact ⟨reason, rfl, Option.some.inj h⟩
  | ok status =>
      by_cases hsucceeded : status.succeeded = true
      · have herror : endingError (.ok status) = none := by
          rw [endingError, (JobError.ofStatus?_eq_none_iff status).mpr hsucceeded, Option.map_none]
        rw [herror]
        refine ⟨iff_of_true rfl ⟨status, rfl, hsucceeded⟩, ?_, ?_, ?_⟩
        · intro other h hfailed
          rw [Except.ok.inj h, hfailed] at hsucceeded
          exact absurd hsucceeded Bool.false_ne_true
        · intro reason h
          cases h
        · intro h
          exact absurd h (Option.some_ne_none _).symm
      · have herror : endingError (.ok status) = some status.text := by
          rw [endingError, JobError.ofStatus?, if_neg hsucceeded, Option.map_some]
          rfl
        rw [herror]
        refine ⟨?_, ?_, ?_, ?_⟩
        · simp only [reduceCtorEq, Except.ok.injEq, exists_eq_left', hsucceeded]
        · intro other h _
          rw [Except.ok.inj h]
        · intro reason h
          cases h
        · intro h
          exact absurd (Option.some.inj h) status.text_ne_missingStatus

/-- The keeper has seen both scanners stop and then how the program ended. -/
def Watched (r : Relay) (e : Except SystemError ExitStatus) : Prop :=
  r.keeper ≠ .waiting ∧ r.output.scanning = false ∧ r.errors.scanning = false ∧ r.ending = some e

/-- How far the keeper of a relay has come when the reader has got some events. -/
inductive Stage (r : Relay) (events : List StreamEvent) : Prop
  | waiting (hkeeper : r.keeper = .waiting) (hcompletion : r.near.completion = .awaited)
    (hevents : StreamEvent.Open events)
  | reported (e : Except SystemError ExitStatus) (hwatched : r.Watched e)
    (hcompletion : r.near.completion = .reported (endingError e))
    (hevents : StreamEvent.Open events)
  /-- The end is told only after everything else. -/
  | told (e : Except SystemError ExitStatus) (hwatched : r.Watched e)
    (hcompletion : r.near.completion = .told) (hqueue : r.near.queue = [])
    (hevents : StreamEvent.Over (Stream.endError r.near.kind (some (endingError e))) events)

/-- Where the lines of the two pipes are when the reader has got some events. -/
structure Carries (kind : StreamKind) (output errors : Pipe)
    (ending : Option (Except SystemError ExitStatus)) (events : List StreamEvent) (r : Relay) :
    Prop where
  /-- What each scanner has sent was told or is in the queue. -/
  merged : ∃ sent sent', sent ++ r.output.toSend = output.lines ∧
    sent' ++ r.errors.toSend = errors.lines ∧
    Interleaving sent sent' (StreamEvent.lines events ++ r.near.queue)
  output_stopped : r.output.scanning = false → r.output.toSend = []
  errors_stopped : r.errors.scanning = false → r.errors.toSend = []
  ending_eq : r.ending = ending
  kind_eq : r.near.kind = kind
  stage : r.Stage events

/-- A relay that carries the lines and has its queue open as long as somebody may
    send. -/
structure Sound (kind : StreamKind) (output errors : Pipe)
    (ending : Option (Except SystemError ExitStatus)) (events : List StreamEvent) (r : Relay) :
    Prop extends Carries kind output errors ending events r where
  flowing_eq : r.near.flowing = r.hasSender

/-- The relay with its two pipes exchanged. -/
def swap (r : Relay) : Relay :=
  { r with output := r.errors, errors := r.output }

theorem hasSender_swap (r : Relay) : r.swap.hasSender = r.hasSender := by
  rw [hasSender, hasSender, swap, Bool.or_comm r.errors.scanning]

theorem refresh_swap (r : Relay) : r.swap.refresh = r.refresh.swap := by
  rw [refresh, hasSender_swap]
  rfl

/-- The two scanners do the same. -/
theorem step_errors (r : Relay) : (r.step .errors).2 = (r.swap.step .output).2.swap := by
  change _ = (swap { r with errors := (r.errors.step r.near).1
                            near := (r.errors.step r.near).2 }).refresh.swap
  rw [refresh_swap]
  rfl

variable {kind : StreamKind} {output errors : Pipe}
  {ending : Option (Except SystemError ExitStatus)} {events : List StreamEvent} {r : Relay}

namespace Stage

/-- Nobody abandons the slot of a relay. -/
theorem completion_ne_abandoned (h : r.Stage events) : r.near.completion ≠ .abandoned := by
  intro habandoned
  cases h with
  | waiting _ hcompletion _ => exact Completion.noConfusion (hcompletion.symm.trans habandoned)
  | reported _ _ hcompletion _ => exact Completion.noConfusion (hcompletion.symm.trans habandoned)
  | told _ _ hcompletion _ _ => exact Completion.noConfusion (hcompletion.symm.trans habandoned)

/-- What is in the slot comes from the keeper. -/
theorem reported_of_completion (h : r.Stage events) (error : Option String)
    (hreported : r.near.completion = .reported error) :
    ∃ e, error = endingError e ∧ r.Watched e ∧ StreamEvent.Open events := by
  cases h with
  | waiting _ hcompletion _ => exact Completion.noConfusion (hcompletion.symm.trans hreported)
  | reported e hwatched hcompletion hevents =>
      exact ⟨e, Completion.reported.inj (hreported.symm.trans hcompletion), hwatched, hevents⟩
  | told _ _ hcompletion _ _ => exact Completion.noConfusion (hcompletion.symm.trans hreported)

/-- A slot that is empty again was told as the end. -/
theorem told_of_completion (h : r.Stage events) (htold : r.near.completion = .told) :
    ∃ e, r.Watched e ∧
      StreamEvent.Over (Stream.endError r.near.kind (some (endingError e))) events := by
  cases h with
  | waiting _ hcompletion _ => exact Completion.noConfusion (hcompletion.symm.trans htold)
  | reported _ _ hcompletion _ => exact Completion.noConfusion (hcompletion.symm.trans htold)
  | told e hwatched _ _ hevents => exact ⟨e, hwatched, hevents⟩

/-- As long as a scanner is at work, the keeper waits. -/
theorem waiting_of_scanning (h : r.Stage events) (hscanning : r.output.scanning = true) :
    r.keeper = .waiting ∧ r.near.completion = .awaited ∧ StreamEvent.Open events := by
  cases h with
  | waiting hkeeper hcompletion hevents => exact ⟨hkeeper, hcompletion, hevents⟩
  | reported _ hwatched _ _ =>
      exact absurd (hscanning.symm.trans hwatched.2.1) Bool.false_ne_true.symm
  | told _ hwatched _ _ _ =>
      exact absurd (hscanning.symm.trans hwatched.2.1) Bool.false_ne_true.symm

theorem swap (h : r.Stage events) : r.swap.Stage events := by
  have hwatched' : ∀ e, r.Watched e → r.swap.Watched e :=
    fun _ hwatched => ⟨hwatched.1, hwatched.2.2.1, hwatched.2.1, hwatched.2.2.2⟩
  cases h with
  | waiting hkeeper hcompletion hevents => exact .waiting hkeeper hcompletion hevents
  | reported e hwatched hcompletion hevents =>
      exact .reported e (hwatched' e hwatched) hcompletion hevents
  | told e hwatched hcompletion hqueue hevents =>
      exact .told e (hwatched' e hwatched) hcompletion hqueue hevents

theorem refresh (h : r.Stage events) : r.refresh.Stage events := by
  cases h with
  | waiting hkeeper hcompletion hevents => exact .waiting hkeeper hcompletion hevents
  | reported e hwatched hcompletion hevents => exact .reported e hwatched hcompletion hevents
  | told e hwatched hcompletion hqueue hevents =>
      exact .told e hwatched hcompletion hqueue hevents

end Stage

theorem sound_swap (h : r.Sound kind output errors ending events) :
    r.swap.Sound kind errors output ending events := by
  rcases h.merged with ⟨sent, sent', hsent, hsent', hmerged⟩
  refine ⟨⟨⟨sent', sent, hsent', hsent, hmerged.symm⟩, h.errors_stopped, h.output_stopped,
    h.ending_eq, h.kind_eq, h.stage.swap⟩, ?_⟩
  rw [hasSender_swap]
  exact h.flowing_eq

/-- A relay that carries the lines is sound after its queue was seen to. -/
theorem sound_refresh (h : r.Carries kind output errors ending events) :
    r.refresh.Sound kind output errors ending events where
  merged := h.merged
  output_stopped := h.output_stopped
  errors_stopped := h.errors_stopped
  ending_eq := h.ending_eq
  kind_eq := h.kind_eq
  stage := h.stage.refresh
  flowing_eq := rfl

/-- A step of the scanner of the first pipe loses no line. -/
theorem sound_output (h : r.Sound kind output errors ending events) :
    (r.step .output).2.Sound kind output errors ending events := by
  have hstepping := r.output.stepping_step r.near
  change (refresh { r with output := (r.output.step r.near).1
                           near := (r.output.step r.near).2 }).Sound _ _ _ _ _
  generalize (r.output.step r.near).1 = scanner, (r.output.step r.near).2 = near at hstepping ⊢
  refine sound_refresh ?_
  rcases h.merged with ⟨sent, sent', hsent, hsent', hmerged⟩
  cases hstepping with
  | stopped _ => exact h.toCarries
  -- In the other two cases the scanner is at work, and the slot is empty.
  | kept _ hscanning hsame hnone =>
      rcases h.stage.waiting_of_scanning hscanning with ⟨hkeeper, hcompletion, hevents⟩
      refine ⟨⟨sent, sent', ?_, hsent', hmerged⟩, hnone, h.errors_stopped, h.ending_eq, h.kind_eq,
        .waiting hkeeper hcompletion hevents⟩
      rw [hsame]
      exact hsent
  | sent _ line hscanning hfirst hscanning' =>
      -- The line is the last one that was sent so far, and the last one in the queue.
      rcases h.stage.waiting_of_scanning hscanning with ⟨hkeeper, hcompletion, hevents⟩
      refine ⟨⟨sent ++ [line], sent', ?_, hsent', ?_⟩, fun hstopped => ?_, h.errors_stopped,
        h.ending_eq, h.kind_eq, .waiting hkeeper hcompletion hevents⟩
      · rw [List.append_assoc, List.singleton_append, ← hfirst]
        exact hsent
      · rw [← List.append_assoc]
        exact hmerged.concat line
      · exact absurd (hscanning'.symm.trans hstopped) Bool.false_ne_true.symm

/-- So does a step of the other one. -/
theorem sound_errors (h : r.Sound kind output errors ending events) :
    (r.step .errors).2.Sound kind output errors ending events := by
  rw [step_errors]
  exact sound_swap (sound_output (sound_swap h))

/-- A keeper that has reported goes away. -/
theorem keep_of_ne_waiting (h : r.keeper ≠ .waiting) : r.keep = { r with keeper := .gone } := by
  rcases r with ⟨output, errors, ending, keeper, near⟩
  cases keeper with
  | waiting => exact absurd rfl h
  | reported => rfl
  | gone => rfl

/-- The keeper reports the end when it may, and then goes away. -/
theorem sound_keeper (h : r.Sound kind output errors ending events) :
    (r.step .keeper).2.Sound kind output errors ending events := by
  change r.keep.refresh.Sound _ _ _ _ _
  refine sound_refresh ?_
  cases h.stage with
  | waiting hkeeper hcompletion hevents =>
      rw [keep, hkeeper]
      cases hending : r.ending with
      | none => exact h.toCarries
      | some e =>
          dsimp only
          by_cases hbusy : (r.output.scanning || r.errors.scanning) = true
          · rw [if_pos hbusy]
            exact h.toCarries
          · -- Both scanners have stopped, and the program has ended.
            rw [if_neg hbusy]
            rw [Bool.not_eq_true, Bool.or_eq_false_iff] at hbusy
            exact ⟨h.merged, h.output_stopped, h.errors_stopped, hending.symm.trans h.ending_eq,
              h.kind_eq, .reported e ⟨Keeper.noConfusion, hbusy.1, hbusy.2, rfl⟩ rfl hevents⟩
  | reported e hwatched hcompletion hevents =>
      rw [keep_of_ne_waiting hwatched.1]
      exact ⟨h.merged, h.output_stopped, h.errors_stopped, h.ending_eq, h.kind_eq,
        .reported e ⟨Keeper.noConfusion, hwatched.2⟩ hcompletion hevents⟩
  | told e hwatched hcompletion hqueue hevents =>
      rw [keep_of_ne_waiting hwatched.1]
      exact ⟨h.merged, h.output_stopped, h.errors_stopped, h.ending_eq, h.kind_eq,
        .told e ⟨Keeper.noConfusion, hwatched.2⟩ hcompletion hqueue hevents⟩

/-- What the reader is told goes from the relay to the reader. -/
theorem sound_reader (h : r.Sound kind output errors ending events) :
    (r.step .reader).2.Sound kind output errors ending
      (events ++ (r.step .reader).1.toList) := by
  have hpolling := r.near.polling_poll
  change Sound _ _ _ _ (events ++ r.near.poll.1.toList) { r with near := r.near.poll.2 }
  rcases h.merged with ⟨sent, sent', hsent, hsent', hmerged⟩
  generalize r.near.poll.1 = event, r.near.poll.2 = near at hpolling ⊢
  cases hpolling with
  | line text rest hqueue =>
      refine ⟨⟨⟨sent, sent', hsent, hsent', ?_⟩, h.output_stopped, h.errors_stopped, h.ending_eq,
        h.kind_eq, ?_⟩, h.flowing_eq⟩
      · rw [Option.toList_some, StreamEvent.lines_concat_line, List.append_assoc,
          List.singleton_append, ← hqueue]
        exact hmerged
      · -- A line is told only while the end is not.
        cases h.stage with
        | waiting hkeeper hcompletion hevents =>
            exact .waiting hkeeper hcompletion (StreamEvent.open_concat events text hevents)
        | reported e hwatched hcompletion hevents =>
            exact .reported e hwatched hcompletion (StreamEvent.open_concat events text hevents)
        | told _ _ _ hempty _ =>
            rw [hempty] at hqueue
            exact absurd hqueue.symm (List.cons_ne_nil text rest)
  | pending _ _ =>
      rw [Option.toList_none, List.append_nil]
      exact h
  | reported error hqueue _ hcompletion =>
      rcases h.stage.reported_of_completion error hcompletion with ⟨e, rfl, hwatched, hevents⟩
      refine ⟨⟨⟨sent, sent', hsent, hsent', ?_⟩, h.output_stopped, h.errors_stopped, h.ending_eq,
        h.kind_eq, .told e hwatched rfl hqueue (StreamEvent.over_concat_of_open events _ hevents)⟩,
        h.flowing_eq⟩
      rw [Option.toList_some, StreamEvent.lines_concat_ended]
      exact hmerged
  | abandoned _ _ hcompletion => exact absurd hcompletion h.stage.completion_ne_abandoned
  | past hqueue _ hcompletion =>
      rcases h.stage.told_of_completion hcompletion with ⟨e, hwatched, hevents⟩
      refine ⟨⟨⟨sent, sent', hsent, hsent', ?_⟩, h.output_stopped, h.errors_stopped, h.ending_eq,
        h.kind_eq, .told e hwatched hcompletion hqueue (StreamEvent.over_concat events _ hevents)⟩,
        h.flowing_eq⟩
      rw [Option.toList_some, StreamEvent.lines_concat_ended]
      exact hmerged

/-- One step of anybody loses nothing. -/
theorem sound_step (party : Party) (h : r.Sound kind output errors ending events) :
    (r.step party).2.Sound kind output errors ending (events ++ (r.step party).1.toList) := by
  -- Only the reader gets anything.
  have hsilent : events ++ Option.toList none = events := List.append_nil events
  cases party with
  | output =>
      change (r.step .output).2.Sound _ _ _ _ (events ++ Option.toList none)
      rw [hsilent]
      exact sound_output h
  | errors =>
      change (r.step .errors).2.Sound _ _ _ _ (events ++ Option.toList none)
      rw [hsilent]
      exact sound_errors h
  | keeper =>
      change (r.step .keeper).2.Sound _ _ _ _ (events ++ Option.toList none)
      rw [hsilent]
      exact sound_keeper h
  | reader => exact sound_reader h

/-- No schedule loses anything. -/
theorem sound_run (schedule : List Party) (h : r.Sound kind output errors ending events) :
    (r.run schedule).2.Sound kind output errors ending (events ++ (r.run schedule).1) := by
  induction schedule generalizing r events with
  | nil =>
      rw [run, List.append_nil]
      exact h
  | cons party schedule ih =>
      have hnext := ih (sound_step party h)
      rw [List.append_assoc] at hnext
      exact hnext

theorem sound_begun (launch : LaunchId) (process : Option ProcessId) (capacity : Nat) :
    (begun launch kind process capacity output errors ending).Sound kind output errors ending
      [] where
  merged := ⟨[], [], rfl, rfl, .nil⟩
  output_stopped := fun h => absurd h Bool.false_ne_true.symm
  errors_stopped := fun h => absurd h Bool.false_ne_true.symm
  ending_eq := rfl
  kind_eq := rfl
  stage := .waiting rfl rfl rfl
  flowing_eq := rfl

/-- Who has got the end has got everything before it. -/
theorem faithful_of_sound (h : r.Sound kind output errors ending events) :
    Faithful kind output errors ending events r := by
  refine ⟨fun hdry => ?_, ?_, ?_⟩
  · -- The keeper is gone, so it has reported.
    rw [h.flowing_eq, hasSender, Bool.or_eq_false_iff, bne_eq_false_iff_eq] at hdry
    rw [← h.ending_eq]
    cases h.stage with
    | waiting hkeeper _ _ => exact Keeper.noConfusion (hkeeper.symm.trans hdry.2)
    | reported e hwatched hcompletion _ => exact ⟨e, hwatched.2.2.2, Or.inl hcompletion⟩
    | told e hwatched hcompletion _ hevents =>
        exact ⟨e, hwatched.2.2.2, Or.inr ⟨hcompletion, _, hevents⟩⟩
  · exact h.stage.completion_ne_abandoned
  · cases h.stage with
    | waiting _ _ hevents => exact Or.inl hevents
    | reported _ _ _ hevents => exact Or.inl hevents
    | told e hwatched _ hqueue hevents =>
        -- Both scanners have stopped, so they have sent all their lines, and none waits.
        rcases hwatched with ⟨_, houtput, herrors, hending⟩
        rcases h.merged with ⟨sent, sent', hsent, hsent', hmerged⟩
        rw [h.output_stopped houtput, List.append_nil] at hsent
        rw [h.errors_stopped herrors, List.append_nil] at hsent'
        rw [hsent, hsent', hqueue, List.append_nil] at hmerged
        rw [h.kind_eq] at hevents
        refine Or.inr ⟨e, _, h.ending_eq.symm.trans hending, hevents, hmerged, ?_, ?_⟩
        · intro hkind
          rw [hkind]
          rfl
        · intro hkind
          rw [hkind]
          exact reports_endingError e

/-- Every schedule delivers faithfully, whatever the pipes hold and however the
    program ends. -/
theorem faithful_run (launch : LaunchId) (kind : StreamKind) (process : Option ProcessId)
    (capacity : Nat) (output errors : Pipe) (ending : Option (Except SystemError ExitStatus))
    (schedule : List Party) :
    Faithful kind output errors ending
      ((begun launch kind process capacity output errors ending).run schedule).1
      ((begun launch kind process capacity output errors ending).run schedule).2 :=
  faithful_of_sound (sound_run schedule (sound_begun launch process capacity))

/-- With room for one line only, the errors wait until the output was read. -/
example : ((begun ⟨1⟩ .operation none 1 ⟨[[117, 112, 10, 111], [107]], true⟩
    ⟨[[110, 111, 10]], true⟩ (some (.ok (.ofCode 3)))).run
      [.output, .output, .output, .errors, .errors, .errors, .reader, .errors, .errors, .output,
        .errors, .errors, .reader, .output, .output, .output, .output, .output, .keeper, .keeper,
        .output, .output, .keeper, .keeper, .reader, .reader, .reader]).1 =
      [.line "up", .line "no", .line "ok", .ended (some "exit status: 3"), .ended none] := by
  decide

end Relay

end FleetBoard
