import FleetBoard.Proofs.Polling
import FleetBoard.Proofs.Wiring

/-!
# The Order of the Events of a Stream

The far end of a stream sends lines, closes and sees to the report of the end, and
the near end is asked for events, all of it in any order and as often as anybody
likes. Somebody who keeps books of it writes down which lines were accepted, whether
the far end has closed, what became of the report, and what the near end told. A
`Ledger` is such a book. It is kept from the answers alone, with no look into the
stream.

Everything that the stream tells next can be read off the ledger, which is
`Observed.Orderly`. The lines that were told, with those in the queue behind them,
are the lines that were accepted. Nothing is told while nobody has sent anything new
and either more may come or the report is outstanding. The end is told when neither
is so, first with the error that the report makes of it, then without one.

What carries this through a run is `Observed.Kept`. It is `Orderly` from the inside:
what the stream holds, in terms of the ledger. The report is the delicate part,
since the stream forgets it as soon as the end is told. `Ledger.Tells` says of each
state of the slot what the ledger has to show for it.

## Main definitions

* `StreamAct`: What may be done with a stream.
* `EndReport`: What becomes of the report of an end.
* `Ledger`: What was seen of a stream.
* `Observed`: A link with its ledger.
* `Observed.after`: A new stream after any acts.
* `Observed.Orderly`: What is told next follows from the ledger.

## Theorems

* `Observed.kept_step`: One act keeps the books right.
* `Observed.kept_after`: Any acts do.
* `Observed.orderly_after`: So the events of every stream are in order.
-/

namespace FleetBoard

/-- What may be done with a stream at its two ends. -/
inductive StreamAct
  | far (act : FarAct)
  /-- The near end is asked for its next event. -/
  | poll
  deriving DecidableEq, Repr

/-- The link after something was done with it. -/
def StreamAct.run : StreamAct → Link → Link
  | .far act, l => act.run l
  | .poll, l => l.poll.2

/-- How a line is sent to a near end that is there. -/
theorem Link.send_of_near (l : Link) (s : Stream) (line : String) (h : l.near = some s) :
    l.send line =
      if l.sending = true then
        if s.queue.length < s.capacity then
          (.accepted, { l with near := some { s with queue := s.queue ++ [line] } })
        else (.full, l)
      else (.unknown, l) := by
  rw [send, h]
  cases l.sending with
  | false => rfl
  | true =>
      dsimp only [Stream.offer]
      by_cases hfits : s.queue.length < s.capacity
      · rw [if_pos hfits, if_pos hfits]
        rfl
      · rw [if_neg hfits, if_neg hfits]
        rfl

/-- What becomes of the report of an end. -/
inductive EndReport
  | made (error : Option String)
  /-- The far end goes away without it. -/
  | missing
  deriving DecidableEq, Repr

namespace EndReport

/-- What the far end does for it. -/
def act : EndReport → FarAct
  | .made error => .report error
  | .missing => .abandon

/-- The slot of a stream after the report. -/
def completion : EndReport → Completion
  | .made error => .reported error
  | .missing => .abandoned

theorem completion_injective (r r' : EndReport) (h : r.completion = r'.completion) : r = r' := by
  cases r with
  | made error =>
      cases r' with
      | made error' => exact congrArg made (Completion.reported.inj h)
      | missing => exact Completion.noConfusion h
  | missing =>
      cases r' with
      | made error' => exact Completion.noConfusion h
      | missing => rfl

/-- The error that the end of a stream is first told with. -/
def error : StreamKind → EndReport → Option String
  | .logs, _ => none
  | .operation, .made error => error
  | .operation, .missing => some missingStatus

theorem endError_some (kind : StreamKind) (error : Option String) :
    Stream.endError kind (some error) = (made error).error kind := by
  cases kind <;> rfl

theorem endError_none (kind : StreamKind) : Stream.endError kind none = missing.error kind := by
  cases kind <;> rfl

end EndReport

/-- What was seen of a stream by somebody who does not look into it. -/
structure Ledger where
  /-- The lines that were accepted, oldest first. -/
  accepted : List String := []
  /-- Whether the far end has closed. -/
  closed : Bool := false
  /-- What became of the report of the end. Only the first one counts. -/
  report : Option EndReport := none
  /-- What the near end told, oldest first. -/
  events : List StreamEvent := []
  deriving DecidableEq, Repr

namespace Ledger

/-- The lines that were told. -/
def lines (k : Ledger) : List String :=
  StreamEvent.lines k.events

/-- Whether the end was told. -/
def ended (k : Ledger) : Bool :=
  k.events.any fun event => event.line?.isNone

/-- The ledger after the near end has told something. -/
def tell (k : Ledger) (event : StreamEvent) : Ledger :=
  { k with events := k.events ++ [event] }

/-- The ledger after something was done with a link. -/
def enter (k : Ledger) (l : Link) : StreamAct → Ledger
  | .far (.send line) =>
    if (l.send line).1 = .accepted then { k with accepted := k.accepted ++ [line] } else k
  | .far .close => { k with closed := true }
  | .far (.report error) => { k with report := k.report.or (some (.made error)) }
  | .far .abandon => { k with report := k.report.or (some .missing) }
  | .poll =>
    match l.poll.1 with
    | some event => k.tell event
    | none => k

variable (k : Ledger)

theorem lines_tell_line (text : String) : (k.tell (.line text)).lines = k.lines ++ [text] :=
  StreamEvent.lines_concat_line k.events text

theorem lines_tell_ended (error : Option String) : (k.tell (.ended error)).lines = k.lines :=
  StreamEvent.lines_concat_ended k.events error

theorem ended_of_open (h : StreamEvent.Open k.events) : k.ended = false := by
  rw [ended, h, List.any_map, List.any_eq_false]
  intro text _
  exact Bool.false_ne_true

theorem ended_of_over (error : Option String) (h : StreamEvent.Over error k.events) :
    k.ended = true := by
  rcases h with ⟨again, hevents⟩
  rw [ended, hevents, List.any_append, List.any_cons]
  exact Bool.or_true _

/-- What the ledger of a stream shows for each state of the slot for its end. -/
inductive Tells (k : Ledger) (s : Stream) : Prop
  | awaiting (hreport : k.report = none) (hcompletion : s.completion = .awaited)
    (hevents : StreamEvent.Open k.events)
  | ready (report : EndReport) (hreport : k.report = some report)
    (hcompletion : s.completion = report.completion) (hevents : StreamEvent.Open k.events)
  /-- Nothing can come after the end but the end once more. -/
  | told (report : EndReport) (hreport : k.report = some report)
    (hcompletion : s.completion = .told) (hclosed : k.closed = true) (hqueue : s.queue = [])
    (hevents : StreamEvent.Over (report.error s.kind) k.events)

namespace Tells

variable {k} {s : Stream}

/-- The slot is empty from the beginning as long as the report is outstanding. -/
theorem report_eq_none_iff (h : k.Tells s) : k.report = none ↔ s.completion = .awaited := by
  cases h with
  | awaiting hreport hcompletion _ => exact iff_of_true hreport hcompletion
  | ready report hreport hcompletion _ =>
      rw [hreport, hcompletion]
      cases report <;> simp only [EndReport.completion, reduceCtorEq]
  | told report hreport hcompletion _ _ _ =>
      rw [hreport, hcompletion]
      simp only [reduceCtorEq]

/-- A report that is in the slot was made, and its end was not told. -/
theorem ready_of_completion (h : k.Tells s) (report : EndReport)
    (hcompletion : s.completion = report.completion) :
    k.report = some report ∧ StreamEvent.Open k.events := by
  cases h with
  | awaiting _ hawaited _ =>
      rw [hawaited] at hcompletion
      cases report <;> exact Completion.noConfusion hcompletion
  | ready other hreport hother hevents =>
      rw [hother] at hcompletion
      rw [← other.completion_injective report hcompletion]
      exact ⟨hreport, hevents⟩
  | told _ _ htold _ _ _ =>
      rw [htold] at hcompletion
      cases report <;> exact Completion.noConfusion hcompletion

/-- A slot that is empty again was told as the end. -/
theorem told_of_completion (h : k.Tells s) (hcompletion : s.completion = .told) :
    ∃ report, k.report = some report ∧ StreamEvent.Over (report.error s.kind) k.events := by
  cases h with
  | awaiting _ hawaited _ => exact Completion.noConfusion (hawaited.symm.trans hcompletion)
  | ready report _ hready _ =>
      rw [hready] at hcompletion
      cases report <;> exact Completion.noConfusion hcompletion
  | told report hreport _ _ _ hevents => exact ⟨report, hreport, hevents⟩

end Tells

end Ledger

/-- A link with what was seen of it. -/
structure Observed where
  link : Link
  ledger : Ledger := {}
  deriving DecidableEq, Repr

namespace Observed

/-- A stream that was just started. -/
def begun (launch : LaunchId) (kind : StreamKind) (process : Option ProcessId) (capacity : Nat) :
    Observed where
  link := { near := some { launch := launch, kind := kind, process := process,
                           capacity := capacity } }

/-- A link with its ledger after something was done with it. -/
def step (w : Observed) (act : StreamAct) : Observed where
  link := act.run w.link
  ledger := w.ledger.enter w.link act

/-- A link with its ledger after some acts. -/
def after (w : Observed) (acts : List StreamAct) : Observed :=
  acts.foldl step w

/-- What a stream of some kind and capacity tells next follows from what was seen of
    it. -/
structure Orderly (w : Observed) (kind : StreamKind) (capacity : Nat) : Prop where
  /-- The lines that were told are the first ones that were accepted, and those in
      the queue are the rest. -/
  queue : ∃ s, w.link.near = some s ∧ w.ledger.lines ++ s.queue = w.ledger.accepted
  /-- A line is accepted until the far end closes, if there is room for it. -/
  accepts : ∀ line, (w.link.send line).1 = .accepted ↔ w.ledger.closed = false ∧
    w.ledger.accepted.length < w.ledger.lines.length + capacity
  /-- The next line is the first one that was accepted and not told. -/
  line : ∀ text rest, w.ledger.accepted = w.ledger.lines ++ text :: rest →
    w.link.poll.1 = some (.line text)
  /-- Nothing is told exactly when no line is left and either more may come or the
      report is outstanding. -/
  pending : w.link.poll.1 = none ↔ w.ledger.lines = w.ledger.accepted ∧
    (w.ledger.closed = false ∨ w.ledger.report = none)
  /-- A question without an answer changes nothing. -/
  still : w.link.poll.1 = none → w.link.poll.2 = w.link
  /-- With no line left, no more to come and the report seen to, the end is told:
      with the error of the report at first, and without one from then on. -/
  ending : ∀ report, w.ledger.lines = w.ledger.accepted → w.ledger.closed = true →
    w.ledger.report = some report →
    w.link.poll.1 = some (.ended (if w.ledger.ended then none else report.error kind))
  /-- Up to now there were either lines only, or all the lines that will ever be
      accepted and then the end, with the error of the report once. -/
  events : StreamEvent.Open w.ledger.events ∨
    ∃ report, w.ledger.closed = true ∧ w.ledger.lines = w.ledger.accepted ∧
      w.ledger.report = some report ∧ StreamEvent.Over (report.error kind) w.ledger.events

/-- The books of a link whose near end is a stream are right. -/
structure Kept (w : Observed) (kind : StreamKind) (capacity : Nat) (s : Stream) : Prop where
  near : w.link.near = some s
  kind_eq : s.kind = kind
  capacity_eq : s.capacity = capacity
  queue : w.ledger.lines ++ s.queue = w.ledger.accepted
  sending : w.link.sending = !w.ledger.closed
  flowing : s.flowing = !w.ledger.closed
  reporting : w.link.reporting = w.ledger.report.isNone
  tells : w.ledger.Tells s

namespace Kept

variable {w : Observed} {kind : StreamKind} {capacity : Nat} {s : Stream}

theorem closed_of_dry (h : w.Kept kind capacity s) (hdry : s.flowing = false) :
    w.ledger.closed = true := by
  rw [h.flowing, Bool.not_eq_false'] at hdry
  exact hdry

theorem poll_eq (h : w.Kept kind capacity s) :
    w.link.poll = (s.poll.1, { w.link with near := some s.poll.2 }) := by
  rw [Link.poll, h.near]

/-- No line is left exactly when the queue is empty. -/
theorem lines_eq_iff (h : w.Kept kind capacity s) :
    w.ledger.lines = w.ledger.accepted ↔ s.queue = [] := by
  rw [← h.queue, eq_comm, List.append_right_eq_self]

end Kept

variable (w : Observed) (kind : StreamKind) (capacity : Nat) (s : Stream)

theorem kept_begun (launch : LaunchId) (process : Option ProcessId) :
    (begun launch kind process capacity).Kept kind capacity
      { launch := launch, kind := kind, process := process, capacity := capacity } where
  near := rfl
  kind_eq := rfl
  capacity_eq := rfl
  queue := rfl
  sending := rfl
  flowing := rfl
  reporting := rfl
  tells := .awaiting rfl rfl rfl

/-- Whether a line is accepted is known from the books. -/
theorem send_of_kept (h : w.Kept kind capacity s) (line : String) :
    (w.link.send line).1 = .accepted ↔ w.ledger.closed = false ∧
      w.ledger.accepted.length < w.ledger.lines.length + capacity := by
  have hroom : s.queue.length < s.capacity ↔
      w.ledger.accepted.length < w.ledger.lines.length + capacity := by
    rw [← h.queue, List.length_append, h.capacity_eq]
    omega
  rw [w.link.send_of_near s line h.near, h.sending, ← hroom]
  cases w.ledger.closed with
  | true => simp only [Bool.not_true, Bool.false_eq_true, if_false, reduceCtorEq, false_and]
  | false =>
      by_cases hfits : s.queue.length < s.capacity
      · simp only [Bool.not_false, if_true, hfits, and_self]
      · simp only [Bool.not_false, if_true, hfits, if_false, reduceCtorEq, and_false]

/-- A line that is sent goes to the end of the queue or is not accepted. -/
theorem kept_send (h : w.Kept kind capacity s) (line : String) :
    ∃ s', (w.step (.far (.send line))).Kept kind capacity s' := by
  rw [step, StreamAct.run, FarAct.run, Ledger.enter, w.link.send_of_near s line h.near]
  by_cases hsending : w.link.sending = true
  · rw [if_pos hsending]
    by_cases hfits : s.queue.length < s.capacity
    · rw [if_pos hfits, if_pos rfl]
      refine ⟨{ s with queue := s.queue ++ [line] }, ⟨rfl, h.kind_eq, h.capacity_eq, ?_,
        h.sending, h.flowing, h.reporting, ?_⟩⟩
      · exact (List.append_assoc _ _ _).symm.trans (congrArg (· ++ [line]) h.queue)
      · cases h.tells with
        | awaiting hreport hcompletion hevents => exact .awaiting hreport hcompletion hevents
        | ready report hreport hcompletion hevents =>
            exact .ready report hreport hcompletion hevents
        | told _ _ _ hclosed _ _ =>
            -- A closed far end sends nothing.
            rw [h.sending, hclosed] at hsending
            exact absurd hsending Bool.false_ne_true
    · rw [if_neg hfits, if_neg (fun haccepted => SendAnswer.noConfusion haccepted)]
      exact ⟨s, h⟩
  · rw [if_neg hsending, if_neg (fun haccepted => SendAnswer.noConfusion haccepted)]
    exact ⟨s, h⟩

/-- The far end closes, or has closed before. -/
theorem kept_close (h : w.Kept kind capacity s) :
    ∃ s', (w.step (.far .close)).Kept kind capacity s' := by
  rw [step, StreamAct.run, FarAct.run, Ledger.enter, Link.close]
  by_cases hsending : w.link.sending = true
  · rw [if_pos hsending, h.near]
    refine ⟨{ s with flowing := false }, ⟨rfl, h.kind_eq, h.capacity_eq, h.queue, rfl, rfl,
      h.reporting, ?_⟩⟩
    cases h.tells with
    | awaiting hreport hcompletion hevents => exact .awaiting hreport hcompletion hevents
    | ready report hreport hcompletion hevents => exact .ready report hreport hcompletion hevents
    | told report hreport hcompletion _ hqueue hevents =>
        exact .told report hreport hcompletion rfl hqueue hevents
  · have hclosed : w.ledger.closed = true := by
      rw [h.sending, Bool.not_eq_true, Bool.not_eq_false'] at hsending
      exact hsending
    rw [if_neg hsending, ← hclosed]
    exact ⟨s, h⟩

/-- The first report is put into the slot, and the later ones are nothing. -/
theorem kept_settle (h : w.Kept kind capacity s) (report : EndReport) :
    ∃ s', (w.step (.far report.act)).Kept kind capacity s' := by
  by_cases hreporting : w.link.reporting = true
  · -- The slot is empty so far, and no end was told.
    have hnone : w.ledger.report = none := by
      rw [h.reporting, Option.isNone_iff_eq_none] at hreporting
      exact hreporting
    have hevents : StreamEvent.Open w.ledger.events := by
      cases h.tells with
      | awaiting _ _ hevents => exact hevents
      | ready report' hreport _ _ =>
          exact absurd (hnone.symm.trans hreport) (Option.some_ne_none report').symm
      | told report' hreport _ _ _ _ =>
          exact absurd (hnone.symm.trans hreport) (Option.some_ne_none report').symm
    have hstep : w.step (.far report.act) =
        { link := { w.link with reporting := false
                                near := some { s with completion := report.completion } }
          ledger := { w.ledger with report := some report } } := by
      cases report with
      | made error =>
          rw [EndReport.act, step, StreamAct.run, FarAct.run, Ledger.enter, Link.report, hreporting,
            h.near, hnone]
          rfl
      | missing =>
          rw [EndReport.act, step, StreamAct.run, FarAct.run, Ledger.enter, Link.abandon,
            if_pos hreporting, h.near, hnone]
          rfl
    rw [hstep]
    exact ⟨_, rfl, h.kind_eq, h.capacity_eq, h.queue, h.sending, h.flowing, rfl,
      .ready report rfl rfl hevents⟩
  · -- A report was made before, and the first one counts.
    have hsome : w.ledger.report.or (some report) = w.ledger.report := by
      rw [h.reporting, Bool.not_eq_true, Option.isNone_eq_false_iff, Option.isSome_iff_exists]
        at hreporting
      rcases hreporting with ⟨first, hfirst⟩
      rw [hfirst, Option.some_or]
    have hstep : w.step (.far report.act) = w := by
      cases report with
      | made error =>
          rw [EndReport.act, step, StreamAct.run, FarAct.run, Ledger.enter, Link.report, hsome,
            Bool.eq_false_iff.mpr hreporting]
          rfl
      | missing =>
          rw [EndReport.act, step, StreamAct.run, FarAct.run, Ledger.enter, Link.abandon,
            if_neg hreporting, hsome]
    rw [hstep]
    exact ⟨s, h⟩

/-- The report that is in the slot is told as the end. -/
theorem kept_tell (h : w.Kept kind capacity s) (report : EndReport) (hqueue : s.queue = [])
    (hdry : s.flowing = false) (hcompletion : s.completion = report.completion) :
    Kept
      { link := { w.link with near := some { s with completion := .told } }
        ledger := w.ledger.tell (.ended (report.error s.kind)) }
      kind capacity { s with completion := .told } := by
  have hready := h.tells.ready_of_completion report hcompletion
  refine ⟨rfl, h.kind_eq, h.capacity_eq, ?_, h.sending, h.flowing, h.reporting,
    .told report hready.1 rfl (h.closed_of_dry hdry) hqueue ?_⟩
  · rw [Ledger.lines_tell_ended]
    exact h.queue
  · exact StreamEvent.over_concat_of_open _ _ hready.2

/-- One question keeps the books right, whatever comes of it. -/
theorem kept_poll (h : w.Kept kind capacity s) : ∃ s', (w.step .poll).Kept kind capacity s' := by
  -- Cases on what the question comes to, each with what the slot has shown so far.
  rw [step, StreamAct.run, Ledger.enter, h.poll_eq]
  have hpolling := s.polling_poll
  generalize s.poll.1 = event, s.poll.2 = next at hpolling ⊢
  cases hpolling with
  | line text rest hqueue =>
      refine ⟨{ s with queue := rest }, ⟨rfl, h.kind_eq, h.capacity_eq, ?_, h.sending, h.flowing,
        h.reporting, ?_⟩⟩
      · rw [Ledger.lines_tell_line, List.append_assoc, List.singleton_append, ← hqueue]
        exact h.queue
      · cases h.tells with
        | awaiting hreport hcompletion hevents =>
            exact .awaiting hreport hcompletion (StreamEvent.open_concat _ text hevents)
        | ready report hreport hcompletion hevents =>
            exact .ready report hreport hcompletion (StreamEvent.open_concat _ text hevents)
        | told _ _ _ _ hempty _ =>
            -- The end is told when the queue is empty, and it stays so.
            rw [hempty] at hqueue
            exact absurd hqueue.symm (List.cons_ne_nil text rest)
  | pending hqueue hwait =>
      rw [← h.near]
      exact ⟨s, h⟩
  | reported error hqueue hdry hcompletion =>
      rw [EndReport.endError_some]
      exact ⟨_, kept_tell w kind capacity s h (.made error) hqueue hdry hcompletion⟩
  | abandoned hqueue hdry hcompletion =>
      rw [EndReport.endError_none]
      exact ⟨_, kept_tell w kind capacity s h .missing hqueue hdry hcompletion⟩
  | past hqueue hdry hcompletion =>
      rcases h.tells.told_of_completion hcompletion with ⟨report, hreport, hevents⟩
      refine ⟨s, ⟨rfl, h.kind_eq, h.capacity_eq, ?_, h.sending, h.flowing, h.reporting,
        .told report hreport hcompletion (h.closed_of_dry hdry) hqueue ?_⟩⟩
      · rw [Ledger.lines_tell_ended]
        exact h.queue
      · exact StreamEvent.over_concat _ _ hevents

/-- One act keeps the books right. -/
theorem kept_step (act : StreamAct) (h : w.Kept kind capacity s) :
    ∃ s', (w.step act).Kept kind capacity s' := by
  cases act with
  | far act =>
      cases act with
      | send line => exact kept_send w kind capacity s h line
      | close => exact kept_close w kind capacity s h
      | report error => exact kept_settle w kind capacity s h (.made error)
      | abandon => exact kept_settle w kind capacity s h .missing
  | poll => exact kept_poll w kind capacity s h

theorem kept_after (acts : List StreamAct) (h : w.Kept kind capacity s) :
    ∃ s', (w.after acts).Kept kind capacity s' := by
  induction acts generalizing w s with
  | nil => exact ⟨s, h⟩
  | cons act rest ih =>
      rcases kept_step w kind capacity s act h with ⟨next, hnext⟩
      exact ih (w.step act) next hnext

/-- Nothing is told exactly while something is outstanding. -/
theorem pending_of_kept (h : w.Kept kind capacity s) :
    s.poll.1 = none ↔ w.ledger.lines = w.ledger.accepted ∧
      (w.ledger.closed = false ∨ w.ledger.report = none) := by
  have hclosed : w.ledger.closed = false ↔ s.flowing = true := by
    rw [h.flowing, Bool.not_eq_true']
  rw [h.lines_eq_iff, hclosed, h.tells.report_eq_none_iff]
  have hpolling := s.polling_poll
  generalize s.poll.1 = event, s.poll.2 = next at hpolling ⊢
  cases hpolling with
  | line text rest hqueue => simp only [hqueue, reduceCtorEq, false_and]
  | pending hqueue hwait => exact iff_of_true rfl ⟨hqueue, hwait⟩
  | reported error hqueue hdry hcompletion =>
      simp only [hdry, hcompletion, reduceCtorEq, Bool.false_eq_true, or_self, and_false]
  | abandoned hqueue hdry hcompletion =>
      simp only [hdry, hcompletion, reduceCtorEq, Bool.false_eq_true, or_self, and_false]
  | past hqueue hdry hcompletion =>
      simp only [hdry, hcompletion, reduceCtorEq, Bool.false_eq_true, or_self, and_false]

/-- With nothing outstanding the end is told, with the error of the report if it is
    for the first time. -/
theorem ending_of_kept (h : w.Kept kind capacity s) (report : EndReport)
    (hlines : w.ledger.lines = w.ledger.accepted) (hclosed : w.ledger.closed = true)
    (hreport : w.ledger.report = some report) :
    s.poll.1 = some (.ended (if w.ledger.ended then none else report.error kind)) := by
  have hsome : ¬ s.poll.1 = none := by
    rw [pending_of_kept w kind capacity s h, hclosed, hreport]
    simp only [reduceCtorEq, Bool.true_eq_false, or_self, and_false, not_false_eq_true]
  have hqueue := h.lines_eq_iff.mp hlines
  -- The report that is in the slot is this one, and no end was told.
  have hfirst : ∀ r : EndReport, s.completion = r.completion →
      r.error s.kind = if w.ledger.ended then none else report.error kind := by
    intro r hcompletion
    have hready := h.tells.ready_of_completion r hcompletion
    rw [hreport, Option.some.injEq] at hready
    rw [w.ledger.ended_of_open hready.2, if_neg Bool.false_ne_true, hready.1, h.kind_eq]
  have hpolling := s.polling_poll
  generalize s.poll.1 = event, s.poll.2 = next at hpolling hsome ⊢
  cases hpolling with
  | line text rest hline =>
      rw [hqueue] at hline
      exact absurd hline.symm (List.cons_ne_nil text rest)
  | pending _ _ => exact absurd rfl hsome
  | reported error _ _ hcompletion =>
      rw [EndReport.endError_some, hfirst (.made error) hcompletion]
  | abandoned _ _ hcompletion =>
      rw [EndReport.endError_none, hfirst .missing hcompletion]
  | past _ _ hcompletion =>
      rcases h.tells.told_of_completion hcompletion with ⟨r, _, hevents⟩
      rw [w.ledger.ended_of_over _ hevents, if_pos rfl]

/-- With right books, what is told next follows from them. -/
theorem orderly_of_kept (h : w.Kept kind capacity s) : w.Orderly kind capacity := by
  have hpoll := h.poll_eq
  refine ⟨⟨s, h.near, h.queue⟩, send_of_kept w kind capacity s h, ?_, ?_, ?_, ?_, ?_⟩
  · intro text rest haccepted
    have hqueue : s.queue = text :: rest := List.append_cancel_left (h.queue.trans haccepted)
    rw [hpoll, Stream.poll, hqueue]
  · rw [hpoll]
    exact pending_of_kept w kind capacity s h
  · intro hnone
    rw [hpoll] at hnone ⊢
    rw [s.poll_eq_self_of_none hnone, ← h.near]
  · intro report hlines hclosed hreport
    rw [hpoll]
    exact ending_of_kept w kind capacity s h report hlines hclosed hreport
  · cases h.tells with
    | awaiting _ _ hevents => exact Or.inl hevents
    | ready _ _ _ hevents => exact Or.inl hevents
    | told report hreport _ hclosed hqueue hevents =>
        rw [h.kind_eq] at hevents
        exact Or.inr ⟨report, hclosed, h.lines_eq_iff.mpr hqueue, hreport, hevents⟩

/-- The events of every stream are in order, whatever is done with it. -/
theorem orderly_after (launch : LaunchId) (process : Option ProcessId) (acts : List StreamAct) :
    ((begun launch kind process capacity).after acts).Orderly kind capacity := by
  rcases kept_after _ kind capacity _ acts (kept_begun kind capacity launch process) with ⟨s, h⟩
  exact orderly_of_kept _ kind capacity s h

/-- A report that comes before the last line is kept until the lines are told. -/
example : ((begun ⟨1⟩ .operation none 2).after [.far (.send "up"), .far (.report (some "exit 3")),
    .poll, .far (.send "done"), .poll, .poll, .far .close, .poll, .poll]).ledger.events =
      [.line "up", .line "done", .ended (some "exit 3"), .ended none] := by
  decide

end Observed

end FleetBoard
