import FleetBoard.Stream

/-!
# What a Stream Tells

What one question to the near end of a stream can come to, said once. The queue is
looked at first, then whether more lines may come, and the slot for the end last.
So each answer tells something of all three: a line only that it was the oldest one
waiting, and an end that no line waits, that none will come, and that the slot has
been seen to.

What was told by many questions is a list of events, and only two shapes of it
matter. Either it is lines and nothing else, or it is lines, then the end with some
error, and then the end without one, as often as somebody asked again.

## Main definitions

* `StreamEvent.lines`: The lines among some events.
* `StreamEvent.Open`, `StreamEvent.Over`: The two shapes of what was told.
* `Stream.Polling`: What a question comes to.

## Theorems

* `open_concat`, `over_concat_of_open`, `over_concat`: How the shapes go on.
* `polling_poll`: Every question comes to one of the cases.
* `poll_eq_self_of_none`: A question without an answer changes nothing.
-/

namespace FleetBoard

namespace StreamEvent

/-- The line that is told. -/
def line? : StreamEvent → Option String
  | .line text => some text
  | .ended _ => none

/-- The lines among some events. -/
def lines (events : List StreamEvent) : List String :=
  events.filterMap line?

/-- Nothing but lines was told. -/
def Open (events : List StreamEvent) : Prop :=
  events = (lines events).map .line

/-- Lines were told, then the end with an error, and then the end without one, any
    number of times. -/
def Over (error : Option String) (events : List StreamEvent) : Prop :=
  ∃ again, events =
    (lines events).map .line ++ .ended error :: List.replicate again (.ended none)

variable (events : List StreamEvent)

theorem lines_concat_line (text : String) :
    lines (events ++ [.line text]) = lines events ++ [text] := by
  rw [lines, List.filterMap_append]
  rfl

theorem lines_concat_ended (error : Option String) :
    lines (events ++ [.ended error]) = lines events := by
  rw [lines, List.filterMap_append]
  exact List.append_nil _

theorem open_concat (text : String) (h : Open events) : Open (events ++ [.line text]) := by
  rw [Open, lines_concat_line, List.map_append, ← h]
  rfl

theorem over_concat_of_open (error : Option String) (h : Open events) :
    Over error (events ++ [.ended error]) := by
  refine ⟨0, ?_⟩
  rw [lines_concat_ended, ← h]
  rfl

theorem over_concat (error : Option String) (h : Over error events) :
    Over error (events ++ [.ended none]) := by
  rcases h with ⟨again, hevents⟩
  refine ⟨again + 1, ?_⟩
  rw [lines_concat_ended, List.replicate_succ', ← List.cons_append, ← List.append_assoc, ← hevents]

end StreamEvent

namespace Stream

/-- What the question for the next event comes to: the event, if there is one, and
    the stream after it. -/
inductive Polling (s : Stream) : Option StreamEvent → Stream → Prop
  /-- The oldest line is told. -/
  | line (text : String) (rest : List String) (hqueue : s.queue = text :: rest) :
    Polling s (some (.line text)) { s with queue := rest }
  /-- There is nothing to tell yet. -/
  | pending (hqueue : s.queue = []) (hwait : s.flowing = true ∨ s.completion = .awaited) :
    Polling s none s
  /-- The end is told as it was reported. -/
  | reported (error : Option String) (hqueue : s.queue = []) (hdry : s.flowing = false)
    (hcompletion : s.completion = .reported error) :
    Polling s (some (.ended (endError s.kind (some error)))) { s with completion := .told }
  /-- The end is told without a report. -/
  | abandoned (hqueue : s.queue = []) (hdry : s.flowing = false)
    (hcompletion : s.completion = .abandoned) :
    Polling s (some (.ended (endError s.kind none))) { s with completion := .told }
  /-- The end was told before. -/
  | past (hqueue : s.queue = []) (hdry : s.flowing = false) (hcompletion : s.completion = .told) :
    Polling s (some (.ended none)) s

variable (s : Stream)

/-- Every question comes to one of these, on every stream. -/
theorem polling_poll : s.Polling s.poll.1 s.poll.2 := by
  rcases s with ⟨launch, kind, process, capacity, queue, flowing, completion⟩
  cases queue with
  | cons text rest => exact .line text rest rfl
  | nil =>
      cases flowing with
      | true => exact .pending rfl (Or.inl rfl)
      | false =>
          cases completion with
          | awaited => exact .pending rfl (Or.inr rfl)
          | reported error => exact .reported error rfl rfl rfl
          | abandoned => exact .abandoned rfl rfl rfl
          | told => exact .past rfl rfl rfl

/-- A question without an answer changes nothing. -/
theorem poll_eq_self_of_none (h : s.poll.1 = none) : s.poll.2 = s := by
  have hpolling := s.polling_poll
  rw [h] at hpolling
  generalize s.poll.2 = next at hpolling ⊢
  cases hpolling with
  | pending _ _ => rfl

end Stream

end FleetBoard
