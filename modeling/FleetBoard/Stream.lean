/-!
# Streams

A running program whose lines are followed. The near end of a stream is a
bounded queue of lines and a slot for how the program ended. The queue running
dry is the only sign that the stream is over, and the slot is looked at after
that.

The far end sends lines and reports the end. A link holds what the far end still
has of the two, with the near end as long as somebody keeps it.

## Main definitions

* `Stream`: The near end of a stream.
* `Stream.poll`: The next event, if there is one yet.
* `Stream.offer`: A line for the queue, if it has room.
* `Link`: The far end of a stream with its near end.
* `Link.send`, `Link.close`, `Link.report`, `Link.abandon`: What the far end may
  do.
-/

namespace FleetBoard

/-- The number of a launch, by which late results of an earlier launch are told
    apart. -/
structure LaunchId where
  number : Nat
  deriving DecidableEq, Repr, Inhabited

/-- A launch as it is written in the log. -/
def LaunchId.label (id : LaunchId) : String :=
  "#" ++ toString id.number

/-- The number of a process, by which its tree can be killed. -/
structure ProcessId where
  number : Nat
  deriving DecidableEq, Repr

/-- What a stream is followed for. -/
inductive StreamKind
  /-- Logs, which end without a status. -/
  | logs
  /-- An operation, whose status is reported at the end. -/
  | operation
  deriving DecidableEq, Repr

/-- What the near end of a stream tells. -/
inductive StreamEvent
  | line (text : String)
  | ended (error : Option String)
  deriving DecidableEq, Repr

/-- What the slot for the end of a program holds. -/
inductive Completion
  /-- Nothing yet. -/
  | awaited
  /-- The error that the program ended with, if any. -/
  | reported (error : Option String)
  /-- The far end went away without a report. -/
  | abandoned
  /-- Nothing any more, since the end was told. -/
  | told
  deriving DecidableEq, Repr

/-- The near end of a stream. -/
structure Stream where
  launch : LaunchId
  kind : StreamKind
  process : Option ProcessId
  /-- How many lines may wait in the queue. -/
  capacity : Nat
  /-- The lines that wait in the queue, oldest first. -/
  queue : List String := []
  /-- Whether more lines may come. -/
  flowing : Bool := true
  completion : Completion := .awaited
  deriving DecidableEq, Repr

/-- The error of an operation whose far end went away without a report. -/
def missingStatus : String := "operation ended without reporting a status"

namespace Stream

/-- The error that the end of a stream is told with. Logs have none. -/
def endError (kind : StreamKind) (reported : Option (Option String)) : Option String :=
  match kind, reported with
  | .logs, _ => none
  | .operation, some error => error
  | .operation, none => some missingStatus

/-- The next event of a stream, or `none` while there is none yet. -/
def poll (s : Stream) : Option StreamEvent × Stream :=
  match s.queue with
  | line :: rest => (some (.line line), { s with queue := rest })
  | [] =>
    if s.flowing then (none, s)
    else
      match s.completion with
      | .awaited => (none, s)
      | .reported error =>
        (some (.ended (endError s.kind (some error))), { s with completion := .told })
      | .abandoned => (some (.ended (endError s.kind none)), { s with completion := .told })
      | .told => (some (.ended none), s)

/-- The stream with one more line in its queue, if that has room. -/
def offer (s : Stream) (line : String) : Option Stream :=
  if s.queue.length < s.capacity then some { s with queue := s.queue ++ [line] } else none

end Stream

/-- How the sending of a line went. -/
inductive SendAnswer
  | accepted
  | full
  /-- The near end is gone. -/
  | closed
  /-- The far end sends no more lines. -/
  | unknown
  deriving DecidableEq, Repr

/-- How the report of an end went. -/
inductive ReportAnswer
  | delivered
  /-- The near end is gone. -/
  | ignored
  /-- The far end has no report left to make. -/
  | unknown
  deriving DecidableEq, Repr

/-- The far end of a stream with its near end, if somebody keeps that. -/
structure Link where
  /-- Whether the far end may still send lines. -/
  sending : Bool := true
  /-- Whether the far end may still report the end. -/
  reporting : Bool := true
  near : Option Stream
  deriving DecidableEq, Repr

namespace Link

/-- A line is sent, without waiting for room. -/
def send (l : Link) (line : String) : SendAnswer × Link :=
  if !l.sending then (.unknown, l)
  else
    match l.near with
    | none => (.closed, l)
    | some s =>
      match s.offer line with
      | none => (.full, l)
      | some s => (.accepted, { l with near := some s })

/-- No more lines are sent. Whether they could have been is the answer. -/
def close (l : Link) : Bool × Link :=
  (l.sending,
    if l.sending then
      { l with sending := false, near := l.near.map fun s => { s with flowing := false } }
    else l)

/-- The end is reported. -/
def report (l : Link) (error : Option String) : ReportAnswer × Link :=
  if !l.reporting then (.unknown, l)
  else
    match l.near with
    | none => (.ignored, { l with reporting := false })
    | some s =>
      (.delivered,
        { l with reporting := false, near := some { s with completion := .reported error } })

/-- The end is not going to be reported. Whether it could have been is the
    answer. -/
def abandon (l : Link) : Bool × Link :=
  (l.reporting,
    if l.reporting then
      { l with
        reporting := false
        near := l.near.map fun s => { s with completion := .abandoned } }
    else l)

/-- The near end is asked for its next event. -/
def poll (l : Link) : Option StreamEvent × Link :=
  match l.near with
  | none => (none, l)
  | some s => (s.poll.1, { l with near := some s.poll.2 })

end Link

end FleetBoard
