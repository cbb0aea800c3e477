import FleetBoard.Board.Update

/-!
# Sessions

A board together with the far ends of the streams that were started for it. The
board keeps at most one near end. Once it lets go of that, the far end finds
nobody there.

## Main definitions

* `FarEnd`: What the far end of a stream still has.
* `Session`: A board with the far ends of its streams.
* `Session.deliver`: The session after a message.
* `Session.start`: The session after a stream was started.
* `Session.poll`: The next news of the live stream, delivered.
* `Session.withLink`: What a far end may do, done in a session.
-/

namespace FleetBoard

/-- What the far end of a stream still has. -/
structure FarEnd where
  launch : LaunchId
  sending : Bool := true
  reporting : Bool := true
  /-- Whether the board keeps the near end. -/
  connected : Bool
  deriving DecidableEq, Repr

/-- A board with the far ends of the streams that were started for it. -/
structure Session where
  board : Board
  farEnds : List FarEnd := []
  deriving DecidableEq, Repr

namespace Session

/-- The session with another near end on its board. -/
def setStream (s : Session) (stream : Stream) : Session :=
  { s with board := { s.board with page := s.board.page.setSlot (.live stream) } }

/-- The far ends after the board has changed. -/
def disconnect (board : Board) (ends : List FarEnd) : List FarEnd :=
  ends.map fun e => { e with connected := e.connected && board.page.stream?.isSome }

/-- The session after a message, with the jobs the board asks for. -/
def deliver (s : Session) (m : Message) : Session × List Job :=
  let (board, jobs) := s.board.update m
  ({ board := board, farEnds := disconnect board s.farEnds }, jobs)

/-- The link of a far end in a session. -/
def linkOf (s : Session) (e : FarEnd) : Link :=
  { sending := e.sending
    reporting := e.reporting
    near := if e.connected then s.board.page.stream? else none }

/-- The session after the link of a far end has changed. -/
def putLink (s : Session) (e : FarEnd) (l : Link) : Session :=
  let ends := s.farEnds.map fun other =>
    if other.launch = e.launch then { e with sending := l.sending, reporting := l.reporting }
    else other
  let s := { s with farEnds := ends }
  match l.near with
  | some stream => s.setStream stream
  | none => s

/-- The far end of a launch. -/
def farEnd? (s : Session) (launch : LaunchId) : Option FarEnd :=
  s.farEnds.find? fun e => e.launch = launch

/-- What the far end of a launch does, done in a session. `absent` is the answer
    where no such stream was started. -/
def withLink {α : Type} (s : Session) (launch : LaunchId) (absent : α) (act : Link → α × Link) :
    α × Session :=
  match s.farEnd? launch with
  | none => (absent, s)
  | some e => ((act (s.linkOf e)).1, s.putLink e (act (s.linkOf e)).2)

/-- The far end of a launch goes away. -/
def dropFarEnd (s : Session) (launch : LaunchId) : Session :=
  let s := (s.withLink launch false Link.close).2
  let s := (s.withLink launch false Link.abandon).2
  { s with farEnds := s.farEnds.filter fun e => e.launch ≠ launch }

/-- The session after a stream was started. An earlier far end of the same launch
    goes away. -/
def start (s : Session) (stream : Stream) : Session × List Job :=
  let s := s.dropFarEnd stream.launch
  let adopted := s.board.page.slot? = some (.pending stream.launch)
  let (s, jobs) := s.deliver (.streamStarted stream)
  ({ s with farEnds := { launch := stream.launch, connected := adopted } :: s.farEnds }, jobs)

/-- The message that an event of a stream amounts to. -/
def messageOf (stream : Stream) : StreamEvent → Message
  | .line text => .line stream.launch text
  | .ended error => .streamEnded stream.launch stream.kind error

/-- The next news of the live stream, if there is any yet, delivered. -/
def poll (s : Session) : Option (Message × Session × List Job) :=
  match s.board.page.stream? with
  | none => none
  | some stream =>
    match stream.poll with
    | (none, _) => none
    | (some event, stream) =>
      let m := messageOf stream event
      some (m, (s.setStream stream).deliver m)

end Session

end FleetBoard
