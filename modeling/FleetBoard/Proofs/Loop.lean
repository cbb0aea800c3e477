import FleetBoard.Proofs.Opener
import FleetBoard.Proofs.Wiring
import FleetBoard.Workbench

/-!
# The Board in its Loop

The board together with whoever does its jobs. Each launch that the board asks
for is answered once, by a stream of that launch and of the kind it was made
for, or by the error that none could be started. Everything else is left open:
when an answer comes, what far ends do meanwhile, when the live stream is asked
for its next event and when that event is told, and whatever else the board is
told in between. A session asks and tells at once, which is one way among others
here.

Books are kept of the launches that were made, of those that have not been
answered, and of the one that opened the page. The board knows nothing of them.

## Main definitions

* `Launch.isAnswer`: What a launch is answered by.
* `Loop`: A session with the books that are kept of it.
* `LoopEvent`: What may happen from outside.
* `Loop.step`: The loop after something has happened.

## Theorems

* `Workbench.perform_launch`: The workbench answers every launch.
* `Loop.hear_poll`: To ask and to tell at once is what a session does.
-/

namespace FleetBoard

/-- Whether a launch is answered by a message: by a stream that was started for
    it, or by the error that none could be. -/
def Launch.isAnswer (launch : Launch) : Message → Bool
  | .streamStarted s => s.launch = launch.id ∧ s.kind = launch.kind
  | .streamEnded id kind error => id = launch.id ∧ kind = launch.kind ∧ error.isSome
  | _ => false

/-- Every launch is answered by the workbench, at once and with one message. -/
theorem Workbench.perform_launch (w : Workbench) (job : Job) (launch : Launch)
    (h : job.launch? = some launch) :
    ∃ m after, w.perform job = (.message 0 m, after) ∧ launch.isAnswer m = true := by
  have hstart : ∀ kind i, launch.kind = kind →
      launch.isAnswer (w.startStream launch.id kind i).1 = true := by
    intro kind i hkind
    rw [startStream]
    cases w.computer.start i with
    | error e => exact decide_eq_true ⟨rfl, hkind.symm, rfl⟩
    | ok started => exact decide_eq_true ⟨rfl, hkind.symm⟩
  cases job with
  | followLogs id root =>
      rw [Job.launch?, Option.some.injEq] at h
      rw [← h] at hstart ⊢
      exact ⟨_, _, rfl, hstart .logs _ rfl⟩
  | runOperation id dir args =>
      rw [Job.launch?, Option.some.injEq] at h
      rw [← h] at hstart ⊢
      exact ⟨_, _, rfl, hstart .operation _ rfl⟩
  | _ => exact absurd h (Option.some_ne_none launch).symm

/-- A session with the books that are kept of it. -/
structure Loop where
  session : Session
  /-- The launches that were made, in order. -/
  launched : List Launch := []
  /-- The launches whose answers are still to come. -/
  unanswered : List Launch := []
  /-- What the live stream has told and the board has not been told yet. -/
  news : List Message := []
  /-- The launch that opened the page. -/
  opener : Option Launch := none

/-- What may happen to a session from outside. -/
inductive LoopEvent
  /-- A launch is answered. -/
  | answer (launch : Launch) (m : Message)
  /-- The far end of a launch does something. -/
  | farEnd (launch : LaunchId) (act : FarAct)
  /-- The live stream is asked for its next event. -/
  | poll
  /-- The board is told one of the events of its streams. -/
  | hear (index : Nat)
  /-- The board is told something that comes from no stream. -/
  | tell (m : Message)

/-- Whether only a launch or a stream may bring a message. -/
def Message.isOfStream : Message → Bool
  | .streamStarted _ => true
  | .line .. => true
  | .streamEnded .. => true
  | _ => false

namespace Loop

/-- The loop to begin with. -/
def initial (timings : Timings) : Loop :=
  { session := { board := Board.initial timings } }

/-- The board takes a message, and its launches are entered in the books. -/
def take (l : Loop) (m : Message) : Loop :=
  { l with
    session := (l.session.take m).1
    launched := l.launched ++ Job.launches (l.session.take m).2
    unanswered := l.unanswered ++ Job.launches (l.session.take m).2
    opener := (l.session.take m).1.board.page.openedBy (l.session.take m).2 l.opener }

/-- The live stream is asked for its next event. -/
def poll (l : Loop) : Loop :=
  match l.session.board.page.stream? with
  | none => l
  | some stream =>
    match stream.poll.1 with
    | none => l
    | some event =>
      { l with
        session := l.session.setStream stream.poll.2
        news := l.news ++ [Session.messageOf stream.poll.2 event] }

/-- The loop after something has happened. What cannot happen changes nothing: an
    answer to a launch that was not made or has been answered, or a message that
    only a stream may bring. -/
def step (l : Loop) : LoopEvent → Loop
  | .answer launch m =>
    if launch ∈ l.unanswered ∧ launch.isAnswer m then
      { l with unanswered := l.unanswered.erase launch }.take m
    else l
  | .farEnd launch act => { l with session := l.session.farAct launch act }
  | .poll => l.poll
  | .hear index =>
    match l.news[index]? with
    | none => l
    | some m => { l with news := l.news.eraseIdx index }.take m
  | .tell m => if m.isOfStream then l else l.take m

/-- The loop after events, in their order. -/
def after (l : Loop) (events : List LoopEvent) : Loop :=
  events.foldl step l

variable (l : Loop)

/-- To ask the live stream for its next event and to tell it at once is what a
    session does. -/
theorem hear_poll (m : Message) (session : Session) (jobs : List Job)
    (h : l.session.poll = some (m, session, jobs)) :
    (l.poll.step (.hear l.news.length)).session = session ∧
      (l.poll.step (.hear l.news.length)).news = l.news := by
  rw [Session.poll] at h
  cases hlive : l.session.board.page.stream? with
  | none =>
      rw [hlive] at h
      exact absurd h (Option.some_ne_none _).symm
  | some stream =>
      rw [hlive] at h
      rcases hpoll : stream.poll with ⟨_ | event, next⟩
      · simp only [hpoll] at h
        exact absurd h (Option.some_ne_none _).symm
      · simp only [hpoll, Option.some.injEq, Prod.mk.injEq] at h
        have hpolled : l.poll = { l with
            session := l.session.setStream next
            news := l.news ++ [Session.messageOf next event] } := by
          rw [poll, hlive]
          dsimp only
          rw [hpoll]
        have herased : (l.news ++ [Session.messageOf next event]).eraseIdx l.news.length =
            l.news := by
          rw [List.eraseIdx_append_of_length_le (Nat.le_refl _), Nat.sub_self, List.eraseIdx_zero,
            List.tail_cons, List.append_nil]
        rw [hpolled, step]
        dsimp only
        rw [List.getElem?_concat_length, herased]
        have hdeliver : (l.session.setStream next).take (Session.messageOf next event) =
            (l.session.setStream next).deliver (Session.messageOf next event) := by
          cases event <;> rfl
        refine ⟨?_, rfl⟩
        change ((l.session.setStream next).take (Session.messageOf next event)).1 = session
        rw [hdeliver, h.2]

end Loop

end FleetBoard
