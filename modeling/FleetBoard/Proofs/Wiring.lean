import FleetBoard.Proofs.Custody
import FleetBoard.Proofs.Opener
import FleetBoard.Session

/-!
# The Wiring of Far Ends

A session knows the far ends of the streams that were started in it, and says of
each whether the board still keeps its near end. A far end that is not connected
talks to nobody, so it matters that the session is right about it: a far end may
be connected only to a stream that is live and that was started for the same
launch. This is what `Wired` says.

Two things happen in a session. The board takes a message, which may take the
live stream away or bring one, but never puts one in the place of another. Or
somebody moves the live stream on: a far end sends a line or closes, and the
board asks for the next event. That changes nothing about the stream by which it
is told apart from others, and nothing else on the board.

## Main definitions

* `Stream.Continues`: The same stream, further on.
* `Board.Ahead`: The same board, with its live stream further on.
* `FarAct`: What a far end may do.
* `Session.take`: The session after any message.
* `Session.Wired`: Far ends are connected to their own streams only.
* `Session.Progress`: The same session, with its live stream further on.

## Theorems

* `Board.live_or_brought`: A live stream was live before or is brought.
* `Session.wired_take`: The wiring is right after every message.
* `Session.wired_of_progress`: The wiring stays right as streams go on.
* `Session.progress_farAct`, `Session.progress_setStream`: Streams go on.
-/

namespace FleetBoard

/-- The same stream, further on. -/
def Stream.Continues (s s' : Stream) : Prop :=
  s'.launch = s.launch ∧ s'.kind = s.kind ∧ s'.process = s.process

namespace Stream

theorem continues_refl (s : Stream) : s.Continues s := ⟨rfl, rfl, rfl⟩

theorem continues_poll (s : Stream) : s.Continues s.poll.2 := by
  unfold poll
  cases s.queue with
  | cons line rest => exact ⟨rfl, rfl, rfl⟩
  | nil =>
      dsimp only
      by_cases hflowing : s.flowing = true
      · rw [if_pos hflowing]
        exact continues_refl s
      · rw [if_neg hflowing]
        cases s.completion <;> exact ⟨rfl, rfl, rfl⟩

theorem continues_offer (s s' : Stream) (line : String) (h : s.offer line = some s') :
    s.Continues s' := by
  unfold offer at h
  by_cases hroom : s.queue.length < s.capacity
  · rw [if_pos hroom, Option.some.injEq] at h
    rw [← h]
    exact ⟨rfl, rfl, rfl⟩
  · rw [if_neg hroom] at h
    exact absurd h (Option.some_ne_none s').symm

end Stream

/-- What a far end may do. -/
inductive FarAct
  | send (line : String)
  | close
  | report (error : Option String)
  | abandon
  deriving DecidableEq, Repr

namespace FarAct

/-- The link after its far end has done something. -/
def run : FarAct → Link → Link
  | .send line, l => (l.send line).2
  | .close, l => l.close.2
  | .report error, l => (l.report error).2
  | .abandon, l => l.abandon.2

/-- Whatever a far end does, the near end stays as it is or is the same stream,
    further on. -/
theorem run_near (act : FarAct) (l : Link) : (act.run l).near = l.near ∨
    ∃ s s' : Stream, l.near = some s ∧ s.Continues s' ∧ (act.run l).near = some s' := by
  -- An act that only changes what the near end holds.
  have hmap : ∀ f : Stream → Stream, (∀ s : Stream, s.Continues (f s)) →
      (l.near.map f = l.near ∨
        ∃ s s' : Stream, l.near = some s ∧ s.Continues s' ∧ l.near.map f = some s') := by
    intro f hf
    cases l.near with
    | none => exact Or.inl rfl
    | some s => exact Or.inr ⟨s, f s, rfl, hf s, rfl⟩
  cases act with
  | send line =>
      rw [run, Link.send]
      by_cases hsending : l.sending = true
      · rw [if_neg (by rw [hsending]; exact Bool.false_ne_true)]
        cases hnear : l.near with
        | none => exact Or.inl hnear
        | some s =>
            dsimp only
            cases hoffer : s.offer line with
            | none => exact Or.inl hnear
            | some s' => exact Or.inr ⟨s, s', rfl, s.continues_offer s' line hoffer, rfl⟩
      · rw [if_pos (by rw [Bool.eq_false_iff.mpr hsending]; rfl)]
        exact Or.inl rfl
  | close =>
      rw [run, Link.close]
      by_cases hsending : l.sending = true
      · dsimp only
        rw [if_pos hsending]
        exact hmap _ fun s => ⟨rfl, rfl, rfl⟩
      · dsimp only
        rw [if_neg hsending]
        exact Or.inl rfl
  | report error =>
      rw [run, Link.report]
      by_cases hreporting : l.reporting = true
      · rw [if_neg (by rw [hreporting]; exact Bool.false_ne_true)]
        cases hnear : l.near with
        | none => exact Or.inl rfl
        | some s =>
            exact Or.inr ⟨s, { s with completion := .reported error }, rfl, ⟨rfl, rfl, rfl⟩, rfl⟩
      · rw [if_pos (by rw [Bool.eq_false_iff.mpr hreporting]; rfl)]
        exact Or.inl rfl
  | abandon =>
      rw [run, Link.abandon]
      by_cases hreporting : l.reporting = true
      · dsimp only
        rw [if_pos hreporting]
        exact hmap _ fun s => ⟨rfl, rfl, rfl⟩
      · dsimp only
        rw [if_neg hreporting]
        exact Or.inl rfl

end FarAct

/-- The same board, with its live stream further on. -/
inductive Board.Ahead (b : Board) : Board → Prop
  | still : Ahead b b
  | moved (s s' : Stream) (hlive : b.page.stream? = some s) (hcontinues : s.Continues s') :
    Ahead b { b with page := b.page.setSlot (.live s') }

namespace Board

theorem slot?_of_stream? (b : Board) (s : Stream) (h : b.page.stream? = some s) :
    b.page.watch.slot? = some (.live s) := by
  rw [Page.slot?_watch]
  rw [Page.stream?, Option.bind_eq_some_iff] at h
  rcases h with ⟨slot, hslot, hstream⟩
  cases slot with
  | pending id => exact absurd hstream (Option.some_ne_none s).symm
  | closed => exact absurd hstream (Option.some_ne_none s).symm
  | live s' =>
      rw [Slot.stream?, Option.some.injEq] at hstream
      rw [hslot, hstream]

variable (b b' : Board)

theorem launches_of_ahead (h : b.Ahead b') : b'.launches = b.launches := by
  cases h <;> rfl

theorem kind?_of_ahead (h : b.Ahead b') : b'.page.watch.kind? = b.page.watch.kind? := by
  cases h with
  | still => rfl
  | moved s s' _ _ => rw [Page.watch_setSlot, Watch.kind?_setSlot]

/-- Nothing is waited for that was not waited for before. -/
theorem pending_of_ahead (h : b.Ahead b') (launch : LaunchId)
    (hpending : b'.page.watch.slot? = some (.pending launch)) :
    b.page.watch.slot? = some (.pending launch) := by
  cases h with
  | still => exact hpending
  | moved s s' hlive _ =>
      rw [Page.watch_setSlot, Watch.slot?_setSlot, slot?_of_stream? b s hlive, Option.map_some,
        Option.some.injEq] at hpending
      exact Slot.noConfusion hpending

/-- What is live now is what was live before. -/
theorem live_of_ahead (h : b.Ahead b') (s' : Stream) (hlive' : b'.page.stream? = some s') :
    ∃ s, b.page.stream? = some s ∧ s.Continues s' := by
  cases h with
  | still => exact ⟨s', hlive', s'.continues_refl⟩
  | moved s t hlive hcontinues =>
      refine ⟨s, hlive, ?_⟩
      rw [← Page.stream?_watch, Page.watch_setSlot, Watch.stream?, Watch.slot?_setSlot,
        slot?_of_stream? b s hlive, Option.map_some, Option.bind_some, Slot.stream?,
        Option.some.injEq] at hlive'
      rw [← hlive']
      exact hcontinues

theorem live_ahead (h : b.Ahead b') (s : Stream) (hlive : b.page.stream? = some s) :
    ∃ s', b'.page.stream? = some s' ∧ s.Continues s' := by
  cases h with
  | still => exact ⟨s, hlive, s.continues_refl⟩
  | moved t s' hlive' hcontinues =>
      rw [hlive, Option.some.injEq] at hlive'
      rw [← hlive'] at hcontinues
      refine ⟨s', ?_, hcontinues⟩
      rw [← Page.stream?_watch, Page.watch_setSlot, Watch.stream?, Watch.slot?_setSlot,
        slot?_of_stream? b s hlive]
      rfl

theorem sound_of_ahead (h : b.Ahead b') (hb : b.page.watch.Sound b.launches) :
    b'.page.watch.Sound b'.launches := by
  cases h with
  | still => exact hb
  | moved s s' hlive hcontinues =>
      have hslot := slot?_of_stream? b s hlive
      rw [Page.watch_setSlot]
      refine Watch.sound_setSlot _ _ _ hb (fun id hid => ⟨_, hslot, ?_⟩) (Or.inr ?_)
      · rw [Slot.expects, decide_eq_true_eq] at hid ⊢
        rw [← hcontinues.1]
        exact hid
      · rw [hslot, ne_eq, Option.some.injEq]
        exact Slot.noConfusion

/-- A live stream was live before, or it is brought to a page that waits for it
    and has no other. -/
theorem live_or_brought (m : Message) (s : Stream) (hb : b.page.watch.Sound b.launches)
    (h : (b.update m).1.page.stream? = some s) : b.page.stream? = some s ∨
      (m = .streamStarted s ∧ b.page.slot? = some (.pending s.launch) ∧
        b.page.stream? = none) := by
  cases handling_of_move b _ m _ (update_move b m) hb with
  | kept _ hafter _ =>
      rw [hafter] at h
      exact Or.inl h
  | refused _ _ hafter _ =>
      rw [hafter] at h
      exact Or.inl h
  | adopted t hm hpending hbefore hafter _ =>
      rw [hafter, Option.some.injEq] at h
      rw [h] at hm hpending
      exact Or.inr ⟨hm, hpending, hbefore⟩
  | ended _ _ _ _ _ hafter _ =>
      rw [Page.stream?, hafter] at h
      exact absurd h (Option.some_ne_none s).symm
  | givenUp _ _ hafter _ =>
      rw [hafter] at h
      exact absurd h (Option.some_ne_none s).symm

/-- A stream that a page waits for becomes live. -/
theorem stream?_takeStream (s : Stream) (h : b.page.slot? = some (.pending s.launch)) :
    (b.takeStream s).1.page.stream? = some s := by
  rw [takeStream, if_pos h, ← Page.stream?_watch, Page.watch_setSlot, Watch.stream?,
    Watch.slot?_setSlot, Page.slot?_watch, h]
  rfl

end Board

namespace Session

/-- The session after any message. A stream comes with its far end. -/
def take (s : Session) : Message → Session × List Job
  | .streamStarted stream => s.start stream
  | m => s.deliver m

/-- The session after the far end of a launch has done something. -/
def farAct (s : Session) (launch : LaunchId) (act : FarAct) : Session :=
  (s.withLink launch () fun l => ((), act.run l)).2

/-- Far ends are connected to their own streams only. -/
structure Wired (s : Session) : Prop where
  /-- No launch has two far ends. -/
  nodup : (s.farEnds.map FarEnd.launch).Nodup
  connected : ∀ e ∈ s.farEnds, e.connected = true →
    ∃ stream, s.board.page.stream? = some stream ∧ stream.launch = e.launch

/-- The same session, with its live stream further on. -/
structure Progress (s s' : Session) : Prop where
  board : s.board.Ahead s'.board
  launches : s'.farEnds.map FarEnd.launch = s.farEnds.map FarEnd.launch
  connected : ∀ e' ∈ s'.farEnds, e'.connected = true →
    ∃ e ∈ s.farEnds, e.connected = true ∧ e.launch = e'.launch

variable (s : Session)

theorem progress_setStream (stream stream' : Stream) (hlive : s.board.page.stream? = some stream)
    (hcontinues : stream.Continues stream') : s.Progress (s.setStream stream') where
  board := .moved stream stream' hlive hcontinues
  launches := rfl
  connected := fun e' he' hconnected => ⟨e', he', hconnected, rfl⟩

/-- The near end of a link is the live stream, if it is anybody. -/
theorem live_of_linkOf (e : FarEnd) (stream : Stream) (h : (s.linkOf e).near = some stream) :
    s.board.page.stream? = some stream := by
  rw [linkOf] at h
  dsimp only at h
  by_cases hconnected : e.connected = true
  · rw [if_pos hconnected] at h
    exact h
  · rw [if_neg hconnected] at h
    exact absurd h (Option.some_ne_none stream).symm

/-- A link is put back. If its near end is the live stream, further on, then the
    session has made progress. -/
theorem progress_putLink (e : FarEnd) (l : Link) (he : e ∈ s.farEnds)
    (hnear : ∀ stream', l.near = some stream' →
      ∃ stream, s.board.page.stream? = some stream ∧ stream.Continues stream') :
    s.Progress (s.putLink e l) := by
  -- The far ends are the same on both paths, only the board differs.
  have hends : (s.putLink e l).farEnds = s.farEnds.map fun other =>
      if other.launch = e.launch then { e with sending := l.sending, reporting := l.reporting }
      else other := by
    rw [putLink]
    cases l.near <;> rfl
  refine ⟨?_, ?_, ?_⟩
  · rw [putLink]
    cases hstream : l.near with
    | none => exact .still
    | some stream' =>
        rcases hnear stream' hstream with ⟨stream, hlive, hcontinues⟩
        exact .moved stream stream' hlive hcontinues
  · rw [hends, List.map_map]
    refine List.map_congr_left fun other _ => ?_
    rw [Function.comp_apply]
    by_cases hsame : other.launch = e.launch
    · rw [if_pos hsame, hsame]
    · rw [if_neg hsame]
  · intro e' he' hconnected
    rw [hends, List.mem_map] at he'
    rcases he' with ⟨other, hother, heq⟩
    by_cases hsame : other.launch = e.launch
    · rw [if_pos hsame] at heq
      rw [← heq] at hconnected ⊢
      exact ⟨e, he, hconnected, rfl⟩
    · rw [if_neg hsame] at heq
      rw [← heq] at hconnected ⊢
      exact ⟨other, hother, hconnected, rfl⟩

theorem progress_farAct (launch : LaunchId) (act : FarAct) : s.Progress (s.farAct launch act) := by
  rw [farAct, withLink]
  cases hend : s.farEnd? launch with
  | none => exact ⟨.still, rfl, fun e' he' hconnected => ⟨e', he', hconnected, rfl⟩⟩
  | some e =>
      refine progress_putLink s e _ (List.mem_of_find?_eq_some hend) fun stream' hnear => ?_
      rcases act.run_near (s.linkOf e) with hsame | ⟨stream, t, hbefore, hcontinues, hafter⟩
      · exact ⟨stream', live_of_linkOf s e stream' (hsame.symm.trans hnear),
          stream'.continues_refl⟩
      · have ht : t = stream' := Option.some.inj (hafter.symm.trans hnear)
        rw [ht] at hcontinues
        exact ⟨stream, live_of_linkOf s e stream hbefore, hcontinues⟩

theorem wired_of_progress (s' : Session) (h : s.Progress s') (hs : s.Wired) : s'.Wired := by
  refine ⟨?_, fun e' he' hconnected' => ?_⟩
  · rw [h.launches]
    exact hs.nodup
  · rcases h.connected e' he' hconnected' with ⟨e, he, hconnected, hlaunch⟩
    rcases hs.connected e he hconnected with ⟨stream, hlive, hstream⟩
    rcases Board.live_ahead _ _ h.board stream hlive with ⟨stream', hlive', hcontinues⟩
    exact ⟨stream', hlive', by rw [hcontinues.1, hstream, hlaunch]⟩

/-- A launch without a far end has none to go away. -/
theorem dropFarEnd_of_fresh (launch : LaunchId) (h : ∀ e ∈ s.farEnds, e.launch ≠ launch) :
    s.dropFarEnd launch = s := by
  have hnone : s.farEnd? launch = none := by
    rw [farEnd?, List.find?_eq_none]
    intro e he
    rw [decide_eq_true_eq]
    exact h e he
  have hlink : ∀ act : Link → Bool × Link, (s.withLink launch false act).2 = s := by
    intro act
    rw [withLink, hnone]
  have hfilter : (s.farEnds.filter fun e => e.launch ≠ launch) = s.farEnds := by
    rw [List.filter_eq_self]
    intro e he
    exact decide_eq_true (h e he)
  rw [dropFarEnd, hlink, hlink, hfilter]

/-- A stream that is brought has a launch without a far end so far. -/
def Fresh (m : Message) : Prop :=
  ∀ stream, m = .streamStarted stream → ∀ e ∈ s.farEnds, e.launch ≠ stream.launch

theorem start_of_fresh (stream : Stream) (h : ∀ e ∈ s.farEnds, e.launch ≠ stream.launch) :
    s.start stream =
      ({ board := (s.board.takeStream stream).1
         farEnds :=
          { launch := stream.launch
            connected := s.board.page.slot? = some (.pending stream.launch) } ::
            disconnect (s.board.takeStream stream).1 s.farEnds },
        (s.board.takeStream stream).2) := by
  rw [start, dropFarEnd_of_fresh s stream.launch h]
  rfl

/-- The board of a session takes every message as it does alone. -/
theorem take_board (m : Message) (hfresh : s.Fresh m) :
    (s.take m).1.board = (s.board.update m).1 ∧ (s.take m).2 = (s.board.update m).2 := by
  cases m with
  | streamStarted stream =>
      rw [take, start_of_fresh s stream (hfresh stream rfl)]
      exact ⟨rfl, rfl⟩
  | _ => exact ⟨rfl, rfl⟩

theorem map_launch_disconnect (board : Board) (ends : List FarEnd) :
    (disconnect board ends).map FarEnd.launch = ends.map FarEnd.launch := by
  rw [disconnect, List.map_map]
  rfl

/-- Every far end was there before, or comes with its stream. -/
theorem mem_farEnds_take (m : Message) (hfresh : s.Fresh m) (e : FarEnd)
    (he : e ∈ (s.take m).1.farEnds) : (∃ before ∈ s.farEnds, before.launch = e.launch) ∨
      ∃ stream, m = .streamStarted stream ∧ e.launch = stream.launch := by
  have hbefore : ∀ board, e ∈ disconnect board s.farEnds →
      ∃ before ∈ s.farEnds, before.launch = e.launch := by
    intro board hmem
    have hlaunch : e.launch ∈ (disconnect board s.farEnds).map FarEnd.launch :=
      List.mem_map_of_mem hmem
    rw [map_launch_disconnect] at hlaunch
    exact List.mem_map.mp hlaunch
  cases m with
  | streamStarted stream =>
      rw [take, start_of_fresh s stream (hfresh stream rfl), List.mem_cons] at he
      rcases he with hnew | hold
      · exact Or.inr ⟨stream, rfl, by rw [hnew]⟩
      · exact Or.inl (hbefore _ hold)
  | _ => exact Or.inl (hbefore _ he)

/-- A far end that is still connected after a message has still the same stream. -/
theorem connected_disconnect (m : Message) (hb : s.board.page.watch.Sound s.board.launches)
    (hs : s.Wired) (e : FarEnd) (he : e ∈ disconnect (s.board.update m).1 s.farEnds)
    (hconnected : e.connected = true) :
    ∃ stream, (s.board.update m).1.page.stream? = some stream ∧ stream.launch = e.launch := by
  rw [disconnect, List.mem_map] at he
  rcases he with ⟨before, hbefore, heq⟩
  rw [← heq, Bool.and_eq_true, Option.isSome_iff_exists] at hconnected
  rcases hconnected with ⟨hconnected, stream, hlive⟩
  rcases hs.connected before hbefore hconnected with ⟨stream', hlive', hlaunch⟩
  refine ⟨stream, hlive, ?_⟩
  -- A live stream is not exchanged for another.
  rcases Board.live_or_brought s.board m stream hb hlive with hsame | ⟨_, _, hnone⟩
  · rw [hlive', Option.some.injEq] at hsame
    rw [← hsame, hlaunch, ← heq]
  · rw [hlive'] at hnone
    exact absurd hnone (Option.some_ne_none stream')

theorem wired_deliver (m : Message) (hb : s.board.page.watch.Sound s.board.launches)
    (hs : s.Wired) : (s.deliver m).1.Wired := by
  refine ⟨?_, fun e he hconnected => connected_disconnect s m hb hs e he hconnected⟩
  rw [deliver, map_launch_disconnect]
  exact hs.nodup

/-- The wiring is right after every message. -/
theorem wired_take (m : Message) (hb : s.board.page.watch.Sound s.board.launches)
    (hfresh : s.Fresh m) (hs : s.Wired) : (s.take m).1.Wired := by
  cases m with
  | streamStarted stream =>
      have hother := hfresh stream rfl
      rw [take, start_of_fresh s stream hother]
      refine ⟨?_, fun e he hconnected => ?_⟩
      · rw [List.map_cons, map_launch_disconnect, List.nodup_cons]
        refine ⟨fun hmem => ?_, hs.nodup⟩
        rcases List.mem_map.mp hmem with ⟨e, he, hlaunch⟩
        exact hother e he hlaunch
      · rcases List.mem_cons.mp he with hnew | hold
        · rw [hnew] at hconnected ⊢
          exact ⟨stream, Board.stream?_takeStream s.board stream (of_decide_eq_true hconnected), rfl⟩
        · exact connected_disconnect s (.streamStarted stream) hb hs e hold hconnected
  | _ => exact wired_deliver s _ hb hs

/-- At most one far end is connected. -/
theorem connected_le_one (hs : s.Wired) : (s.farEnds.filter FarEnd.connected).length ≤ 1 := by
  have hnodup : ((s.farEnds.filter FarEnd.connected).map FarEnd.launch).Nodup :=
    hs.nodup.sublist (List.filter_sublist.map FarEnd.launch)
  have hstream : ∀ e ∈ s.farEnds.filter FarEnd.connected,
      ∃ stream, s.board.page.stream? = some stream ∧ stream.launch = e.launch := by
    intro e he
    rw [List.mem_filter] at he
    exact hs.connected e he.1 he.2
  rcases hends : s.farEnds.filter FarEnd.connected with _ | ⟨e, _ | ⟨e', rest⟩⟩
  · exact Nat.zero_le 1
  · exact Nat.le_refl 1
  · rw [hends] at hnodup hstream
    -- Two of them would be connected to one stream, and have one launch.
    rcases hstream e List.mem_cons_self with ⟨stream, hlive, hlaunch⟩
    rcases hstream e' (List.mem_cons_of_mem e List.mem_cons_self) with ⟨stream', hlive', hlaunch'⟩
    rw [hlive, Option.some.injEq] at hlive'
    rw [← hlive', hlaunch] at hlaunch'
    rw [List.map_cons, List.map_cons, List.nodup_cons, hlaunch'] at hnodup
    exact absurd List.mem_cons_self hnodup.1

end Session

end FleetBoard
