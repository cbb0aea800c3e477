import FleetBoard.Proofs.Loop
import Mathlib.Data.List.Nodup

/-!
# The Closed Loop

What holds of a board whose launches are answered, in whatever order things
happen.

The board never looks at the kind of a stream. That streams of logs are found on
pages of logs all the same, and streams of operations on theirs, rests on the
numbers alone: a number is given out once, so an answer that fits the number of
a page fits the launch that opened it. `Booked` keeps what this needs.

The other invariant, `Waits`, is about progress: a page waits only for a launch
whose answer is still to come. An answer is taken off the books in the very step
in which the page stops waiting for it.

## Main definitions

* `Message.Settles`: A message settles a launch.
* `Loop.Booked`: The books are right.
* `Loop.Waits`: The page waits only for what is to come.
* `Loop.MayTake`: A message brings no stream but one of a launch just answered.

## Theorems

* `pending_of_move`: What a page waits for.
* `booked_take`, `waits_take`: The invariants as a message is taken.
* `booked_progress`, `waits_progress`: The invariants as streams go on.
* `step_preserves`: Every step preserves the invariants.
* `launches_accounted_for`: All launches are accounted for.
-/

namespace FleetBoard

/-- A message settles a launch: its stream comes, or its end. -/
def Message.Settles (launch : LaunchId) : Message → Prop
  | .streamStarted s => s.launch = launch
  | .streamEnded id _ _ => id = launch
  | _ => False

/-- A page waits for a launch that it waited for before, and that the message
    does not settle, or for the one that is made in the step. -/
theorem Board.pending_of_move (b b' : Board) (m : Message) (jobs : List Job)
    (hmove : Move b m b' jobs) (launch : LaunchId)
    (h : b'.page.watch.slot? = some (.pending launch)) :
    (b.page.watch.slot? = some (.pending launch) ∧ ¬ m.Settles launch) ∨
    (∃ new, Job.launches jobs = [new] ∧ new.id = launch) := by
  cases hmove with
  | quiet hm hwatch _ _ =>
      rw [hwatch] at h
      refine Or.inl ⟨h, fun hsettles => ?_⟩
      -- What settles the launch would have been noticed.
      cases m with
      | streamStarted s => exact hm
      | streamEnded id kind error =>
          have hnot := hm _ h
          rw [Slot.expects, decide_eq_false_iff_not] at hnot
          exact hnot hsettles.symm
      | _ => exact hsettles
  | refused s hm hslot hboard _ =>
      rw [hboard] at h
      refine Or.inl ⟨h, fun hsettles => hslot ?_⟩
      rw [hm] at hsettles
      rw [h, hsettles]
  | adopted s _ hslot hwatch _ _ =>
      rw [hwatch, Watch.slot?_setSlot, hslot, Option.map_some, Option.some.injEq] at h
      exact Slot.noConfusion h
  | logsEnded _ _ _ _ _ _ _ hafter _ _ =>
      rw [hafter, Watch.slot?, Option.some.injEq] at h
      exact Slot.noConfusion h
  | operationEnded _ _ _ _ _ _ _ _ _ _ hafter _ _ =>
      rw [hafter, Watch.slot?, Option.some.injEq] at h
      exact Slot.noConfusion h
  | returned _ _ _ _ hafter _ _ =>
      rw [hafter] at h
      exact absurd h (Option.some_ne_none _).symm
  | quit _ _ hwatch _ _ =>
      rw [hwatch, Watch.slot?_setSlot, Option.map_eq_some_iff] at h
      rcases h with ⟨_, _, hclosed⟩
      exact Slot.noConfusion hclosed
  | left _ _ _ _ hafter _ _ =>
      rw [hafter] at h
      exact absurd h (Option.some_ne_none _).symm
  | launched _ new job _ _ _ hafter _ hjob hjobs =>
      rw [hafter, Watch.slot?_opening, Option.some.injEq, Slot.pending.injEq] at h
      refine Or.inr ⟨new, ?_, h⟩
      rw [Job.launches_of_streamJobs jobs _ hjobs]
      exact (Job.only_launch_of_launch? job new hjob).1

namespace Loop

/-- The books are right. -/
structure Booked (l : Loop) : Prop where
  sound : l.session.board.page.watch.Sound l.session.board.launches
  opened : l.session.board.OpenedBy l.opener
  numbered : ∀ launch ∈ l.launched, launch.id.number ≤ l.session.board.launches
  distinct : (l.launched.map Launch.id).Nodup
  unanswered : l.unanswered.Sublist l.launched
  opener : ∀ launch, l.opener = some launch → launch ∈ l.launched
  /-- The live stream was started for the launch that opened the page. -/
  live : ∀ s, l.session.board.page.stream? = some s →
    ∃ launch, l.opener = some launch ∧ s.launch = launch.id ∧ s.kind = launch.kind
  wired : l.session.Wired
  /-- A launch that has a far end was answered. -/
  answered : ∀ e ∈ l.session.farEnds,
    ∃ launch ∈ l.launched, launch.id = e.launch ∧ launch ∉ l.unanswered
  news : ∀ m ∈ l.news, ∀ s, m ≠ .streamStarted s

/-- The page waits only for a launch whose answer is still to come. -/
def Waits (l : Loop) : Prop :=
  ∀ id, l.session.board.page.watch.slot? = some (.pending id) →
    ∃ launch ∈ l.unanswered, launch.id = id

/-- A stream that a message brings was started for a launch that has just been
    answered, and is its first. -/
def MayTake (l : Loop) (m : Message) : Prop :=
  ∀ s, m = .streamStarted s →
    (∃ launch ∈ l.launched, launch ∉ l.unanswered ∧ launch.id = s.launch ∧ launch.kind = s.kind) ∧
    ∀ e ∈ l.session.farEnds, e.launch ≠ s.launch

section Take

variable (l : Loop) (m : Message) (hl : l.Booked) (hm : l.MayTake m)

include hm in
theorem fresh_of_mayTake : l.session.Fresh m :=
  fun s hs => (hm s hs).2

include hm in
theorem move_take : Board.Move l.session.board m (l.take m).session.board (l.session.take m).2 := by
  rcases Session.take_board l.session m (fresh_of_mayTake l m hm) with ⟨hboard, hjobs⟩
  rw [take, hboard, hjobs]
  exact Board.update_move _ m

include hl in
/-- Two launches of one number are one. -/
theorem eq_of_id (launch other : Launch) (hlaunch : launch ∈ l.launched)
    (hother : other ∈ l.launched) (hid : launch.id = other.id) : launch = other :=
  List.inj_on_of_nodup_map hl.distinct hlaunch hother hid

include hm in
/-- What is entered in the books: nothing, or the next launch. -/
theorem launches_take :
    (Job.launches (l.session.take m).2 = [] ∧
      (l.take m).session.board.launches = l.session.board.launches) ∨
    (∃ launch, Job.launches (l.session.take m).2 = [launch] ∧
      launch.id.number = l.session.board.launches + 1 ∧
      (l.take m).session.board.launches = l.session.board.launches + 1) := by
  rcases Board.launches_of_move _ _ m _ (move_take l m hm) with ⟨hnone, hlaunches, _⟩ |
    ⟨launch, hsome, hid, hlaunches, _, _⟩
  · exact Or.inl ⟨hnone, hlaunches⟩
  · exact Or.inr ⟨launch, hsome, by rw [hid, Board.nextLaunch], hlaunches⟩

include hl hm in
theorem numbered_take : ∀ launch ∈ (l.take m).launched,
    launch.id.number ≤ (l.take m).session.board.launches := by
  intro launch hlaunch
  rw [take, List.mem_append] at hlaunch
  rcases launches_take l m hm with ⟨hnone, hlaunches⟩ | ⟨new, hsome, hnumber, hlaunches⟩
  · rcases hlaunch with hold | hnew
    · rw [hlaunches]
      exact hl.numbered launch hold
    · rw [hnone] at hnew
      exact absurd hnew List.not_mem_nil
  · rcases hlaunch with hold | hnew
    · have hbefore := hl.numbered launch hold
      omega
    · rw [hsome, List.mem_singleton] at hnew
      rw [hnew]
      omega

include hl hm in
theorem distinct_take : ((l.take m).launched.map Launch.id).Nodup := by
  rw [take, List.map_append, List.nodup_append]
  rcases launches_take l m hm with ⟨hnone, _⟩ | ⟨new, hsome, hnumber, _⟩
  · rw [hnone]
    exact ⟨hl.distinct, List.nodup_nil, fun _ _ _ h => absurd h List.not_mem_nil⟩
  · rw [hsome]
    refine ⟨hl.distinct, List.nodup_singleton _, fun id hid id' hid' heq => ?_⟩
    -- The new number is higher than all in the books.
    rcases List.mem_map.mp hid with ⟨launch, hlaunch, hlaunchId⟩
    rw [List.map_singleton, List.mem_singleton] at hid'
    have hbefore := hl.numbered launch hlaunch
    rw [hlaunchId, heq, hid'] at hbefore
    omega

include hl in
theorem unanswered_take : (l.take m).unanswered.Sublist (l.take m).launched :=
  hl.unanswered.append (List.Sublist.refl _)

include hl in
theorem opener_take : ∀ launch, (l.take m).opener = some launch →
    launch ∈ (l.take m).launched := by
  intro launch hopener
  rw [take, List.mem_append]
  -- The page was opened in the step, or its opener is in the books already.
  by_cases hnone : Job.launches (l.session.take m).2 = []
  · exact Or.inl (hl.opener launch (Board.eq_of_openedBy _ _ _ launch hnone hopener))
  · right
    rcases hlaunches : Job.launches (l.session.take m).2 with _ | ⟨new, rest⟩
    · exact absurd hlaunches hnone
    · rw [take, Page.openedBy, hlaunches, Option.some.injEq] at hopener
      rw [hopener]
      exact List.mem_cons_self

include hm in
/-- A page with a live stream was not opened in the step. -/
theorem opener_of_live (s : Stream) (h : (l.take m).session.board.page.stream? = some s) :
    (l.take m).opener = l.opener := by
  rcases Board.launches_of_move _ _ m _ (move_take l m hm) with ⟨hnone, _, _⟩ |
    ⟨launch, _, _, _, _, hopening⟩
  · rw [Page.stream?, Option.bind_eq_some_iff] at h
    rcases h with ⟨slot, hslot, _⟩
    have hshown : (l.session.take m).1.board.page.slot?.isSome = true :=
      Option.isSome_iff_exists.mpr ⟨slot, hslot⟩
    rw [take, Page.openedBy, hnone]
    exact if_pos hshown
  · rw [← Page.stream?_watch, hopening, Watch.stream?, Watch.slot?_opening] at h
    exact absurd h (Option.some_ne_none s).symm

include hl hm in
/-- A live stream was started for the launch that opened the page. If it has just
    come, then its number is the one that the page waited for, and two launches
    of one number are one. -/
theorem live_take : ∀ s, (l.take m).session.board.page.stream? = some s →
    ∃ launch, (l.take m).opener = some launch ∧ s.launch = launch.id ∧ s.kind = launch.kind := by
  intro s hlive
  rw [opener_of_live l m hm s hlive]
  rw [take, (Session.take_board l.session m (fresh_of_mayTake l m hm)).1] at hlive
  rcases Board.live_or_brought _ m s hl.sound hlive with hbefore | ⟨hbrought, hpending, _⟩
  · exact hl.live s hbefore
  · rcases (hm s hbrought).1 with ⟨launch, hlaunch, _, hid, hkind⟩
    have hexpects : l.session.board.expects s.launch = true := by
      rw [Board.expects, hpending]
      exact decide_eq_true rfl
    rcases Board.opener_of_expects _ _ s.launch hl.sound hl.opened hexpects with
      ⟨other, hother, hotherId⟩
    have hsame : other = launch :=
      eq_of_id l hl other launch (hl.opener other hother) hlaunch (by rw [hotherId, hid])
    rw [hsame] at hother
    exact ⟨launch, hother, hid.symm, hkind.symm⟩

include hl hm in
theorem answered_take : ∀ e ∈ (l.take m).session.farEnds,
    ∃ launch ∈ (l.take m).launched, launch.id = e.launch ∧ launch ∉ (l.take m).unanswered := by
  have hkept : ∀ launch ∈ l.launched, launch ∉ l.unanswered →
      launch ∈ (l.take m).launched ∧ launch ∉ (l.take m).unanswered := by
    intro launch hlaunch hanswered
    rw [take]
    refine ⟨List.mem_append_left _ hlaunch, fun hmem => ?_⟩
    -- What is launched in the step is in the books only from now on.
    rcases List.mem_append.mp hmem with hold | hnew
    · exact hanswered hold
    · have hnumber := hl.numbered launch hlaunch
      rcases launches_take l m hm with ⟨hnone, _⟩ | ⟨new, hsome, hnext, _⟩
      · rw [hnone] at hnew
        exact List.not_mem_nil hnew
      · rw [hsome, List.mem_singleton] at hnew
        rw [hnew] at hnumber
        omega
  intro e he
  rcases Session.mem_farEnds_take l.session m (fresh_of_mayTake l m hm) e he with
    ⟨before, hbefore, hlaunchEq⟩ | ⟨s, hs, hlaunchEq⟩
  · rcases hl.answered before hbefore with ⟨launch, hlaunch, hid, hanswered⟩
    rcases hkept launch hlaunch hanswered with ⟨hlaunch', hanswered'⟩
    exact ⟨launch, hlaunch', by rw [hid, hlaunchEq], hanswered'⟩
  · rcases (hm s hs).1 with ⟨launch, hlaunch, hanswered, hid, _⟩
    rcases hkept launch hlaunch hanswered with ⟨hlaunch', hanswered'⟩
    exact ⟨launch, hlaunch', by rw [hid, hlaunchEq], hanswered'⟩

include hl hm in
/-- The books stay right as messages are taken. -/
theorem booked_take : (l.take m).Booked where
  sound := Board.sound_of_move _ _ m _ (move_take l m hm) hl.sound
  opened := Board.openedBy_of_move _ _ m _ l.opener (move_take l m hm) hl.opened
  numbered := numbered_take l m hl hm
  distinct := distinct_take l m hl hm
  unanswered := unanswered_take l m hl
  opener := opener_take l m hl
  live := live_take l m hl hm
  wired := Session.wired_take l.session m hl.sound (fresh_of_mayTake l m hm) hl.wired
  answered := answered_take l m hl hm
  news := hl.news

include hm in
/-- A page waits for what is to come, if it did so before, or waited for what the
    message settles. -/
theorem waits_take (hwaits : ∀ id, l.session.board.page.watch.slot? = some (.pending id) →
    m.Settles id ∨ ∃ launch ∈ l.unanswered, launch.id = id) : (l.take m).Waits := by
  intro id hid
  rw [take]
  rcases Board.pending_of_move _ _ m _ (move_take l m hm) id hid with ⟨hbefore, hnot⟩ |
    ⟨new, hsome, hnew⟩
  · rcases hwaits id hbefore with hsettles | ⟨launch, hlaunch, hlaunchId⟩
    · exact absurd hsettles hnot
    · exact ⟨launch, List.mem_append_left _ hlaunch, hlaunchId⟩
  · refine ⟨new, List.mem_append_right _ ?_, hnew⟩
    rw [hsome]
    exact List.mem_singleton.mpr rfl

end Take

variable (l : Loop)

/-- A message that brings no stream may always be taken. -/
theorem mayTake_of_no_stream (m : Message) (h : ∀ s, m ≠ .streamStarted s) : l.MayTake m :=
  fun s hs => absurd hs (h s)

theorem waits_take_of_waits (m : Message) (h : ∀ s, m ≠ .streamStarted s) (hwaits : l.Waits) :
    (l.take m).Waits :=
  waits_take l m (mayTake_of_no_stream l m h) fun id hid => Or.inr (hwaits id hid)

/-- The books stay right as streams go on. -/
theorem booked_progress (session : Session) (h : l.session.Progress session) (hl : l.Booked) :
    { l with session := session }.Booked where
  sound := Board.sound_of_ahead _ _ h.board hl.sound
  opened := by
    have hopened := hl.opened
    cases hopener : l.opener with
    | none =>
        rw [hopener, Board.OpenedBy, ← Watch.kind?_eq_none_iff] at hopened
        rw [Board.OpenedBy, ← Watch.kind?_eq_none_iff, Board.kind?_of_ahead _ _ h.board]
        exact hopened
    | some launch =>
        rw [hopener] at hopened
        refine ⟨?_, ?_⟩
        · rw [Board.launches_of_ahead _ _ h.board]
          exact hopened.1
        · rw [Board.kind?_of_ahead _ _ h.board]
          exact hopened.2
  numbered := by
    intro launch hlaunch
    rw [Board.launches_of_ahead _ _ h.board]
    exact hl.numbered launch hlaunch
  distinct := hl.distinct
  unanswered := hl.unanswered
  opener := hl.opener
  live := by
    intro s' hlive'
    rcases Board.live_of_ahead _ _ h.board s' hlive' with ⟨s, hlive, hcontinues⟩
    rcases hl.live s hlive with ⟨launch, hopener, hid, hkind⟩
    exact ⟨launch, hopener, by rw [hcontinues.1, hid], by rw [hcontinues.2.1, hkind]⟩
  wired := Session.wired_of_progress _ _ h hl.wired
  answered := by
    intro e' he'
    have hmem : e'.launch ∈ l.session.farEnds.map FarEnd.launch := by
      rw [← h.launches]
      exact List.mem_map_of_mem he'
    rcases List.mem_map.mp hmem with ⟨e, he, hlaunch⟩
    rw [← hlaunch]
    exact hl.answered e he
  news := hl.news

theorem waits_progress (session : Session) (h : l.session.Progress session) (hwaits : l.Waits) :
    { l with session := session }.Waits :=
  fun id hid => hwaits id (Board.pending_of_ahead _ _ h.board id hid)

/-- An answer may be taken once its launch is off the books, which stay right
    without it. -/
theorem booked_answer (launch : Launch) (m : Message) (hlaunch : launch ∈ l.unanswered)
    (hanswer : launch.isAnswer m = true) (hl : l.Booked) :
    { l with unanswered := l.unanswered.erase launch }.Booked ∧
      { l with unanswered := l.unanswered.erase launch }.MayTake m := by
  refine ⟨{ hl with unanswered := ?_, answered := ?_ }, fun s hs => ?_⟩
  · exact List.erase_sublist.trans hl.unanswered
  · intro e he
    rcases hl.answered e he with ⟨other, hother, hid, hanswered⟩
    exact ⟨other, hother, hid, fun hmem => hanswered (List.mem_of_mem_erase hmem)⟩
  · rw [hs] at hanswer
    rcases of_decide_eq_true hanswer with ⟨hid, hkind⟩
    have hlaunched : launch ∈ l.launched := hl.unanswered.subset hlaunch
    have hnodup : l.unanswered.Nodup := hl.distinct.of_map.sublist hl.unanswered
    refine ⟨⟨launch, hlaunched, hnodup.not_mem_erase, hid.symm, hkind.symm⟩, fun e he heq => ?_⟩
    -- A launch with a far end has been answered before.
    rcases hl.answered e he with ⟨other, hother, hotherId, hanswered⟩
    have hsame : other = launch :=
      eq_of_id l hl other launch hother hlaunched (by rw [hotherId, heq, hid])
    rw [hsame] at hanswered
    exact hanswered hlaunch

theorem waits_answer (launch : Launch) (m : Message) (hlaunch : launch ∈ l.unanswered)
    (hanswer : launch.isAnswer m = true) (hl : l.Booked) (hwaits : l.Waits) :
    ({ l with unanswered := l.unanswered.erase launch }.take m).Waits := by
  refine waits_take _ m (booked_answer l launch m hlaunch hanswer hl).2 fun id hid => ?_
  rcases hwaits id hid with ⟨other, hother, hotherId⟩
  -- The page waits for the launch that is answered, or for one that stays in the books.
  by_cases hsame : other = launch
  · left
    rw [hsame] at hotherId
    rw [← hotherId]
    cases m with
    | streamStarted s => exact (of_decide_eq_true hanswer).1
    | streamEnded id' kind error => exact (of_decide_eq_true hanswer).1
    | _ => exact absurd hanswer Bool.false_ne_true
  · exact Or.inr ⟨other, (List.mem_erase_of_ne hsame).mpr hother, hotherId⟩

theorem messageOf_ne_streamStarted (stream : Stream) (event : StreamEvent) (s : Stream) :
    Session.messageOf stream event ≠ .streamStarted s := by
  cases event <;> exact Message.noConfusion

theorem poll_preserves (hl : l.Booked) (hwaits : l.Waits) : l.poll.Booked ∧ l.poll.Waits := by
  rw [poll]
  cases hlive : l.session.board.page.stream? with
  | none => exact ⟨hl, hwaits⟩
  | some stream =>
      dsimp only
      cases stream.poll.1 with
      | none => exact ⟨hl, hwaits⟩
      | some event =>
          have hprogress := Session.progress_setStream l.session stream stream.poll.2 hlive
            stream.continues_poll
          refine ⟨{ booked_progress l _ hprogress hl with news := fun m hm => ?_ },
            waits_progress l _ hprogress hwaits⟩
          rcases List.mem_append.mp hm with hold | hnew
          · exact hl.news m hold
          · rw [List.mem_singleton.mp hnew]
            exact messageOf_ne_streamStarted stream.poll.2 event

theorem ne_streamStarted_of_not_isOfStream (m : Message) (h : ¬ m.isOfStream = true) (s : Stream) :
    m ≠ .streamStarted s := by
  intro hs
  rw [hs] at h
  exact h rfl

/-- Every step preserves the invariants. -/
theorem step_preserves (e : LoopEvent) (hl : l.Booked) (hwaits : l.Waits) :
    (l.step e).Booked ∧ (l.step e).Waits := by
  cases e with
  | answer launch m =>
      rw [step]
      by_cases h : launch ∈ l.unanswered ∧ launch.isAnswer m = true
      · rw [if_pos h]
        rcases booked_answer l launch m h.1 h.2 hl with ⟨hbooked, hmay⟩
        exact ⟨booked_take _ m hbooked hmay, waits_answer l launch m h.1 h.2 hl hwaits⟩
      · rw [if_neg h]
        exact ⟨hl, hwaits⟩
  | farEnd launch act =>
      have hprogress := Session.progress_farAct l.session launch act
      exact ⟨booked_progress l _ hprogress hl, waits_progress l _ hprogress hwaits⟩
  | poll => exact poll_preserves l hl hwaits
  | hear index =>
      rw [step]
      cases hm : l.news[index]? with
      | none => exact ⟨hl, hwaits⟩
      | some m =>
          -- The news may be old by now, but it brings no stream.
          have hstream := hl.news m (List.mem_of_getElem? hm)
          have hbefore : { l with news := l.news.eraseIdx index }.Booked :=
            { hl with news := fun m' hm' => hl.news m' (List.mem_of_mem_eraseIdx hm') }
          exact ⟨booked_take _ m hbefore (mayTake_of_no_stream _ m hstream),
            waits_take_of_waits { l with news := l.news.eraseIdx index } m hstream hwaits⟩
  | tell m =>
      rw [step]
      by_cases h : m.isOfStream = true
      · rw [if_pos h]
        exact ⟨hl, hwaits⟩
      · rw [if_neg h]
        have hstream := ne_streamStarted_of_not_isOfStream m h
        exact ⟨booked_take l m hl (mayTake_of_no_stream l m hstream),
          waits_take_of_waits l m hstream hwaits⟩

theorem booked_initial (timings : Timings) : (initial timings).Booked where
  sound := trivial
  opened := rfl
  numbered := fun _ h => absurd h List.not_mem_nil
  distinct := List.nodup_nil
  unanswered := List.Sublist.refl _
  opener := fun _ h => absurd h (Option.some_ne_none _).symm
  live := fun _ h => absurd h (Option.some_ne_none _).symm
  wired := ⟨List.nodup_nil, fun _ h => absurd h List.not_mem_nil⟩
  answered := fun _ h => absurd h List.not_mem_nil
  news := fun _ h => absurd h List.not_mem_nil

theorem waits_initial (timings : Timings) : (initial timings).Waits :=
  fun _ h => absurd h (Option.some_ne_none _).symm

/-- The invariants hold after every list of events. -/
theorem invariants_after (events : List LoopEvent) (hl : l.Booked) (hwaits : l.Waits) :
    (l.after events).Booked ∧ (l.after events).Waits := by
  induction events generalizing l with
  | nil => exact ⟨hl, hwaits⟩
  | cons e events ih =>
      rcases step_preserves l e hl hwaits with ⟨hl', hwaits'⟩
      exact ih (l.step e) hl' hwaits'

/-- A live stream was started for the launch that opened the page, and for the
    same. -/
theorem opener_eq_of_live (hl : l.Booked) (s : Stream) (kind : StreamKind)
    (hlive : l.session.board.page.stream? = some s)
    (hkind : l.session.board.page.watch.kind? = some kind) :
    s.kind = kind ∧ l.opener = some ⟨s.launch, kind⟩ := by
  rcases hl.live s hlive with ⟨launch, hopener, hid, hkind'⟩
  have hopened := hl.opened
  rw [hopener] at hopened
  have hsame : launch.kind = kind := by
    rw [← Option.some.injEq, ← hopened.2, hkind]
  rw [hkind', hopener, hid, hsame, ← hsame]
  exact ⟨rfl, rfl⟩

/-- All launches are accounted for, whatever happens and in whatever order. The
    workbench answers every launch as the loop has it. After all events the
    launches have different numbers. A page that waits for a launch waits for one
    whose answer is still to come. A live stream on a page of logs is one of logs,
    on the page of an operation one of an operation, and it was started for the
    launch that opened the page. And no more than one far end is connected, which
    is that of the live stream. -/
theorem launches_accounted_for (timings : Timings) (events : List LoopEvent) :
    let l := (initial timings).after events
    (∀ (w : Workbench) job launch, job.launch? = some launch →
      ∃ m after, w.perform job = (.message 0 m, after) ∧ launch.isAnswer m = true) ∧
    (l.launched.map Launch.id).Nodup ∧
    (∀ id, l.session.board.page.slot? = some (.pending id) →
      ∃ launch ∈ l.unanswered, launch.id = id) ∧
    (∀ page s, l.session.board.page = .logs page → page.slot = .live s →
      s.kind = .logs ∧ l.opener = some ⟨s.launch, .logs⟩) ∧
    (∀ op s, l.session.board.page = .operation op → op.slot = .live s →
      s.kind = .operation ∧ op.launch = s.launch ∧ l.opener = some ⟨s.launch, .operation⟩) ∧
    (l.session.farEnds.filter FarEnd.connected).length ≤ 1 ∧
    (∀ e ∈ l.session.farEnds, e.connected = true →
      ∃ s, l.session.board.page.stream? = some s ∧ s.launch = e.launch) := by
  intro l
  have hinv : l.Booked ∧ l.Waits :=
    invariants_after (initial timings) events (booked_initial timings) (waits_initial timings)
  rcases hinv with ⟨hl, hwaits⟩
  refine ⟨Workbench.perform_launch, hl.distinct, fun id hid => ?_, fun page s hp hs => ?_,
    fun op s hp hs => ?_, l.session.connected_le_one hl.wired, hl.wired.connected⟩
  · rw [← Page.slot?_watch] at hid
    exact hwaits id hid
  · have hlive : l.session.board.page.stream? = some s := by
      rw [hp, Page.stream?, Page.slot?, hs]
      rfl
    exact opener_eq_of_live l hl s .logs hlive (by rw [hp]; rfl)
  · have hlive : l.session.board.page.stream? = some s := by
      rw [hp, Page.stream?, Page.slot?, hs]
      rfl
    rcases opener_eq_of_live l hl s .operation hlive (by rw [hp]; rfl) with ⟨hkind, hopener⟩
    have hsound := hl.sound
    rw [hp] at hsound
    -- Results of a live stream are expected, and only those of the page's own launch are.
    have hid : s.launch = op.launch := by
      refine hsound.2.1 s.launch ?_
      rw [hs]
      exact decide_eq_true rfl
    exact ⟨hkind, hid.symm, hopener⟩

/-- The answer to a launch comes after its page was left and another launch was
    made. The page goes on waiting for its own. -/
theorem late_answer_accounted_for :
    let shop : Project := ⟨"shop", .stopped, "php", "", ⟨"/srv/shop"⟩⟩
    let stream (launch : Nat) : Stream :=
      { launch := ⟨launch⟩, kind := .operation, process := some ⟨7⟩, capacity := 8 }
    let events : List LoopEvent :=
      [.tell (.projectsLoaded (.ok [shop])), .tell (.key (.char 's')), .tell (.key .escape),
        .tell (.key (.char 'r')), .answer ⟨⟨1⟩, .operation⟩ (.streamStarted (stream 1))]
    let more : List LoopEvent :=
      events ++ [.answer ⟨⟨2⟩, .operation⟩ (.streamStarted (stream 2))]
    ((initial {}).after events).session.board.page.slot? = some (.pending ⟨2⟩) ∧
    (∃ launch ∈ ((initial {}).after events).unanswered, launch.id = ⟨2⟩) ∧
    ((initial {}).after more).session.board.page.stream? = some (stream 2) ∧
    ((initial {}).after more).unanswered = [] ∧
    (((initial {}).after more).session.farEnds.filter FarEnd.connected).length ≤ 1 := by
  intro shop stream events more
  have hpending : ((initial {}).after events).session.board.page.slot? = some (.pending ⟨2⟩) := by
    decide
  rcases launches_accounted_for {} events with ⟨_, _, hwaits, _⟩
  rcases launches_accounted_for {} more with ⟨_, _, _, _, _, hone, _⟩
  exact ⟨hpending, hwaits ⟨2⟩ hpending, by decide, by decide, hone⟩

end Loop

end FleetBoard
