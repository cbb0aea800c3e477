import FleetBoard.Proofs.Move
import Mathlib.Logic.ExistsUnique

/-!
# Custody of Streams

No process is left behind and none is killed twice. A stream that is handed to
the board belongs to it from then on: nobody else knows the process behind it.
So the board has to account for every stream it was ever handed, whatever the
numbers on the streams say and whoever asked for them.

Streams are told apart by when they were handed over, not by what they look
like. Two of them may carry the same launch, the same process and the same
lines, and the board cannot know which is which; the delivery `n`, the step in
which the stream came, can. `Holds n k` follows one delivery: the slot was empty
when it came, and the very stream that came has been in the slot ever since.

What may happen to a stream in one step is `Handling`, read off the moves. The
invariant of the watch enters in one place only: when an operation is left
because its time is over, the whole page goes without a look at its slot, and
the slot is known to be empty because the operation is done.

## Main definitions

* `Handling`: What a message does with the live stream and the one it brings.
* `Run.Holds`: The stream of a delivery is the live one.
* `Run.Ends`: The stream of a delivery ends in a step.
* `Run.GivesUp`: The stream of a delivery is given up in a step.
* `Fate`: What has become of a delivery.

## Theorems

* `handling_of_move`: Every move handles the streams in one of the ways.
* `holds_unique`: One delivery at most is held.
* `exists_holds`: A stream in the slot was delivered.
* `holds_step`: A stream that is held stays, ends, or is given up.
* `exists_unique_fate`: Every delivery has exactly one fate at every point.
* `streams_accounted_for`: All streams are accounted for, and all kills.
-/

namespace FleetBoard

namespace Board

/-- What a message does with the live stream and with the one it brings, if it
    brings one. -/
inductive Handling (b : Board) (m : Message) (b' : Board) (jobs : List Job) : Prop
  /-- The live stream stays, and none is brought. -/
  | kept (hm : ∀ s, m ≠ .streamStarted s) (hafter : b'.page.stream? = b.page.stream?)
      (hkills : Job.kills jobs = [])
  /-- The stream that is brought is given up, and the live one stays. -/
  | refused (s : Stream) (hm : m = .streamStarted s)
      (hafter : b'.page.stream? = b.page.stream?) (hkills : Job.kills jobs = s.process.toList)
  /-- The stream that is brought becomes live, where one was waited for and none
      was there. -/
  | adopted (s : Stream) (hm : m = .streamStarted s)
      (hpending : b.page.slot? = some (.pending s.launch)) (hbefore : b.page.stream? = none)
      (hafter : b'.page.stream? = some s) (hkills : Job.kills jobs = [])
  /-- The end of the stream is accepted. -/
  | ended (launch : LaunchId) (kind : StreamKind) (error : Option String)
      (hm : m = .streamEnded launch kind error)
      (hbefore : ∀ s, b.page.stream? = some s → s.launch = launch)
      (hafter : b'.page.slot? = some .closed) (hkills : Job.kills jobs = [])
  /-- The live stream is given up. -/
  | givenUp (key : Key) (hm : m = .key key) (hafter : b'.page.stream? = none)
      (hkills : Job.kills jobs = (b.page.stream?.bind Stream.process).toList)

theorem launch_of_expects (slot : Slot) (launch : LaunchId) (h : slot.expects launch = true)
    (s : Stream) (hs : slot.stream? = some s) : s.launch = launch := by
  cases slot with
  | pending id => exact absurd hs (Option.some_ne_none s).symm
  | closed => exact absurd hs (Option.some_ne_none s).symm
  | live stream =>
      rw [Slot.stream?, Option.some.injEq] at hs
      rw [← hs]
      exact of_decide_eq_true h

/-- Every move handles the streams in one of the ways, on a board whose watch
    keeps the invariant. -/
theorem handling_of_move (b b' : Board) (m : Message) (jobs : List Job) (hmove : Move b m b' jobs)
    (hb : b.page.watch.Sound b.launches) : Handling b m b' jobs := by
  cases hmove with
  | quiet hm hwatch _ hjobs =>
      refine .kept (fun s hs => ?_) ?_ (Job.kills_of_streamJobs jobs [] hjobs)
      · rw [hs] at hm
        exact hm
      · rw [← Page.stream?_watch, ← Page.stream?_watch, hwatch]
  | refused s hm _ hboard hjobs =>
      refine .refused s hm (by rw [hboard]) ?_
      rw [hjobs, kills_killJobs]
      rfl
  | adopted s hm hslot hwatch _ hjobs =>
      refine .adopted s hm (by rw [← Page.slot?_watch]; exact hslot) ?_ ?_ (by rw [hjobs]; rfl)
      · rw [← Page.stream?_watch, Watch.stream?, hslot]
        rfl
      · rw [← Page.stream?_watch, hwatch, Watch.stream?, Watch.slot?_setSlot, hslot]
        rfl
  | logsEnded launch kind error slot hm hslot hbefore hafter _ hjobs =>
      refine .ended launch kind error hm (fun s hs => ?_) ?_ (by rw [hjobs]; rfl)
      · rw [← Page.stream?_watch, hbefore] at hs
        exact launch_of_expects slot launch hslot s hs
      · rw [← Page.slot?_watch, hafter]
        rfl
  | operationEnded launch kind error id done earlier slot hm hslot hbefore hafter _ hjobs =>
      refine .ended launch kind error hm (fun s hs => ?_) ?_ ?_
      · rw [← Page.stream?_watch, hbefore] at hs
        exact launch_of_expects slot launch hslot s hs
      · rw [← Page.slot?_watch, hafter]
        rfl
      · rw [Job.kills_of_streamJobs jobs _ hjobs]
        cases error <;> rfl
  | returned launch slot hm hbefore hafter _ hjobs =>
      -- The page goes without a look at its slot, which is empty by the invariant.
      rw [hbefore] at hb
      have hnone : b.page.stream? = none := by
        rw [← Page.stream?_watch, hbefore]
        exact Watch.stream?_eq_none_of_done launch b.launches none slot hb
      refine .kept (fun s => by rw [hm]; exact Message.noConfusion) ?_ (by rw [hjobs]; rfl)
      rw [hnone, ← Page.stream?_watch, hafter]
      rfl
  | quit key hm hwatch _ hjobs =>
      refine .givenUp key hm ?_ ?_
      · rw [← Page.stream?_watch, hwatch, Watch.stream?, Watch.slot?_setSlot]
        cases b.page.watch.slot? <;> rfl
      · rw [Job.kills_of_streamJobs jobs _ hjobs, kills_killJobs, Page.stream?_watch]
  | left key hm _ _ hafter _ hjobs =>
      refine .givenUp key hm ?_ ?_
      · rw [← Page.stream?_watch, hafter]
        rfl
      · rw [Job.kills_of_streamJobs jobs _ hjobs, kills_killJobs, Page.stream?_watch]
  | launched key launch job hm _ hbefore hafter _ hjob hjobs =>
      refine .kept (fun s => by rw [hm]; exact Message.noConfusion) ?_ ?_
      · rw [← Page.stream?_watch, ← Page.stream?_watch, hbefore, hafter]
        rcases launch with ⟨id, kind⟩
        cases kind <;> rfl
      · rw [Job.kills_of_streamJobs jobs _ hjobs]
        exact (Job.only_launch_of_launch? job launch hjob).2.2

end Board

/-- What has become of a stream that was handed to the board. -/
inductive Fate
  | held
  | ended (step : Nat)
  | givenUp (step : Nat)
  deriving DecidableEq, Repr

namespace Run

/-- The stream that is live at a point. -/
def streamAt (r : Run) (k : Nat) : Option Stream :=
  (r.boardAt k).page.stream?

/-- The processes whose trees are killed by the jobs of a step. -/
def killsAt (r : Run) (k : Nat) : List ProcessId :=
  Job.kills (r.jobsAt k)

/-- At point `k` the live stream is the one that was handed over in step `n`: no
    stream was live when it came, and it has been the live one ever since. -/
def Holds (r : Run) (n k : Nat) : Prop :=
  ∃ s, r.messages[n]? = some (.streamStarted s) ∧ n < k ∧ r.streamAt n = none ∧
    ∀ j, n < j → j ≤ k → r.streamAt j = some s

/-- In step `k` the stream of delivery `n`, which is live, ends: its own end is
    told, and the slot is closed. -/
def Ends (r : Run) (n k : Nat) : Prop :=
  r.Holds n k ∧ ∃ s kind error, r.streamAt k = some s ∧
    r.messages[k]? = some (.streamEnded s.launch kind error) ∧
    (r.boardAt (k + 1)).page.slot? = some .closed

/-- In step `k` the stream of delivery `n` is given up: it was live until then,
    or it has just come, it is not live afterwards without having ended, and
    the step kills its process and no other, or nothing if it has none. -/
def GivesUp (r : Run) (n k : Nat) : Prop :=
  ∃ s, r.messages[n]? = some (.streamStarted s) ∧ (n = k ∨ r.Holds n k) ∧ ¬ r.Holds n (k + 1) ∧
    ¬ r.Ends n k ∧ r.killsAt k = s.process.toList

/-- What has become of the stream of delivery `n` at point `k`. -/
def HasFate (r : Run) (n k : Nat) : Fate → Prop
  | .held => r.Holds n k
  | .ended j => j < k ∧ r.Ends n j
  | .givenUp j => j < k ∧ r.GivesUp n j

variable (r : Run)

/-- A step of a run handles the streams in one of the ways. -/
theorem handling (k : Nat) (m : Message) (h : r.messages[k]? = some m) :
    Board.Handling (r.boardAt k) m (r.boardAt (k + 1)) (r.jobsAt k) :=
  Board.handling_of_move _ _ _ _ (move r k m h) (sound_boardAt r k)

theorem streamAt_idle (k : Nat) (h : r.messages[k]? = none) :
    r.streamAt (k + 1) = r.streamAt k := by
  rw [streamAt, streamAt, boardAt_idle r k h]

theorem streamAt_zero : r.streamAt 0 = none := by
  rw [streamAt, boardAt_zero]
  rfl

theorem holds_of_le (n j k : Nat) (hn : n < j) (hj : j ≤ k) (h : r.Holds n k) : r.Holds n j := by
  rcases h with ⟨s, hs, _, hbefore, hsince⟩
  exact ⟨s, hs, hn, hbefore, fun i hni hij => hsince i hni (by omega)⟩

/-- One more point at which the same stream is live. -/
theorem holds_succ (n k : Nat) (h : r.Holds n k) (hsame : r.streamAt (k + 1) = r.streamAt k) :
    r.Holds n (k + 1) := by
  rcases h with ⟨s, hs, hnk, hbefore, hsince⟩
  refine ⟨s, hs, by omega, hbefore, fun j hnj hjk => ?_⟩
  by_cases hj : j = k + 1
  · rw [hj, hsame]
    exact hsince k hnk (Nat.le_refl k)
  · exact hsince j hnj (by omega)

/-- One delivery at most is held. Whichever of two came later found the slot
    empty, although the earlier one was in it. -/
theorem holds_unique (n n' k : Nat) (h : r.Holds n k) (h' : r.Holds n' k) : n = n' := by
  rcases h with ⟨s, _, hnk, hbefore, hsince⟩
  rcases h' with ⟨s', _, hnk', hbefore', hsince'⟩
  rcases Nat.lt_trichotomy n n' with hlt | heq | hgt
  · have hlive := hsince n' hlt (by omega)
    rw [hbefore'] at hlive
    exact absurd hlive (Option.some_ne_none s).symm
  · exact heq
  · have hlive := hsince' n hgt (by omega)
    rw [hbefore] at hlive
    exact absurd hlive (Option.some_ne_none s').symm

theorem not_holds_of_streamAt_eq_none (n k : Nat) (h : r.streamAt k = none) : ¬ r.Holds n k := by
  rintro ⟨s, _, hnk, _, hsince⟩
  have hlive := hsince k hnk (Nat.le_refl k)
  rw [h] at hlive
  exact absurd hlive (Option.some_ne_none s).symm

theorem stream_of_holds (n k : Nat) (s : Stream) (hs : r.messages[n]? = some (.streamStarted s))
    (h : r.Holds n k) : r.streamAt k = some s := by
  rcases h with ⟨s', hs', hnk, _, hsince⟩
  rw [hs, Option.some.injEq, Message.streamStarted.injEq] at hs'
  rw [hs']
  exact hsince k hnk (Nat.le_refl k)

/-- A stream in the slot was delivered. -/
theorem exists_holds (k : Nat) (s : Stream) (h : r.streamAt k = some s) : ∃ n, r.Holds n k := by
  induction k generalizing s with
  | zero =>
      rw [streamAt_zero] at h
      exact absurd h (Option.some_ne_none s).symm
  | succ k ih =>
      rcases hm : r.messages[k]? with _ | m
      · rw [streamAt_idle r k hm] at h
        rcases ih s h with ⟨n, hn⟩
        exact ⟨n, holds_succ r n k hn (streamAt_idle r k hm)⟩
      · cases handling r k m hm with
        | kept _ hafter _ =>
            rcases ih s (by rw [← h]; exact hafter.symm) with ⟨n, hn⟩
            exact ⟨n, holds_succ r n k hn hafter⟩
        | refused t _ hafter _ =>
            rcases ih s (by rw [← h]; exact hafter.symm) with ⟨n, hn⟩
            exact ⟨n, holds_succ r n k hn hafter⟩
        | adopted t hm' _ hbefore hafter _ =>
            refine ⟨k, t, by rw [hm, hm'], by omega, hbefore, fun j hkj hjk => ?_⟩
            rw [show j = k + 1 by omega]
            exact hafter
        | ended launch kind error _ _ hafter _ =>
            rw [streamAt, Page.stream?, hafter] at h
            exact absurd h (Option.some_ne_none s).symm
        | givenUp key _ hafter _ =>
            rw [streamAt, hafter] at h
            exact absurd h (Option.some_ne_none s).symm

/-- A stream that is held stays, ends, or is given up. -/
theorem holds_step (n k : Nat) (h : r.Holds n k) :
    r.Holds n (k + 1) ∨ r.Ends n k ∨ r.GivesUp n k := by
  rcases hm : r.messages[k]? with _ | m
  · exact Or.inl (holds_succ r n k h (streamAt_idle r k hm))
  have hheld := h
  rcases hheld with ⟨s, hs, hnk, hbefore, hsince⟩
  have hlive : r.streamAt k = some s := hsince k hnk (Nat.le_refl k)
  cases handling r k m hm with
  | kept _ hafter _ => exact Or.inl (holds_succ r n k h hafter)
  | refused t _ hafter _ => exact Or.inl (holds_succ r n k h hafter)
  | adopted t _ _ hempty _ _ =>
      rw [streamAt, hempty] at hlive
      exact absurd hlive (Option.some_ne_none s).symm
  | ended launch kind error hm' hlaunch hafter _ =>
      refine Or.inr (Or.inl ⟨h, s, kind, error, hlive, ?_, hafter⟩)
      rw [hm, hm', hlaunch s hlive]
  | givenUp key hm' hafter hkills =>
      refine Or.inr (Or.inr ⟨s, hs, Or.inr h, not_holds_of_streamAt_eq_none r n (k + 1) hafter,
        ?_, ?_⟩)
      · -- A key tells no end.
        rintro ⟨_, t, kind, error, _, hend, _⟩
        rw [hm, hm', Option.some.injEq] at hend
        exact Message.noConfusion hend
      · rw [killsAt, hkills]
        rw [streamAt] at hlive
        rw [hlive]
        rfl

/-- A stream that is delivered becomes live or is given up at once. -/
theorem delivered_step (n : Nat) (s : Stream) (hs : r.messages[n]? = some (.streamStarted s)) :
    r.Holds n (n + 1) ∨ r.GivesUp n n := by
  have hnot : ¬ r.Holds n n := by
    rintro ⟨_, _, hnn, _, _⟩
    omega
  cases handling r n _ hs with
  | kept hm _ _ => exact absurd rfl (hm s)
  | refused t hm hafter hkills =>
      rw [Message.streamStarted.injEq] at hm
      refine Or.inr ⟨s, hs, Or.inl rfl, ?_, fun hends => hnot hends.1, by rw [hm]; exact hkills⟩
      rintro ⟨u, _, _, hempty, hsince⟩
      -- The slot is as it was, so what came is not in it.
      have hlive := hsince (n + 1) (by omega) (Nat.le_refl _)
      rw [streamAt, hafter] at hlive
      rw [streamAt, hlive] at hempty
      exact absurd hempty (Option.some_ne_none u)
  | adopted t hm _ hbefore hafter _ =>
      rw [Message.streamStarted.injEq] at hm
      refine Or.inl ⟨s, hs, by omega, hbefore, fun j hnj hjn => ?_⟩
      rw [show j = n + 1 by omega, hm]
      exact hafter
  | ended launch kind error hm _ _ _ => exact Message.noConfusion hm
  | givenUp key hm _ _ => exact Message.noConfusion hm

theorem exists_fate (n k : Nat) (s : Stream) (hs : r.messages[n]? = some (.streamStarted s))
    (hnk : n < k) : ∃ fate, r.HasFate n k fate := by
  induction k with
  | zero => omega
  | succ k ih =>
      by_cases hn : n = k
      · rcases delivered_step r n s hs with hheld | hgiven
        · exact ⟨.held, by rw [← hn]; exact hheld⟩
        · exact ⟨.givenUp n, by omega, hgiven⟩
      · rcases ih (by omega) with ⟨fate, hfate⟩
        cases fate with
        | held =>
            rcases holds_step r n k hfate with hheld | hends | hgiven
            · exact ⟨.held, hheld⟩
            · exact ⟨.ended k, by omega, hends⟩
            · exact ⟨.givenUp k, by omega, hgiven⟩
        | ended j => exact ⟨.ended j, Nat.lt_succ_of_lt hfate.1, hfate.2⟩
        | givenUp j => exact ⟨.givenUp j, Nat.lt_succ_of_lt hfate.1, hfate.2⟩

theorem not_holds_after_ends (n j k : Nat) (hjk : j < k) (h : r.Ends n j) : ¬ r.Holds n k := by
  intro hk
  rcases h with ⟨hheld, s, kind, error, _, _, hclosed⟩
  have hnj : n < j := by
    rcases hheld with ⟨_, _, hnj, _, _⟩
    exact hnj
  refine not_holds_of_streamAt_eq_none r n (j + 1) ?_ (holds_of_le r n (j + 1) k (by omega)
    (by omega) hk)
  rw [streamAt, Page.stream?, hclosed]
  rfl

theorem le_of_givesUp (n j : Nat) (h : r.GivesUp n j) : n ≤ j := by
  rcases h with ⟨_, _, hnow | ⟨_, _, hnj, _, _⟩, _, _, _⟩
  · omega
  · omega

theorem not_holds_after_givesUp (n j k : Nat) (hjk : j < k) (h : r.GivesUp n j) :
    ¬ r.Holds n k := by
  intro hk
  have hnj := le_of_givesUp r n j h
  rcases h with ⟨_, _, _, hgone, _, _⟩
  exact hgone (holds_of_le r n (j + 1) k (by omega) (by omega) hk)

theorem lt_of_ends (n k : Nat) (h : r.Ends n k) : n < k := by
  rcases h with ⟨⟨_, _, hnk, _, _⟩, _⟩
  exact hnk

/-- What ends or is given up was there until then. -/
theorem not_ends_of_gone (n j k : Nat) (hjk : j < k) (h : r.Ends n j ∨ r.GivesUp n j) :
    ¬ r.Ends n k ∧ ¬ r.GivesUp n k := by
  have hgone : ¬ r.Holds n k := by
    rcases h with hends | hgiven
    · exact not_holds_after_ends r n j k hjk hends
    · exact not_holds_after_givesUp r n j k hjk hgiven
  have hnj : n ≤ j := by
    rcases h with hends | hgiven
    · exact Nat.le_of_lt (lt_of_ends r n j hends)
    · exact le_of_givesUp r n j hgiven
  refine ⟨fun hends => hgone hends.1, ?_⟩
  rintro ⟨_, _, hnow | hheld, _, _, _⟩
  · omega
  · exact hgone hheld

/-- The step in which a delivery was settled, and how, are determined. -/
theorem fate_unique (n k : Nat) (fate fate' : Fate) (h : r.HasFate n k fate)
    (h' : r.HasFate n k fate') : fate = fate' := by
  have hsettled : ∀ i j, (r.Ends n i ∨ r.GivesUp n i) → (r.Ends n j ∨ r.GivesUp n j) → i = j := by
    intro i j hi hj
    rcases Nat.lt_trichotomy i j with hlt | heq | hgt
    · rcases not_ends_of_gone r n i j hlt hi with ⟨hends, hgiven⟩
      exact absurd hj (not_or.mpr ⟨hends, hgiven⟩)
    · exact heq
    · rcases not_ends_of_gone r n j i hgt hj with ⟨hends, hgiven⟩
      exact absurd hi (not_or.mpr ⟨hends, hgiven⟩)
  -- A delivery that was given up in a step did not end in it.
  have hways : ∀ j, r.Ends n j → r.GivesUp n j → False := by
    rintro j hends ⟨_, _, _, _, hnot, _⟩
    exact hnot hends
  cases fate with
  | held =>
      cases fate' with
      | held => rfl
      | ended j => exact absurd h (not_holds_after_ends r n j k h'.1 h'.2)
      | givenUp j => exact absurd h (not_holds_after_givesUp r n j k h'.1 h'.2)
  | ended i =>
      cases fate' with
      | held => exact absurd h' (not_holds_after_ends r n i k h.1 h.2)
      | ended j => rw [hsettled i j (Or.inl h.2) (Or.inl h'.2)]
      | givenUp j =>
          have hij := hsettled i j (Or.inl h.2) (Or.inr h'.2)
          rw [hij] at h
          exact absurd h'.2 (hways j h.2)
  | givenUp i =>
      cases fate' with
      | held => exact absurd h' (not_holds_after_givesUp r n i k h.1 h.2)
      | ended j =>
          have hij := hsettled i j (Or.inr h.2) (Or.inl h'.2)
          rw [hij] at h
          exact absurd h.2 (hways j h'.2)
      | givenUp j => rw [hsettled i j (Or.inr h.2) (Or.inr h'.2)]

/-- Every delivery has exactly one fate at every later point. -/
theorem exists_unique_fate (n k : Nat) (s : Stream)
    (hs : r.messages[n]? = some (.streamStarted s)) (hnk : n < k) :
    ∃! fate, r.HasFate n k fate := by
  rcases exists_fate r n k s hs hnk with ⟨fate, hfate⟩
  exact ⟨fate, hfate, fun fate' hfate' => fate_unique r n k fate' fate hfate' hfate⟩

/-- Whatever is killed in a step is the process of a stream that is given up in
    that step. -/
theorem exists_givesUp_of_kill (k : Nat) (p : ProcessId) (h : p ∈ r.killsAt k) :
    ∃ n s, r.messages[n]? = some (.streamStarted s) ∧ s.process = some p ∧ r.GivesUp n k := by
  rcases hm : r.messages[k]? with _ | m
  · rw [killsAt, jobsAt_idle r k hm] at h
    exact absurd h List.not_mem_nil
  cases handling r k m hm with
  | kept _ _ hkills =>
      rw [killsAt, hkills] at h
      exact absurd h List.not_mem_nil
  | refused s hm' hafter hkills =>
      rw [killsAt, hkills, Option.mem_toList] at h
      rw [hm'] at hm
      refine ⟨k, s, hm, h, ?_⟩
      rcases delivered_step r k s hm with ⟨t, _, _, hempty, hsince⟩ | hgiven
      · have hlive := hsince (k + 1) (by omega) (Nat.le_refl _)
        rw [streamAt, hafter] at hlive
        rw [streamAt, hlive] at hempty
        exact absurd hempty (Option.some_ne_none t)
      · exact hgiven
  | adopted _ _ _ _ _ hkills =>
      rw [killsAt, hkills] at h
      exact absurd h List.not_mem_nil
  | ended _ _ _ _ _ _ hkills =>
      rw [killsAt, hkills] at h
      exact absurd h List.not_mem_nil
  | givenUp key hm' hafter hkills =>
      rw [killsAt, hkills, Option.mem_toList, Option.bind_eq_some_iff] at h
      rcases h with ⟨s, hlive, hprocess⟩
      rcases exists_holds r k s hlive with ⟨n, hn⟩
      have hheld := hn
      rcases hheld with ⟨t, ht, hnk, _, hsince⟩
      have hst : t = s := by
        have hlive' := hsince k hnk (Nat.le_refl k)
        rw [streamAt, hlive, Option.some.injEq] at hlive'
        exact hlive'.symm
      rw [hst] at ht
      refine ⟨n, s, ht, hprocess, ?_⟩
      rcases holds_step r n k hn with hheld | ⟨_, _, _, _, _, hend, _⟩ | hgiven
      · exact absurd hheld (not_holds_of_streamAt_eq_none r n (k + 1) hafter)
      · rw [hm, hm', Option.some.injEq] at hend
        exact Message.noConfusion hend
      · exact hgiven

/-- One delivery at most is given up in a step: a stream that comes while another
    one is live leaves that one where it is. -/
theorem givesUp_unique (n n' k : Nat) (h : r.GivesUp n k) (h' : r.GivesUp n' k) : n = n' := by
  -- Of a new stream and a live one, the live one stays.
  have hstays : ∀ i s, r.messages[k]? = some (.streamStarted s) → r.Holds i k →
      r.Holds i (k + 1) := by
    intro i s hs hi
    rcases holds_step r i k hi with hheld | ⟨_, _, _, _, _, hend, _⟩ | ⟨t, ht, _, hgone, _, _⟩
    · exact hheld
    · rw [hs, Option.some.injEq] at hend
      exact Message.noConfusion hend
    · have hlive := stream_of_holds r i k t ht hi
      cases handling r k _ hs with
      | kept _ hafter _ => exact holds_succ r i k hi hafter
      | refused _ _ hafter _ => exact holds_succ r i k hi hafter
      | adopted _ _ _ hempty _ _ =>
          rw [streamAt, hempty] at hlive
          exact absurd hlive (Option.some_ne_none t).symm
      | ended _ _ _ hm _ _ _ => exact Message.noConfusion hm
      | givenUp _ hm _ _ => exact Message.noConfusion hm
  rcases h with ⟨s, hs, hnow | hheld, hgone, _, _⟩
  · rcases h' with ⟨s', hs', hnow' | hheld', hgone', _, _⟩
    · rw [hnow, hnow']
    · rw [hnow] at hs
      exact absurd (hstays n' s hs hheld') hgone'
  · rcases h' with ⟨s', hs', hnow' | hheld', hgone', _, _⟩
    · rw [hnow'] at hs'
      exact absurd (hstays n s' hs' hheld) hgone
    · exact holds_unique r n n' k hheld hheld'

/-- All streams are accounted for, and all kills. Every stream that was handed
    to the board has exactly one fate at every later point: it is the live one,
    it has ended, or it was given up in a step that killed its process and
    nothing else. A stream that is live was handed over, and it goes only by its
    end or by being given up. Every kill is for the stream of one delivery, and
    that had neither ended nor been given up before. -/
theorem streams_accounted_for :
    (∀ n s k, r.messages[n]? = some (.streamStarted s) → n < k → ∃! fate, r.HasFate n k fate) ∧
    (∀ k s, r.streamAt k = some s → ∃! n, r.Holds n k) ∧
    (∀ n k, r.Holds n k → ¬ r.Holds n (k + 1) → r.Ends n k ∨ r.GivesUp n k) ∧
    (∀ k p, p ∈ r.killsAt k → ∃! n, r.GivesUp n k ∧
      (∃ s, r.messages[n]? = some (.streamStarted s) ∧ s.process = some p) ∧
      ∀ j, j < k → ¬ r.Ends n j ∧ ¬ r.GivesUp n j) := by
  refine ⟨fun n s k hs hnk => exists_unique_fate r n k s hs hnk, fun k s hs => ?_,
    fun n k hheld hgone => ?_, fun k p hp => ?_⟩
  · rcases exists_holds r k s hs with ⟨n, hn⟩
    exact ⟨n, hn, fun n' hn' => holds_unique r n' n k hn' hn⟩
  · rcases holds_step r n k hheld with hstill | hsettled
    · exact absurd hstill hgone
    · exact hsettled
  · rcases exists_givesUp_of_kill r k p hp with ⟨n, s, hs, hprocess, hgiven⟩
    refine ⟨n, ⟨hgiven, ⟨s, hs, hprocess⟩, fun j hjk => not_or.mp fun hsettled => ?_⟩, ?_⟩
    · exact (not_ends_of_gone r n j k hjk hsettled).2 hgiven
    · rintro n' ⟨hgiven', _, _⟩
      exact givesUp_unique r n' n k hgiven' hgiven

/-- Two streams come for one launch. The second is given up at once, the first
    when its page is left. -/
theorem both_answers_accounted_for :
    let shop : Project := ⟨"shop", .stopped, "php", "", ⟨"/srv/shop"⟩⟩
    let answer (process : Nat) : Stream :=
      { launch := ⟨1⟩, kind := .operation, process := some ⟨process⟩, capacity := 8 }
    let run : Run :=
      { timings := {}
        messages := [.projectsLoaded (.ok [shop]), .key (.char 's'), .streamStarted (answer 7),
          .streamStarted (answer 8), .key .escape] }
    (List.range 5).map run.killsAt = [[], [], [], [⟨8⟩], [⟨7⟩]] ∧
    (∃! fate, run.HasFate 2 5 fate) ∧ (∃! fate, run.HasFate 3 5 fate) ∧
    run.streamAt 4 = some (answer 7) ∧ (∃! n, run.Holds n 4) ∧
    (∃! n, run.GivesUp n 4 ∧
      (∃ s, run.messages[n]? = some (.streamStarted s) ∧ s.process = some ⟨7⟩) ∧
      ∀ j, j < 4 → ¬ run.Ends n j ∧ ¬ run.GivesUp n j) := by
  intro shop answer run
  have hlive : run.streamAt 4 = some (answer 7) := by decide
  rcases streams_accounted_for run with ⟨hfate, hheld, _, hkill⟩
  exact ⟨by decide, hfate 2 (answer 7) 5 rfl (by decide), hfate 3 (answer 8) 5 rfl (by decide),
    hlive, hheld 4 (answer 7) hlive, hkill 4 ⟨7⟩ (by decide)⟩

end Run

end FleetBoard
