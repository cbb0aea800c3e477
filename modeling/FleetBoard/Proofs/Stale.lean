import FleetBoard.Proofs.Opener

/-!
# Stale Results

Results of a launch whose page is gone cannot interfere. They arrive late, since
nobody calls a program back that is already on its way, and they must not touch
a page that was opened for something else.

A message is stale when it carries the number of a launch that the page which is
shown has nothing to do with. `update_stale` says what the board does with it:
nothing, except that a stream which comes too late has its process killed. From
this it follows that stale messages can be struck out of a run. The statement is
about traces, so it says more than that the last board is the same: every step
that remains has the same board before and after it, and asks for the same jobs.

The other half is that numbers do not come back. Once the page of a launch has
been left, its results are stale for good: launches are numbered in order, and a
page has to do with the launch that opened it and with no other.

## Main definitions

* `Board.concerns`: The page that is shown has to do with a launch.
* `Board.isStale`: A message is about a launch that the page has nothing to do
  with.
* `Step`, `Board.trace`: The steps of a run, one by one.
* `Run.withoutStale`: The run from which stale messages are struck out.

## Theorems

* `update_stale`: A stale message changes nothing.
* `trace_filter`: Steps that change nothing can be struck out of a trace.
* `opener_of_concerns`: A page has to do with its opener only.
* `stale_messages_do_not_interfere`: Stale messages change nothing else, and what
  has been left stays stale.
-/

namespace FleetBoard

/-- The launch that a message carries the number of. -/
def Message.launch? : Message → Option LaunchId
  | .streamStarted s => some s.launch
  | .line launch _ => some launch
  | .streamEnded launch _ _ => some launch
  | .returnDue launch => some launch
  | _ => none

namespace Board

/-- Whether the page that is shown has to do with a launch: it waits for results
    of it, or it is the page of that operation. -/
def concerns (b : Board) (launch : LaunchId) : Bool :=
  b.expects launch ||
    match b.page with
    | .operation op => op.launch = launch
    | _ => false

/-- Whether a message is about a launch that the page which is shown has nothing
    to do with. -/
def isStale (b : Board) (m : Message) : Bool :=
  match m.launch? with
  | some launch => !b.concerns launch
  | none => false

/-- The jobs that a stale message leaves behind. -/
def staleJobs : Message → List Job
  | .streamStarted s => (s.process.map Job.killTree).toList
  | _ => []

theorem expects_eq_false_of_not_concerns (b : Board) (launch : LaunchId)
    (h : b.concerns launch = false) : b.expects launch = false := by
  rw [concerns, Bool.or_eq_false_iff] at h
  exact h.1

theorem slot_expects_eq_false (b : Board) (launch : LaunchId) (slot : Slot)
    (h : b.concerns launch = false) (hslot : b.page.slot? = some slot) :
    slot.expects launch = false := by
  have hexpects := expects_eq_false_of_not_concerns b launch h
  rw [expects, hslot] at hexpects
  exact hexpects

theorem concerns_eq_false_of_isStale (b : Board) (m : Message) (launch : LaunchId)
    (hm : m.launch? = some launch) (h : b.isStale m = true) : b.concerns launch = false := by
  rw [isStale, hm] at h
  rw [← Bool.not_eq_true']
  exact h

/-- A stale message changes nothing, and only a stream that it brings is given
    up. -/
theorem update_stale (b : Board) (m : Message) (h : b.isStale m = true) :
    (b.update m).1 = b ∧ (b.update m).2 = staleJobs m := by
  cases m with
  | streamStarted s =>
      have hforeign := concerns_eq_false_of_isStale b _ s.launch rfl h
      have hexpects := expects_eq_false_of_not_concerns b s.launch hforeign
      rw [update, takeStream, if_neg (not_pending_of_not_expects b s.launch hexpects)]
      exact ⟨rfl, rfl⟩
  | line launch text =>
      have hforeign := concerns_eq_false_of_isStale b _ launch rfl h
      have hexpects := expects_eq_false_of_not_concerns b launch hforeign
      rw [update, takeLine, if_neg (by rw [hexpects]; exact Bool.false_ne_true)]
      exact ⟨rfl, rfl⟩
  | streamEnded launch kind error =>
      have hforeign := concerns_eq_false_of_isStale b _ launch rfl h
      rw [update, takeEnd]
      cases hp : b.page with
      | dashboard => exact ⟨rfl, rfl⟩
      | detail page => exact ⟨rfl, rfl⟩
      | logs page =>
          have hexpects := slot_expects_eq_false b launch page.slot hforeign (by rw [hp]; rfl)
          simp only [hexpects, Bool.false_eq_true, if_false]
          exact ⟨trivial, rfl⟩
      | operation op =>
          have hexpects := slot_expects_eq_false b launch op.slot hforeign (by rw [hp]; rfl)
          simp only [hexpects, Bool.false_eq_true, if_false]
          exact ⟨trivial, rfl⟩
  | returnDue launch =>
      -- The slot is closed by then, so it is the launch of the page that counts.
      have hforeign := concerns_eq_false_of_isStale b _ launch rfl h
      rw [update, takeReturn]
      cases hp : b.page with
      | dashboard => exact ⟨rfl, rfl⟩
      | detail page => exact ⟨rfl, rfl⟩
      | logs page => exact ⟨rfl, rfl⟩
      | operation op =>
          rw [concerns, hp, Bool.or_eq_false_iff] at hforeign
          have hother : ¬ op.launch = launch := of_decide_eq_false hforeign.2
          simp only [hother, false_and, if_false]
          exact ⟨trivial, rfl⟩
  | _ => exact absurd h Bool.false_ne_true

end Board

/-- A message with the boards before and after it, and the jobs it asks for. -/
structure Step where
  before : Board
  message : Message
  after : Board
  jobs : List Job

/-- Whether the message of a step is stale. -/
def Step.isStale (t : Step) : Bool :=
  t.before.isStale t.message

namespace Board

/-- The steps that messages make, in their order. -/
def trace (b : Board) : List Message → List Step
  | [] => []
  | m :: ms => ⟨b, m, (b.update m).1, (b.update m).2⟩ :: (b.update m).1.trace ms

/-- The messages that are not stale when they arrive. -/
def keptMessages (b : Board) (messages : List Message) : List Message :=
  ((b.trace messages).filter fun t => !t.isStale).map Step.message

/-- Stale steps can be struck out of a trace, and the others stay as they are. -/
theorem trace_filter (b : Board) (messages : List Message) :
    b.trace (b.keptMessages messages) = (b.trace messages).filter fun t => !t.isStale := by
  induction messages generalizing b with
  | nil => rfl
  | cons m ms ih =>
      unfold keptMessages at ih ⊢
      rw [trace]
      -- A stale step goes, and the rest of the run does not notice.
      by_cases h : b.isStale m = true
      · have hstays := (update_stale b m h).1
        rw [List.filter_cons_of_neg (by rw [Step.isStale, h]; exact Bool.false_ne_true), hstays]
        exact ih b
      · rw [Bool.not_eq_true] at h
        rw [List.filter_cons_of_pos (by rw [Step.isStale, h]; rfl), List.map_cons, trace, ih]

/-- The board after a list of messages is the board after those that are not
    stale. -/
theorem after_keptMessages (b : Board) (messages : List Message) :
    b.after (b.keptMessages messages) = b.after messages := by
  induction messages generalizing b with
  | nil => rfl
  | cons m ms ih =>
      unfold keptMessages at ih ⊢
      rw [trace]
      by_cases h : b.isStale m = true
      · have hstays := (update_stale b m h).1
        rw [List.filter_cons_of_neg (by rw [Step.isStale, h]; exact Bool.false_ne_true), hstays, ih]
        rw [after, after, List.foldl_cons, hstays]
      · rw [Bool.not_eq_true] at h
        rw [List.filter_cons_of_pos (by rw [Step.isStale, h]; rfl), List.map_cons, after, after,
          List.foldl_cons, List.foldl_cons]
        exact ih (b.update m).1

/-- A step is an update. -/
theorem step_of_mem_trace (b : Board) (messages : List Message) (t : Step)
    (h : t ∈ b.trace messages) :
    t.after = (t.before.update t.message).1 ∧ t.jobs = (t.before.update t.message).2 := by
  induction messages generalizing b with
  | nil => exact absurd h List.not_mem_nil
  | cons m ms ih =>
      rw [trace, List.mem_cons] at h
      rcases h with hfirst | hlater
      · rw [hfirst]
        exact ⟨rfl, rfl⟩
      · exact ih (b.update m).1 hlater

/-- A page has to do with its opener only. -/
theorem opener_of_concerns (b : Board) (opener : Option Launch) (launch : LaunchId)
    (hsound : b.page.watch.Sound b.launches) (hopened : b.OpenedBy opener)
    (h : b.concerns launch = true) : ∃ other, opener = some other ∧ other.id = launch := by
  rw [concerns, Bool.or_eq_true] at h
  rcases h with hexpects | hpage
  · exact opener_of_expects b opener launch hsound hopened hexpects
  -- Nothing may be expected any more, but the page of an operation has its launch.
  · cases hp : b.page with
    | operation op =>
        rw [hp] at hpage hsound
        refine opener_of_number b opener launch hopened ?_ ?_
        · rw [hp]
          exact Watch.noConfusion
        · rw [← of_decide_eq_true hpage]
          exact hsound.1
    | _ =>
        rw [hp] at hpage
        exact absurd hpage Bool.false_ne_true

end Board

namespace Run

/-- The steps of a run. -/
def trace (r : Run) : List Step :=
  (Board.initial r.timings).trace r.messages

/-- The board after a whole run. -/
def finalBoard (r : Run) : Board :=
  (Board.initial r.timings).after r.messages

/-- The run from which the messages are struck out that are stale when they
    arrive. -/
def withoutStale (r : Run) : Run :=
  { r with messages := (Board.initial r.timings).keptMessages r.messages }

variable (r : Run)

/-- A page that is shown has nothing to do with what has been left. -/
theorem not_concerns_of_leftAt (launch : Launch) (k : Nat) (h : r.LeftAt launch k) :
    (r.boardAt k).concerns launch.id = false := by
  rw [Bool.eq_false_iff]
  intro hconcerns
  rcases Board.opener_of_concerns _ _ launch.id (sound_boardAt r k) (openedBy_boardAt r k)
    hconcerns with ⟨other, hother, hid⟩
  exact h.2 other hother hid

/-- Stale results cannot interfere. The run without its stale messages makes
    exactly the steps of the whole run that are not stale, with the same boards
    and the same jobs, and comes to the same board. A stale step changes nothing
    and asks for nothing, except that a stream which it brings has its process
    killed. And once the page of a launch has been left, its results are stale
    for good. -/
theorem stale_messages_do_not_interfere :
    r.withoutStale.trace = (r.trace.filter fun t => !t.isStale) ∧
    r.withoutStale.finalBoard = r.finalBoard ∧
    (∀ t ∈ r.trace, t.isStale = true → t.after = t.before ∧ t.jobs = Board.staleJobs t.message) ∧
    (∀ launch j k l, launch ∈ Job.launches (r.jobsAt j) → j < k → k ≤ l →
      r.openerAt k ≠ some launch → (r.boardAt l).concerns launch.id = false) := by
  refine ⟨Board.trace_filter _ _, Board.after_keptMessages _ _, ?_, ?_⟩
  · intro t ht hstale
    rcases Board.step_of_mem_trace _ _ t ht with ⟨hafter, hjobs⟩
    rw [hafter, hjobs]
    exact Board.update_stale _ _ hstale
  · intro launch j k l hj hjk hkl hgone
    rcases shown_or_left r launch j k hj hjk with hshown | hleft
    · exact absurd hshown hgone
    · exact not_concerns_of_leftAt r launch l (leftAt_of_le r launch k l hkl hleft)

/-- The stream of an operation comes after its page was left and another operation
    was launched. It is stale then, and for good. -/
theorem late_stream_is_stale :
    let shop : Project := ⟨"shop", .stopped, "php", "", ⟨"/srv/shop"⟩⟩
    let late : Stream := { launch := ⟨1⟩, kind := .operation, process := some ⟨7⟩, capacity := 8 }
    let run : Run :=
      { timings := {}
        messages := [.projectsLoaded (.ok [shop]), .key (.char 's'), .key .escape,
          .key (.char 'r'), .streamStarted late] }
    (run.boardAt 4).isStale (.streamStarted late) = true ∧
    run.withoutStale.finalBoard = run.finalBoard ∧
    run.openerAt 3 ≠ some ⟨⟨1⟩, .operation⟩ ∧ (run.boardAt 5).concerns ⟨1⟩ = false := by
  intro shop late run
  have hleft : run.openerAt 3 ≠ some ⟨⟨1⟩, .operation⟩ := by decide
  rcases stale_messages_do_not_interfere run with ⟨_, hfinal, _, hgone⟩
  exact ⟨by decide, hfinal, hleft,
    hgone ⟨⟨1⟩, .operation⟩ 1 3 5 (by decide) (by decide) (by decide) hleft⟩

end Run

end FleetBoard
