import FleetBoard.Proofs.Move

/-!
# Which Launch Opened a Page

A page with a stream was opened for one launch and is shown until it is left.
The page of an operation knows its launch, the page of logs does not: once its
stream is closed, nothing on it tells which launch it was for. So the launch is
kept beside the board here. A step that asks for a launch opens a page, a step
after which a page without a stream is shown has left it, and every other step
keeps the opener.

Launches are numbered in order, and only a page without a stream makes one. That
is why the opener is always the newest launch, and why a launch whose page has
been left never opens a page again.

## Main definitions

* `Page.openedBy`: The launch that opened a page, after a step.
* `Board.OpenedBy`: The board shows the page of a launch.
* `Run.openerAt`: The launch that opened the page at a point.
* `Run.LeftAt`: The page of a launch has been left.
* `Run.Settled`: Nothing is expected of a launch any more.

## Theorems

* `opener_of_expects`: Results are expected of the opener only.
* `expects_of_move`: Results are expected of what was expected or is launched.
* `launches_of_move`: A move asks for the next launch, or for none.
* `openedBy_of_move`: Moves keep track of the opener.
* `openedBy_boardAt`: The opener is tracked throughout every run.
* `shown_or_left`: After its launch, a page is shown until it is left.
* `leftAt_of_le`: What has been left stays left.
* `settled_of_le`: What is settled stays settled.
-/

namespace FleetBoard

/-- The launch that opened a page, after a step that asked for `jobs`. -/
def Page.openedBy (p : Page) (jobs : List Job) (before : Option Launch) : Option Launch :=
  match Job.launches jobs with
  | launch :: _ => some launch
  | [] => if p.slot?.isSome then before else none

namespace Board

/-- The board shows the page of a launch, which is the newest one, or a page
    without a stream. -/
def OpenedBy (b : Board) : Option Launch → Prop
  | none => b.page.watch = .idle
  | some launch => launch.id.number = b.launches ∧ b.page.watch.kind? = some launch.kind

variable (b b' : Board) (m : Message) (jobs : List Job)

theorem expects_iff (launch : LaunchId) : b.expects launch = true ↔
    ∃ slot, b.page.watch.slot? = some slot ∧ slot.expects launch = true := by
  rw [expects, Page.slot?_watch]
  cases b.page.slot? with
  | none => simp only [Bool.false_eq_true, reduceCtorEq, false_and, exists_false]
  | some slot => simp only [Option.some.injEq, exists_eq_left']

/-- A page that waits for a stream expects results of its launch. -/
theorem not_pending_of_not_expects (launch : LaunchId) (h : b.expects launch = false) :
    b.page.slot? ≠ some (.pending launch) := by
  intro hpending
  have hexpects : b.expects launch = true := by
    rw [expects, hpending]
    exact decide_eq_true rfl
  rw [h] at hexpects
  exact Bool.false_ne_true hexpects

/-- A page with a live stream expects results of its launch. -/
theorem expects_of_stream? (s : Stream) (h : b.page.stream? = some s) :
    b.expects s.launch = true := by
  rw [Page.stream?, Option.bind_eq_some_iff] at h
  rcases h with ⟨slot, hslot, hs⟩
  rw [expects, hslot]
  cases slot with
  | live stream =>
      rw [Option.some.inj hs]
      exact decide_eq_true rfl
  | _ => exact absurd hs (Option.some_ne_none s).symm

/-- A page with a stream was opened for the newest launch. -/
theorem opener_of_number (opener : Option Launch) (launch : LaunchId) (hopened : b.OpenedBy opener)
    (hwatch : b.page.watch ≠ .idle) (hnumber : launch.number = b.launches) :
    ∃ other, opener = some other ∧ other.id = launch := by
  cases opener with
  | none => exact absurd hopened hwatch
  | some other =>
      refine ⟨other, rfl, ?_⟩
      rw [LaunchId.mk.injEq, hopened.1, hnumber]

/-- Results are expected of the opener only. -/
theorem opener_of_expects (opener : Option Launch) (launch : LaunchId)
    (hsound : b.page.watch.Sound b.launches) (hopened : b.OpenedBy opener)
    (hexpects : b.expects launch = true) : ∃ other, opener = some other ∧ other.id = launch := by
  rcases (expects_iff b launch).mp hexpects with ⟨slot, hslot, hid⟩
  refine opener_of_number b opener launch hopened (fun hidle => ?_)
    (Watch.number_of_expects _ _ slot launch hsound hslot hid)
  rw [hidle] at hslot
  exact absurd hslot (Option.some_ne_none slot).symm

/-- A move asks for the next launch, from a page without a stream, or for none
    at all. Then the page goes on to be followed for the same, or is left for one
    without a stream. -/
theorem launches_of_move (hmove : Move b m b' jobs) :
    (Job.launches jobs = [] ∧ b'.launches = b.launches ∧
      (b'.page.watch = .idle ∨ b'.page.watch.kind? = b.page.watch.kind?)) ∨
    (∃ launch, Job.launches jobs = [launch] ∧ launch.id = b.nextLaunch ∧
      b'.launches = b.launches + 1 ∧ b.page.watch = .idle ∧ b'.page.watch = launch.opening) := by
  cases hmove with
  | quiet _ hwatch hlaunches hjobs =>
      refine Or.inl ⟨Job.launches_of_streamJobs jobs [] hjobs, hlaunches, Or.inr ?_⟩
      rw [hwatch]
  | refused s _ _ hboard hjobs =>
      refine Or.inl ⟨?_, by rw [hboard], Or.inr (by rw [hboard])⟩
      rw [hjobs, launches_killJobs]
  | adopted s _ _ hwatch hlaunches hjobs =>
      refine Or.inl ⟨by rw [hjobs]; rfl, hlaunches, Or.inr ?_⟩
      rw [hwatch, Watch.kind?_setSlot]
  | logsEnded launch kind error slot _ _ hbefore hafter hlaunches hjobs =>
      refine Or.inl ⟨by rw [hjobs]; rfl, hlaunches, Or.inr ?_⟩
      rw [hafter, hbefore]
      rfl
  | operationEnded launch kind error id done earlier slot _ _ hbefore hafter hlaunches hjobs =>
      refine Or.inl ⟨?_, hlaunches, Or.inr ?_⟩
      · rw [Job.launches_of_streamJobs jobs _ hjobs]
        cases error <;> rfl
      · rw [hafter, hbefore]
        rfl
  | returned launch slot _ _ hafter hlaunches hjobs =>
      exact Or.inl ⟨by rw [hjobs]; rfl, hlaunches, Or.inl hafter⟩
  | quit key _ hwatch hlaunches hjobs =>
      refine Or.inl ⟨?_, hlaunches, Or.inr ?_⟩
      · rw [Job.launches_of_streamJobs jobs _ hjobs, launches_killJobs]
      · rw [hwatch, Watch.kind?_setSlot]
  | left key _ _ _ hafter hlaunches hjobs =>
      refine Or.inl ⟨?_, hlaunches, Or.inl hafter⟩
      rw [Job.launches_of_streamJobs jobs _ hjobs, launches_killJobs]
  | launched key launch job _ hid hbefore hafter hlaunches hjob hjobs =>
      refine Or.inr ⟨launch, ?_, hid, hlaunches, hbefore, hafter⟩
      rw [Job.launches_of_streamJobs jobs _ hjobs]
      exact (Job.only_launch_of_launch? job launch hjob).1

/-- Results are expected of what they were expected of before, or of the next
    launch. -/
theorem expects_of_move (hmove : Move b m b' jobs) (launch : LaunchId)
    (h : b'.expects launch = true) : b.expects launch = true ∨ launch = b.nextLaunch := by
  rcases (expects_iff b' launch).mp h with ⟨slot, hslot, hexpects⟩
  cases hmove with
  | quiet _ hwatch _ _ =>
      rw [hwatch] at hslot
      exact Or.inl ((expects_iff b launch).mpr ⟨slot, hslot, hexpects⟩)
  | refused s _ _ hboard _ =>
      rw [hboard] at h
      exact Or.inl h
  | adopted s _ hpending hwatch _ _ =>
      rw [hwatch, Watch.slot?_setSlot, hpending, Option.map_some, Option.some.injEq] at hslot
      rw [← hslot] at hexpects
      -- What is live now was pending before, for the same launch.
      exact Or.inl ((expects_iff b launch).mpr ⟨.pending s.launch, hpending, hexpects⟩)
  | logsEnded _ _ _ _ _ _ _ hafter _ _ =>
      rw [hafter, Watch.slot?, Option.some.injEq] at hslot
      rw [← hslot] at hexpects
      exact absurd hexpects Bool.false_ne_true
  | operationEnded _ _ _ _ _ _ _ _ _ _ hafter _ _ =>
      rw [hafter, Watch.slot?, Option.some.injEq] at hslot
      rw [← hslot] at hexpects
      exact absurd hexpects Bool.false_ne_true
  | returned _ _ _ _ hafter _ _ =>
      rw [hafter] at hslot
      exact absurd hslot (Option.some_ne_none slot).symm
  | quit key _ hwatch _ _ =>
      rw [hwatch, Watch.slot?_setSlot, Option.map_eq_some_iff] at hslot
      rcases hslot with ⟨_, _, hclosed⟩
      rw [← hclosed] at hexpects
      exact absurd hexpects Bool.false_ne_true
  | left _ _ _ _ hafter _ _ =>
      rw [hafter] at hslot
      exact absurd hslot (Option.some_ne_none slot).symm
  | launched key new job _ hid _ hafter _ _ _ =>
      right
      rw [hafter, Watch.slot?_opening, Option.some.injEq] at hslot
      rw [← hslot] at hexpects
      rw [← hid]
      exact (of_decide_eq_true hexpects).symm

/-- A step without a launch keeps the opener as long as it keeps the page. -/
theorem openedBy_of_no_launch (opener : Option Launch) (hnone : Job.launches jobs = [])
    (hlaunches : b'.launches = b.launches)
    (hwatch : b'.page.watch = .idle ∨ b'.page.watch.kind? = b.page.watch.kind?)
    (hb : b.OpenedBy opener) : b'.OpenedBy (b'.page.openedBy jobs opener) := by
  rw [Page.openedBy, hnone, ← Page.slot?_watch]
  dsimp only
  -- Only a page that still has a stream keeps its opener.
  by_cases hidle : b'.page.watch = .idle
  · rw [hidle, if_neg (by exact Bool.false_ne_true)]
    exact hidle
  · rw [if_pos ((Watch.isSome_slot?_iff _).mpr hidle)]
    rcases hwatch with hleft | hkind
    · exact absurd hleft hidle
    cases opener with
    | none =>
        rw [OpenedBy, ← Watch.kind?_eq_none_iff] at hb ⊢
        rw [hkind]
        exact hb
    | some launch =>
        rcases hb with ⟨hnumber, hkind'⟩
        exact ⟨by rw [hlaunches]; exact hnumber, by rw [hkind]; exact hkind'⟩

/-- Moves keep track of the opener. -/
theorem openedBy_of_move (opener : Option Launch) (hmove : Move b m b' jobs)
    (hb : b.OpenedBy opener) : b'.OpenedBy (b'.page.openedBy jobs opener) := by
  rcases launches_of_move b b' m jobs hmove with ⟨hnone, hlaunches, hwatch⟩ |
    ⟨launch, hsome, hid, hlaunches, _, hopening⟩
  · exact openedBy_of_no_launch b b' jobs opener hnone hlaunches hwatch hb
  · -- The page is the one of the launch, whatever was shown before.
    rw [Page.openedBy, hsome]
    refine ⟨?_, ?_⟩
    · rw [hlaunches, hid, nextLaunch]
    · rw [hopening, Watch.kind?_opening]

/-- A page that was not opened in a step was opened before it. -/
theorem eq_of_openedBy (p : Page) (before : Option Launch) (launch : Launch)
    (hnone : Job.launches jobs = []) (h : p.openedBy jobs before = some launch) :
    before = some launch := by
  rw [Page.openedBy, hnone] at h
  by_cases hslot : p.slot?.isSome = true
  · rw [← h]
    exact (if_pos hslot).symm
  · exact absurd (h.symm.trans (if_neg hslot)) (Option.some_ne_none launch)

end Board

namespace Run

/-- The launch that opened the page at a point, if a launch did. -/
def openerAt (r : Run) : Nat → Option Launch
  | 0 => none
  | k + 1 => (r.boardAt (k + 1)).page.openedBy (r.jobsAt k) (r.openerAt k)

variable (r : Run)

/-- The opener is tracked throughout every run. -/
theorem openedBy_boardAt (k : Nat) : (r.boardAt k).OpenedBy (r.openerAt k) := by
  induction k with
  | zero =>
      rw [boardAt_zero]
      rfl
  | succ k ih =>
      rw [openerAt]
      rcases hm : r.messages[k]? with _ | m
      · rw [jobsAt_idle r k hm, boardAt_idle r k hm]
        exact Board.openedBy_of_no_launch _ _ [] _ rfl rfl (Or.inr rfl) ih
      · exact Board.openedBy_of_move _ _ m _ _ (move r k m hm) ih

/-- The page of a launch has been left at a point: the launch was made, and the
    page that is shown was not opened for it. -/
def LeftAt (launch : Launch) (k : Nat) : Prop :=
  launch.id.number ≤ (r.boardAt k).launches ∧
    ∀ other, r.openerAt k = some other → other.id ≠ launch.id

/-- What a step does about launches: it makes none, or the next one. -/
theorem launches_step (k : Nat) :
    (Job.launches (r.jobsAt k) = [] ∧ (r.boardAt (k + 1)).launches = (r.boardAt k).launches) ∨
    (∃ launch, Job.launches (r.jobsAt k) = [launch] ∧
      launch.id.number = (r.boardAt k).launches + 1 ∧
      (r.boardAt (k + 1)).launches = (r.boardAt k).launches + 1) := by
  rcases hm : r.messages[k]? with _ | m
  · rw [jobsAt_idle r k hm, boardAt_idle r k hm]
    exact Or.inl ⟨rfl, rfl⟩
  · rcases Board.launches_of_move _ _ m _ (move r k m hm) with ⟨hnone, hlaunches, _⟩ |
      ⟨launch, hsome, hid, hlaunches, _, _⟩
    · exact Or.inl ⟨hnone, hlaunches⟩
    · exact Or.inr ⟨launch, hsome, by rw [hid, Board.nextLaunch], hlaunches⟩

/-- A launch that has been left stays left, since later launches have higher
    numbers. -/
theorem leftAt_succ (launch : Launch) (k : Nat) (h : r.LeftAt launch k) :
    r.LeftAt launch (k + 1) := by
  rcases h with ⟨hnumber, hopener⟩
  rcases launches_step r k with ⟨hnone, hlaunches⟩ | ⟨new, hsome, hnew, hlaunches⟩
  · refine ⟨by omega, fun other hother => ?_⟩
    rw [openerAt] at hother
    exact hopener other (Board.eq_of_openedBy _ _ _ other hnone hother)
  · refine ⟨by omega, fun other hother hid => ?_⟩
    -- The new page would have to have the number of the old launch.
    rw [openerAt, Page.openedBy, hsome, Option.some.injEq] at hother
    rw [hother, hid] at hnew
    omega

theorem leftAt_of_le (launch : Launch) (k l : Nat) (hkl : k ≤ l) (h : r.LeftAt launch k) :
    r.LeftAt launch l := by
  induction l with
  | zero =>
      rw [show 0 = k by omega]
      exact h
  | succ l ih =>
      by_cases hk : k = l + 1
      · rw [← hk]
        exact h
      · exact leftAt_succ r launch l (ih (by omega))

/-- Nothing is expected of a launch that was made, and nothing ever will be, since
    later launches have higher numbers. -/
def Settled (launch : LaunchId) (k : Nat) : Prop :=
  launch.number ≤ (r.boardAt k).launches ∧ (r.boardAt k).expects launch = false

theorem settled_succ (launch : LaunchId) (k : Nat) (h : r.Settled launch k) :
    r.Settled launch (k + 1) := by
  rcases h with ⟨hnumber, hexpects⟩
  rcases hm : r.messages[k]? with _ | m
  · rw [Settled, boardAt_idle r k hm]
    exact ⟨hnumber, hexpects⟩
  have hlaunches : (r.boardAt k).launches ≤ (r.boardAt (k + 1)).launches := by
    rcases launches_step r k with ⟨_, hlaunches⟩ | ⟨_, _, _, hlaunches⟩ <;> omega
  refine ⟨by omega, Bool.eq_false_iff.mpr fun hafter => ?_⟩
  rcases Board.expects_of_move _ _ m _ (move r k m hm) launch hafter with hbefore | hnew
  · rw [hexpects] at hbefore
    exact Bool.false_ne_true hbefore
  · have hnext : (r.boardAt k).launches + 1 ≤ (r.boardAt k).launches := by
      rw [hnew] at hnumber
      exact hnumber
    omega

theorem settled_of_le (launch : LaunchId) (k l : Nat) (hkl : k ≤ l) (h : r.Settled launch k) :
    r.Settled launch l := by
  induction hkl with
  | refl => exact h
  | step _ ih => exact settled_succ r launch _ ih

/-- After its launch, a page is shown until it is left. -/
theorem shown_or_left (launch : Launch) (j k : Nat) (hj : launch ∈ Job.launches (r.jobsAt j))
    (hjk : j < k) : r.openerAt k = some launch ∨ r.LeftAt launch k := by
  induction k with
  | zero => omega
  | succ k ih =>
      -- The step of the launch itself shows the page; later steps keep it or leave it.
      by_cases hnow : j = k
      · left
        rw [hnow] at hj
        rcases launches_step r k with ⟨hnone, _⟩ | ⟨new, hsome, _, _⟩
        · rw [hnone] at hj
          exact absurd hj List.not_mem_nil
        · rw [hsome, List.mem_singleton] at hj
          rw [openerAt, Page.openedBy, hsome, hj]
      · rcases ih (by omega) with hshown | hleft
        · by_cases hstill : r.openerAt (k + 1) = some launch
          · exact Or.inl hstill
          right
          have hopened := openedBy_boardAt r k
          rw [hshown] at hopened
          have hnumber : launch.id.number = (r.boardAt k).launches := hopened.1
          -- Without a launch the page has no opener now, with one it has a newer one.
          rcases launches_step r k with ⟨hnone, hlaunches⟩ | ⟨new, hsome, hnew, hlaunches⟩
          · refine ⟨by omega, fun other hother hid => hstill ?_⟩
            rw [openerAt] at hother
            rw [openerAt, hother, ← Board.eq_of_openedBy _ _ _ other hnone hother, hshown]
          · refine ⟨by omega, fun other hother hid => ?_⟩
            rw [openerAt, Page.openedBy, hsome, Option.some.injEq] at hother
            rw [hother, hid] at hnew
            omega
        · exact Or.inr (leftAt_succ r launch k hleft)

/-- No launch that was made has a number that is still to come. -/
theorem number_le_launches (launch : Launch) (j k : Nat)
    (hj : launch ∈ Job.launches (r.jobsAt j)) (hjk : j < k) :
    launch.id.number ≤ (r.boardAt k).launches := by
  rcases shown_or_left r launch j k hj hjk with hshown | hleft
  · have hopened := openedBy_boardAt r k
    rw [hshown] at hopened
    exact Nat.le_of_eq hopened.1
  · exact hleft.1

end Run

end FleetBoard
