import FleetBoard.Proofs.Deed
import FleetBoard.Proofs.Opener
import FleetBoard.Proofs.Overlay
import Mathlib.Logic.Basic

/-!
# Quitting

The program ends because a key asks for it, and for no other reason. What comes in
from outside only has things loaded again, sets the next timers, and has a process
killed that nobody waits for.

Two keys quit. One does so wherever it is pressed. The other one is a letter, so it
is typed or answers a question where something lies over the project list, and quits
everywhere else. Both do the same: the stream that is live is given up, and its
process is killed before the program ends.

The stream that is still on its way is the difficult one. Its slot is closed without
ever having been live, so there is no process yet that could be killed. When it comes
it finds no page that waits for it, as numbers do not come back, and is given up
then.

## Main definitions

* `Job.isFollowUp`: The jobs that news may ask for.
* `Key.quits`: A key quits under some overlays.

## Theorems

* `followUps_of_news`: News ask for nothing else.
* `update_of_quits`: What a key does that quits.
* `quit_mem_iff`: Which keys quit.
* `settled_after_quit`: What was launched before the end stays without a page.
* `quits_cleanly`: The laws of quitting over runs.
-/

namespace FleetBoard

/-- The jobs that news may ask for: loads, timers, and the end of a process. -/
def Job.isFollowUp : Job → Bool
  | .loadProjects => true
  | .loadDetail _ => true
  | .loadRouterStatus => true
  | .scheduleTick _ => true
  | .scheduleReturn .. => true
  | .killTree _ => true
  | _ => false

/-- A key quits under some overlays. -/
def Key.quits (key : Key) (overlays : List Overlay) : Prop :=
  key = .interrupt ∨ key = .char 'q' ∧ overlays = []

/-- One letter quits on the project list. -/
theorem DashboardCommand.ofKey?_eq_quit_iff (key : Key) :
    ofKey? key = some .quit ↔ key = .char 'q' := by
  cases key with
  | char c =>
      change ofChar? c = some .quit ↔ _
      constructor
      · intro h
        simp only [ofChar?, ite_eq_iff, Option.some.injEq, reduceCtorEq, and_false, false_or,
          or_false, and_true] at h
        rw [h.2.2]
      · intro h
        rw [Key.char.inj h]
        rfl
  | _ => decide

/-- The same letter quits on the page of a project. -/
theorem DetailCommand.ofKey?_eq_quit_iff (key : Key) :
    ofKey? key = some .quit ↔ key = .char 'q' := by
  cases key with
  | char c =>
      change ofChar? c = some .quit ↔ _
      constructor
      · intro h
        simp only [ofChar?, ite_eq_iff, Option.some.injEq, reduceCtorEq, and_false, false_or,
          or_false, and_true] at h
        rw [h.2.2]
      · intro h
        rw [Key.char.inj h]
        rfl
  | _ => decide

namespace Board

variable (b : Board)

section FollowUps

variable (job : Job)

theorem followUp_killJobs (stream : Option Stream) (h : job ∈ killJobs stream) :
    job.isFollowUp = true := by
  rw [killJobs, Option.mem_toList, Option.map_eq_some_iff] at h
  rcases h with ⟨process, _, hjob⟩
  rw [← hjob]
  rfl

theorem followUp_detailJobs (page : Option DetailPage) (h : job ∈ detailJobs page) :
    job.isFollowUp = true := by
  rw [detailJobs, Option.mem_toList, Option.map_eq_some_iff] at h
  rcases h with ⟨p, _, hjob⟩
  rw [← hjob]
  rfl

theorem followUp_listJobs (h : job ∈ listJobs) : job.isFollowUp = true := by
  simp only [listJobs, List.mem_cons, List.not_mem_nil, or_false] at h
  rcases h with h | h <;> rw [h] <;> rfl

theorem followUp_tickJobs (h : job ∈ b.tickJobs) : job.isFollowUp = true := by
  rw [tickJobs, List.mem_append, List.mem_singleton] at h
  rcases h with hload | htimer
  · cases hp : b.page with
    | dashboard =>
        rw [hp] at hload
        exact followUp_listJobs job hload
    | detail page =>
        simp only [hp] at hload
        split at hload
        · rw [List.mem_singleton.mp hload]
          rfl
        · simp only [List.mem_cons, List.not_mem_nil, or_false] at hload
          rcases hload with h | h <;> rw [h] <;> rfl
    | _ =>
        rw [hp] at hload
        exact absurd hload List.not_mem_nil
  · rw [htimer]
    rfl

theorem followUp_takeEnd (launch : LaunchId) (error : Option String)
    (h : job ∈ (b.takeEnd launch error).2) : job.isFollowUp = true := by
  unfold takeEnd at h
  cases hp : b.page with
  | operation op =>
      simp only [hp] at h
      split at h
      · rw [endOperation, List.mem_append, List.mem_append] at h
        rcases h with (hlist | hdetail) | htimer
        · exact followUp_listJobs job hlist
        · exact followUp_detailJobs job _ hdetail
        · -- Only a success sets a timer.
          cases error with
          | none =>
              rw [List.mem_singleton.mp htimer]
              rfl
          | some e => exact absurd htimer List.not_mem_nil
      · exact absurd h List.not_mem_nil
  | logs page =>
      simp only [hp] at h
      split at h <;> exact absurd h List.not_mem_nil
  | _ =>
      rw [hp] at h
      exact absurd h List.not_mem_nil

/-- News ask for nothing but loads, timers, and the end of a process. -/
theorem followUps_of_news (m : Message) (hm : m.key? = none) (h : job ∈ (b.update m).2) :
    job.isFollowUp = true := by
  cases m with
  | debuggerToggled result =>
      simp only [update, takeDebugger] at h
      split at h
      · split at h
        next page _ _ => exact followUp_detailJobs job (some page) h
        next => exact absurd h List.not_mem_nil
      · exact absurd h List.not_mem_nil
  | interactiveFinished origin error =>
      simp only [update, takeInteractive] at h
      split at h
      · rcases List.mem_append.mp h with hlist | hdetail
        · exact followUp_listJobs job hlist
        · exact followUp_detailJobs job _ hdetail
      · exact followUp_listJobs job h
  | streamStarted stream =>
      simp only [update, takeStream] at h
      split at h
      · exact absurd h List.not_mem_nil
      · exact followUp_killJobs job _ h
  | streamEnded launch kind error => exact followUp_takeEnd b job launch error h
  | tick => exact followUp_tickJobs b job h
  | key key => exact absurd hm (Option.some_ne_none key)
  | _ => exact absurd h List.not_mem_nil

end FollowUps

/-- A list of projects or the page of one has no stream to give up. -/
theorem quit_of_idle (hp : b.page.watch = .idle) : b.quit = (b, [.quit]) := by
  have hpage : b.page.setSlot .closed = b.page ∧ b.page.stream? = none := by
    cases hpage : b.page with
    | dashboard => exact ⟨rfl, rfl⟩
    | detail page => exact ⟨rfl, rfl⟩
    | _ =>
        rw [hpage] at hp
        exact absurd hp Watch.noConfusion
  rw [quit, hpage.1, hpage.2]
  rfl

/-- Of the commands on the project list only one quits. -/
theorem command_of_quit_mem_runDashboard (command : DashboardCommand)
    (h : Job.quit ∈ (b.runDashboard command).2) : command = .quit := by
  have hother : ∀ jobs : List Job, (b.runDashboard command).2 = jobs → Job.quit ∉ jobs →
      command = .quit := by
    intro jobs hjobs hnot
    rw [hjobs] at h
    exact absurd h hnot
  cases deed_runDashboard b command with
  | quit hcommand _ _ => exact hcommand
  | idle _ hjobs => exact hother _ hjobs List.not_mem_nil
  | moved _ _ _ hjobs => exact hother _ hjobs List.not_mem_nil
  | widened _ _ hjobs => exact hother _ hjobs List.not_mem_nil
  | opened _ _ _ _ hjobs => exact hother _ hjobs (by simp)
  | launched _ _ _ _ _ hjobs => exact hother _ hjobs (by simp)
  | browsed site p _ _ _ hjobs =>
      refine hother _ hjobs ?_
      rw [browseJobs]
      split <;> simp
  | asked _ _ _ _ hjobs => exact hother _ hjobs List.not_mem_nil
  | configured _ _ hjobs => exact hother _ hjobs (by simp)
  | refreshed _ _ hjobs => exact hother _ hjobs (by simp [listJobs])
  | begun _ _ hjobs => exact hother _ hjobs List.not_mem_nil
  | helped _ _ hjobs => exact hother _ hjobs List.not_mem_nil

theorem quit_not_mem_runDescribed (page : DetailPage) (d : Description)
    (command : DetailCommand) : Job.quit ∉ (b.runDescribed page d command).2 := by
  cases command with
  | browse site =>
      cases site <;> simp only [runDescribed]
      all_goals try split
      all_goals simp
  | toggleDebugger =>
      simp only [runDescribed]
      split <;> simp
  | copyUrl =>
      simp only [runDescribed]
      split <;> simp
  | _ => simp [runDescribed, launchOperation]

/-- Of the commands on the page of a project only one quits. -/
theorem command_of_quit_mem_runDetail (page : DetailPage) (command : DetailCommand)
    (h : Job.quit ∈ (b.runDetail page command).2) : command = .quit := by
  cases command with
  | quit => rfl
  | scrollUp => exact absurd h List.not_mem_nil
  | scrollDown => exact absurd h List.not_mem_nil
  | pageUp => exact absurd h List.not_mem_nil
  | pageDown => exact absurd h List.not_mem_nil
  | back => exact absurd h List.not_mem_nil
  | _ =>
      simp only [runDetail] at h
      split at h
      · exact absurd h (quit_not_mem_runDescribed b page _ _)
      · exact absurd h List.not_mem_nil

/-- Every key that quits does the same, on every page. -/
theorem update_of_quits (key : Key) (h : key.quits b.overlays) : b.update (.key key) = b.quit := by
  rw [update]
  rcases h with hinterrupt | ⟨hletter, hbare⟩
  · rw [hinterrupt, pressKey_interrupt]
  have hkey : key ≠ .interrupt := by
    rw [hletter]
    exact Key.noConfusion
  cases hp : b.page with
  | dashboard =>
      rcases (overlays_eq_nil_iff b).mp hbare with ⟨hquestion, hfilter, hhelp⟩
      rw [← update, update_bare b key hp hquestion hfilter hhelp hkey,
        (DashboardCommand.ofKey?_eq_quit_iff key).mpr hletter, quit_of_idle b (by rw [hp]; rfl)]
      rfl
  | detail page =>
      rw [pressKey_of_detail b page key hp hkey, detailKey,
        (DetailCommand.ofKey?_eq_quit_iff key).mpr hletter, quit_of_idle b (by rw [hp]; rfl)]
      rfl
  | logs page =>
      rw [pressKey, if_neg hkey, hp, hletter]
      rfl
  | operation op =>
      rw [pressKey, if_neg hkey, hp, hletter]
      rfl

/-- A question, a filter that is typed and the help keep a key from quitting, and a
    command other than the one to quit does not quit either. -/
theorem quits_of_dashboard (hb : b.Covered) (hp : b.page = .dashboard) (key : Key)
    (hkey : key ≠ .interrupt) (h : Job.quit ∈ (b.update (.key key)).2) :
    key = .char 'q' ∧ b.overlays = [] := by
  cases hb with
  | bare hquestion hfilter hhelp =>
      rw [update_bare b key hp hquestion hfilter hhelp hkey] at h
      refine ⟨?_, (overlays_eq_nil_iff b).mpr ⟨hquestion, hfilter, hhelp⟩⟩
      rw [← DashboardCommand.ofKey?_eq_quit_iff]
      cases hcommand : DashboardCommand.ofKey? key with
      | none =>
          rw [hcommand] at h
          exact absurd h List.not_mem_nil
      | some command =>
          rw [hcommand] at h
          rw [command_of_quit_mem_runDashboard b command h]
  | question action _ hquestion _ _ =>
      rw [update_question b key action hp hquestion hkey, answerKey] at h
      split at h <;> simp [launchOperation] at h
  | typing _ hquestion hfilter _ =>
      rw [update_typing b key hp hquestion hfilter hkey] at h
      exact absurd h List.not_mem_nil
  | help _ hquestion hfilter hhelp =>
      rw [update_help b key hp hquestion hfilter hhelp hkey] at h
      exact absurd h List.not_mem_nil

/-- Away from the project list it is the letter that quits. -/
theorem letter_of_quit_mem (hp : b.page ≠ .dashboard) (key : Key) (hkey : key ≠ .interrupt)
    (h : Job.quit ∈ (b.update (.key key)).2) : key = .char 'q' := by
  rw [update] at h
  -- Giving up a stream asks for nothing but its end and for loads.
  have hnot : ∀ jobs : List Job, (∀ job ∈ jobs, job.isFollowUp = true) → Job.quit ∉ jobs :=
    fun jobs hjobs hquit => Bool.false_ne_true (hjobs _ hquit)
  have hletter : key.isQuit = true → key = .char 'q' := by
    intro hquit
    rw [Key.isQuit, Bool.or_eq_true, beq_iff_eq, beq_iff_eq] at hquit
    exact hquit.resolve_left hkey
  cases hpage : b.page with
  | dashboard => exact absurd hpage hp
  | detail page =>
      rw [pressKey_of_detail b page key hpage hkey, detailKey] at h
      rw [← DetailCommand.ofKey?_eq_quit_iff]
      cases hcommand : DetailCommand.ofKey? key with
      | none =>
          rw [hcommand] at h
          exact absurd h List.not_mem_nil
      | some command =>
          rw [hcommand] at h
          rw [command_of_quit_mem_runDetail b page command h]
  | logs page =>
      rcases pressKey_of_logs b page key hpage with ⟨hquit, _⟩ | ⟨_, hleave⟩ | ⟨_, _, hstay⟩
      · exact hletter hquit
      · rw [hleave] at h
        exact absurd h (hnot _ fun job => followUp_killJobs job _)
      · rw [hstay] at h
        exact absurd h List.not_mem_nil
  | operation op =>
      rcases pressKey_of_operation b op key hpage with ⟨hquit, _⟩ | ⟨_, hleave⟩ | ⟨_, _, hstay⟩
      · exact hletter hquit
      · rw [hleave] at h
        refine absurd h (hnot _ fun job hjob => ?_)
        rw [leaveOperation, List.mem_append, List.mem_append] at hjob
        rcases hjob with (hkill | hlist) | hdetail
        · exact followUp_killJobs job _ hkill
        · exact followUp_listJobs job hlist
        · exact followUp_detailJobs job _ hdetail
      · rw [hstay] at h
        exact absurd h List.not_mem_nil

/-- The keys that quit, where one overlay at most lies over the project list. -/
theorem quit_mem_iff (hb : b.Covered) (key : Key) :
    Job.quit ∈ (b.update (.key key)).2 ↔ key.quits b.overlays := by
  constructor
  · intro h
    by_cases hkey : key = .interrupt
    · exact Or.inl hkey
    right
    by_cases hp : b.page = .dashboard
    · exact quits_of_dashboard b hb hp key hkey h
    · refine ⟨letter_of_quit_mem b hp key hkey h, ?_⟩
      by_cases hbare : b.overlays = []
      · exact hbare
      have hmode := (overlays_of_covered b hb).2 hbare
      -- Nothing lies over another page.
      cases hpage : b.page with
      | dashboard => exact absurd hpage hp
      | _ =>
          rw [mode, hpage] at hmode
          exact absurd hmode Mode.noConfusion
  · intro h
    rw [update_of_quits b key h]
    exact quit_mem_quit b

/-- What a message does by which the program ends. -/
theorem update_of_quit_mem (hb : b.Covered) (m : Message) (h : Job.quit ∈ (b.update m).2) :
    b.update m = b.quit := by
  cases hm : m.key? with
  | none => exact absurd (followUps_of_news b .quit m hm h) Bool.false_ne_true
  | some key =>
      rw [(Message.key?_eq_some_iff m key).mp hm] at h ⊢
      exact update_of_quits b key ((quit_mem_iff b hb key).mp h)

/-- The slot of a page is closed by quitting, whatever it was before. -/
theorem closed_of_quit (slot : Slot) (h : b.quit.1.page.slot? = some slot) : slot = .closed := by
  have hslot : b.quit.1.page.slot? = b.page.slot?.map fun _ => .closed := by
    rw [quit]
    cases b.page <;> rfl
  rw [hslot, Option.map_eq_some_iff] at h
  rcases h with ⟨_, _, hclosed⟩
  exact hclosed.symm

/-- A stream is given up when it comes for a launch that nothing is expected of. -/
theorem update_streamStarted (s : Stream) (h : b.expects s.launch = false) :
    b.update (.streamStarted s) = (b, killJobs (some s)) := by
  rw [update, takeStream, if_neg (not_pending_of_not_expects b s.launch h)]

end Board

namespace Run

variable (r : Run)

/-- Whatever was launched before the end of the program is settled from then on. -/
theorem settled_after_quit (q i j : Nat) (launch : Launch) (hquit : Job.quit ∈ r.jobsAt q)
    (hiq : i < q) (hlaunch : launch ∈ Job.launches (r.jobsAt i)) (hqj : q < j) :
    r.Settled launch.id j := by
  refine settled_of_le r launch.id (q + 1) j hqj
    ⟨number_le_launches r launch i (q + 1) hlaunch (by omega), ?_⟩
  rcases hm : r.messages[q]? with _ | m
  · rw [jobsAt_idle r q hm] at hquit
    exact absurd hquit List.not_mem_nil
  rw [jobsAt_step r q m hm] at hquit
  have hboard := Board.update_of_quit_mem _ (covered_boardAt r q) m hquit
  rw [boardAt_step r q m hm, hboard, Board.expects]
  -- A slot that is closed expects nothing.
  cases hslot : (r.boardAt q).quit.1.page.slot? with
  | none => rfl
  | some slot =>
      rw [Board.closed_of_quit _ slot hslot]
      rfl

/-- Messages other than keys ask for loads, timers and the end of a process only. The
    program ends by a key, and these are the interrupt, wherever it is pressed, and
    the letter where nothing lies over the project list. That is the last job then,
    after the end of the process of the stream that is live, if there is one. No
    stream is live or on its way afterwards, and none that was launched before comes
    up again, however the run goes on: when it starts, the board stays as it is and
    the process is killed. -/
theorem quits_cleanly :
    (∀ k m, m.key? = none → ∀ job ∈ ((r.boardAt k).update m).2, job.isFollowUp = true) ∧
    (∀ k key, Job.quit ∈ ((r.boardAt k).update (.key key)).2 ↔
      key = .interrupt ∨ key = .char 'q' ∧ (r.boardAt k).overlays = []) ∧
    (∀ k m, Job.quit ∈ ((r.boardAt k).update m).2 →
      ((r.boardAt k).update m).2 =
        (((r.boardAt k).page.stream?.bind Stream.process).map Job.killTree).toList ++ [.quit] ∧
      ∀ slot, ((r.boardAt k).update m).1.page.slot? = some slot → slot = .closed) ∧
    ∀ q, Job.quit ∈ r.jobsAt q → ∀ i < q, ∀ launch ∈ Job.launches (r.jobsAt i), ∀ j, q < j →
      (∀ s, (r.boardAt j).page.stream? = some s → s.launch ≠ launch.id) ∧
      ∀ s, s.launch = launch.id → (r.boardAt j).update (.streamStarted s) =
        (r.boardAt j, (s.process.map Job.killTree).toList) := by
  refine ⟨fun k m hm job => Board.followUps_of_news _ job m hm,
    fun k key => Board.quit_mem_iff _ (covered_boardAt r k) key, fun k m hquit => ?_,
    fun q hquit i hiq launch hlaunch j hqj => ?_⟩
  · rw [Board.update_of_quit_mem _ (covered_boardAt r k) m hquit]
    exact ⟨rfl, Board.closed_of_quit _⟩
  · have hsettled := settled_after_quit r q i j launch hquit hiq hlaunch hqj
    refine ⟨fun s hs hid => ?_, fun s hid => ?_⟩
    · -- A stream that is live is expected.
      have hexpects : (r.boardAt j).expects s.launch = true := Board.expects_of_stream? _ s hs
      rw [hid, hsettled.2] at hexpects
      exact Bool.false_ne_true hexpects
    · exact Board.update_streamStarted _ s (by rw [hid]; exact hsettled.2)

/-- An operation is on its way when the letter quits, and starts afterwards. There is
    nothing to kill at first, and then its process is. -/
theorem late_start_is_killed :
    let late : Stream := ⟨⟨1⟩, .operation, some ⟨42⟩, 64, [], true, .awaited⟩
    let run : Run :=
      { timings := {}
        messages := [.projectsLoaded (.ok [⟨"shop", .running, "php", "", ⟨"/srv/shop"⟩⟩]),
          .key (.char 'S'), .key (.char 'q'), .streamStarted late] }
    (run.boardAt 2).page.slot? = some (.pending ⟨1⟩) ∧ run.jobsAt 2 = [.quit] ∧
      (run.boardAt 3).page.slot? = some .closed ∧
      (run.boardAt 4).page.stream? = none ∧ run.jobsAt 3 = [.killTree ⟨42⟩] := by
  intro late run
  have hlaunch : (⟨⟨1⟩, .operation⟩ : Launch) ∈ Job.launches (run.jobsAt 1) := by decide
  rcases quits_cleanly run with ⟨_, hkeys, hend, hlate⟩
  have hquit : Job.quit ∈ run.jobsAt 2 :=
    (hkeys 2 (.char 'q')).mpr (Or.inr ⟨rfl, by decide⟩)
  rcases hend 2 (.key (.char 'q')) hquit with ⟨hjobs, hclosed⟩
  have hstart := (hlate 2 hquit 1 (by decide) _ hlaunch 3 (by decide)).2 late rfl
  refine ⟨by decide, hjobs, ?_, ?_, congrArg Prod.snd hstart⟩
  · cases hslot : (run.boardAt 3).page.slot? with
    | none => exact absurd hslot (by decide)
    | some slot => rw [hclosed slot hslot]
  · rw [boardAt_step run 3 _ rfl, hstart]
    decide

end Run

end FleetBoard
