import FleetBoard.Proofs.Run
import FleetBoard.Proofs.Reach

/-!
# Unanswered Jobs

A board together with the jobs that it asked for and that have not been answered.
The project list is loaded once for each time it was asked for, and so is a
project; a tick comes once for each time it was set. Nothing else is assumed:
answers come in any order and with any result, and everything that is no answer
comes at any time.

The board shows that it waits for something, and it asks for nothing again that
it waits for already. So a wait that has no load behind it never ends. What a
message does about waits is said turn by turn: whatever is waited for afterwards
was waited for before and is not what the message answers, or it is asked for in
the same step. The note that a refresh is on its way is looser. It goes with the
next result for the project list or for the page that can be reached, so one of
those has to be on its way, and not always the one that was asked for by the key.

## Main definitions

* `Message.answers`: A message is the answer to a job.
* `Desk`: A board with the jobs that have not been answered.
* `Desk.Step`, `Desk.Reachable`: What may happen to a desk.
* `Board.Awaits`, `Board.Renews`: The jobs that a board waits for, and the jobs
  that end the note of a refresh.
* `Desk.Attended`: Whatever is waited for has not been answered.

## Theorems

* `awaits_of_turn`: Nothing is waited for that is not asked for.
* `renews_of_turn`: The note of a refresh stays only while it may go again.
* `timers_of_turn`: Nothing but a tick sets the next one.
* `attended_step`: Steps keep every wait attended.
* `every_wait_is_attended`: No reachable board waits for nothing.
-/

namespace FleetBoard

/-- Whether a message is the answer to a job. The answer to the load of a project
    names its path, however that is written. -/
def Message.answers : Message → Job → Bool
  | .projectsLoaded _, .loadProjects => true
  | .detailLoaded root _, .loadDetail asked => asked.same root
  | .tick, .scheduleTick _ => true
  | _, _ => false

/-- Whether a job sets the time of the next tick. -/
def Job.isTimer : Job → Bool
  | .scheduleTick _ => true
  | _ => false

/-- A board with the jobs that it asked for and that have not been answered. Jobs
    without an answer stay among them. -/
structure Desk where
  board : Board
  unanswered : List Job
  deriving DecidableEq, Repr

namespace Desk

/-- The desk to begin with. -/
def initial (timings : Timings) : Desk :=
  { board := Board.initial timings, unanswered := (Board.initial timings).startup }

/-- The desk after a message, where `rest` is what the message leaves
    unanswered. -/
def take (d : Desk) (m : Message) (rest : List Job) : Desk :=
  { board := (d.board.update m).1, unanswered := rest ++ (d.board.update m).2 }

/-- What may happen to a desk: one of its jobs is answered, or the board is told
    anything that is no answer. -/
inductive Step (d : Desk) : Desk → Prop
  | answered (m : Message) (job : Job) (hjob : job ∈ d.unanswered) (hm : m.answers job = true) :
    Step d (d.take m (d.unanswered.erase job))
  | told (m : Message) (hm : m.isAnswer = false) : Step d (d.take m d.unanswered)

/-- What may become of the desk to begin with. -/
inductive Reachable (timings : Timings) : Desk → Prop
  | initial : Reachable timings (Desk.initial timings)
  | step (d d' : Desk) (hd : Reachable timings d) (h : d.Step d') : Reachable timings d'

end Desk

theorem Message.answers_eq_false (m : Message) (h : m.isAnswer = false) (job : Job) :
    m.answers job = false := by
  cases m <;> cases job <;> first | rfl | exact absurd h.symm Bool.false_ne_true

/-- What spares a project is no answer to a load of it. -/
theorem Message.answers_of_spares (m : Message) (root : Path) (h : m.spares root = true) :
    m.answers (.loadDetail root) = false := by
  cases m with
  | detailLoaded other result =>
      rw [spares, Bool.not_eq_true'] at h
      exact h
  | _ => rfl

theorem Job.countP_awaited (jobs : List Job) :
    (Job.awaited jobs).countP Job.isTimer = jobs.countP Job.isTimer := by
  rw [Job.awaited, List.countP_filter]
  refine List.countP_congr fun job _ => ?_
  cases job <;> simp only [Job.isTimer, Job.isAwaited, Bool.and_true, Bool.and_false]

namespace Board

/-- The jobs that a board waits for: the project list, and the page of a project
    that can be reached, each while it is marked as loading. -/
def Awaits (b : Board) (job : Job) : Prop :=
  (b.loading = true ∧ job = .loadProjects) ∨
    ∃ page, b.page.detail? = some page ∧ page.loading = true ∧ job = .loadDetail page.root

/-- The jobs whose answers end the note that a refresh is on its way. -/
def Renews (b : Board) (job : Job) : Prop :=
  job = .loadProjects ∨ ∃ page, b.page.detail? = some page ∧ job = .loadDetail page.root

section Turns

variable (b b' : Board) (m : Message) (jobs : List Job)

/-- The project list is waited for only after it was asked for. -/
theorem listing_of_turn (hturn : Turn b m b' jobs) (h : b'.loading = true) :
    (b.loading = true ∧ m.answers .loadProjects = false) ∨ Job.loadProjects ∈ jobs := by
  -- Nearly all turns leave the mark alone, and their messages answer other jobs.
  have hstill : b'.loading = b.loading → m.answers .loadProjects = false →
      (b.loading = true ∧ m.answers .loadProjects = false) ∨ Job.loadProjects ∈ jobs :=
    fun hloading hother => Or.inl ⟨by rw [← hloading, h], hother⟩
  cases hturn with
  | kept hm _ hloading _ _ => exact hstill hloading (m.answers_eq_false hm _)
  | listed _ _ _ hloading _ _ =>
      rw [hloading] at h
      exact absurd h Bool.false_ne_true
  | overlooked _ _ hm _ hboard _ => exact hstill (by rw [hboard]) (by rw [hm]; rfl)
  | described _ _ _ hm _ _ _ hloading _ _ => exact hstill hloading (by rw [hm]; rfl)
  | lost _ _ _ hm _ _ _ hloading _ _ => exact hstill hloading (by rw [hm]; rfl)
  | ticked hm hboard _ => exact hstill (by rw [hboard]) (by rw [hm]; rfl)
  | relisted _ _ _ hjobs =>
      exact Or.inr (mem_of_awaited jobs _ _ hjobs (List.mem_singleton.mpr rfl))
  | refetched listing hm _ hloading _ hjobs =>
      rcases hloading with hsame | hlisting
      · exact hstill hsame (m.answers_eq_false hm _)
      · right
        refine mem_of_awaited jobs _ _ hjobs (List.mem_append.mpr (Or.inl ?_))
        rw [if_pos hlisting]
        exact List.mem_singleton.mpr rfl
  | scrolled _ _ _ hm _ _ _ hloading _ _ => exact hstill hloading (by rw [hm]; rfl)
  | opened _ _ hm _ _ hloading _ _ => exact hstill hloading (by rw [hm]; rfl)
  | closed _ _ hm _ _ _ hloading _ _ => exact hstill hloading (by rw [hm]; rfl)
  | followed _ _ hm _ _ _ hloading _ _ => exact hstill hloading (by rw [hm]; rfl)
  | launched _ _ hm _ _ _ hloading _ _ => exact hstill hloading (by rw [hm]; rfl)
  | leftLogs _ _ hm _ _ _ hloading _ _ => exact hstill hloading (by rw [hm]; rfl)
  | leftOperation _ _ _ hm _ _ _ hloading _ _ => exact hstill hloading (by rw [hm]; rfl)
  | returned _ _ _ hm _ _ hloading _ _ => exact hstill hloading (by rw [hm]; rfl)

/-- A project is waited for only after it was asked for. -/
theorem description_of_turn (hturn : Turn b m b' jobs) (page' : DetailPage)
    (hpage' : b'.page.detail? = some page') (hloading : page'.loading = true) :
    (∃ page, b.page.detail? = some page ∧ page.loading = true ∧ page.root = page'.root ∧
      m.answers (.loadDetail page.root) = false) ∨ Job.loadDetail page'.root ∈ jobs := by
  cases reach_of_turn b b' m jobs hturn with
  | same hm hpage _ =>
      rw [hpage] at hpage'
      exact Or.inl ⟨page', hpage', hloading, rfl, m.answers_of_spares _ (hm page' hpage')⟩
  | awaiting _ hpage hjobs =>
      right
      rw [hpage, Option.map_eq_some_iff] at hpage'
      rcases hpage' with ⟨page, hbefore, hawaits⟩
      rw [← hawaits]
      exact (hjobs page.root).mpr ⟨page, hbefore, rfl⟩
  | described root d page _ _ _ hpage _ =>
      -- After an answer the page waits for nothing.
      rw [hpage, Option.some.injEq] at hpage'
      rw [← hpage'] at hloading
      exact absurd hloading Bool.false_ne_true
  | lost root e page _ _ _ hpage _ =>
      rw [hpage page' hpage'] at hloading
      exact absurd hloading Bool.false_ne_true
  | scrolled key page rows hm _ hbefore hpage _ =>
      rw [hpage, Option.some.injEq] at hpage'
      rw [← hpage'] at hloading
      exact Or.inl ⟨page, hbefore, hloading, by rw [← hpage'], by rw [hm]; rfl⟩
  | opened key p _ hpage hjobs =>
      rw [hpage, Option.some.injEq] at hpage'
      right
      rw [hjobs, ← hpage']
      exact List.mem_singleton.mpr rfl
  | closed key _ hpage _ =>
      rw [hpage] at hpage'
      exact absurd hpage' (Option.some_ne_none page').symm

/-- Whatever is waited for after a message was waited for before and is not what
    the message answers, or it is asked for. -/
theorem awaits_of_turn (hturn : Turn b m b' jobs) (job : Job) (h : b'.Awaits job) :
    (b.Awaits job ∧ m.answers job = false) ∨ job ∈ jobs := by
  rcases h with ⟨hlisting, hjob⟩ | ⟨page', hpage', hloading, hjob⟩
  · rw [hjob]
    rcases listing_of_turn b b' m jobs hturn hlisting with ⟨hbefore, hother⟩ | hasked
    · exact Or.inl ⟨Or.inl ⟨hbefore, rfl⟩, hother⟩
    · exact Or.inr hasked
  · rw [hjob]
    rcases description_of_turn b b' m jobs hturn page' hpage' hloading with
      ⟨page, hpage, hbefore, hroot, hother⟩ | hasked
    · rw [← hroot]
      exact Or.inl ⟨Or.inr ⟨page, hpage, hbefore, rfl⟩, hother⟩
    · exact Or.inr hasked

/-- What ends the note of a refresh goes on to do so while the same page can be
    reached. -/
theorem renews_of_root (job : Job) (h : b.Renews job)
    (hroot : ∀ page, b.page.detail? = some page →
      ∃ page', b'.page.detail? = some page' ∧ page'.root = page.root) : b'.Renews job := by
  rcases h with hlist | ⟨page, hpage, hjob⟩
  · exact Or.inl hlist
  · rcases hroot page hpage with ⟨page', hpage', hsame⟩
    exact Or.inr ⟨page', hpage', by rw [hjob, hsame]⟩

theorem renews_of_detail? (job : Job) (h : b.Renews job)
    (hpage : b'.page.detail? = b.page.detail?) : b'.Renews job :=
  renews_of_root b b' job h fun page hreach => ⟨page, by rw [hpage, hreach], rfl⟩

/-- The note of a refresh stays only while nothing has come that ends it, or with
    a load that ends it. -/
theorem renews_of_turn (hturn : Turn b m b' jobs) (h : b'.status = refreshingStatus) :
    (b.status = refreshingStatus ∧ ∀ job, b.Renews job → m.answers job = false ∧ b'.Renews job) ∨
    ∃ job ∈ jobs, b'.Renews job := by
  have hstill : b'.status = b.status → (∀ job, b.Renews job → m.answers job = false) →
      b'.page.detail? = b.page.detail? →
      (b.status = refreshingStatus ∧
        ∀ job, b.Renews job → m.answers job = false ∧ b'.Renews job) ∨
      ∃ job ∈ jobs, b'.Renews job :=
    fun hstatus hother hpage => Or.inl ⟨by rw [← hstatus, h], fun job hjob =>
      ⟨hother job hjob, renews_of_detail? b b' job hjob hpage⟩⟩
  have hlist : Job.loadProjects ∈ jobs → ∃ job ∈ jobs, b'.Renews job :=
    fun hasked => ⟨_, hasked, Or.inl rfl⟩
  cases hturn with
  | kept hm hfooting _ hstatus _ =>
      rcases hstatus with hsame | hother
      · exact hstill hsame (fun job _ => m.answers_eq_false hm job)
          (Page.detail?_eq_of_footing _ _ hfooting)
      · exact absurd h hother
  -- Results for the list or for the page that can be reached end the note.
  | listed _ _ _ _ hstatus _ => exact absurd h hstatus
  | overlooked root result hm hother hboard _ =>
      refine hstill (by rw [hboard]) (fun job hjob => ?_) (by rw [hboard])
      rw [hm]
      rcases hjob with hjob | ⟨page, hpage, hjob⟩
      · rw [hjob]
        rfl
      · rw [hjob]
        exact hother page hpage
  | described _ _ _ _ _ _ _ _ hstatus _ => exact absurd h hstatus
  | lost _ _ _ _ _ _ _ _ hstatus _ => exact absurd h hstatus
  | ticked hm hboard _ =>
      refine hstill (by rw [hboard]) (fun job hjob => ?_) (by rw [hboard])
      rw [hm]
      rcases hjob with hjob | ⟨page, _, hjob⟩ <;> rw [hjob] <;> rfl
  | relisted _ _ _ hjobs =>
      exact Or.inr (hlist (mem_of_awaited jobs _ _ hjobs (List.mem_singleton.mpr rfl)))
  | refetched listing hm hfooting _ hstatus hjobs =>
      have hpage' := Page.detail?_of_footing b'.page _ hfooting
      rw [Footing.detail?_map, Page.detail?_footing] at hpage'
      cases hpage : b.page.detail? with
      | none =>
          -- Without a page that can be reached only the status line may go on.
          rw [hpage] at hpage' hstatus
          rcases hstatus with hsame | hother | hsome
          · exact hstill hsame (fun job _ => m.answers_eq_false hm job) (by rw [hpage', hpage]; rfl)
          · exact absurd h hother
          · exact absurd hsome Bool.false_ne_true
      | some page =>
          rw [hpage] at hpage' hjobs
          right
          refine ⟨.loadDetail page.root, ?_, Or.inr ⟨awaitLoad page, hpage', rfl⟩⟩
          exact mem_of_awaited jobs _ _ hjobs (List.mem_append.mpr
            (Or.inr ((mem_detailJobs_iff _ _).mpr ⟨page, rfl, rfl⟩)))
  | scrolled key page rows hm _ hbefore hafter _ hstatus _ =>
      left
      refine ⟨by rw [← hstatus, h], fun job hjob => ⟨by rw [hm]; rfl, ?_⟩⟩
      refine renews_of_root b b' job hjob fun page' hpage' => ?_
      rw [Page.detail?_of_footing b.page _ hbefore, Footing.detail?, Option.some.injEq] at hpage'
      exact ⟨_, Page.detail?_of_footing b'.page _ hafter, by rw [← hpage']⟩
  | opened _ _ _ _ _ _ hstatus _ =>
      rw [h] at hstatus
      exact absurd hstatus (by decide)
  | closed _ _ _ _ _ _ _ hstatus _ =>
      rw [h] at hstatus
      exact absurd hstatus (by decide)
  | followed _ _ hm _ hbefore hafter _ hstatus _ =>
      refine hstill hstatus (fun _ _ => by rw [hm]; rfl) ?_
      rw [Page.detail?_of_footing b.page _ hbefore, Page.detail?_of_footing b'.page _ hafter]
      rfl
  | launched _ _ _ _ _ _ _ hstatus _ =>
      rw [h] at hstatus
      exact absurd hstatus (by decide)
  | leftLogs _ _ hm _ hbefore hafter _ hstatus _ =>
      refine hstill hstatus (fun _ _ => by rw [hm]; rfl) ?_
      rw [Page.detail?_of_footing b.page _ hbefore, Page.detail?_of_footing b'.page _ hafter]
      rfl
  | leftOperation _ _ _ _ _ _ _ _ _ hjobs =>
      exact Or.inr (hlist (mem_of_awaited jobs _ _ hjobs List.mem_cons_self))
  | returned _ _ _ _ _ _ _ hstatus _ =>
      rw [h] at hstatus
      exact absurd hstatus (by decide)

theorem countP_timers_detailJobs (page : Option DetailPage) :
    (detailJobs page).countP Job.isTimer = 0 := by
  cases page <;> rfl

theorem countP_timers_tickJobs : b.tickJobs.countP Job.isTimer = 1 := by
  rw [tickJobs, List.countP_append]
  cases b.page with
  | dashboard => rfl
  | detail page =>
      dsimp only
      cases page.loading <;> rfl
  | logs page => rfl
  | operation op => rfl

/-- Nothing but a tick sets the next one. -/
theorem timers_of_turn (hturn : Turn b m b' jobs) (hm : m ≠ .tick) :
    jobs.countP Job.isTimer = 0 := by
  -- Timers are among the awaited jobs, so those are all there is to count.
  have hcount : ∀ ajobs, Job.awaited jobs = ajobs → ajobs.countP Job.isTimer = 0 →
      jobs.countP Job.isTimer = 0 := by
    intro ajobs hjobs hnone
    rw [← Job.countP_awaited, hjobs, hnone]
  have hidle : jobs = [] → jobs.countP Job.isTimer = 0 := by
    intro hjobs
    rw [hjobs]
    rfl
  cases hturn with
  | kept _ _ _ _ hjobs => exact hcount _ hjobs rfl
  | listed _ _ _ _ _ hjobs => exact hidle hjobs
  | overlooked _ _ _ _ _ hjobs => exact hidle hjobs
  | described _ _ _ _ _ _ _ _ _ hjobs => exact hidle hjobs
  | lost _ _ _ _ _ _ _ _ _ hjobs => exact hidle hjobs
  | ticked htick _ _ => exact absurd htick hm
  | relisted _ _ _ hjobs => exact hcount _ hjobs rfl
  | refetched listing _ _ _ _ hjobs =>
      refine hcount _ hjobs ?_
      rw [List.countP_append, countP_timers_detailJobs]
      cases listing <;> rfl
  | scrolled _ _ _ _ _ _ _ _ _ hjobs => exact hidle hjobs
  | opened _ p _ _ _ _ _ hjobs =>
      rw [hjobs]
      rfl
  | closed _ _ _ _ _ _ _ _ hjobs => exact hidle hjobs
  | followed _ _ _ _ _ _ _ _ hjobs => exact hcount _ hjobs rfl
  | launched _ _ _ _ _ _ _ _ hjobs => exact hcount _ hjobs rfl
  | leftLogs _ _ _ _ _ _ _ _ hjobs => exact hcount _ hjobs rfl
  | leftOperation _ origin _ _ _ _ _ _ _ hjobs =>
      refine hcount _ hjobs ?_
      rw [List.countP_cons, countP_timers_detailJobs]
      rfl
  | returned _ _ _ _ _ _ _ _ hjobs => exact hidle hjobs

end Turns

end Board

namespace Desk

/-- Whatever the board of a desk waits for has not been answered, and neither has
    one of the jobs that end the note of a refresh, while it is shown. One tick is
    on its way. -/
structure Attended (d : Desk) : Prop where
  awaits : ∀ job, d.board.Awaits job → job ∈ d.unanswered
  renews : d.board.status = refreshingStatus → ∃ job ∈ d.unanswered, d.board.Renews job
  timers : d.unanswered.countP Job.isTimer = 1

variable (d d' : Desk)

theorem attended_initial (timings : Timings) : (initial timings).Attended where
  awaits := by
    rintro job (⟨_, hjob⟩ | ⟨page, hpage, _⟩)
    · rw [hjob]
      exact List.mem_cons_self
    · exact absurd hpage (Option.some_ne_none page).symm
  renews := by
    intro h
    have hempty : "" = refreshingStatus := h
    exact absurd hempty (by decide)
  timers := rfl

/-- A message keeps every wait attended, if it leaves unanswered what it is not
    the answer to, and answers a timer exactly if it is a tick. -/
theorem attended_take (m : Message) (rest : List Job) (hd : d.Attended)
    (hrest : ∀ job ∈ d.unanswered, m.answers job = false → job ∈ rest)
    (htick : m = .tick → rest.countP Job.isTimer = 0)
    (hother : m ≠ .tick → rest.countP Job.isTimer = 1) : (d.take m rest).Attended := by
  have hturn := Board.update_turn d.board m
  refine ⟨fun job hjob => ?_, fun hstatus => ?_, ?_⟩
  · rcases Board.awaits_of_turn _ _ m _ hturn job hjob with ⟨hbefore, hopen⟩ | hasked
    · exact List.mem_append.mpr (Or.inl (hrest job (hd.awaits job hbefore) hopen))
    · exact List.mem_append.mpr (Or.inr hasked)
  · rcases Board.renews_of_turn _ _ m _ hturn hstatus with ⟨hbefore, hstill⟩ | ⟨job, hasked, hjob⟩
    · rcases hd.renews hbefore with ⟨job, hmem, hjob⟩
      rcases hstill job hjob with ⟨hopen, hjob'⟩
      exact ⟨job, List.mem_append.mpr (Or.inl (hrest job hmem hopen)), hjob'⟩
    · exact ⟨job, List.mem_append.mpr (Or.inr hasked), hjob⟩
  · rw [take, List.countP_append]
    by_cases hm : m = .tick
    · -- What was answered is replaced by the timer that the tick sets.
      rw [htick hm, hm, Board.update, Board.countP_timers_tickJobs]
    · rw [hother hm, Board.timers_of_turn _ _ m _ hturn hm]

/-- The answer to a timer is a tick, and a tick answers nothing else. -/
theorem isTimer_of_answers (m : Message) (job : Job) (h : m.answers job = true) :
    job.isTimer = true ↔ m = .tick := by
  cases m <;> cases job <;>
    simp only [Message.answers, Job.isTimer, Bool.false_eq_true, reduceCtorEq] at h ⊢

/-- Steps keep every wait attended. -/
theorem attended_step (h : d.Step d') (hd : d.Attended) : d'.Attended := by
  cases h with
  | told m hm =>
      refine attended_take d m _ hd (fun job hjob _ => hjob) (fun htick => ?_)
        (fun _ => hd.timers)
      rw [htick] at hm
      exact absurd hm.symm Bool.false_ne_true
  | answered m job hjob hm =>
      -- The answer takes one job away, which is the timer exactly for a tick.
      have hcount := (List.perm_cons_erase hjob).countP_eq Job.isTimer
      rw [hd.timers, List.countP_cons] at hcount
      refine attended_take d m _ hd (fun other hother hopen => ?_) (fun htick => ?_)
        (fun hno_tick => ?_)
      · -- What is answered is not what stays open.
        refine (List.mem_erase_of_ne fun hsame => ?_).mpr hother
        rw [hsame, hm] at hopen
        exact absurd hopen.symm Bool.false_ne_true
      · rw [if_pos ((isTimer_of_answers m job hm).mpr htick)] at hcount
        omega
      · rw [if_neg fun htimer => hno_tick ((isTimer_of_answers m job hm).mp htimer)] at hcount
        omega

theorem attended_of_reachable (timings : Timings) (h : Reachable timings d) : d.Attended := by
  induction h with
  | initial => exact attended_initial timings
  | step d d' _ hstep ih => exact attended_step d d' hstep ih

/-- Whatever a reachable board waits for is on its way: the project list while it
    is marked as loading, the project whose page can be reached while that is, one
    of the two while the status line says that a refresh is on its way, and always
    exactly one tick. -/
theorem every_wait_is_attended (timings : Timings) (h : Reachable timings d) :
    (d.board.loading = true → Job.loadProjects ∈ d.unanswered) ∧
    (∀ page, d.board.page.detail? = some page → page.loading = true →
      Job.loadDetail page.root ∈ d.unanswered) ∧
    (d.board.status = refreshingStatus → Job.loadProjects ∈ d.unanswered ∨
      ∃ page, d.board.page.detail? = some page ∧ Job.loadDetail page.root ∈ d.unanswered) ∧
    d.unanswered.countP Job.isTimer = 1 := by
  have hd := attended_of_reachable d timings h
  refine ⟨fun hloading => ?_, fun page hpage hloading => ?_, fun hstatus => ?_, hd.timers⟩
  · exact hd.awaits _ (Or.inl ⟨hloading, rfl⟩)
  · exact hd.awaits _ (Or.inr ⟨page, hpage, hloading, rfl⟩)
  · rcases hd.renews hstatus with ⟨job, hmem, hjob | ⟨page, hpage, hjob⟩⟩
    · rw [hjob] at hmem
      exact Or.inl hmem
    · rw [hjob] at hmem
      exact Or.inr ⟨page, hpage, hmem⟩

/-- A project is opened, loaded and refreshed, and a tick comes meanwhile. -/
theorem refresh_is_attended :
    let shop : Project := ⟨"shop", .stopped, "php", "", ⟨"/srv/shop"⟩⟩
    let start := initial {}
    let listed := start.take (.projectsLoaded (.ok [shop])) (start.unanswered.erase .loadProjects)
    let opened := listed.take (.key .enter) listed.unanswered
    let loaded := opened.take (.detailLoaded ⟨"/srv/shop"⟩ (.ok {}))
      (opened.unanswered.erase (.loadDetail ⟨"/srv/shop"⟩))
    let refreshed := loaded.take (.key (.char 'R')) loaded.unanswered
    let ticked := refreshed.take .tick (refreshed.unanswered.erase (.scheduleTick 5000))
    Reachable {} ticked ∧ ticked.board.status = refreshingStatus ∧
    Job.loadDetail ⟨"/srv/shop"⟩ ∈ ticked.unanswered ∧
    ticked.unanswered.countP Job.isTimer = 1 := by
  intro shop start listed opened loaded refreshed ticked
  have hlisted : Reachable {} listed :=
    .step _ _ .initial (.answered _ .loadProjects (by decide) rfl)
  have hopened : Reachable {} opened := .step _ _ hlisted (.told _ rfl)
  have hloaded : Reachable {} loaded :=
    .step _ _ hopened (.answered _ (.loadDetail ⟨"/srv/shop"⟩) (by decide) (by decide))
  have hrefreshed : Reachable {} refreshed := .step _ _ hloaded (.told _ rfl)
  have hdue : Job.scheduleTick 5000 ∈ refreshed.unanswered := by decide
  have hticked : Reachable {} ticked := .step _ _ hrefreshed (.answered _ _ hdue rfl)
  rcases every_wait_is_attended ticked {} hticked with ⟨_, hdetail, _, htimers⟩
  let page : DetailPage :=
    { name := "shop", root := ⟨"/srv/shop"⟩, description := some {}, loading := true }
  exact ⟨hticked, by decide, hdetail page (by decide) rfl, htimers⟩

end Desk

end FleetBoard
