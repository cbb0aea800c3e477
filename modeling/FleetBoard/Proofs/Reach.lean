import FleetBoard.Proofs.Turn

/-!
# The Page That Can Be Reached

What a turn does to the page of a project that can be reached, wherever that is. Most
turns move it from one place to another, or put it away and take it out again, and none
of this can be seen of the page itself. What is left is little: the page is told to wait
for a load, is answered, is scrolled, is opened, or is gone.

The marks of a page follow its loads here. It is told to wait in the step in which it is
loaded, and only a tick has a page loaded without a word to it.

## Main definitions

* `Message.spares`: A message is no answer to a load of a project.
* `Board.Reach`: What a message does to the page that can be reached.

## Theorems

* `unmarked_of_tickJobs`: What a tick has loaded.
* `reach_of_turn`: Every turn does one of these things.
-/

namespace FleetBoard

/-- Whether a message is something else than an answer to a load of a project. -/
def Message.spares (root : Path) : Message → Bool
  | .detailLoaded other _ => !root.same other
  | _ => true

theorem Message.spares_of_not_isAnswer (root : Path) (m : Message) (h : m.isAnswer = false) :
    m.spares root = true := by
  cases m with
  | detailLoaded other result => exact Bool.noConfusion h
  | _ => rfl

namespace Board

/-- What a message does to the page of a project that can be reached: the board `b` takes
    the message `m`, becomes `b'` and asks for `jobs`. -/
inductive Reach (b : Board) (m : Message) (b' : Board) (jobs : List Job) : Prop
  /-- It stays as it is, wherever it is put. No project is loaded, unless it is that of
      an open page that is not waiting, and by a tick. -/
  | same (hm : ∀ page, b.page.detail? = some page → m.spares page.root = true)
      (hpage : b'.page.detail? = b.page.detail?)
      (hjobs : ∀ root, Job.loadDetail root ∈ jobs →
        m = .tick ∧ ∃ page, b.page = .detail page ∧ page.loading = false ∧ page.root = root)
  /-- Its project is loaded again, and it waits for that. -/
  | awaiting (hm : m.isAnswer = false)
      (hpage : b'.page.detail? = b.page.detail?.map awaitLoad)
      (hjobs : ∀ root, Job.loadDetail root ∈ jobs ↔
        ∃ page, b.page.detail? = some page ∧ page.root = root)
  /-- Its project was loaded. -/
  | described (root : Path) (d : Description) (page : DetailPage)
      (hm : m = .detailLoaded root (.ok d)) (hroot : page.root.same root = true)
      (hbefore : b.page.detail? = some page)
      (hpage : b'.page.detail? = some (describe d page)) (hjobs : jobs = [])
  /-- Its project could not be loaded. It is kept or given up. -/
  | lost (root : Path) (e : String) (page : DetailPage)
      (hm : m = .detailLoaded root (.error e)) (hroot : page.root.same root = true)
      (hbefore : b.page.detail? = some page)
      (hpage : ∀ page', b'.page.detail? = some page' → page' = settle page) (hjobs : jobs = [])
  /-- It is scrolled. -/
  | scrolled (key : Key) (page : DetailPage) (rows : Nat) (hm : m = .key key)
      (hrows : rows ≤ page.scroll ∨ rows ≤ scrollLimit page)
      (hbefore : b.page.detail? = some page)
      (hpage : b'.page.detail? = some { page with scroll := rows }) (hjobs : jobs = [])
  /-- It is opened, and loaded. -/
  | opened (key : Key) (p : Project) (hm : m = .key key)
      (hpage : b'.page.detail? = some { name := p.name, root := p.root })
      (hjobs : jobs = [.loadDetail p.root])
  /-- It is left, and cannot be reached any more. -/
  | closed (key : Key) (hm : m = .key key) (hpage : b'.page.detail? = none) (hjobs : jobs = [])

variable (b b' : Board) (m : Message) (jobs : List Job)

theorem mem_of_awaited (ajobs : List Job) (job : Job) (hjobs : Job.awaited jobs = ajobs)
    (hjob : job ∈ ajobs) : job ∈ jobs := by
  rw [← hjobs, Job.awaited, List.mem_filter] at hjob
  exact hjob.1

/-- A project is loaded by a job that is awaited. -/
theorem loadDetail_mem_awaited (ajobs : List Job) (root : Path) (hjobs : Job.awaited jobs = ajobs) :
    Job.loadDetail root ∈ jobs ↔ Job.loadDetail root ∈ ajobs := by
  rw [← hjobs, Job.awaited, List.mem_filter]
  exact ⟨fun hjob => ⟨hjob, rfl⟩, And.left⟩

/-- The job that loads the page of a project, if there is one, loads no other. -/
theorem mem_detailJobs_iff (reached : Option DetailPage) (root : Path) :
    Job.loadDetail root ∈ detailJobs reached ↔ ∃ page, reached = some page ∧ page.root = root := by
  cases reached with
  | none =>
      constructor
      · exact fun h => absurd h List.not_mem_nil
      · rintro ⟨page, h, _⟩
        exact absurd h (Option.some_ne_none page).symm
  | some page =>
      rw [detailJobs, Option.map_some, Option.toList_some, List.mem_singleton,
        Job.loadDetail.injEq]
      constructor
      · exact fun h => ⟨page, rfl, h.symm⟩
      · rintro ⟨other, hother, hroot⟩
        rw [Option.some.inj hother, hroot]

/-- A tick has a project loaded only while its page is open and does not wait. -/
theorem unmarked_of_tickJobs (root : Path) (h : Job.loadDetail root ∈ b.tickJobs) :
    ∃ page, b.page = .detail page ∧ page.loading = false ∧ page.root = root := by
  rw [tickJobs] at h
  cases hp : b.page with
  | detail page =>
      rw [hp] at h
      dsimp only at h
      cases hmark : page.loading with
      | true => simp [hmark] at h
      | false =>
          have hroot : root = page.root := by simpa [hmark] using h
          exact ⟨page, rfl, hmark, hroot.symm⟩
  | _ =>
      rw [hp] at h
      simp [listJobs] at h

/-- Every turn does one of these things to the page that can be reached. -/
theorem reach_of_turn (hturn : Turn b m b' jobs) : Reach b m b' jobs := by
  have hbare : m.isAnswer = false →
      ∀ page, b.page.detail? = some page → m.spares page.root = true :=
    fun hm page _ => m.spares_of_not_isAnswer page.root hm
  have hkey : ∀ key, m = .key key →
      ∀ page, b.page.detail? = some page → m.spares page.root = true :=
    fun key hm => hbare (by rw [hm]; rfl)
  -- Most turns load nothing, or the project list only.
  have hnone : ∀ ajobs, Job.awaited jobs = ajobs → (∀ root, Job.loadDetail root ∉ ajobs) →
      ∀ root, Job.loadDetail root ∈ jobs →
        m = .tick ∧ ∃ page, b.page = .detail page ∧ page.loading = false ∧ page.root = root :=
    fun ajobs hjobs hnot root hjob =>
      absurd ((loadDetail_mem_awaited jobs ajobs root hjobs).mp hjob) (hnot root)
  have hidle : jobs = [] → ∀ root, Job.loadDetail root ∈ jobs →
      m = .tick ∧ ∃ page, b.page = .detail page ∧ page.loading = false ∧ page.root = root :=
    fun hjobs => hnone [] (by rw [hjobs]; rfl) fun _ => List.not_mem_nil
  cases hturn with
  | kept hm hfooting _ _ hjobs =>
      exact .same (hbare hm) (Page.detail?_eq_of_footing _ _ hfooting)
        (hnone _ hjobs fun _ => List.not_mem_nil)
  | listed _ hm hfooting _ _ hjobs =>
      exact .same (fun _ _ => by rw [hm]; rfl) (Page.detail?_eq_of_footing _ _ hfooting)
        (hidle hjobs)
  | overlooked root result hm hunread hboard hjobs =>
      refine .same (fun page hpage => ?_) (by rw [hboard]) (hidle hjobs)
      rw [hm, Message.spares, hunread page hpage]
      rfl
  | described root d page hm hpage hroot hfooting _ _ hjobs =>
      refine .described root d page hm hroot hpage ?_ hjobs
      rw [Page.detail?_of_footing b'.page _ hfooting, Footing.detail?_map, Page.detail?_footing,
        hpage]
      rfl
  | lost root e page hm hpage hroot hfooting _ _ hjobs =>
      refine .lost root e page hm hroot hpage (fun page' hpage' => ?_) hjobs
      rw [Page.detail?_of_footing b'.page _ hfooting] at hpage'
      have hsettled := Footing.detail?_drop _ _ hpage'
      rw [Footing.detail?_map, Page.detail?_footing, hpage] at hsettled
      exact (Option.some.inj hsettled).symm
  | ticked hm hboard hjobs =>
      refine .same (fun _ _ => by rw [hm]; rfl) (by rw [hboard]) fun root hjob => ⟨hm, ?_⟩
      rw [hjobs] at hjob
      exact unmarked_of_tickJobs b root hjob
  | relisted hm hfooting _ hjobs =>
      exact .same (hbare hm) (Page.detail?_eq_of_footing _ _ hfooting)
        (hnone _ hjobs fun _ => by simp)
  | refetched listing hm hfooting _ _ hjobs =>
      refine .awaiting hm ?_ fun root => ?_
      · rw [Page.detail?_of_footing b'.page _ hfooting, Footing.detail?_map, Page.detail?_footing]
      · rw [loadDetail_mem_awaited jobs _ root hjobs, List.mem_append, mem_detailJobs_iff]
        cases listing <;> simp
  | scrolled key page rows hm hrows hbefore hafter _ _ hjobs =>
      exact .scrolled key page rows hm hrows (Page.detail?_of_footing b.page _ hbefore)
        (Page.detail?_of_footing b'.page _ hafter) hjobs
  | opened key p hm _ hafter _ _ hjobs =>
      exact .opened key p hm (Page.detail?_of_footing b'.page _ hafter) hjobs
  | closed key _ hm _ _ hafter _ _ hjobs =>
      exact .closed key hm (Page.detail?_of_footing b'.page _ hafter) hjobs
  | followed key page hm _ hbefore hafter _ _ hjobs =>
      refine .same (hkey key hm) ?_ (hnone _ hjobs fun _ => List.not_mem_nil)
      rw [Page.detail?_of_footing b.page _ hbefore, Page.detail?_of_footing b'.page _ hafter]
      rfl
  | launched key origin hm _ hbefore hafter _ _ hjobs =>
      refine .same (hkey key hm) ?_ (hnone _ hjobs fun _ => List.not_mem_nil)
      rw [Page.detail?_of_footing b.page _ hbefore, Page.detail?_of_footing b'.page _ hafter,
        Footing.detail?_ofOrigin]
      rfl
  | leftLogs key page hm _ hbefore hafter _ _ hjobs =>
      refine .same (hkey key hm) ?_ (hnone _ hjobs fun _ => List.not_mem_nil)
      rw [Page.detail?_of_footing b.page _ hbefore, Page.detail?_of_footing b'.page _ hafter]
      rfl
  | leftOperation key origin returnMode hm _ hbefore hafter _ _ hjobs =>
      -- The page that comes back is loaded again in the same step.
      have hreach : b.page.detail? = origin := Page.detail?_of_footing b.page _ hbefore
      refine .awaiting (by rw [hm]; rfl) ?_ fun root => ?_
      · rw [Page.detail?_of_footing b'.page _ hafter, Footing.detail?_map,
          Footing.detail?_ofOrigin, hreach]
      · rw [loadDetail_mem_awaited jobs _ root hjobs, List.mem_cons, mem_detailJobs_iff, hreach]
        simp
  | returned launch origin returnMode hm hbefore hafter _ _ hjobs =>
      refine .same (hbare (by rw [hm]; rfl)) ?_ (hidle hjobs)
      rw [Page.detail?_of_footing b.page _ hbefore, Page.detail?_of_footing b'.page _ hafter,
        Footing.detail?_ofOrigin]
      rfl

end Board

end FleetBoard
