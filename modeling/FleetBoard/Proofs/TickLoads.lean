import FleetBoard.Proofs.Unanswered

/-!
# Loads by Ticks

A tick loads the project whose page is open, unless the page is marked as loading. The
mark is one bit, and it is set with every load but the ones that ticks ask for. So a
tick does not see a load that a tick before it has asked for, and it does not see the
others of several loads of which one has been answered.

Those are the only two ways for it to ask again too early. The mark was taken away by an
answer. From then on every load that is asked for otherwise sets it, so what was asked
for since was asked for by ticks. A count over the steps of a run then tells how many
loads are unanswered when the tick comes.

Runs are told any messages here, and ticks may come at any time. Only a description is
not told without a load that it answers.

## Main definitions

* `Job.loads`: A job loads a project.
* `Run.loadsAt`, `Run.loadsBetween`, `Run.answeredAt`: Loads and answers in a run.
* `Run.unansweredLoads`: How many loads of a project have not been answered.
* `Run.Answerable`: Every answer has a load that it answers.
* `Run.LastAnswered`: A step has answered a load, and since then only ticks have asked.

## Theorems

* `unmarked_of_turn`: Where the mark is missing, an answer has come, or it was missing.
* `lastAnswered_of_unmarked`: Where the mark is missing in a run.
* `unansweredLoads_since`: Without an answer all the loads stay unanswered.
* `loads_pile_up_on_ticks`: What is unanswered when a tick asks for a load.
-/

namespace FleetBoard

/-- Whether a job loads a project. -/
def Job.loads (root : Path) : Job → Bool
  | .loadDetail asked => asked.same root
  | _ => false

/-- The project that a message tells of. -/
def Message.told? : Message → Option Path
  | .detailLoaded root _ => some root
  | _ => none

/-- A load that is counted is there. -/
theorem Job.exists_mem_of_loads (root : Path) (jobs : List Job)
    (h : 0 < jobs.countP (Job.loads root)) : ∃ asked, Job.loadDetail asked ∈ jobs := by
  rcases List.countP_pos_iff.mp h with ⟨job, hjob, hloads⟩
  cases job with
  | loadDetail asked => exact ⟨asked, hjob⟩
  | _ => exact absurd hloads Bool.false_ne_true

namespace Board

variable (b b' : Board) (m : Message) (jobs : List Job)

/-- Where the page that can be reached is not marked as loading, the message is the
    answer to a load of its project, or the page was not marked before and only a tick
    has the project loaded. -/
theorem unmarked_of_turn (hturn : Turn b m b' jobs) (page' : DetailPage)
    (hpage' : b'.page.detail? = some page') (hmark : page'.loading = false) :
    m.answers (.loadDetail page'.root) = true ∨
    ∃ page, b.page.detail? = some page ∧ page.loading = false ∧ page.root = page'.root ∧
      (0 < jobs.countP (Job.loads page'.root) → m = .tick) := by
  cases reach_of_turn b b' m jobs hturn with
  | same _ hpage hjobs =>
      rw [hpage] at hpage'
      refine Or.inr ⟨page', hpage', hmark, rfl, fun hasked => ?_⟩
      rcases Job.exists_mem_of_loads _ jobs hasked with ⟨asked, hasked⟩
      exact (hjobs asked hasked).1
  | awaiting _ hpage _ =>
      -- The page is marked in the step in which it is loaded.
      rw [hpage, Option.map_eq_some_iff] at hpage'
      rcases hpage' with ⟨page, _, hawaits⟩
      rw [← hawaits] at hmark
      exact Bool.noConfusion hmark
  | described root d page hm hroot _ hpage _ =>
      rw [hpage, Option.some.injEq] at hpage'
      rw [hm, ← hpage']
      exact Or.inl hroot
  | lost root e page hm hroot _ hpage _ =>
      rw [hm, hpage page' hpage']
      exact Or.inl hroot
  | scrolled key page rows _ _ hbefore hpage hjobs =>
      rw [hpage, Option.some.injEq] at hpage'
      rw [← hpage'] at hmark ⊢
      refine Or.inr ⟨page, hbefore, hmark, rfl, fun hasked => ?_⟩
      rw [hjobs] at hasked
      exact absurd hasked (Nat.lt_irrefl 0)
  | opened key p _ hpage _ =>
      rw [hpage, Option.some.injEq] at hpage'
      rw [← hpage'] at hmark
      exact Bool.noConfusion hmark
  | closed key _ hpage _ =>
      rw [hpage] at hpage'
      exact absurd hpage' (Option.some_ne_none page').symm

end Board

namespace Run

/-- How many loads of a project a step of a run asks for. -/
def loadsAt (r : Run) (root : Path) (k : Nat) : Nat :=
  (r.jobsAt k).countP (Job.loads root)

/-- How many loads of a project are asked for from one step on, before another one. -/
def loadsBetween (r : Run) (root : Path) (j k : Nat) : Nat :=
  ((List.range' j (k - j)).flatMap r.jobsAt).countP (Job.loads root)

/-- Whether a step of a run brings the answer to a load of a project. -/
def answeredAt (r : Run) (root : Path) (k : Nat) : Bool :=
  r.messages[k]?.any fun m => m.answers (.loadDetail root)

/-- How many loads of a project have not been answered at a point. -/
def unansweredLoads (r : Run) (root : Path) : Nat → Nat
  | 0 => (Board.initial r.timings).startup.countP (Job.loads root)
  | k + 1 => r.unansweredLoads root k + r.loadsAt root k - (r.answeredAt root k).toNat

/-- A project is told of only in answer to a load that has not been answered. -/
def Answerable (r : Run) : Prop :=
  ∀ k root result, r.messages[k]? = some (.detailLoaded root result) →
    0 < r.unansweredLoads root k

/-- The latest answer to a load of a project before a point, and only ticks have asked
    for loads of it since. -/
structure LastAnswered (r : Run) (root : Path) (k i : Nat) : Prop where
  before : i < k
  answered : r.answeredAt root i = true
  silent : ∀ l, i < l → l < k → r.answeredAt root l = false
  ticks : ∀ l, i < l → l < k → 0 < r.loadsAt root l → r.messages[l]? = some .tick

/-- Whether every answer has its load is seen from the messages that there are. -/
theorem answerable_iff (r : Run) : r.Answerable ↔ ∀ k < r.messages.length,
    ∀ root ∈ r.messages[k]?.bind Message.told?, 0 < r.unansweredLoads root k := by
  constructor
  · intro hr k _ root htold
    rcases Option.bind_eq_some_iff.mp htold with ⟨m, hm, hroot⟩
    cases m with
    | detailLoaded told result =>
        rw [Message.told?, Option.some.injEq] at hroot
        rw [← hroot]
        exact hr k told result hm
    | _ => exact absurd hroot (Option.some_ne_none root).symm
  · intro htold k root result hm
    refine htold k (List.getElem?_eq_some_iff.mp hm).1 root ?_
    rw [hm]
    rfl

instance (r : Run) : Decidable r.Answerable :=
  decidable_of_iff _ (answerable_iff r).symm

variable (r : Run) (root other : Path) (i j k : Nat)

theorem loadsBetween_self : r.loadsBetween root k k = 0 := by
  rw [loadsBetween, Nat.sub_self]
  rfl

theorem loadsBetween_succ (h : j ≤ k) :
    r.loadsBetween root j (k + 1) = r.loadsBetween root j k + r.loadsAt root k := by
  have hlength : k + 1 - j = k - j + 1 := by omega
  have hlast : j + 1 * (k - j) = k := by omega
  rw [loadsBetween, loadsBetween, hlength, List.range'_concat, List.flatMap_append,
    List.countP_append, hlast, List.flatMap_singleton, loadsAt]

/-- What is an answer tells of the project, and asks for nothing. -/
theorem loaded_of_answeredAt (h : r.answeredAt root k = true) :
    (∃ other result, root.same other = true ∧
      r.messages[k]? = some (.detailLoaded other result)) ∧ r.loadsAt root k = 0 := by
  rw [answeredAt, Option.any_eq_true] at h
  rcases h with ⟨m, hm, hanswers⟩
  cases m with
  | detailLoaded other result =>
      refine ⟨⟨other, result, hanswers, hm⟩, ?_⟩
      rw [loadsAt, jobsAt_step r k _ hm]
      rfl
  | _ => exact absurd hanswers Bool.false_ne_true

/-- Loads of a project are counted however its path is written. -/
theorem unansweredLoads_same (h : root.same other = true) :
    r.unansweredLoads root k = r.unansweredLoads other k := by
  have hcomponents : root.components = other.components := eq_of_beq h
  have hloads : Job.loads root = Job.loads other := by
    funext job
    cases job with
    | loadDetail asked => rw [Job.loads, Job.loads, Path.same, Path.same, hcomponents]
    | _ => rfl
  have hanswers : ∀ l, r.answeredAt root l = r.answeredAt other l := by
    intro l
    rw [answeredAt, answeredAt]
    congr 1
    funext m
    cases m with
    | detailLoaded told result =>
        rw [Message.answers, Message.answers, Path.same, Path.same, hcomponents]
    | _ => rfl
  induction k with
  | zero => rw [unansweredLoads, unansweredLoads, hloads]
  | succ k ih =>
      rw [unansweredLoads, unansweredLoads, ih, loadsAt, loadsAt, hloads, hanswers]

theorem lastAnswered_now (h : r.answeredAt root k = true) : r.LastAnswered root (k + 1) k :=
  ⟨Nat.lt_succ_self k, h, fun l hkl hlk => by omega, fun l hkl hlk => by omega⟩

/-- The latest answer stays the latest one over a step that brings no answer, and that
    asks for no load unless it is a tick. -/
theorem lastAnswered_succ (h : r.LastAnswered root k i) (hsilent : r.answeredAt root k = false)
    (htick : 0 < r.loadsAt root k → r.messages[k]? = some .tick) :
    r.LastAnswered root (k + 1) i := by
  refine ⟨Nat.lt_succ_of_lt h.before, h.answered, fun l hil hlk => ?_, fun l hil hlk => ?_⟩
  · by_cases hl : l = k
    · rw [hl]
      exact hsilent
    · exact h.silent l hil (by omega)
  · by_cases hl : l = k
    · rw [hl]
      exact htick
    · exact h.ticks l hil (by omega)

/-- The page that can be reached is not marked as loading only after an answer, and
    only ticks have asked for loads of its project since. -/
theorem lastAnswered_of_unmarked (page : DetailPage)
    (hpage : (r.boardAt k).page.detail? = some page) (hmark : page.loading = false) :
    ∃ i, r.LastAnswered page.root k i := by
  -- A page without the mark has just been answered, or it was without it a step before,
  -- and the answer it had then is still the latest one.
  induction k generalizing page with
  | zero =>
      rw [boardAt_zero] at hpage
      exact absurd hpage (Option.some_ne_none page).symm
  | succ k ih =>
      by_cases hanswered : r.answeredAt page.root k = true
      · exact ⟨k, r.lastAnswered_now page.root k hanswered⟩
      rw [Bool.not_eq_true] at hanswered
      cases hm : r.messages[k]? with
      | none =>
          rw [boardAt_idle r k hm] at hpage
          rcases ih page hpage hmark with ⟨i, hi⟩
          refine ⟨i, r.lastAnswered_succ page.root i k hi hanswered fun hasked => ?_⟩
          rw [loadsAt, jobsAt_idle r k hm] at hasked
          exact absurd hasked (Nat.lt_irrefl 0)
      | some m =>
          rw [boardAt_step r k m hm] at hpage
          rcases Board.unmarked_of_turn _ _ m _ (Board.update_turn _ m) page hpage hmark with
            hanswers | ⟨before, hbefore, hunmarked, hroot, htick⟩
          · rw [answeredAt, hm, Option.any_some, hanswers] at hanswered
            exact absurd hanswered.symm Bool.false_ne_true
          · rcases ih before hbefore hunmarked with ⟨i, hi⟩
            rw [hroot] at hi
            refine ⟨i, r.lastAnswered_succ page.root i k hi hanswered fun hasked => ?_⟩
            rw [loadsAt, jobsAt_step r k m hm] at hasked
            rw [hm, htick hasked]

/-- Without an answer all the loads stay unanswered. -/
theorem unansweredLoads_since (hjk : j ≤ k)
    (hsilent : ∀ l, j ≤ l → l < k → r.answeredAt root l = false) :
    r.unansweredLoads root k = r.unansweredLoads root j + r.loadsBetween root j k := by
  induction hjk with
  | refl => rw [loadsBetween_self, Nat.add_zero]
  | @step k hjk ih =>
      rw [unansweredLoads, ih fun l hjl hlk => hsilent l hjl (Nat.lt_succ_of_lt hlk),
        hsilent k hjk (Nat.lt_succ_self k), loadsBetween_succ r root j k hjk]
      rw [Bool.toNat_false, Nat.sub_zero, Nat.add_assoc]

/-- An answer leaves one load less unanswered. -/
theorem unansweredLoads_answered (hr : r.Answerable) (h : r.answeredAt root k = true) :
    r.unansweredLoads root (k + 1) + 1 = r.unansweredLoads root k := by
  rcases r.loaded_of_answeredAt root k h with ⟨⟨other, result, hsame, hm⟩, hnone⟩
  have hopen := hr k other result hm
  rw [← r.unansweredLoads_same root other k hsame] at hopen
  rw [unansweredLoads, hnone, h, Bool.toNat_true]
  omega

/-- When a tick asks for a load of a project, an answer to an earlier one has come, and
    only ticks have asked for loads of the project since the latest answer. The loads
    that are unanswered then are those that it left, and one for each of these. So none
    is unanswered exactly if it answered the only one, and no tick has asked since. -/
theorem loads_pile_up_on_ticks (hr : r.Answerable) (hm : r.messages[k]? = some .tick)
    (hjob : Job.loadDetail root ∈ r.jobsAt k) :
    ∃ i, r.LastAnswered root k i ∧
      r.unansweredLoads root k + 1 =
        r.unansweredLoads root i + r.loadsBetween root (i + 1) k ∧
      (r.unansweredLoads root k = 0 ↔
        r.unansweredLoads root i = 1 ∧ r.loadsBetween root (i + 1) k = 0) := by
  rw [jobsAt_step r k _ hm, Board.update] at hjob
  rcases Board.unmarked_of_tickJobs _ root hjob with ⟨page, hpage, hmark, hroot⟩
  have hreach : (r.boardAt k).page.detail? = some page := by
    rw [hpage]
    rfl
  rcases r.lastAnswered_of_unmarked k page hreach hmark with ⟨i, hi⟩
  rw [hroot] at hi
  have hleft := r.unansweredLoads_answered root i hr hi.answered
  have hsince := r.unansweredLoads_since root (i + 1) k hi.before
    fun l hil hlk => hi.silent l hil hlk
  exact ⟨i, hi, by omega, by omega⟩

/-- A project is opened and described, and a tick has it loaded again. The only load was
    answered, so no other one is on its way. -/
theorem first_tick_loads_alone :
    let shop : Project := ⟨"shop", .stopped, "php", "", ⟨"/srv/shop"⟩⟩
    let run : Run :=
      { timings := {}
        messages := [.projectsLoaded (.ok [shop]), .key .enter,
          .detailLoaded shop.root (.ok {}), .tick] }
    run.Answerable ∧ Job.loadDetail shop.root ∈ run.jobsAt 3 ∧
    ∃ i, run.LastAnswered shop.root 3 i ∧
      run.unansweredLoads shop.root 3 + 1 =
        run.unansweredLoads shop.root i + run.loadsBetween shop.root (i + 1) 3 ∧
      (run.unansweredLoads shop.root 3 = 0 ↔
        run.unansweredLoads shop.root i = 1 ∧ run.loadsBetween shop.root (i + 1) 3 = 0) := by
  intro shop run
  have hanswerable : run.Answerable := by decide
  have hjob : Job.loadDetail shop.root ∈ run.jobsAt 3 := by decide
  exact ⟨hanswerable, hjob, loads_pile_up_on_ticks run shop.root 3 hanswerable rfl hjob⟩

/-- The next tick comes before the answer to the load that the first one has asked for,
    and it asks again. -/
theorem second_tick_loads_again :
    let shop : Project := ⟨"shop", .stopped, "php", "", ⟨"/srv/shop"⟩⟩
    let run : Run :=
      { timings := {}
        messages := [.projectsLoaded (.ok [shop]), .key .enter,
          .detailLoaded shop.root (.ok {}), .tick, .tick] }
    run.Answerable ∧ run.messages[4]? = some .tick ∧ (run.boardAt 4).mode = .detail ∧
      Job.loadDetail shop.root ∈ run.jobsAt 4 ∧ run.unansweredLoads shop.root 4 = 1 := by
  intro shop run
  exact ⟨by decide, rfl, by decide⟩

end Run

end FleetBoard
