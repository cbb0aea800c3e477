import FleetBoard.Board.Update

/-!
# Runs

A board that is told one message after another, from the beginning. Nothing is
assumed about the messages: launches may be answered twice or never, results may
carry any number, and keys may come at any time. What is said about a run holds
in whatever order the world outside answers.

A run is looked at by its points. Point `k` lies before step `k`, in which the
message number `k` is taken. Behind the last message nothing happens any more,
so every point of a run has a board and every step has jobs, and no statement
needs to say how long a run is.

The jobs that concern streams are told apart from the others here, because the
laws about launches, timers and processes look at nothing else.

## Main definitions

* `Launch`: A launch with what it was made for.
* `Job.launch?`, `Job.timer?`, `Job.killed?`: What a job does about streams.
* `Board.initial`: The board to begin with.
* `Run`: A board that is told messages from the beginning.
* `Run.boardAt`, `Run.jobsAt`: The board at a point, and the jobs of a step.

## Theorems

* `boardAt_step`: What one step does.
* `boardAt_invariant`: What every message preserves holds at every point.
* `streamJobs_append`: The stream jobs of two lists of jobs.
-/

namespace FleetBoard

/-- A launch with what it was made for. -/
structure Launch where
  id : LaunchId
  kind : StreamKind
  deriving DecidableEq, Repr

namespace Job

/-- The launch that a job asks for. -/
def launch? : Job → Option Launch
  | .followLogs launch _ => some ⟨launch, .logs⟩
  | .runOperation launch _ _ => some ⟨launch, .operation⟩
  | _ => none

/-- The operation that is left when the time set by a job is over. -/
def timer? : Job → Option LaunchId
  | .scheduleReturn launch _ => some launch
  | _ => none

/-- The process whose tree a job kills. -/
def killed? : Job → Option ProcessId
  | .killTree process => some process
  | _ => none

/-- Whether a job concerns a stream: its launch, the time after its end, or its
    process. -/
def concernsStream : Job → Bool
  | .followLogs .. => true
  | .runOperation .. => true
  | .scheduleReturn .. => true
  | .killTree _ => true
  | _ => false

/-- The launches that jobs ask for. -/
def launches (jobs : List Job) : List Launch :=
  jobs.filterMap launch?

/-- The operations that are left after the times set by jobs. -/
def timers (jobs : List Job) : List LaunchId :=
  jobs.filterMap timer?

/-- The processes whose trees are killed by jobs. -/
def kills (jobs : List Job) : List ProcessId :=
  jobs.filterMap killed?

/-- The jobs that concern streams. -/
def streamJobs (jobs : List Job) : List Job :=
  jobs.filter concernsStream

theorem streamJobs_append (js ks : List Job) :
    streamJobs (js ++ ks) = streamJobs js ++ streamJobs ks := by
  rw [streamJobs, streamJobs, streamJobs, List.filter_append]

/-- What is read off jobs by a partial function is already there in the jobs that
    concern streams, as long as the function says nothing about the others. -/
theorem filterMap_streamJobs {α : Type} (f : Job → Option α)
    (hf : ∀ job, job.concernsStream = false → f job = none) (jobs : List Job) :
    (streamJobs jobs).filterMap f = jobs.filterMap f := by
  induction jobs with
  | nil => rfl
  | cons job rest ih =>
      rw [streamJobs] at ih ⊢
      -- A job that is left out has nothing to be read off.
      by_cases h : job.concernsStream = true
      · rw [List.filter_cons_of_pos h, List.filterMap_cons, List.filterMap_cons, ih]
      · rw [List.filter_cons_of_neg h, ih, List.filterMap_cons,
          hf job (Bool.eq_false_iff.mpr h)]

theorem silent_of_not_concernsStream (job : Job) (h : job.concernsStream = false) :
    job.launch? = none ∧ job.timer? = none ∧ job.killed? = none := by
  cases job <;>
    simp_all only [concernsStream, launch?, timer?, killed?, Bool.true_eq_false, and_self]

section StreamJobs

variable (jobs sjobs : List Job) (h : streamJobs jobs = sjobs)

include h

theorem launches_of_streamJobs : launches jobs = launches sjobs := by
  rw [← h]
  exact (filterMap_streamJobs launch? (fun job hjob =>
    (silent_of_not_concernsStream job hjob).1) jobs).symm

theorem timers_of_streamJobs : timers jobs = timers sjobs := by
  rw [← h]
  exact (filterMap_streamJobs timer? (fun job hjob =>
    (silent_of_not_concernsStream job hjob).2.1) jobs).symm

theorem kills_of_streamJobs : kills jobs = kills sjobs := by
  rw [← h]
  exact (filterMap_streamJobs killed? (fun job hjob =>
    (silent_of_not_concernsStream job hjob).2.2) jobs).symm

end StreamJobs

/-- A job that asks for a launch does nothing else about streams. -/
theorem only_launch_of_launch? (job : Job) (launch : Launch) (h : job.launch? = some launch) :
    launches [job] = [launch] ∧ timers [job] = [] ∧ kills [job] = [] := by
  cases job with
  | followLogs id root =>
      rw [launch?, Option.some.injEq] at h
      rw [← h]
      exact ⟨rfl, rfl, rfl⟩
  | runOperation id dir args =>
      rw [launch?, Option.some.injEq] at h
      rw [← h]
      exact ⟨rfl, rfl, rfl⟩
  | _ => simp only [launch?, reduceCtorEq] at h

end Job

/-- The board to begin with. -/
def Board.initial (timings : Timings) : Board :=
  { timings := timings }

/-- The board after messages, in their order. -/
def Board.after (b : Board) (messages : List Message) : Board :=
  messages.foldl (fun b m => (b.update m).1) b

theorem Board.after_concat (b : Board) (messages : List Message) (m : Message) :
    b.after (messages ++ [m]) = ((b.after messages).update m).1 := by
  rw [after, after, List.foldl_append, List.foldl_cons, List.foldl_nil]

/-- A board that is told messages from the beginning. -/
structure Run where
  timings : Timings
  messages : List Message

/-- What is collected from one step on, before the next point. -/
theorem filterMap_range'_succ {α : Type} (f : Nat → Option α) (j k : Nat) (h : j ≤ k) :
    (List.range' j (k + 1 - j)).filterMap f =
      (List.range' j (k - j)).filterMap f ++ (f k).toList := by
  have hlength : k + 1 - j = k - j + 1 := by omega
  have hlast : j + 1 * (k - j) = k := by omega
  rw [hlength, List.range'_concat, List.filterMap_append, hlast]
  cases hk : f k <;> simp [hk]

namespace Run

/-- The board at a point of a run. -/
def boardAt (r : Run) (k : Nat) : Board :=
  (Board.initial r.timings).after (r.messages.take k)

/-- The jobs that a step of a run asks for. -/
def jobsAt (r : Run) (k : Nat) : List Job :=
  match r.messages[k]? with
  | some m => ((r.boardAt k).update m).2
  | none => []

theorem boardAt_zero (r : Run) : r.boardAt 0 = Board.initial r.timings := by
  rw [boardAt, List.take_zero, Board.after, List.foldl_nil]

theorem boardAt_step (r : Run) (k : Nat) (m : Message) (h : r.messages[k]? = some m) :
    r.boardAt (k + 1) = ((r.boardAt k).update m).1 := by
  rw [boardAt, boardAt, List.take_add_one, h, Option.toList_some, Board.after_concat]

theorem boardAt_idle (r : Run) (k : Nat) (h : r.messages[k]? = none) :
    r.boardAt (k + 1) = r.boardAt k := by
  rw [boardAt, boardAt, List.take_add_one, h, Option.toList_none, List.append_nil]

theorem jobsAt_step (r : Run) (k : Nat) (m : Message) (h : r.messages[k]? = some m) :
    r.jobsAt k = ((r.boardAt k).update m).2 := by
  rw [jobsAt, h]

theorem jobsAt_idle (r : Run) (k : Nat) (h : r.messages[k]? = none) : r.jobsAt k = [] := by
  rw [jobsAt, h]

/-- What holds of the board to begin with and is preserved by every message
    holds at every point of every run. -/
theorem boardAt_invariant (P : Board → Prop) (hinit : ∀ timings, P (Board.initial timings))
    (hstep : ∀ b m, P b → P (b.update m).1) (r : Run) (k : Nat) : P (r.boardAt k) := by
  induction k with
  | zero =>
      rw [boardAt_zero]
      exact hinit r.timings
  | succ k ih =>
      -- Behind the last message the board stays as it is.
      rcases hm : r.messages[k]? with _ | m
      · rw [boardAt_idle r k hm]
        exact ih
      · rw [boardAt_step r k m hm]
        exact hstep _ m ih

end Run

end FleetBoard
