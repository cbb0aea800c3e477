import FleetBoard.Computer
import FleetBoard.Job.Course

/-!
# The Workbench

Jobs done on a computer that is known in full. The workbench keeps the relays of
the programs whose lines are followed, and notes every program it has started.
Its clock is not a real one: whoever waits is served at once, in the order of the
times.

## Main definitions

* `Workbench`: A computer with its relays and notes.
* `Workbench.perform`: A job, done.
* `Workbench.performTimed`: Some jobs, all begun at once.
* `Workbench.withRelay`: A step of the relay of a launch.
* `Workbench.killTree`: A process, killed.
-/

namespace FleetBoard

/-- A computer with the relays of the programs that were started on it, and what
    was noted of them. -/
structure Workbench where
  settings : Settings
  platform : String := "linux"
  computer : Computer
  /-- What is wrong with a reply, in the words of its reader. -/
  wording : Json.Fault → String := JobError.faultText
  /-- The relays, the latest first. -/
  relays : List Relay := []
  /-- The notes, in order. -/
  traces : List Trace := []

/-- What comes of a job at once. -/
inductive Receipt
  /-- Its message, after a time. -/
  | message (after : Nat) (message : Message)
  /-- Its message, after the terminal was free again. -/
  | terminal (message : Message)
  | silence
  | leave

namespace Workbench

/-- The workbench after a plan was carried out, with the result. -/
def carryOut {α : Type} (w : Workbench) (plan : Plan α) : α × Workbench :=
  let (result, started) := plan.carryOut w.computer.host
  (result, { w with traces := w.traces ++ started.flatMap w.computer.traces })

/-- The number of the next process. -/
def nextProcess (w : Workbench) : ProcessId :=
  ⟨w.relays.length + 1⟩

/-- The workbench after a program was started for its lines. -/
def startStream (w : Workbench) (launch : LaunchId) (kind : StreamKind) (i : Invocation) :
    Message × Workbench :=
  match w.computer.start i with
  | .error e => (.streamEnded launch kind (some ((JobError.ofStart i.program e).message w.wording)),
      w)
  | .ok (_, script) =>
    let relay := script.relay launch kind w.nextProcess
    (.streamStarted relay.near,
      { w with
        relays := relay :: w.relays
        traces := w.traces ++ w.computer.traces i })

/-- The workbench after the relays of a process were changed. -/
def mapProcess (w : Workbench) (process : ProcessId) (f : Relay → Relay) : Workbench :=
  { w with
    relays := w.relays.map fun r => if r.near.process = some process then f r else r }

/-- The workbench after a process was killed. -/
def killTree (w : Workbench) (process : ProcessId) : Workbench :=
  w.mapProcess process Relay.kill

/-- A job, done. -/
def perform (w : Workbench) (job : Job) : Receipt × Workbench :=
  match job.course w.settings w.platform w.wording with
  | .background plan =>
    let (message, w) := w.carryOut plan
    (.message 0 message, w)
  | .delayed after message => (.message after message, w)
  | .stream launch kind i =>
    let (message, w) := w.startStream launch kind i
    (.message 0 message, w)
  | .terminal plan =>
    let (message, w) := w.carryOut plan
    (.terminal message, w)
  | .kill process => (.silence, w.killTree process)
  | .leave => (.leave, w)

/-- Jobs, done in order. -/
def performAll (w : Workbench) : List Job → List Receipt × Workbench
  | [] => ([], w)
  | job :: jobs =>
    let (receipt, next) := w.perform job
    let (receipts, last) := next.performAll jobs
    (receipt :: receipts, last)

/-- The message of a receipt that is sent in the background, with its time. -/
def timed? : Receipt → Option (Nat × Message)
  | .message after m => some (after, m)
  | _ => none

/-- The messages of some receipts in the order in which they arrive. -/
def arrivals (receipts : List Receipt) : List Message :=
  ((receipts.filterMap timed?).mergeSort fun a b => a.1 ≤ b.1).map Prod.snd

/-- The messages of some jobs that all begin at once, in the order in which they
    arrive. -/
def performTimed (w : Workbench) (jobs : List Job) : List Message × Workbench :=
  let (receipts, w) := w.performAll jobs
  (arrivals receipts, w)

/-- The latest relay of a launch. -/
def relay? (w : Workbench) (launch : LaunchId) : Option Relay :=
  w.relays.find? fun r => r.near.launch = launch

/-- A step of the latest relay of a launch. -/
def withRelay {α : Type} (w : Workbench) (launch : LaunchId) (act : Relay → α × Relay) :
    Option α × Workbench :=
  match w.relay? launch with
  | none => (none, w)
  | some relay =>
    let (answer, next) := act relay
    (some answer,
      match relay.near.process with
      | some process => w.mapProcess process fun _ => next
      | none => w)

end Workbench

end FleetBoard
