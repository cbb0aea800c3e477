import FleetBoard.JobError
import FleetBoard.Scanner

/-!
# Relays

A relay brings the output of a running program to the near end of its stream.
Two scanners send the lines of the two pipes into one queue. A keeper waits for
both of them and for the end of the program, reports that end, and only then
goes away. The queue stays open as long as one of the three is left, so the end
has been reported by the time the queue closes.

The four parties, the reader among them, move one at a time and in any order.

## Main definitions

* `Relay`: A running program with its scanners, its keeper and the near end.
* `Party`: Who takes the next step.
* `Relay.step`: The relay after a step of one party, with what the reader gets.
* `Relay.run`: The relay after a schedule of steps.
* `Relay.collect`: The next lines that the reader gets when all take turns.
* `Relay.kill`: The relay after its program was killed.
-/

namespace FleetBoard

/-- How far the keeper of a relay has come. -/
inductive Keeper
  | waiting
  | reported
  | gone
  deriving DecidableEq, Repr

/-- A running program with its scanners, its keeper and the near end of its
    stream. -/
structure Relay where
  output : Scanner
  errors : Scanner
  /-- How the program ended, or why that is not known, once it has ended. -/
  ending : Option (Except SystemError ExitStatus)
  keeper : Keeper := .waiting
  near : Stream
  deriving Repr

/-- Who takes the next step. -/
inductive Party
  | output
  | errors
  | keeper
  | reader
  deriving DecidableEq, Repr

namespace Relay

/-- How many lines may wait between a program and the dashboard. -/
def queueCapacity : Nat := 100

/-- The error that the end of a program is reported with. -/
def endingError : Except SystemError ExitStatus → Option String
  | .ok status => (JobError.ofStatus? status).map fun e => e.message
  | .error e => some (JobError.system e).message

/-- Whether somebody is left who may send lines. -/
def hasSender (r : Relay) : Bool :=
  r.output.scanning || r.errors.scanning || r.keeper != .gone

/-- The relay with its queue closed if nobody is left who may send lines. -/
def refresh (r : Relay) : Relay :=
  { r with near.flowing := r.hasSender }

/-- The relay after a step of its keeper. -/
def keep (r : Relay) : Relay :=
  match r.keeper, r.ending with
  | .waiting, some ending =>
    if r.output.scanning || r.errors.scanning then r
    else { r with keeper := .reported, near.completion := .reported (endingError ending) }
  | .waiting, none => r
  | .reported, _ => { r with keeper := .gone }
  | .gone, _ => r

/-- The relay after a step of one party, with what the reader gets. A party that
    has to wait changes nothing. -/
def step (r : Relay) : Party → Option StreamEvent × Relay
  | .output =>
    let (scanner, near) := r.output.step r.near
    (none, { r with output := scanner, near := near }.refresh)
  | .errors =>
    let (scanner, near) := r.errors.step r.near
    (none, { r with errors := scanner, near := near }.refresh)
  | .keeper => (none, r.keep.refresh)
  | .reader =>
    let (event, near) := r.near.poll
    (event, { r with near := near })

/-- The relay after a schedule of steps, with all that the reader got. -/
def run (r : Relay) : List Party → List StreamEvent × Relay
  | [] => ([], r)
  | party :: schedule =>
    let (event, next) := r.step party
    let (events, last) := next.run schedule
    (event.toList ++ events, last)

/-- The relay after one turn of everybody, with what the reader gets. -/
def round (r : Relay) : Option StreamEvent × Relay :=
  ((((r.step .output).2.step .errors).2.step .keeper).2).step .reader

/-- The next lines that the reader gets in a number of rounds, at most `count` of
    them, and the error of the end if that is reached. -/
def collect : Nat → Nat → Relay → (List String × Option (Option String)) × Relay
  | 0, _, r => (([], none), r)
  | _, 0, r => (([], none), r)
  | rounds + 1, count + 1, r =>
    match r.round with
    | (none, next) => collect rounds (count + 1) next
    | (some (.ended error), next) => (([], some error), next)
    | (some (.line text), next) =>
      let ((lines, ended), last) := collect rounds count next
      ((text :: lines, ended), last)

/-- A number of rounds after which everybody has either finished or waits for the
    program. -/
def patience (r : Relay) : Nat :=
  4 * (r.output.load + r.errors.load + r.near.queue.length + 4)

/-- The next lines that the reader gets, at most `count` of them. -/
def take (r : Relay) (count : Nat) : (List String × Option (Option String)) × Relay :=
  collect r.patience count r

/-- All the lines that the reader gets. -/
def drain (r : Relay) : (List String × Option (Option String)) × Relay :=
  collect r.patience r.patience r

/-- The number of the signal that nothing survives. -/
def killSignal : Nat := 9

/-- The relay after its program was killed. A program that has ended stays as it
    is. -/
def kill (r : Relay) : Relay :=
  match r.ending with
  | some _ => r
  | none =>
    { r with
      output.shut := true
      errors.shut := true
      ending := some (.ok (ExitStatus.ofSignal killSignal)) }

end Relay

end FleetBoard
