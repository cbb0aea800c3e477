import FleetBoard.Invocation

/-!
# Plans

What a job does outside of the dashboard, as data: a plan looks at files, looks
for programs and runs them, and decides by the answers what comes next. A host
is whatever gives the answers.

Plans are sequenced with `do`. One that can fail is an attempt.

## Main definitions

* `Host`: What plans are carried out on.
* `Plan`: What is done, step by step, and what comes out of it.
* `Plan.carryOut`: The result of a plan on a host, with the programs that were
  started.
* `Attempt`: A plan that can fail.

## Theorems

* `carryOut_bind`: Of two plans in a row, the second starts its programs after
  the first.
-/

namespace FleetBoard

/-- What plans are carried out on. -/
structure Host where
  /-- Whether something stands at a path. -/
  isPresent : Path → Except SystemError Bool
  /-- Where a program is. -/
  findProgram : String → Option Path
  /-- A program is run until it ends. An outcome stands for a run that came to its end, of
      which the terminal took all that it was to show. -/
  run : Invocation → Except SystemError Outcome

/-- What is done, step by step, and what comes out of it. -/
inductive Plan (α : Type)
  | done (result : α)
  /-- A path is looked at. -/
  | look (path : Path) (next : Except SystemError Bool → Plan α)
  /-- A program is looked for. -/
  | find (program : String) (next : Option Path → Plan α)
  /-- A program is run until it ends. -/
  | run (invocation : Invocation) (next : Except SystemError Outcome → Plan α)

namespace Plan

/-- Two plans in a row, the second by the result of the first. -/
def bind {α β : Type} : Plan α → (α → Plan β) → Plan β
  | .done a, f => f a
  | .look path next, f => .look path fun answer => (next answer).bind f
  | .find program next, f => .find program fun answer => (next answer).bind f
  | .run invocation next, f => .run invocation fun answer => (next answer).bind f

instance : Monad Plan where
  pure := .done
  bind := bind

/-- The result of a plan on a host, with the programs that were started, in
    order. -/
def carryOut {α : Type} (host : Host) : Plan α → α × List Invocation
  | .done a => (a, [])
  | .look path next => carryOut host (next (host.isPresent path))
  | .find program next => carryOut host (next (host.findProgram program))
  | .run invocation next =>
    let answer := host.run invocation
    let (result, started) := carryOut host (next answer)
    (result, if answer.isOk then invocation :: started else started)

theorem carryOut_bind {α β : Type} (host : Host) (p : Plan α) (f : α → Plan β) :
    (p.bind f).carryOut host =
      (((f (p.carryOut host).1).carryOut host).1,
        (p.carryOut host).2 ++ ((f (p.carryOut host).1).carryOut host).2) := by
  induction p with
  | done a => simp [bind, carryOut]
  | look path next ih => simpa [bind, carryOut] using ih _
  | find program next ih => simpa [bind, carryOut] using ih _
  | run invocation next ih =>
    simp only [bind, carryOut, ih]
    split <;> simp

end Plan

/-- A plan that can fail. -/
abbrev Attempt := ExceptT JobError Plan

namespace Attempt

/-- A program is run until it ends. -/
def run (invocation : Invocation) : Attempt Outcome :=
  ExceptT.mk (.run invocation fun answer =>
    .done (answer.mapError (JobError.ofStart invocation.program)))

/-- A path is looked at. -/
def look (path : Path) : Attempt Bool :=
  ExceptT.mk (.look path fun answer => .done (answer.mapError JobError.system))

/-- A program is looked for. -/
def find (program : String) : Attempt (Option Path) :=
  ExceptT.mk (.find program fun answer => .done (.ok answer))

/-- An attempt that fails with an error, if there is one. -/
def check : Option JobError → Attempt Unit
  | none => pure ()
  | some error => throw error

/-- What could be read, or else an unexpected output. -/
def expect {α : Type} (reading : Except Json.Fault α) : Attempt α :=
  match reading with
  | .ok a => pure a
  | .error fault => throw (.unexpectedOutput fault)

/-- A program is run and has to succeed. -/
def capture (invocation : Invocation) : Attempt Outcome := do
  let outcome ← run invocation
  check outcome.failure?
  pure outcome

/-- The plan of an attempt, with the error as its user reads it. -/
def result {α : Type} (wording : Json.Fault → String) (a : Attempt α) :
    Plan (Except String α) := do
  let answer ← ExceptT.run a
  pure (answer.mapError fun e => e.message wording)

/-- The plan of an attempt of which only the error counts, as its user reads
    it. -/
def error? (wording : Json.Fault → String) (a : Attempt Unit) : Plan (Option String) := do
  match ← ExceptT.run a with
  | .ok _ => pure none
  | .error e => pure (some (e.message wording))

end Attempt

end FleetBoard
