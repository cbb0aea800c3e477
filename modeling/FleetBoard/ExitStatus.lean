/-!
# Exit Statuses

How a process ended, as the system reports it: one word that holds the exit
code, or the signal that ended the process and whether memory was dumped.

## Main definitions

* `ExitStatus`: The status word of a process.
* `ExitStatus.ofCode`, `ExitStatus.ofSignal`: The words of the two usual ends.
* `ExitStatus.succeeded`: Whether the process did what it was run for.
* `ExitStatus.text`: A status as the user reads it.

## Theorems

* `succeeded_ofCode_iff`: A process that exits has succeeded with code zero only.
* `not_succeeded_ofSignal`: A process that a signal ended has not succeeded.
-/

namespace FleetBoard

/-- The status word of a process. The low seven bits hold a signal, the next bit
    tells of a dump, and the next byte holds the exit code. -/
structure ExitStatus where
  word : Nat
  deriving DecidableEq, Repr

namespace ExitStatus

/-- The status of a process that exits. Only the low byte of its code is kept. -/
def ofCode (code : Nat) : ExitStatus :=
  ⟨code % 256 * 256⟩

/-- The status of a process that a signal ends. -/
def ofSignal (signal : Nat) : ExitStatus :=
  ⟨signal⟩

/-- Whether the process did what it was run for. -/
def succeeded (s : ExitStatus) : Bool :=
  s.word == 0

/-- The low seven bits: zero for a process that exited, all ones for one that is
    not over. -/
def signal (s : ExitStatus) : Nat :=
  s.word % 128

/-- The exit code, or the signal that stopped a process. -/
def code (s : ExitStatus) : Nat :=
  s.word / 256 % 256

/-- Whether memory was dumped. -/
def dumped (s : ExitStatus) : Bool :=
  s.word / 128 % 2 == 1

/-- The names of the signals, by their numbers. -/
def signalNames : List (Nat × String) :=
  [(1, "SIGHUP"), (2, "SIGINT"), (3, "SIGQUIT"), (4, "SIGILL"), (5, "SIGTRAP"), (6, "SIGABRT"),
    (7, "SIGBUS"), (8, "SIGFPE"), (9, "SIGKILL"), (10, "SIGUSR1"), (11, "SIGSEGV"),
    (12, "SIGUSR2"), (13, "SIGPIPE"), (14, "SIGALRM"), (15, "SIGTERM"), (16, "SIGSTKFLT"),
    (17, "SIGCHLD"), (18, "SIGCONT"), (19, "SIGSTOP"), (20, "SIGTSTP"), (21, "SIGTTIN"),
    (22, "SIGTTOU"), (23, "SIGURG"), (24, "SIGXCPU"), (25, "SIGXFSZ"), (26, "SIGVTALRM"),
    (27, "SIGPROF"), (28, "SIGWINCH"), (29, "SIGIO"), (30, "SIGPWR"), (31, "SIGSYS")]

/-- A signal with its name, if it has one. -/
def signalText (signal : Nat) : String :=
  match signalNames.lookup signal with
  | some name => toString signal ++ " (" ++ name ++ ")"
  | none => toString signal

/-- A number in the notation for bits, with the digits of base sixteen. -/
def hexText (n : Nat) : String :=
  "0x" ++ String.ofList (Nat.toDigits 16 n)

/-- A status as the user reads it. -/
def text (s : ExitStatus) : String :=
  if s.signal = 0 then "exit status: " ++ toString s.code
  else if s.signal ≠ 127 then
    "signal: " ++ signalText s.signal ++ if s.dumped then " (core dumped)" else ""
  else if !s.dumped then "stopped (not terminated) by signal: " ++ signalText s.code
  else if s.word = 0xFFFF then "continued (WIFCONTINUED)"
  else "unrecognised wait status: " ++ toString s.word ++ " " ++ hexText s.word

theorem succeeded_ofCode_iff (code : Nat) : (ofCode code).succeeded = true ↔ code % 256 = 0 := by
  simp only [succeeded, ofCode, beq_iff_eq]
  omega

theorem not_succeeded_ofSignal (signal : Nat) (h : signal ≠ 0) :
    (ofSignal signal).succeeded = false := by
  simp [succeeded, ofSignal, h]

end ExitStatus

end FleetBoard
