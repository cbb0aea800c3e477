import FleetBoard.FileTree
import FleetBoard.Plan
import FleetBoard.Relay

/-!
# Computers Known in Full

A computer of which everything is known: its files, its programs, and what each
program prints and how it ends when it is run with which arguments. Plans are
carried out on it as on any other host, and their results can be computed.

A program is started in its directory, so a directory that cannot be entered is
found out before a missing program is.

## Main definitions

* `FileTree.host`: A tree of files as a host.
* `Script`: What a program does for some arguments.
* `Computer`: The files and the programs of a computer.
* `Computer.start`: What a program does that is started, and where.
* `Computer.host`: A computer as a host.
* `Script.relay`: The relay of a program that was started.
* `Computer.traces`: What is noted of a program that was started.
-/

namespace FleetBoard

/-- A tree of files as a host whose programs are looked for in some directories.
    None of them can be run there. -/
def FileTree.host (t : FileTree) (dirs : List Path) : Host where
  isPresent := t.isPresent
  findProgram := t.findProgram dirs
  run _ := .error .unknownFormat

/-- How a program ends. -/
inductive Ending
  | exits (code : Nat)
  | dies (signal : Nat)
  /-- It does not end unless it is killed. -/
  | hangs
  deriving DecidableEq, Repr

/-- The status of a program that has ended. -/
def Ending.status : Ending → ExitStatus
  | .exits code => ExitStatus.ofCode code
  | .dies signal => ExitStatus.ofSignal signal
  | .hangs => ExitStatus.ofSignal Relay.killSignal

/-- What a program does for some arguments. -/
structure Script where
  args : List String
  /-- What it prints. -/
  output : Text.Bytes := []
  /-- What it prints as errors, after that. -/
  errors : Text.Bytes := []
  ending : Ending
  /-- Whether it reads what it may read. -/
  readsInput : Bool := false
  deriving DecidableEq, Repr

namespace Script

/-- The exit code of a program that does not know its arguments. -/
def strangeCode : Nat := 99

/-- What a program does with arguments it does not know. -/
def strange (args : List String) : Script where
  args := args
  ending := .exits strangeCode

/-- What is known of a program after it ended. -/
def outcome (s : Script) : Outcome where
  status := s.ending.status
  output := s.output
  errors := s.errors

/-- The relay of a program that was started. -/
def relay (s : Script) (launch : LaunchId) (kind : StreamKind) (process : ProcessId) : Relay where
  output := { reads := [s.output], shut := s.ending ≠ .hangs }
  errors := { reads := [s.errors], shut := s.ending ≠ .hangs }
  ending := if s.ending = .hangs then none else some (.ok s.ending.status)
  near :=
    { launch := launch
      kind := kind
      process := some process
      capacity := Relay.queueCapacity }

end Script

/-- A program that can be found by its name. -/
structure Program where
  name : String
  /-- Whether the program may be run. -/
  runnable : Bool
  scripts : List Script
  deriving DecidableEq, Repr

/-- What a program does for its arguments: the first script for them counts. -/
def Program.script (p : Program) (args : List String) : Script :=
  (p.scripts.find? fun s => s.args = args).getD (Script.strange args)

/-- What is noted of a program that was started. -/
inductive Trace
  /-- It was started in a place, with a value of the variable that keeps the tool
      from drawing, if it had one. -/
  | started (program : String) (args : List String) (place : Place) (marker : Option String)
  /-- It has read a text. -/
  | input (text : String)
  deriving DecidableEq, Repr

/-- The files and the programs of a computer. -/
structure Computer where
  files : FileTree
  programs : List Program
  deriving DecidableEq, Repr

namespace Computer

/-- A program that may be run, by its name. -/
def program (c : Computer) (name : String) : Except SystemError Program :=
  match c.programs.find? fun p => p.name = name with
  | some p => if p.runnable then .ok p else .error .permissionDenied
  | none =>
    if name.utf8ByteSize > FileTree.maxName then .error .nameTooLong else .error .noSuchFile

/-- A program that may be run, by a path to its file. The files of the tree are
    in no format that can be run. -/
def programFile (c : Computer) (place : Place) (path : Path) : Except SystemError Program :=
  match c.files.locate place path with
  | .error e => .error e
  | .ok file => .error (if c.files.isRunnable file then .unknownFormat else .permissionDenied)

/-- A program that may be run from a place. Only a name without a separator is
    looked for among the programs. -/
def findFrom (c : Computer) (place : Place) (name : String) : Except SystemError Program :=
  if name.toList.contains '/' then c.programFile place ⟨name⟩ else c.program name

/-- The place that a program is started in. -/
def startPlace (c : Computer) : Option Path → Except SystemError Place
  | none => .ok []
  | some path =>
    match c.files.locate [] path with
    | .error e => .error e
    | .ok place =>
      if c.files.node? place = some .directory then .ok place else .error .notDirectory

/-- What an invocation hands over. None of it may hold the character that ends
    arguments. -/
def handedOver (i : Invocation) : List String :=
  i.program :: i.args ++ (i.dir.map Path.text).toList

/-- What a program does that is started, and where. -/
def start (c : Computer) (i : Invocation) : Except SystemError (Place × Script) :=
  if (handedOver i).any fun s => s.toList.contains '\x00' then .error .endedArgument
  else
    match c.startPlace i.dir with
    | .error e => .error e
    | .ok place => (c.findFrom place i.program).map fun p => (place, p.script i.args)

/-- A computer as a host. -/
def host (c : Computer) : Host where
  isPresent := c.files.isPresent
  findProgram name :=
    match c.program name with
    | .ok _ => some ⟨name⟩
    | .error _ => none
  run i := (c.start i).map fun started => started.2.outcome

/-- What is noted of a program that was started. -/
def traces (c : Computer) (i : Invocation) : List Trace :=
  match c.start i with
  | .error _ => []
  | .ok (place, script) =>
    .started i.program i.args place (i.marker.map fun _ => "true") ::
      if script.readsInput then [.input i.input] else []

end Computer

end FleetBoard
