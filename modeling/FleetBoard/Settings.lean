import FleetBoard.Board
import FleetBoard.Text.Blank
import FleetBoard.Yaml.Shape

/-!
# Settings

What can be set in a file. Everything has a default, and an empty file sets
nothing.

## Main definitions

* `RouterProbe`: The command that tells the health of the router.
* `Settings`: What can be set.
* `SettingsError`: Why a file could not be used.
* `Settings.parse`: The settings in the text of a file.
-/

namespace FleetBoard

/-- The command that tells the health of the router. -/
structure RouterProbe where
  program : String
  args : List String
  deriving DecidableEq, Repr

/-- The command that is run unless another one is set. -/
def RouterProbe.standard : RouterProbe where
  program := "docker"
  args := ["inspect", "--format", "\x7b\x7b.State.Health.Status\x7d\x7d", "ddev-router"]

/-- What can be set in a file. -/
structure Settings where
  /-- The orchestration tool. -/
  tool : String := "ddev"
  /-- The variable of the environment that keeps the tool from drawing a screen
      of its own. -/
  quietVariable : String := "DDEV_NO_TUI"
  /-- The time between two refreshes, in milliseconds. -/
  refreshInterval : Nat := 5000
  /-- The time that a finished operation stays on the screen, in milliseconds. -/
  autoReturnDelay : Nat := 2000
  router : RouterProbe := .standard
  /-- Whether to draw without colours. -/
  simpleFormatting : Bool := false
  logFile : Option Path := none
  deriving DecidableEq, Repr

/-- Why a file could not be used. -/
inductive SettingsError
  | unreadable (path : Path) (reason : String)
  | notFound (path : Path)
  | malformed (fault : Yaml.Fault)
  | zeroInterval (key : String)
  deriving DecidableEq, Repr

/-- What the user is told of an error. -/
def SettingsError.message : SettingsError → String
  | .unreadable path reason => "failed to read " ++ path.text ++ ": " ++ reason
  | .notFound path => "config file not found: " ++ path.text
  | .malformed _ => "YAML parse error"
  | .zeroInterval key => key ++ " must be greater than zero"

namespace Settings

open Yaml

/-- The key of the time between two refreshes. -/
def refreshKey : String := "refresh_interval_ms"

/-- The greatest number of milliseconds. -/
def maxMilliseconds : Nat := 18446744073709551615

/-- Commands that tell the health of the router. The program is needed. -/
def routerShape : Shape RouterProbe :=
  Shape.record
    [("program", Shape.text.map fun s r => { r with program := s }),
      ("args", Shape.text.list.map fun args r => { r with args := args })]
    ["program"] ⟨"", []⟩

/-- Settings. -/
def shape : Shape Settings :=
  Shape.record
    [("tool", Shape.text.map fun s c => { c with tool := s }),
      ("no_tui_env", Shape.text.map fun s c => { c with quietVariable := s }),
      (refreshKey, (Shape.natural maxMilliseconds).map fun n c => { c with refreshInterval := n }),
      ("auto_return_delay_ms",
        (Shape.natural maxMilliseconds).map fun n c => { c with autoReturnDelay := n }),
      ("router", routerShape.map fun r c => { c with router := r }),
      ("simple_formatting", Shape.flag.map fun b c => { c with simpleFormatting := b }),
      ("log_file",
        Shape.text.optional.map fun s c => { c with logFile := s.map fun t => ⟨t⟩ })]
    [] {}

/-- The settings in the text of a file. There has to be some time between two
    refreshes. -/
def parse (text : List Char) : Except SettingsError Settings :=
  if (Text.trim text).isEmpty then .ok {}
  else
    match shape.parse text with
    | .error fault => .error (.malformed fault)
    | .ok settings =>
      if settings.refreshInterval = 0 then .error (.zeroInterval refreshKey) else .ok settings

/-- How long the dashboard waits. -/
def timings (s : Settings) : Timings where
  refresh := s.refreshInterval
  autoReturn := s.autoReturnDelay

end Settings

end FleetBoard
