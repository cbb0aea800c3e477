import FleetBoard.Options
import FleetBoard.Replay
import FleetBoard.Settings.Discovery

/-!
# The Command Line

The dashboard without a terminal: settings are read from their file, and the
lines of standard input are replayed.

## Main definitions

* `main`: The program.
-/

open FleetBoard

namespace FleetBoard.CommandLine

/-- The content of a file, if there is one. -/
def readFile (path : Path) : IO (Option (Except SystemError Text.Bytes)) := do
  try
    return some (.ok (← IO.FS.readBinFile path.text).toList)
  catch _ => return none

/-- The file of settings that is looked for without being named. -/
def usualConfig : IO (Option Path) := do
  match ← IO.getEnv "XDG_CONFIG_HOME", ← IO.getEnv "HOME" with
  | some dir, _ => return some ⟨dir ++ "/fleetboard/config.yml"⟩
  | none, some home => return some ⟨home ++ "/.config/fleetboard/config.yml"⟩
  | none, none => return none

/-- The settings that are in force. -/
def findSettings (o : Options) : IO (Except SettingsError Settings) := do
  let environment := (← IO.getEnv "FLEETBOARD_CONFIG").map Path.mk
  let usual ← usualConfig
  let paths := o.config.toList ++ environment.toList ++ usual.toList
  let contents ← paths.mapM readFile
  let lookup : Settings.Lookup := fun path => ((paths.zip contents).lookup path).join
  return (Settings.discover lookup o.config environment usual).map Prod.snd

/-- The lines of standard input. -/
partial def inputLines (stream : IO.FS.Stream) : IO (List String) := do
  let line ← stream.getLine
  if line.isEmpty then return []
  return String.ofList (Text.trimEnd line.toList) :: (← inputLines stream)

/-- The screen and the jobs are printed. -/
def present (settings : Settings) (b : Board) (jobs : List Job) : IO Unit := do
  for row in b.show do IO.println row
  for job in jobs do IO.println (job.listing settings "linux")

/-- One line is replayed. -/
def replay (settings : Settings) (b : Board) (line : String) : IO Board := do
  match Request.parse line with
  | none => return b
  | some request =>
    let content ←
      match request.file? with
      | none => pure none
      | some file => readFile ⟨file⟩
    let bytes := match content with | some (.ok bytes) => bytes | _ => []
    let (b, jobs) := b.update (request.toMessage (String.ofList (Text.decodeLossy bytes)))
    present settings b jobs
    return b

end FleetBoard.CommandLine

/-- The program. -/
def main (arguments : List String) : IO UInt32 := do
  match Options.parse arguments with
  | .error e =>
    IO.eprintln ("error: " ++ e.message)
    return 2
  | .ok options =>
    match ← CommandLine.findSettings options with
    | .error e =>
      IO.eprintln ("Error: failed to load configuration: " ++ e.message)
      return 1
    | .ok found =>
      let settings := { found with tool := options.tool.getD found.tool }
      let board : Board := { timings := settings.timings, width := 80, height := 24 }
      CommandLine.present settings board board.startup
      let _ ← (← CommandLine.inputLines (← IO.getStdin)).foldlM (CommandLine.replay settings) board
      return 0
