import FleetBoard.Board.Update
import FleetBoard.Job.Course
import FleetBoard.Screen

/-!
# Replays

A dashboard that is told everything in lines of text: which keys were pressed,
how large the screen is, and in which files the replies of the tool are. After
each line it shows its screen and the jobs that it asks for.

## Main definitions

* `Request`: What a line of a replay says.
* `Request.parse`: A line of a replay.
* `Request.toMessage`: What the dashboard is told.
* `Board.show`: The rows of the screen as texts.
* `Job.listing`: A job as it is listed.
-/

namespace FleetBoard

/-- What a line of a replay says. -/
inductive Request
  | message (m : Message)
  /-- The project list is in a file. -/
  | projects (file : String)
  /-- The description of a project is in a file. -/
  | description (root file : String)
  deriving Repr

namespace Request

/-- The keys that have names of more than one character. -/
def namedKeys : List (String × Key) :=
  [("enter", .enter), ("esc", .escape), ("backspace", .backspace), ("up", .up), ("down", .down),
    ("pageup", .pageUp), ("pagedown", .pageDown), ("ctrl-c", .interrupt)]

/-- The key with a name. -/
def keyOf (name : String) : Key :=
  match name.toList with
  | [c] => .char c
  | _ => (namedKeys.lookup name).getD .other

/-- A line of a replay, if it says something. -/
def parse (line : String) : Option Request :=
  match line.splitOn " " with
  | ["key", name] => some (.message (.key (keyOf name)))
  | ["tick"] => some (.message .tick)
  | ["resize", width, height] =>
    match width.toNat?, height.toNat? with
    | some w, some h => some (.message (.resized w h))
    | _, _ => none
  | ["projects", file] => some (.projects file)
  | ["describe", root, file] => some (.description root file)
  | _ => none

/-- The file that is needed to answer a request. -/
def file? : Request → Option String
  | .message _ => none
  | .projects file => some file
  | .description _ file => some file

/-- What the dashboard is told of a reply that could not be read. -/
def faultMessage (fault : Json.Fault) : String :=
  (JobError.unexpectedOutput fault).message

/-- What the dashboard is told, by the text of the file. -/
def toMessage (text : String) : Request → Message
  | .message m => m
  | .projects _ => .projectsLoaded ((Reply.readProjects text).mapError faultMessage)
  | .description root _ =>
    .detailLoaded ⟨root⟩ ((Reply.readDescription text ⟨root⟩).mapError faultMessage)

end Request

/-- The text of a row, without the blanks at its end. -/
def rowText (row : List StyledCell) : String :=
  String.ofList (Text.trimEnd (row.flatMap StyledCell.symbol))

/-- The rows of the screen as texts. -/
def Board.show (b : Board) : List String :=
  (b.render .plain b.width b.height).map rowText

/-- A job as it is listed, with the program that it begins with. -/
def Job.listing (settings : Settings) (platform : String) (job : Job) : String :=
  let program :=
    match (job.course settings platform JobError.faultText).firstProgram? with
    | some i => ": " ++ " ".intercalate (i.program :: i.args)
    | none => ""
  "-- " ++ job.label ++ program

end FleetBoard
