import FleetBoard.Json.Decoder
import FleetBoard.Project
import FleetBoard.Text.Occurs

/-!
# Replies of the Orchestration Tool

The tool prints one object per line, most of them log entries. What was asked
for is the payload: the member `raw` of the last line that is an object with
such a member. When no line is, the whole text is read as one such object, so
that the fault tells what is wrong with it.

The two routes see a payload differently: a line has been read as a value before
its payload is decoded, the whole text is decoded as it stands.

## Main definitions

* `payload?`: The payload of the last line that has one.
* `readPayload`: The decoded payload of an output.
* `readProjects`: The rows of the project list.
* `readDescription`: The description of one project.
* `readAddons`: The names of the add-ons of a project.
* `debuggerOn`: The state of the debugger, by what its switch prints.
-/

namespace FleetBoard

namespace Reply

open Json

/-- The key of the payload. -/
def payloadKey : String := "raw"

/-- The payload of a line that is, blanks around it aside, an object which has
    one. -/
def payloadOfLine? (line : List Char) : Option Value :=
  let entry := Text.trim line
  if entry.head? = some '\x7b' then
    match Value.parse entry with
    | .ok v => v.member? payloadKey
    | .error _ => none
  else none

/-- The payload of the last line that has one. -/
def payload? (output : List Char) : Option Value :=
  (Text.splitLines output).reverse.findSome? payloadOfLine?

/-- A whole text as an object that holds a payload. `absent` is the payload of
    an object without one, if that is allowed. -/
def envelope {α : Type} (d : Decoder α) (absent : Option α) : Decoder (Option α) :=
  Decoder.record [⟨[payloadKey], d.map fun v _ => some v, absent.isNone, true⟩] absent

/-- The decoded payload of an output. -/
def readPayload {α : Type} (d : Decoder α) (absent : Option α) (output : String) :
    Except Fault α :=
  let text := output.toList
  match payload? text with
  | some v =>
    match d.ofValue v with
    | some a => .ok a
    | none => .error .mismatch
  | none =>
    match (envelope d absent).parse text with
    | .ok (some a) => .ok a
    | .ok none => .error .mismatch
    | .error e => .error e

/-- A field that may be missing. -/
def optionalField {σ : Type} (name : String) (store : Decoder (σ → σ)) : Member σ :=
  ⟨[name], store, false, false⟩

/-- A list that may be null, which stands for no items. -/
def listOrNull {α : Type} (d : Decoder α) : Decoder (List α) :=
  d.list.optional.map (·.getD [])

/-- An entry of the project list as the tool prints it. -/
structure ListEntry where
  name : String := ""
  status : String := ""
  kind : String := ""
  primaryUrl : String := ""
  secureUrl : String := ""
  root : String := ""
  deriving DecidableEq, Repr

/-- Entries of the project list. -/
def listEntry : Decoder ListEntry :=
  Decoder.record
    [optionalField "name" (Decoder.text.map fun s e => { e with name := s }),
      optionalField "status" (Decoder.text.map fun s e => { e with status := s }),
      optionalField "type" (Decoder.text.map fun s e => { e with kind := s }),
      optionalField "primary_url" (Decoder.text.map fun s e => { e with primaryUrl := s }),
      optionalField "httpsurl" (Decoder.text.map fun s e => { e with secureUrl := s }),
      optionalField "approot" (Decoder.text.map fun s e => { e with root := s })]
    {}

/-- The row of an entry. The secure address stands in for a missing primary
    one. -/
def ListEntry.summary (e : ListEntry) : Project where
  name := e.name
  status := RunState.parse e.status
  kind := e.kind
  url := if e.primaryUrl = "" then e.secureUrl else e.primaryUrl
  root := ⟨e.root⟩

/-- The rows of the project list that the tool prints. -/
def readProjects (output : String) : Except Fault (List Project) :=
  (readPayload (listOrNull listEntry) (some []) output).map fun entries =>
    entries.map ListEntry.summary

/-- A description as the tool prints it. Its address of the mail catcher and its
    port of the database are not yet worked out. -/
structure PrintedDescription where
  detail : Description := {}
  secureMailUrl : String := ""
  plainMailUrl : String := ""
  databasePort : Option Nat := none
  deriving DecidableEq, Repr

/-- The greatest port number. -/
def maxPort : Nat := 65535

/-- What the tool prints of a database: its port on the host. -/
def databaseInfo : Decoder (Option Nat) :=
  Decoder.record
    [optionalField "published_port" ((Decoder.natural maxPort).optional.map fun port _ => port)]
    none

/-- What the tool prints of a service: its status. -/
def serviceEntry : Decoder String :=
  Decoder.record [optionalField "status" (Decoder.text.map fun s _ => s)] ""

/-- A text among the facts of a description. -/
def detailText (name : String) (store : String → Description → Description) :
    Member PrintedDescription :=
  optionalField name (Decoder.text.map fun s d => { d with detail := store s d.detail })

/-- Descriptions of a project. -/
def printedDescription : Decoder PrintedDescription :=
  Decoder.record
    [detailText "name" fun s p => { p with name := s },
      detailText "status" fun s p => { p with status := RunState.parse s },
      detailText "type" fun s p => { p with kind := s },
      detailText "php_version" fun s p => { p with phpVersion := s },
      detailText "webserver_type" fun s p => { p with webserverType := s },
      detailText "nodejs_version" fun s p => { p with nodejsVersion := s },
      detailText "docroot" fun s p => { p with docroot := s },
      detailText "database_type" fun s p => { p with databaseType := s },
      detailText "database_version" fun s p => { p with databaseVersion := s },
      optionalField "xdebug_enabled"
        (Decoder.flag.map fun b d => { d with detail.debugEnabled := b }),
      detailText "performance_mode" fun s p => { p with performanceMode := s },
      optionalField "urls" (Decoder.text.list.map fun us d => { d with detail.urls := us }),
      optionalField "mailpit_https_url"
        (Decoder.text.map fun s d => { d with secureMailUrl := s }),
      optionalField "mailpit_url" (Decoder.text.map fun s d => { d with plainMailUrl := s }),
      optionalField "dbinfo" (databaseInfo.map fun port d => { d with databasePort := port }),
      optionalField "services"
        (serviceEntry.dictionary.map fun services d =>
          { d with detail.services := services.map fun s => ⟨s.1, s.2⟩ })]
    {}

/-- The address of a database on the host by its port. -/
def portAddress : Option Nat → String
  | none => ""
  | some port => "127.0.0.1:" ++ toString port

/-- The description of the project at `root`. The secure address of the mail
    catcher goes first. -/
def PrintedDescription.resolve (d : PrintedDescription) (root : Path) : Description :=
  { d.detail with
    mailUrl := if d.secureMailUrl = "" then d.plainMailUrl else d.secureMailUrl
    dbPublishedPort := portAddress d.databasePort
    root := root }

/-- The description that the tool prints of the project at `root`. Add-ons are
    asked for separately. -/
def readDescription (output : String) (root : Path) : Except Fault Description :=
  (readPayload printedDescription none output).map fun d => d.resolve root

/-- What the tool prints of an add-on: its name. -/
def addonEntry : Decoder String :=
  Decoder.record [⟨["name", "Name"], Decoder.text.map fun s _ => s, true, true⟩] ""

/-- The names of the add-ons that the tool prints. -/
def readAddons (output : String) : Except Fault (List String) :=
  readPayload (listOrNull addonEntry) (some []) output

/-- The state of the debugger after its switch printed a text: any text that
    has the word for it in some case counts. -/
def debuggerOn (output : String) : Bool :=
  Text.occurs "enabled".toList (Text.lower output.toList)

end Reply

end FleetBoard
