/-!
# Key Guide

What the dashboard tells about its keys: one line of hints at the foot of each
view, and the sections of the help.

## Main definitions

* `KeyHint`: A key with what it does.
* `dashboardHints`, `detailHints`, `streamHints`: The hints of the views.
* `HelpSection`, `helpSections`: The help.
-/

namespace FleetBoard

/-- A key, or several, with what it does. -/
structure KeyHint where
  key : String
  action : String
  deriving DecidableEq, Repr

/-- The hints below the project list. -/
def dashboardHints : List KeyHint :=
  [⟨"s", "start"⟩, ⟨"S", "stop"⟩, ⟨"r", "restart"⟩, ⟨"a", "start all"⟩, ⟨"A", "stop all"⟩,
    ⟨"P", "poweroff"⟩, ⟨"l", "launch"⟩, ⟨"m", "mailpit"⟩, ⟨"x", "xhgui"⟩, ⟨"C", "config"⟩,
    ⟨"enter", "detail"⟩, ⟨"/", "filter"⟩, ⟨"?", "help"⟩, ⟨"q", "quit"⟩]

/-- The hints below the description of a project. -/
def detailHints : List KeyHint :=
  [⟨"s", "start"⟩, ⟨"S", "stop"⟩, ⟨"r", "restart"⟩, ⟨"l", "launch"⟩, ⟨"m", "mailpit"⟩,
    ⟨"x", "xhgui"⟩, ⟨"X", "xdebug"⟩, ⟨"c", "copy url"⟩, ⟨"e", "ssh"⟩, ⟨"L", "logs"⟩,
    ⟨"R", "refresh"⟩, ⟨"esc", "back"⟩]

/-- The hints below the output of a stream. -/
def streamHints : List KeyHint :=
  [⟨"esc", "back"⟩, ⟨"q", "quit"⟩]

/-- A section of the help. -/
structure HelpSection where
  heading : String
  entries : List KeyHint
  deriving DecidableEq, Repr

/-- The sections of the help. -/
def helpSections : List HelpSection :=
  [⟨"Navigation",
      [⟨"up/k, down/j", "Move selection"⟩,
        ⟨"pgup/pgdown", "Move by one page"⟩,
        ⟨"enter/d", "Open project detail"⟩,
        ⟨"/", "Filter projects"⟩,
        ⟨"esc", "Back / clear filter"⟩]⟩,
    ⟨"Actions",
      [⟨"s", "Start selected project"⟩,
        ⟨"S", "Stop selected project"⟩,
        ⟨"r", "Restart selected project"⟩,
        ⟨"a", "Start all projects"⟩,
        ⟨"A", "Stop all projects"⟩,
        ⟨"P", "Poweroff all projects and containers"⟩,
        ⟨"C", "Run config interactively"⟩,
        ⟨"l", "Launch project URL in browser"⟩,
        ⟨"m", "Launch Mailpit in browser"⟩,
        ⟨"x", "Launch XHGui"⟩,
        ⟨"X", "Toggle Xdebug on/off (detail view)"⟩,
        ⟨"c", "Copy primary URL to clipboard (detail view)"⟩,
        ⟨"e", "SSH into web container (detail view)"⟩,
        ⟨"L", "Follow logs (detail view)"⟩,
        ⟨"R", "Refresh"⟩]⟩,
    ⟨"Other", [⟨"?", "Toggle this help"⟩, ⟨"q, ctrl+c", "Quit"⟩]⟩]

end FleetBoard
