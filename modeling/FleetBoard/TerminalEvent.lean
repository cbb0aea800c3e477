import FleetBoard.Message

/-!
# Terminal Events

What the terminal reports, and what of it the dashboard is told: keys that are
pressed, and changes of the size.

## Main definitions

* `TerminalEvent`: What the terminal reports.
* `KeyCode.key`: The key that a code stands for.
* `TerminalEvent.message?`: What the dashboard is told of an event.
-/

namespace FleetBoard

/-- A key as the terminal names it. -/
inductive KeyCode
  | char (c : Char)
  | enter
  | escape
  | backspace
  | up
  | down
  | left
  | right
  | pageUp
  | pageDown
  | home
  | last
  | tab
  | delete
  | function (n : Nat)
  deriving DecidableEq, Repr

/-- What happened to a key. -/
inductive KeyAction
  | press
  | again
  | release
  deriving DecidableEq, Repr

/-- What the terminal reports. -/
inductive TerminalEvent
  | key (code : KeyCode) (control : Bool) (action : KeyAction)
  | resize (width height : Nat)
  | focusGained
  | focusLost
  | paste
  | mouse
  deriving DecidableEq, Repr

/-- The key that a code stands for. Only a small `c` with the control key
    interrupts. -/
def KeyCode.key (control : Bool) : KeyCode → Key
  | .char c => if control && c == 'c' then .interrupt else .char c
  | .enter => .enter
  | .escape => .escape
  | .backspace => .backspace
  | .up => .up
  | .down => .down
  | .pageUp => .pageUp
  | .pageDown => .pageDown
  | _ => .other

/-- What the dashboard is told of an event. -/
def TerminalEvent.message? : TerminalEvent → Option Message
  | .key code control .press => some (.key (code.key control))
  | .resize width height => some (.resized width height)
  | _ => none

end FleetBoard
