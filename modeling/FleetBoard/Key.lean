/-!
# Keys

The key presses that the dashboard knows, whatever the terminal calls them.

## Main definitions

* `Key`: A key press.
* `Key.isUp`, `Key.isDown`, `Key.isBack`, `Key.isQuit`, `Key.isConfirm`: What a
  key means wherever it is not bound otherwise.
-/

namespace FleetBoard

/-- A key press. -/
inductive Key
  | char (c : Char)
  | enter
  | escape
  | backspace
  | up
  | down
  | pageUp
  | pageDown
  | interrupt
  /-- A key that nothing is bound to. -/
  | other
  deriving DecidableEq, Repr

namespace Key

/-- Whether the key moves up. -/
def isUp (k : Key) : Bool :=
  k == .up || k == .char 'k'

/-- Whether the key moves down. -/
def isDown (k : Key) : Bool :=
  k == .down || k == .char 'j'

/-- Whether the key leaves a view. -/
def isBack (k : Key) : Bool :=
  k == .escape || k == .backspace

/-- Whether the key ends the program. -/
def isQuit (k : Key) : Bool :=
  k == .interrupt || k == .char 'q'

/-- Whether the key confirms what was asked. -/
def isConfirm (k : Key) : Bool :=
  k == .char 'y'

end Key

end FleetBoard
