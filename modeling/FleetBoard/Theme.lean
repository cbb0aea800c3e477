import FleetBoard.Project

/-!
# Themes

What is drawn carries a role, and a theme says how a role looks. It also gives the
marks of statuses, which are texts. The plain theme has no colours and tells roles
apart by emphasis alone.

## Main definitions

* `Role`: What a piece of text is there for.
* `Style`: How a piece of text looks.
* `Theme`, `Theme.style`, `Theme.icon`: How every role looks, and the marks of
  statuses.
* `Looks`, `Theme.looks`: What is drawn with.
* `Role.ofState`, `Role.ofRouter`: The roles that statuses have.
-/

namespace FleetBoard

/-- A colour of the terminal. -/
inductive Color
  /-- The default of the terminal. -/
  | reset
  | white
  | rgb (red green blue : Nat)
  deriving DecidableEq, Repr

/-- How a piece of text looks, as far as that is set. -/
structure Style where
  foreground : Option Color := none
  background : Option Color := none
  bold : Bool := false
  reversed : Bool := false
  deriving DecidableEq, Repr

/-- What a piece of text is there for. -/
inductive Role
  /-- Text that is left as it is. -/
  | bare
  | text
  | dim
  | muted
  | accent
  | success
  | warning
  | danger
  /-- A failure that is told about. -/
  | failure
  | title
  | section
  | keyHint
  | border
  | selection
  deriving DecidableEq, Repr

/-- The role of the status of a project. -/
def Role.ofState : RunState → Role
  | .running => .success
  | .paused => .warning
  | .stopped => .muted
  | .unknown => .danger

/-- The role of the health of the router. -/
def Role.ofRouter (tag : String) : Role :=
  if tag = "healthy" then .success
  else if tag = "starting" then .warning
  else .danger

/-- The mark of the status of a project. -/
def RunState.icon : RunState → String
  | .running => "●"
  | .paused => "◐"
  | .stopped => "○"
  | .unknown => "?"

/-- How roles look, and the marks of statuses. -/
inductive Theme
  | plain
  | dark
  deriving DecidableEq, Repr

namespace Theme

/-- The theme that is chosen: plain if the settings or the environment ask for
    no colours. -/
def resolve (simple noColor : Bool) : Theme :=
  if simple || noColor then .plain else .dark

/-- Whether a role is told apart by bold letters. -/
def isEmphatic : Role → Bool
  | .failure | .title | .section | .keyHint => true
  | _ => false

/-- The colour of a role on a dark background. -/
def darkColor : Role → Option Color
  | .bare => none
  | .text => some (.rgb 212 212 212)
  | .dim => some (.rgb 150 150 150)
  | .muted => some (.rgb 100 100 100)
  | .accent | .title | .section => some (.rgb 79 193 255)
  | .success => some (.rgb 78 201 176)
  | .warning => some (.rgb 220 180 100)
  | .danger | .failure => some (.rgb 244 135 113)
  | .keyHint => some (.rgb 206 145 120)
  | .border => some (.rgb 60 60 60)
  | .selection => some .white

/-- How a role looks in a theme. -/
def style (t : Theme) (r : Role) : Style :=
  match t, r with
  | .plain, .selection => { reversed := true }
  | .plain, r => { bold := isEmphatic r }
  | .dark, .selection =>
    { foreground := darkColor .selection, background := some (.rgb 38 79 120), bold := true }
  | .dark, r => { foreground := darkColor r, bold := isEmphatic r }

/-- The mark of the status of a project in a theme. No theme has marks of its own. -/
def icon (_ : Theme) : RunState → String :=
  RunState.icon

end Theme

/-- What is drawn with: how every role looks, and the marks of statuses. -/
structure Looks (Look : Type) where
  look : Role → Look
  icon : RunState → String

/-- What is drawn with in a theme. -/
def Theme.looks (t : Theme) : Looks Style where
  look := t.style
  icon := t.icon

end FleetBoard
