import FleetBoard.Project
import FleetBoard.Text.Occurs

/-!
# Filtering the Project List

The list is narrowed by a text that is typed. Typing and narrowing are separate:
the list stays narrowed after typing has ended, until the text is dropped.

## Main definitions

* `Filter`: The text and whether it is being typed.
* `Filter.admits`: Whether a project passes.
* `Filter.apply`: The projects that pass, in their order.

## Theorems

* `apply_sublist`: The projects that pass are among those there were, in order.
-/

namespace FleetBoard

/-- The text that narrows the project list, and whether it is being typed. -/
structure Filter where
  active : Bool := false
  text : String := ""
  deriving DecidableEq, Repr

namespace Filter

/-- Typing starts over. -/
def begin : Filter :=
  { active := true, text := "" }

/-- A character is typed. -/
def push (f : Filter) (c : Char) : Filter :=
  { f with text := f.text.push c }

/-- Whether there is a character to remove. -/
def isNarrowing (f : Filter) : Bool :=
  !f.text.isEmpty

/-- The last character is removed, if there is one. -/
def pop (f : Filter) : Filter :=
  { f with text := String.ofList f.text.toList.dropLast }

/-- Typing ends and the text stays. -/
def confirm (f : Filter) : Filter :=
  { f with active := false }

/-- Typing ends and the text is dropped. -/
def cancel : Filter :=
  { active := false, text := "" }

/-- Whether a project passes: its name, its type or the word for its status has
    the text in it, whatever the case. -/
def admits (f : Filter) (p : Project) : Bool :=
  let needle := Text.lower f.text.toList
  f.text.isEmpty || Text.occurs needle (Text.lower p.name.toList) ||
    Text.occurs needle (Text.lower p.kind.toList) ||
    Text.occurs needle p.status.label.toList

/-- The projects that pass, in their order. -/
def apply (f : Filter) (projects : List Project) : List Project :=
  projects.filter f.admits

theorem apply_sublist (f : Filter) (projects : List Project) :
    (f.apply projects).Sublist projects :=
  List.filter_sublist

end Filter

end FleetBoard
