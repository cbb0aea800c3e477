/-!
# Paths

A path is kept as it was written and compared by its components: repeated and
trailing separators do not count, and neither does a single dot, except at the
front of a relative path.

## Main definitions

* `Path`: A path as it was written.
* `Path.components`: What a path is compared by.
* `Path.same`: Whether two paths have the same components.
* `Path.join`: A path inside a directory.
-/

namespace FleetBoard

/-- A path as it was written. -/
structure Path where
  text : String
  deriving DecidableEq, Repr, Inhabited

/-- A component of a path. -/
inductive PathComponent
  | root
  | here
  | up
  | name (s : List Char)
  deriving DecidableEq, Repr

namespace Path

/-- The pieces of a path between its separators. -/
def pieces : List Char → List (List Char)
  | [] => [[]]
  | c :: cs =>
    if c = '/' then [] :: pieces cs
    else
      match pieces cs with
      | [] => [[c]]
      | piece :: rest => (c :: piece) :: rest

/-- The component of a piece that is not at the front. -/
def component? (piece : List Char) : Option PathComponent :=
  if piece = [] ∨ piece = ['.'] then none
  else if piece = ['.', '.'] then some .up
  else some (.name piece)

/-- Whether a path starts at the root directory. -/
def isAbsolute (p : Path) : Bool :=
  p.text.toList.head? == some '/'

/-- What a path is compared by. -/
def components (p : Path) : List PathComponent :=
  let parts := pieces p.text.toList
  let start :=
    if p.isAbsolute then [.root]
    else if parts.head? = some ['.'] then [.here]
    else []
  start ++ parts.filterMap component?

/-- Whether two paths have the same components. -/
def same (p q : Path) : Bool :=
  p.components == q.components

theorem same_refl (p : Path) : p.same p = true := by
  simp [same]

/-- A relative path inside a directory. -/
def join (dir : Path) (name : String) : Path :=
  if dir.text = "" then ⟨name⟩
  else if dir.text.toList.getLast? = some '/' then ⟨dir.text ++ name⟩
  else ⟨dir.text ++ "/" ++ name⟩

end Path

end FleetBoard
