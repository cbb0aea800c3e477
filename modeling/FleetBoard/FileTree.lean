import FleetBoard.Path
import FleetBoard.SystemError
import FleetBoard.Text.Utf8

/-!
# File Trees

Files and directories below a working directory. A path is walked piece by
piece: whatever has further pieces behind it has to be a directory, even if the
piece is empty or a dot. What lies outside of the tree is not known, so an
absolute path leads into an empty tree.

## Main definitions

* `Place`: Where in the tree something stands.
* `FileNode`: What can stand there.
* `FileTree`: What stands where.
* `FileTree.locate`: The place that a path leads to.
* `FileTree.isPresent`: Whether something stands at a path.
* `FileTree.read`: The content of a file.
* `FileTree.isProgram`: Whether a path leads to a file that may be run.
-/

namespace FleetBoard

/-- Where in a tree something stands: the names from the top down. -/
abbrev Place := List String

/-- What can stand at a place. -/
inductive FileNode
  /-- A file with the bits of its permissions. -/
  | file (permissions : Nat) (content : Text.Bytes)
  | directory
  deriving DecidableEq, Repr

/-- What stands at which place. The top is always a directory. -/
structure FileTree where
  nodes : List (Place × FileNode) := []
  deriving DecidableEq, Repr

namespace FileTree

/-- What stands at a place. -/
def node? (t : FileTree) (place : Place) : Option FileNode :=
  if place = [] then some .directory else t.nodes.lookup place

/-- The permissions of a file for which none are given. -/
def usualPermissions : Nat := 0o644

/-- The tree with something more in it, and with the directories that lead
    there. -/
def add (t : FileTree) (path : Path) (node : FileNode) : FileTree :=
  let names := (Path.pieces path.text.toList).filter fun piece => piece ≠ [] ∧ piece ≠ ['.']
  let place := names.map String.ofList
  let parents := (List.range place.length).map fun n => (place.take n, FileNode.directory)
  { nodes := (place, node) :: parents ++ t.nodes }

/-- The greatest length of a name, in bytes. -/
def maxName : Nat := 255

/-- The greatest length of a path, in bytes. -/
def maxPath : Nat := 4095

/-- The place that one more piece of a path leads to. -/
def enter (t : FileTree) (place : Place) (piece : List Char) : Except SystemError Place :=
  let name := String.ofList piece
  if t.node? place ≠ some .directory then .error .notDirectory
  else if piece = [] ∨ piece = ['.'] then .ok place
  else if piece = ['.', '.'] then .ok place.dropLast
  else if name.utf8ByteSize > maxName then .error .nameTooLong
  else if (t.node? (place ++ [name])).isNone then .error .noSuchFile
  else .ok (place ++ [name])

/-- The place that a path leads to from another place. -/
def locate (t : FileTree) (start : Place) (path : Path) : Except SystemError Place :=
  if path.text.toList.contains '\x00' then .error .endedName
  else if path.text = "" then .error .noSuchFile
  else if path.text.utf8ByteSize > maxPath then .error .nameTooLong
  else if path.isAbsolute then (Path.pieces path.text.toList).foldlM (enter {}) []
  else (Path.pieces path.text.toList).foldlM (enter t) start

/-- Whether something stands at a path, unless the path cannot be walked. -/
def isPresent (t : FileTree) (path : Path) : Except SystemError Bool :=
  match t.locate [] path with
  | .ok _ => .ok true
  | .error e => if e.kind = .notFound then .ok false else .error e

/-- The content of a file. -/
def read (t : FileTree) (path : Path) : Except SystemError Text.Bytes :=
  match t.locate [] path with
  | .error e => .error e
  | .ok place =>
    match t.node? place with
    | some (.file _ content) => .ok content
    | some .directory => .error .isDirectory
    | none => .error .noSuchFile

/-- The bits of the permission to run a file. -/
def runPermissions : Nat := 0o111

/-- Whether a file stands at a place that somebody may run. -/
def isRunnable (t : FileTree) (place : Place) : Bool :=
  match t.node? place with
  | some (.file permissions _) => permissions &&& runPermissions ≠ 0
  | _ => false

/-- Whether a path leads to a file that somebody may run. -/
def isProgram (t : FileTree) (path : Path) : Bool :=
  match t.locate [] path with
  | .error _ => false
  | .ok place => t.isRunnable place

/-- The first of some directories' files with a name that may be run. -/
def findProgram (t : FileTree) (dirs : List Path) (name : String) : Option Path :=
  (dirs.map fun dir => dir.join name).find? t.isProgram

end FileTree

end FleetBoard
