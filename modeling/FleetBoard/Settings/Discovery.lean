import FleetBoard.FileTree
import FleetBoard.Settings

/-!
# Finding the Settings

A file of settings that the user names has to be there. Two other places are
looked at when none is named, and what is missing there is passed over. With
nothing found everything has its default.

## Main definitions

* `Settings.Lookup`: What is known of files.
* `Settings.discover`: The settings that are in force, with their file.

## Theorems

* `discover_nothing`: With nothing found everything has its default.
-/

namespace FleetBoard

namespace Settings

/-- What is known of files: whether there is something at a path, and its
    content, if it can be read. -/
abbrev Lookup := Path → Option (Except SystemError Text.Bytes)

/-- The settings in the content of a file. -/
def ofContent (path : Path) (content : Except SystemError Text.Bytes) :
    Except SettingsError Settings :=
  match content with
  | .error e => .error (.unreadable path e.text)
  | .ok bytes =>
    match Text.decodeStrict bytes with
    | none => .error (.unreadable path SystemError.notText.text)
    | some text => parse text

/-- The first file of some that is there, with its content. -/
def firstPresent (lookup : Lookup) (paths : List Path) :
    Option (Path × Except SystemError Text.Bytes) :=
  paths.findSome? fun path => (lookup path).map fun content => (path, content)

/-- The settings that are in force, with the file they are in, if any: the one
    that the user names, or else the one that the environment names, or else the
    usual one. -/
def discover (lookup : Lookup) (named environment usual : Option Path) :
    Except SettingsError (Option Path × Settings) :=
  match named with
  | some path =>
    match lookup path with
    | none => .error (.notFound path)
    | some content => (ofContent path content).map fun s => (some path, s)
  | none =>
    match firstPresent lookup (environment.toList ++ usual.toList) with
    | none => .ok (none, {})
    | some (path, content) => (ofContent path content).map fun s => (some path, s)

theorem discover_nothing (lookup : Lookup) (environment usual : Option Path)
    (h : ∀ path, lookup path = none) :
    discover lookup none environment usual = .ok (none, {}) := by
  have absent : firstPresent lookup (environment.toList ++ usual.toList) = none :=
    List.findSome?_eq_none_iff.2 fun path _ => by simp [h path]
  simp [discover, absent]

end Settings

/-- What is known of the files of a tree. -/
def FileTree.lookup (t : FileTree) : Settings.Lookup := fun path =>
  match t.locate [] path with
  | .ok _ => some (t.read path)
  | .error _ => none

end FleetBoard
