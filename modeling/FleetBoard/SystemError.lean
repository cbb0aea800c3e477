/-!
# Errors of the System

What the operating system answers when it does not do what it was asked to. A
missing file has a meaning of its own for some callers; of every other error
only the text counts.

## Main definitions

* `SystemErrorKind`: The errors that are told apart.
* `SystemError`: An error with its text.
-/

namespace FleetBoard

/-- The errors that are told apart. -/
inductive SystemErrorKind
  | notFound
  | other
  deriving DecidableEq, Repr

/-- An error of the system with its text. -/
structure SystemError where
  kind : SystemErrorKind
  text : String
  deriving DecidableEq, Repr

namespace SystemError

/-- An error that the system numbers. -/
def numbered (reason : String) (number : Nat) : SystemError :=
  ⟨.other, reason ++ " (os error " ++ toString number ++ ")"⟩

/-- Nothing has the name. -/
def noSuchFile : SystemError :=
  { numbered "No such file or directory" 2 with kind := .notFound }

/-- The file is in no format that can be run. -/
def unknownFormat : SystemError :=
  numbered "Exec format error" 8

/-- The file may not be run. -/
def permissionDenied : SystemError :=
  numbered "Permission denied" 13

/-- Something else than a directory was to be entered. -/
def notDirectory : SystemError :=
  numbered "Not a directory" 20

/-- A directory was to be read as a file. -/
def isDirectory : SystemError :=
  numbered "Is a directory" 21

/-- The name is longer than names may be. -/
def nameTooLong : SystemError :=
  numbered "File name too long" 36

/-- The file was to be read as text and is none. -/
def notText : SystemError :=
  ⟨.other, "stream did not contain valid UTF-8"⟩

/-- The name of a file holds the character that ends names. -/
def endedName : SystemError :=
  ⟨.other, "file name contained an unexpected NUL byte"⟩

/-- An argument of a program holds the character that ends arguments. -/
def endedArgument : SystemError :=
  ⟨.other, "nul byte found in provided data"⟩

end SystemError

end FleetBoard
