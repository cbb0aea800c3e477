/-!
# Tokens of Settings Files

A settings file is cut into tokens before its structure is looked at. The
tokens tell where blocks begin and end, so that indentation plays no part after
that.

## Main definitions

* `Style`: How a scalar is written.
* `Token`: A token.
* `Fault`: Why a file could not be read.
-/

namespace FleetBoard

namespace Yaml

/-- How a scalar is written. -/
inductive Style
  | plain
  | singleQuoted
  | doubleQuoted
  | literal
  | folded
  deriving DecidableEq, Repr

/-- A token of a settings file. -/
inductive Token
  | version (major minor : Nat)
  /-- A handle for tags with the text it stands for. -/
  | tagHandle (handle meaning : List Char)
  | documentStart
  | documentEnd
  | blockSequenceStart
  | blockMappingStart
  | blockEnd
  | flowSequenceStart
  | flowSequenceEnd
  | flowMappingStart
  | flowMappingEnd
  | blockEntry
  | flowEntry
  | key
  | value
  | alias (name : List Char)
  | anchor (name : List Char)
  | tag (handle suffix : List Char)
  | scalar (style : Style) (text : List Char)
  deriving DecidableEq, Repr

/-- Why a settings file could not be read. -/
inductive Fault
  /-- A character that no file may hold. -/
  | forbiddenCharacter (c : Char)
  /-- A token that is not well formed, or stands where it may not. -/
  | badToken
  /-- Tokens that do not make up a document. -/
  | badStructure
  /-- An alias of a name that no node has. -/
  | unknownAlias (name : List Char)
  /-- A second document. -/
  | secondDocument
  /-- A document of another shape than expected. -/
  | mismatch
  deriving DecidableEq, Repr

end Yaml

end FleetBoard
