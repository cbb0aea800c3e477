import FleetBoard.Json.Value

/-!
# Writing Values

A value is written in one of two layouts: compact, on a single line, or pretty,
with every item and member on a line of its own and indented by two spaces a
level. Empty containers are written on one line in both.

## Main definitions

* `Value.compact`: A value on a single line.
* `Value.pretty`: A value over several lines.
-/

namespace FleetBoard

namespace Json

namespace Value

mutual

/-- A value on a single line. -/
def compact : Value → List Char
  | .null => ['n', 'u', 'l', 'l']
  | .bool true => ['t', 'r', 'u', 'e']
  | .bool false => ['f', 'a', 'l', 's', 'e']
  | .number n => n.render
  | .text s => renderLiteral s
  | .array [] => ['[', ']']
  | .array (v :: vs) => '[' :: (v.compact ++ compactItems vs ++ [']'])
  | .object [] => ['\x7b', '\x7d']
  | .object ((k, v) :: ms) =>
    '\x7b' :: (renderLiteral k ++ ':' :: (v.compact ++ compactMembers ms ++ ['\x7d']))

/-- The further items of an array on a single line. -/
def compactItems : List Value → List Char
  | [] => []
  | v :: vs => ',' :: (v.compact ++ compactItems vs)

/-- The further members of an object on a single line. -/
def compactMembers : List (String × Value) → List Char
  | [] => []
  | (k, v) :: ms => ',' :: (renderLiteral k ++ ':' :: (v.compact ++ compactMembers ms))

end

/-- A new line at a depth. -/
def newLine (depth : Nat) : List Char :=
  '\n' :: List.replicate (2 * depth) ' '

mutual

/-- A value over several lines, inside `depth` containers. -/
def prettyAt (depth : Nat) : Value → List Char
  | .null => ['n', 'u', 'l', 'l']
  | .bool true => ['t', 'r', 'u', 'e']
  | .bool false => ['f', 'a', 'l', 's', 'e']
  | .number n => n.render
  | .text s => renderLiteral s
  | .array [] => ['[', ']']
  | .array (v :: vs) =>
    '[' :: (newLine (depth + 1) ++ v.prettyAt (depth + 1) ++ prettyItems (depth + 1) vs ++
      newLine depth ++ [']'])
  | .object [] => ['\x7b', '\x7d']
  | .object ((k, v) :: ms) =>
    '\x7b' :: (newLine (depth + 1) ++ renderLiteral k ++ ':' :: ' ' ::
      (v.prettyAt (depth + 1) ++ prettyMembers (depth + 1) ms ++ newLine depth ++ ['\x7d']))

/-- The further items of an array, each on a new line. -/
def prettyItems (depth : Nat) : List Value → List Char
  | [] => []
  | v :: vs => ',' :: (newLine depth ++ v.prettyAt depth ++ prettyItems depth vs)

/-- The further members of an object, each on a new line. -/
def prettyMembers (depth : Nat) : List (String × Value) → List Char
  | [] => []
  | (k, v) :: ms =>
    ',' :: (newLine depth ++ renderLiteral k ++ ':' :: ' ' ::
      (v.prettyAt depth ++ prettyMembers depth ms))

end

/-- A value over several lines. -/
def pretty (v : Value) : List Char :=
  v.prettyAt 0

end Value

end Json

end FleetBoard
