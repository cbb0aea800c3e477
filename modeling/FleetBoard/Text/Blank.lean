/-!
# Blank Characters and Lines

The white space of the character standard, trimming by it, and the two ways a
text is cut into lines: lines end at a line feed, and one carriage return in
front of it belongs to the line end.

## Main definitions

* `isBlank`: The white space characters.
* `trim`: A text without the white space around it.
* `splitLines`: The lines of a text.
* `lastFilledLine`: The last line that holds more than white space, trimmed.
-/

namespace FleetBoard

namespace Text

/-- The characters with the `White_Space` property. -/
def isBlank (c : Char) : Bool :=
  let n := c.toNat
  (9 ≤ n && n ≤ 13) || n == 0x20 || n == 0x85 || n == 0xA0 || n == 0x1680 ||
    (0x2000 ≤ n && n ≤ 0x200A) || n == 0x2028 || n == 0x2029 || n == 0x202F ||
    n == 0x205F || n == 0x3000

/-- A text without the white space at its front. -/
def trimStart (cs : List Char) : List Char :=
  cs.dropWhile isBlank

/-- A text without the white space at its end. -/
def trimEnd (cs : List Char) : List Char :=
  (cs.reverse.dropWhile isBlank).reverse

/-- A text without the white space around it. -/
def trim (cs : List Char) : List Char :=
  trimEnd (trimStart cs)

/-- The pieces of a text between its line feeds: always one more than there are
    line feeds. -/
def splitFeeds : List Char → List (List Char)
  | [] => [[]]
  | c :: cs =>
    if c = '\n' then [] :: splitFeeds cs
    else
      match splitFeeds cs with
      | [] => [[c]]
      | piece :: rest => (c :: piece) :: rest

/-- A piece without the one carriage return it may end in. -/
def dropReturn (cs : List Char) : List Char :=
  if cs.getLast? = some '\r' then cs.dropLast else cs

/-- The lines of a text. Only a line that is ended by a line feed gives up a
    carriage return. -/
def splitLines (cs : List Char) : List (List Char) :=
  let pieces := splitFeeds cs
  let ended := pieces.dropLast.map dropReturn
  match pieces.getLast? with
  | none | some [] => ended
  | some last => ended ++ [last]

/-- The last line of a text that holds more than white space, trimmed. -/
def lastFilledLine (cs : List Char) : Option (List Char) :=
  ((splitLines cs).map trim).reverse.find? fun line => !line.isEmpty

end Text

end FleetBoard
