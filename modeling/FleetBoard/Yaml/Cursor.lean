import FleetBoard.Yaml.Token

/-!
# Cursors

A place in a settings file with its column, since indentation counts, and its
line and number of characters, since a key has to be short and on one line.

## Main definitions

* `isBlank`, `isBreak`: The characters between words and between lines.
* `Cursor`: A place in a file.
* `Cursor.takeBreak`: A line break, in its normal form.
* `Gap`: What stands between two words of a scalar.
* `Cursor.takeGap`: The gap at a place.
-/

namespace FleetBoard

namespace Yaml

/-- The blanks inside a line. -/
def isBlank (c : Char) : Bool :=
  c == ' ' || c == '\t'

/-- The characters that end a line. -/
def isBreak (c : Char) : Bool :=
  c == '\n' || c == '\r' || c == '\u0085' || c == '\u2028' || c == '\u2029'

/-- The characters of names. -/
def isNameChar (c : Char) : Bool :=
  c.isAlphanum || c == '_' || c == '-'

/-- Whether the line ends here. -/
def atLineEnd : List Char → Bool
  | [] => true
  | c :: _ => isBreak c

/-- Whether a word ends here. -/
def atWordEnd : List Char → Bool
  | [] => true
  | c :: _ => isBlank c || isBreak c

/-- The characters that a file may hold. -/
def isAllowed (c : Char) : Bool :=
  let n := c.toNat
  n == 9 || n == 10 || n == 13 || (0x20 ≤ n && n ≤ 0x7E) || n == 0x85 ||
    (0xA0 ≤ n && n ≤ 0xFFFD) || 0x10000 ≤ n

/-- A place in a settings file. -/
structure Cursor where
  rest : List Char
  index : Nat := 0
  line : Nat := 0
  column : Nat := 0
  deriving DecidableEq, Repr

namespace Cursor

/-- Whether the character stands here. -/
def sees (c : Cursor) (ch : Char) : Bool :=
  c.rest.head? == some ch

/-- The place after some characters of the line. -/
def skip (c : Cursor) (n : Nat) : Cursor :=
  { c with rest := c.rest.drop n, index := c.index + n, column := c.column + n }

/-- The place after `n` characters that end a line. -/
def newLine (c : Cursor) (n : Nat) : Cursor :=
  { rest := c.rest.drop n, index := c.index + n, line := c.line + 1, column := 0 }

/-- The characters of the line as long as they pass, and the place after them. -/
def takeWhile (c : Cursor) (p : Char → Bool) : List Char × Cursor :=
  let taken := c.rest.takeWhile p
  (taken, c.skip taken.length)

/-- The place after the blanks of the line. -/
def skipBlanks (c : Cursor) : Cursor :=
  (c.takeWhile isBlank).2

/-- The place after a comment, if one stands here. -/
def skipComment (c : Cursor) : Cursor :=
  if c.sees '#' then (c.takeWhile fun ch => !isBreak ch).2 else c

/-- The line break that stands here, in its normal form, and the place after
    it. -/
def takeBreak (c : Cursor) : List Char × Cursor :=
  match c.rest with
  | [] => ([], c)
  | ch :: rest =>
    if ch = '\r' ∧ rest.head? = some '\n' then (['\n'], c.newLine 2)
    else if ch = '\u2028' ∨ ch = '\u2029' then ([ch], c.newLine 1)
    else if isBreak ch then (['\n'], c.newLine 1)
    else ([], c)

/-- The place after what may follow on a line that is complete: blanks, a comment
    and the line break. -/
def endLine (c : Cursor) : Except Fault Cursor :=
  let c := c.skipBlanks.skipComment
  if atLineEnd c.rest then .ok c.takeBreak.2 else .error .badToken

/-- Whether a document begins or ends here. -/
def atDocumentMark (c : Cursor) : Bool :=
  c.column == 0 &&
    (c.rest.take 3 == ['-', '-', '-'] || c.rest.take 3 == ['.', '.', '.']) &&
    atWordEnd (c.rest.drop 3)

end Cursor

/-- What stands between two words of a scalar: blanks on one line, or a line
    break with those of the empty lines after it. -/
inductive Gap
  | blanks (cs : List Char)
  | breaks (first more : List Char)
  deriving DecidableEq, Repr

namespace Gap

/-- Whether the gap has a line break. -/
def isBroken : Gap → Bool
  | .blanks _ => false
  | .breaks .. => true

/-- What a gap amounts to: one line break becomes a space, and of several the
    first one is dropped. -/
def text : Gap → List Char
  | .blanks cs => cs
  | .breaks first more =>
    if first = ['\n'] then (if more = [] then [' '] else more) else first ++ more

end Gap

/-- The gap at a place, after a part of it. A tab may not stand for the
    indentation that a line has to have. The fuel is the length of the text. -/
def Cursor.takeGapFrom (indent : Nat) : Nat → Gap → Cursor → Except Fault (Gap × Cursor)
  | 0, g, c => .ok (g, c)
  | fuel + 1, g, c =>
    match c.rest with
    | [] => .ok (g, c)
    | ch :: _ =>
      if isBlank ch then
        match g with
        | .blanks cs => takeGapFrom indent fuel (.blanks (cs ++ [ch])) (c.skip 1)
        | .breaks .. =>
          if ch = '\t' ∧ c.column < indent then .error .badToken
          else takeGapFrom indent fuel g (c.skip 1)
      else if isBreak ch then
        let (b, c) := c.takeBreak
        match g with
        | .blanks _ => takeGapFrom indent fuel (.breaks b []) c
        | .breaks first more => takeGapFrom indent fuel (.breaks first (more ++ b)) c
      else .ok (g, c)

/-- The gap at a place, after a part of it. -/
def Cursor.takeGap (c : Cursor) (indent : Nat) (g : Gap) : Except Fault (Gap × Cursor) :=
  takeGapFrom indent c.rest.length g c

end Yaml

end FleetBoard
