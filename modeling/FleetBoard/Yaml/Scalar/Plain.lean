import FleetBoard.Yaml.Cursor

/-!
# Plain Scalars

A scalar without quotes ends at a colon that ends a word, at a comment, at a line
that is not indented enough, and inside brackets at every character that belongs
to them.

## Main definitions

* `takePlain`: The plain scalar at a place.
-/

namespace FleetBoard

namespace Yaml

/-- The characters that separate what stands in brackets. -/
def isFlowChar (c : Char) : Bool :=
  c == ',' || c == '[' || c == ']' || c == '\x7b' || c == '\x7d'

/-- The characters of a plain scalar up to the next gap or to its end. -/
def plainRun (inFlow : Bool) : List Char → Except Fault (List Char)
  | [] => .ok []
  | c :: cs =>
    if isBlank c || isBreak c then .ok []
    else if inFlow && c == ':' && cs.head?.any (fun d => isFlowChar d || d == '?') then
      .error .badToken
    else if c == ':' && atWordEnd cs then .ok []
    else if inFlow && isFlowChar c then .ok []
    else (plainRun inFlow cs).map (c :: ·)

/-- A scalar that was read: its text, whether it ends on a later line than its
    last word, and the place after it. -/
structure PlainScalar where
  text : List Char
  endsLine : Bool
  cursor : Cursor

/-- The rest of a plain scalar after a text and a gap. The fuel is the length of
    the file. -/
def plainFrom (inFlow : Bool) (indent : Nat) :
    Nat → List Char → Gap → Cursor → Except Fault PlainScalar
  | 0, _, _, _ => .error .badToken
  | fuel + 1, text, gap, c =>
    if c.atDocumentMark || c.sees '#' then .ok ⟨text, gap.isBroken, c⟩
    else do
      let run ← plainRun inFlow c.rest
      let text := if run.isEmpty then text else text ++ gap.text ++ run
      let gap := if run.isEmpty then gap else .blanks []
      let c := c.skip run.length
      if c.rest.isEmpty || !atWordEnd c.rest then return ⟨text, gap.isBroken, c⟩
      let (gap, c) ← c.takeGap indent gap
      if !inFlow && c.column < indent then return ⟨text, gap.isBroken, c⟩
      plainFrom inFlow indent fuel text gap c

/-- The plain scalar at a place. Its lines have at least the indentation. -/
def takePlain (inFlow : Bool) (indent : Nat) (c : Cursor) : Except Fault PlainScalar :=
  plainFrom inFlow indent (c.rest.length + 1) [] (.blanks []) c

end Yaml

end FleetBoard
