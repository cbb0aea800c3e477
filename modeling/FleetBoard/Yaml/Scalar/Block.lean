import FleetBoard.Yaml.Cursor

/-!
# Block Scalars

A block scalar is all lines that are indented as deeply as its first one, or as
its header says. A literal one keeps its line breaks, a folded one joins lines
that begin with a word. The header says which of the line breaks at the end are
kept.

## Main definitions

* `BlockHeader`: What the header says.
* `takeBlock`: The block scalar at a place.
-/

namespace FleetBoard

namespace Yaml

/-- Which line breaks at the end of a block scalar are kept. -/
inductive Chomping
  | strip
  | clip
  | keep
  deriving DecidableEq, Repr

/-- What the header of a block scalar says. -/
structure BlockHeader where
  chomping : Chomping
  /-- How much deeper than its surroundings the scalar is indented, if that is
      given. -/
  increment : Option Nat
  deriving DecidableEq, Repr

/-- The chomping that a character asks for. -/
def chomping? (c : Option Char) : Option Chomping :=
  if c = some '+' then some .keep else if c = some '-' then some .strip else none

/-- The increment that a character gives. Zero is refused. -/
def increment? (c : Option Char) : Except Fault (Option Nat) :=
  match c with
  | some d =>
    if d = '0' then .error .badToken
    else if d.isDigit then .ok (some (d.toNat - 0x30))
    else .ok none
  | none => .ok none

/-- The header after the first character of a block scalar, and the place on the
    line after it. The two marks may come in either order. -/
def takeHeader (c : Cursor) : Except Fault (BlockHeader × Cursor) :=
  match chomping? c.rest.head? with
  | some chomping => do
    let c := c.skip 1
    match ← increment? c.rest.head? with
    | some n => return (⟨chomping, some n⟩, c.skip 1)
    | none => return (⟨chomping, none⟩, c)
  | none => do
    match ← increment? c.rest.head? with
    | none => return (⟨.clip, none⟩, c)
    | some n =>
      let c := c.skip 1
      match chomping? c.rest.head? with
      | some chomping => return (⟨chomping, some n⟩, c.skip 1)
      | none => return (⟨.clip, some n⟩, c)

/-- Empty lines and indentation: the deepest column that was reached, the line
    breaks, and the place after them. -/
structure Margin where
  deepest : Nat := 0
  breaks : List Char := []
  cursor : Cursor

/-- The margin at a place, after a part of it. Without an indentation all spaces
    belong to the margin. The fuel is the length of the file. -/
def marginFrom (indent : Option Nat) : Nat → Margin → Except Fault Margin
  | 0, m => .ok m
  | fuel + 1, m =>
    let spaces := (m.cursor.rest.takeWhile (· == ' ')).length
    let wanted :=
      match indent with
      | none => spaces
      | some n => min spaces (n - m.cursor.column)
    let c := m.cursor.skip wanted
    let isShort :=
      match indent with
      | none => true
      | some n => decide (c.column < n)
    if isShort && c.sees '\t' then .error .badToken
    else
      let m := { m with deepest := max m.deepest c.column, cursor := c }
      match c.takeBreak with
      | ([], _) => .ok m
      | (b, c) => marginFrom indent fuel { m with breaks := m.breaks ++ b, cursor := c }

/-- The margin at a place. -/
def takeMargin (indent : Option Nat) (c : Cursor) : Except Fault Margin :=
  marginFrom indent (c.rest.length + 1) { cursor := c }

/-- The part of a block scalar that was read. -/
structure BlockText where
  text : List Char := []
  /-- The line break after the last line. -/
  lastBreak : List Char := []
  /-- The line breaks of the empty lines after it. -/
  breaks : List Char
  /-- Whether the last line began with a blank. -/
  blankLine : Bool := false
  cursor : Cursor

/-- What stands for the line break between the last line and one that begins
    with a blank or not. -/
def BlockText.join (b : BlockText) (folded blank : Bool) : List Char :=
  if folded && b.lastBreak == ['\n'] && !b.blankLine && !blank then
    (if b.breaks.isEmpty then [' '] else [])
  else b.lastBreak

/-- The lines of a block scalar after a part of it. The fuel is the length of the
    file. -/
def blockFrom (folded : Bool) (indent : Nat) : Nat → BlockText → Except Fault BlockText
  | 0, b => .ok b
  | fuel + 1, b =>
    if b.cursor.column ≠ indent || b.cursor.rest.isEmpty then .ok b
    else do
      let blank := b.cursor.rest.head?.any isBlank
      let (line, c) := b.cursor.takeWhile fun ch => !isBreak ch
      let (lastBreak, c) := c.takeBreak
      let margin ← takeMargin (some indent) c
      blockFrom folded indent fuel
        { text := b.text ++ b.join folded blank ++ b.breaks ++ line
          lastBreak := lastBreak
          breaks := margin.breaks
          blankLine := blank
          cursor := margin.cursor }

/-- The block scalar at a place inside a block of some indentation, and the place
    after it. -/
def takeBlock (folded : Bool) (outer : Option Nat) (c : Cursor) :
    Except Fault (List Char × Cursor) := do
  let (header, c) ← takeHeader (c.skip 1)
  let c ← c.endLine
  let given := header.increment.map (outer.getD 0 + ·)
  let margin ← takeMargin given c
  let least :=
    match outer with
    | none => 1
    | some n => n + 1
  let indent := given.getD (max margin.deepest least)
  let b ← blockFrom folded indent (c.rest.length + 1)
    { breaks := margin.breaks, cursor := margin.cursor }
  let kept :=
    match header.chomping with
    | .strip => []
    | .clip => b.lastBreak
    | .keep => b.lastBreak ++ b.breaks
  return (b.text ++ kept, b.cursor)

end Yaml

end FleetBoard
