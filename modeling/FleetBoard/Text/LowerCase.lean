import FleetBoard.Text.LowerCase.Table

/-!
# Lower Case

The full lower case map of a text. It is neither length-preserving nor free of
context: a capital I with a dot above becomes two characters, and a capital
sigma becomes the final form exactly at the end of a word.

## Main definitions

* `simpleLower`: The lower case of one character, where that is one character.
* `endsWord`: Whether a sigma between two texts stands at the end of a word.
* `lower`: The lower case of a text.
-/

namespace FleetBoard

namespace Text

namespace CaseRun

/-- Whether the run maps the character. -/
def covers (r : CaseRun) (c : Char) : Bool :=
  r.first ≤ c.toNat && c.toNat ≤ r.last && (c.toNat - r.first) % r.step == 0

/-- The image of a covered character. -/
def image (r : CaseRun) (c : Char) : Char :=
  Char.ofNat ((c.toNat : Int) + r.offset).toNat

end CaseRun

/-- The lower case of a character that has a one-character lower case, and the
    character itself otherwise. -/
def simpleLower (c : Char) : Char :=
  if c.toNat < 0x80 then c.toLower
  else
    match lowerRuns.find? (·.covers c) with
    | some r => r.image c
    | none => c

/-- Whether the first character that is not skipped has case. -/
def meetsCased (cs : List Char) : Bool :=
  match cs.dropWhile caseIgnorableRanges.mem with
  | [] => false
  | c :: _ => casedRanges.mem c

/-- Whether a sigma with the characters `before` it, nearest first, and `after`
    it stands at the end of a word. -/
def endsWord (before after : List Char) : Bool :=
  meetsCased before && !meetsCased after

/-- The lower case of one character between the characters `before` it, nearest
    first, and `after` it. -/
def lowerAt (before : List Char) (c : Char) (after : List Char) : List Char :=
  if c = 'Σ' then [if endsWord before after then 'ς' else 'σ']
  else if c = 'İ' then ['i', '\u0307']
  else [simpleLower c]

/-- The lower case of a text that follows the characters `before`, nearest
    first. -/
def lowerAfter (before : List Char) : List Char → List Char
  | [] => []
  | c :: cs => lowerAt before c cs ++ lowerAfter (c :: before) cs

/-- The lower case of a text. -/
def lower (cs : List Char) : List Char :=
  lowerAfter [] cs

end Text

end FleetBoard
