import FleetBoard.Text.Grapheme.Table

/-!
# User-Perceived Characters

A text is cut into clusters: what a reader takes for one character, such as a
letter with the marks on it. A cut is decided between two neighbours from a
bounded memory of the cluster before it, so one pass from the left does it.

## Main definitions

* `ClusterClass`: What a character is to the cluster rules.
* `ClusterTail`: What the next cut has to know of the cluster so far.
* `ClusterTail.joins`: Whether a character joins the cluster before it.
* `clusters`: The clusters of a text.

## Theorems

* `clusters_flatten`: Cutting loses nothing.
-/

namespace FleetBoard

namespace Text

/-- What a character is to the cluster rules. -/
inductive ClusterClass
  | other
  | carriageReturn
  | lineFeed
  | control
  | extend
  | joiner
  | lead
  | spacingMark
  | hangulLead
  | hangulVowel
  | hangulTrail
  | hangulOpen
  | hangulClosed
  | regional
  deriving DecidableEq, Repr

/-- The class of a character. Hangul syllables are `hangulOpen` without and
    `hangulClosed` with a trailing consonant. -/
def clusterClass (c : Char) : ClusterClass :=
  let n := c.toNat
  if n == 0x0D then .carriageReturn
  else if n == 0x0A then .lineFeed
  else if 0x20 ≤ n && n < 0x7F then .other
  else if n == 0x200D then .joiner
  else if controlRanges.mem c then .control
  else if extendRanges.mem c || emojiModifierRanges.mem c then .extend
  else if spacingMarkRanges.mem c then .spacingMark
  else if leadRanges.mem c then .lead
  else if regionalRanges.mem c then .regional
  else if hangulLeadRanges.mem c then .hangulLead
  else if hangulVowelRanges.mem c then .hangulVowel
  else if hangulTrailRanges.mem c then .hangulTrail
  else if 0xAC00 ≤ n && n ≤ 0xD7A3 then
    if (n - 0xAC00) % 28 == 0 then .hangulOpen else .hangulClosed
  else .other

/-- How far a pictograph sequence has come. -/
inductive PictureStage
  | none
  | picture
  | joined
  deriving DecidableEq, Repr

/-- How far a conjunct has come. -/
inductive ConjunctStage
  | none
  | consonant
  | linked
  deriving DecidableEq, Repr

/-- What the next cut has to know of the cluster so far. -/
structure ClusterTail where
  last : ClusterClass
  oddRegional : Bool
  picture : PictureStage
  conjunct : ConjunctStage
  deriving DecidableEq, Repr

namespace ClusterTail

/-- The memory of a cluster that begins with the character. -/
def start (c : Char) : ClusterTail :=
  let k := clusterClass c
  let ascii := c.toNat < 0x80
  { last := k
    oddRegional := k == .regional
    picture := if !ascii && pictographRanges.mem c then .picture else .none
    conjunct := if !ascii && conjunctConsonantRanges.mem c then .consonant else .none }

/-- The memory after the character has joined the cluster. -/
def advance (t : ClusterTail) (c : Char) : ClusterTail :=
  let k := clusterClass c
  let fresh := start c
  { last := k
    oddRegional := k == .regional && !t.oddRegional
    picture :=
      match t.picture, k with
      | .picture, .extend => .picture
      | .picture, .joiner => .joined
      | _, _ => fresh.picture
    conjunct :=
      if conjunctLinkerRanges.mem c && t.conjunct != .none then .linked
      else
        match t.conjunct, k with
        | .none, _ => fresh.conjunct
        | stage, .extend => stage
        | stage, .joiner => stage
        | _, _ => fresh.conjunct }

/-- Whether the character joins the cluster before it. -/
def joins (t : ClusterTail) (c : Char) : Bool :=
  match t.last, clusterClass c with
  | .carriageReturn, .lineFeed => true
  | .carriageReturn, _ | .lineFeed, _ | .control, _ => false
  | _, .carriageReturn | _, .lineFeed | _, .control => false
  | .hangulLead, .hangulLead | .hangulLead, .hangulVowel => true
  | .hangulLead, .hangulOpen | .hangulLead, .hangulClosed => true
  | .hangulOpen, .hangulVowel | .hangulOpen, .hangulTrail => true
  | .hangulVowel, .hangulVowel | .hangulVowel, .hangulTrail => true
  | .hangulClosed, .hangulTrail | .hangulTrail, .hangulTrail => true
  | _, .extend | _, .joiner | _, .spacingMark => true
  | .lead, _ => true
  | .regional, .regional => t.oddRegional
  | _, _ =>
    (t.picture == .joined && pictographRanges.mem c) ||
      (t.conjunct == .linked && conjunctConsonantRanges.mem c)

end ClusterTail

/-- The clusters of a text whose first cluster has the memory `t` and the
    characters `held`, last one first. -/
def clustersFrom (t : ClusterTail) (held : List Char) : List Char → List (List Char)
  | [] => [held.reverse]
  | c :: cs =>
    if t.joins c then clustersFrom (t.advance c) (c :: held) cs
    else held.reverse :: clustersFrom (ClusterTail.start c) [c] cs

/-- The clusters of a text. -/
def clusters : List Char → List (List Char)
  | [] => []
  | c :: cs => clustersFrom (ClusterTail.start c) [c] cs

theorem clustersFrom_flatten (t : ClusterTail) (held cs : List Char) :
    (clustersFrom t held cs).flatten = held.reverse ++ cs := by
  induction cs generalizing t held with
  | nil => simp [clustersFrom]
  | cons c cs ih =>
    by_cases h : t.joins c <;> simp [clustersFrom, h, ih]

/-- Cutting a text into clusters loses nothing. -/
theorem clusters_flatten (cs : List Char) : (clusters cs).flatten = cs := by
  cases cs with
  | nil => rfl
  | cons c cs => simp [clusters, clustersFrom_flatten]

end Text

end FleetBoard
