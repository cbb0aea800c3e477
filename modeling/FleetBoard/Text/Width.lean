import FleetBoard.Text.Blank
import FleetBoard.Text.Grapheme

/-!
# Columns

How many columns of a terminal a character and a cluster take.

## Main definitions

* `charWidth`: The columns of a character.
* `clusterWidth`: The columns of a cluster.
-/

namespace FleetBoard

namespace Text

/-- Marks, joiners, the inner letters of Hangul and some signs take no column of
    their own. -/
def isZeroWidth (c : Char) : Bool :=
  extendRanges.mem c || (ignorableRanges.mem c && c != '\u115F') ||
    hangulVowelRanges.mem c || hangulTrailRanges.mem c || columnlessRanges.mem c

/-- The columns of a character. -/
def charWidth (c : Char) : Nat :=
  if c.toNat < 0x7F then 1
  else if isZeroWidth c then 0
  else if wideRanges.mem c then 2
  else 1

/-- The selector that asks for a picture. -/
def pictureSelector : Char := '\uFE0F'

/-- The selector that asks for a letter form. -/
def letterSelector : Char := '\uFE0E'

/-- The characters of the keys of a telephone, of which there are pictures. -/
def isKeyCap (c : Char) : Bool :=
  c == '#' || c == '*' || c.isDigit

/-- Whether a cluster is drawn as one picture: a character that has one with the
    picture selector, a pictograph with a skin tone, or pictographs joined. -/
def isPictureCluster : List Char → Bool
  | [] => false
  | c :: rest =>
    ((pictographRanges.mem c || isKeyCap c) && rest.head? == some pictureSelector) ||
      (pictographRanges.mem c && (rest.any emojiModifierRanges.mem || rest.contains '\u200D'
        && rest.any pictographRanges.mem))

/-- The columns of a cluster. -/
def clusterWidth (cs : List Char) : Nat :=
  match cs with
  | [c] => charWidth c
  | ['\r', '\n'] => 1
  | c :: rest =>
    if isPictureCluster cs then 2
    else if emojiPresentationRanges.mem c && rest.head? == some letterSelector then 1
    else cs.foldr (fun c n => charWidth c + n) 0
  | [] => 0

end Text

end FleetBoard
