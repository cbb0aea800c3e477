/-!
# Decoding Bytes

Bytes are read one at a time. A decoder remembers the sequence it is inside of:
how many bytes are missing, which values the next one may have, and what has
been read. A byte that does not continue the sequence ends it as one ill-formed
piece and is read again as the first byte of the next.

Programs write what they want to, so their output is decoded with every
ill-formed piece replaced. Files have to be well formed.

## Main definitions

* `Utf8.Sequence`: A sequence of bytes that is not complete yet.
* `Utf8.feed`: One byte, read after an unfinished sequence or none.
* `decodeLossy`: The text of some bytes, ill-formed pieces replaced.
* `decodeStrict`: The text of some bytes that are well formed.
-/

namespace FleetBoard

namespace Text

/-- A string of bytes as a program or a file holds it. -/
abbrev Bytes := List UInt8

/-- The bytes of a text. -/
def encode (s : String) : Bytes :=
  s.toUTF8.data.toList

/-- The character that stands for an ill-formed piece. -/
def replacement : Char := '\uFFFD'

namespace Utf8

/-- A sequence of bytes that is not complete yet. -/
structure Sequence where
  /-- How many bytes are missing. -/
  missing : Nat
  /-- The least value of the next byte. -/
  low : Nat
  /-- The greatest value of the next byte. -/
  high : Nat
  /-- The bits read so far. -/
  bits : Nat
  deriving DecidableEq, Repr

/-- What a byte adds to the text: characters, `none` for an ill-formed piece,
    and the sequence that is open after it. -/
abbrev Progress := List (Option Char) × Option Sequence

/-- A byte read as the first one of a sequence. -/
def begin (b : UInt8) : Progress :=
  let n := b.toNat
  if n < 0x80 then ([some (Char.ofNat n)], none)
  else if n < 0xC2 then ([none], none)
  else if n < 0xE0 then ([], some ⟨1, 0x80, 0xBF, n - 0xC0⟩)
  else if n == 0xE0 then ([], some ⟨2, 0xA0, 0xBF, 0⟩)
  else if n == 0xED then ([], some ⟨2, 0x80, 0x9F, 0xD⟩)
  else if n < 0xF0 then ([], some ⟨2, 0x80, 0xBF, n - 0xE0⟩)
  else if n == 0xF0 then ([], some ⟨3, 0x90, 0xBF, 0⟩)
  else if n < 0xF4 then ([], some ⟨3, 0x80, 0xBF, n - 0xF0⟩)
  else if n == 0xF4 then ([], some ⟨3, 0x80, 0x8F, 4⟩)
  else ([none], none)

/-- One byte, read after an unfinished sequence or none. -/
def feed (state : Option Sequence) (b : UInt8) : Progress :=
  match state with
  | none => begin b
  | some q =>
    let n := b.toNat
    if q.low ≤ n ∧ n ≤ q.high then
      let bits := q.bits * 64 + (n - 0x80)
      if q.missing ≤ 1 then ([some (Char.ofNat bits)], none)
      else ([], some ⟨q.missing - 1, 0x80, 0xBF, bits⟩)
    else
      let (found, next) := begin b
      (none :: found, next)

/-- What an unfinished sequence at the end of the bytes amounts to. -/
def finish : Option Sequence → List (Option Char)
  | none => []
  | some _ => [none]

/-- The characters and ill-formed pieces of some bytes, after an unfinished
    sequence or none. -/
def piecesFrom (state : Option Sequence) : Bytes → List (Option Char)
  | [] => finish state
  | b :: bs =>
    let (found, next) := feed state b
    found ++ piecesFrom next bs

/-- The characters and ill-formed pieces of some bytes. -/
def pieces (bs : Bytes) : List (Option Char) :=
  piecesFrom none bs

end Utf8

/-- The text of some bytes, with the replacement character for every ill-formed
    piece. -/
def decodeLossy (bs : Bytes) : List Char :=
  (Utf8.pieces bs).map (·.getD replacement)

/-- The text of some bytes, if they are well formed. -/
def decodeStrict (bs : Bytes) : Option (List Char) :=
  (Utf8.pieces bs).mapM id

end Text

end FleetBoard
