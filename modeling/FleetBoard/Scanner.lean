import FleetBoard.Stream
import FleetBoard.Text.Utf8

/-!
# Line Scanners

A scanner reads one pipe of a running program and makes lines of it. The bytes
of a line are decoded on their own, so that an ill-formed piece never reaches
into the next line. What follows the last line end is a line as well, unless it
is empty.

A line that was made waits until the queue has room for it. Until then nothing
is read, which in the end makes the program wait too.

## Main definitions

* `Scanner`: One pipe of a program, partly read.
* `Scanner.advance`: The scanner after it has read on, or made its next line.
* `Scanner.step`: The scanner and a stream after one step.
-/

namespace FleetBoard

namespace Text

/-- The byte that ends a line. -/
def lineFeed : UInt8 := 10

/-- A text without the line feeds and carriage returns at its end. -/
def dropLineEnd (cs : List Char) : List Char :=
  (cs.reverse.dropWhile fun c => c = '\n' || c = '\r').reverse

/-- The line that some bytes make. -/
def lineOf (bs : Bytes) : String :=
  String.ofList (dropLineEnd (decodeLossy bs))

end Text

/-- One pipe of a program, partly read. -/
structure Scanner where
  /-- What the pipe still delivers, read by read. -/
  reads : List Text.Bytes
  /-- Whether the pipe ends after that. -/
  shut : Bool
  /-- What was read and is not part of a line yet. -/
  held : Text.Bytes := []
  /-- The line that waits for room in the queue. -/
  waiting : Option String := none
  /-- Whether the scanner is still at work. -/
  scanning : Bool := true
  deriving DecidableEq, Repr

namespace Scanner

/-- The scanner after it has made its next line, or read on for it. At the end of
    the pipe it makes a line of the rest, or stops. -/
def advance (s : Scanner) : Scanner :=
  match s.held.dropWhile fun b => b ≠ Text.lineFeed with
  | feed :: rest =>
    let line := s.held.takeWhile fun b => b ≠ Text.lineFeed
    { s with waiting := some (Text.lineOf (line ++ [feed])), held := rest }
  | [] =>
    match s.reads with
    | read :: reads => { s with reads := reads, held := s.held ++ read }
    | [] =>
      if !s.shut then s
      else if s.held = [] then { s with scanning := false }
      else { s with waiting := some (Text.lineOf s.held), held := [] }

/-- The scanner and the stream it sends to after one step: a line that waits is
    sent if there is room for it, and without one the scanner goes on. -/
def step (s : Scanner) (near : Stream) : Scanner × Stream :=
  if !s.scanning then (s, near)
  else
    match s.waiting with
    | none => (s.advance, near)
    | some line =>
      match near.offer line with
      | some near => ({ s with waiting := none }, near)
      | none => (s, near)

/-- How much there is to do for the scanner, at most. -/
def load (s : Scanner) : Nat :=
  s.reads.length + s.reads.flatten.length + s.held.length + 3

end Scanner

end FleetBoard
