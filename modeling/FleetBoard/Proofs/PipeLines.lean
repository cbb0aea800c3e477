import FleetBoard.Scanner

/-!
# The Lines of a Pipe

A pipe delivers bytes in reads of any size, and a scanner makes lines of them as it
goes. Which lines these are does not depend on the reads: the bytes are cut behind
every line feed, and each piece is a line, the last one also without a feed.
`Text.linesOf` says that of the bytes as a whole.

A scanner that is under way has sent some of the lines. The others are the line it
waits to send and the lines of all the bytes that it has not made a line of, whether
they are read or not. This is `Scanner.toSend`, and a step of a scanner either leaves
it as it is or takes the first line off it and puts that into the queue.

## Main definitions

* `Text.linePieces`: Some bytes, cut behind every line feed.
* `Text.linesOf`: The lines that some bytes hold.
* `Scanner.toSend`: The lines that a scanner has not sent.
* `Scanner.Stepping`: What a step of a scanner comes to.

## Theorems

* `Text.flatten_linePieces`: Cutting loses nothing.
* `Scanner.toSend_advance`: Reading on and making lines leave nothing out.
* `Scanner.stepping_step`: Every step comes to one of the cases.
-/

namespace FleetBoard

namespace Text

/-- Some bytes, cut behind every line feed. -/
def linePieces : Bytes → List Bytes
  | [] => []
  | b :: bs =>
    if b = lineFeed then [b] :: linePieces bs
    else
      match linePieces bs with
      | [] => [[b]]
      | piece :: pieces => (b :: piece) :: pieces

/-- The lines that some bytes hold. -/
def linesOf (bs : Bytes) : List String :=
  (linePieces bs).map lineOf

theorem flatten_linePieces (bs : Bytes) : (linePieces bs).flatten = bs := by
  induction bs with
  | nil => rfl
  | cons b bs ih =>
      rw [linePieces]
      by_cases hfeed : b = lineFeed
      · rw [if_pos hfeed, List.flatten_cons, ih]
        rfl
      · rw [if_neg hfeed]
        cases hpieces : linePieces bs with
        | nil =>
            rw [hpieces] at ih
            rw [← ih]
            rfl
        | cons piece pieces =>
            rw [hpieces] at ih
            rw [← ih]
            rfl

/-- The first line feed ends the first piece. -/
theorem linePieces_feed (line rest : Bytes) (h : lineFeed ∉ line) :
    linePieces (line ++ lineFeed :: rest) = (line ++ [lineFeed]) :: linePieces rest := by
  induction line with
  | nil => exact if_pos rfl
  | cons b line ih =>
      rw [List.mem_cons, not_or] at h
      rw [List.cons_append, linePieces, if_neg (Ne.symm h.1), ih h.2]
      rfl

/-- Bytes without a line feed are one piece. -/
theorem linePieces_open (line : Bytes) (hne : line ≠ []) (h : lineFeed ∉ line) :
    linePieces line = [line] := by
  induction line with
  | nil => exact absurd rfl hne
  | cons b line ih =>
      rw [List.mem_cons, not_or] at h
      rw [linePieces, if_neg (Ne.symm h.1)]
      by_cases hempty : line = []
      · rw [hempty]
        rfl
      · rw [ih hempty h.2]

end Text

namespace Scanner

/-- The lines that a scanner has not sent, as far as its pipe delivers them. -/
def toSend (s : Scanner) : List String :=
  s.waiting.toList ++ Text.linesOf (s.held ++ s.reads.flatten)

variable (s : Scanner)

/-- Bytes before the first line feed are passed over. -/
theorem notFeed_of_mem {line : Text.Bytes} (h : Text.lineFeed ∉ line) (b : UInt8) (hb : b ∈ line) :
    decide (b ≠ Text.lineFeed) = true :=
  decide_eq_true fun heq => h (heq ▸ hb)

theorem advance_of_feed (line rest : Text.Bytes) (hheld : s.held = line ++ Text.lineFeed :: rest)
    (h : Text.lineFeed ∉ line) :
    s.advance = { s with
      waiting := some (Text.lineOf (line ++ [Text.lineFeed]))
      held := rest } := by
  have hstop : ¬ decide (Text.lineFeed ≠ Text.lineFeed) = true := by
    rw [decide_eq_true_eq]
    exact fun hne => hne rfl
  have hdrop : (Text.lineFeed :: rest).dropWhile (fun b => decide (b ≠ Text.lineFeed)) =
      Text.lineFeed :: rest := List.dropWhile_cons_of_neg hstop
  have htake : (Text.lineFeed :: rest).takeWhile (fun b => decide (b ≠ Text.lineFeed)) = [] :=
    List.takeWhile_cons_of_neg hstop
  rw [advance, hheld, List.dropWhile_append_of_pos (notFeed_of_mem h), hdrop,
    List.takeWhile_append_of_pos (notFeed_of_mem h), htake, List.append_nil]

theorem dropWhile_of_notFeed {line : Text.Bytes} (h : Text.lineFeed ∉ line) :
    line.dropWhile (fun b => b ≠ Text.lineFeed) = [] := by
  have hdrop : (line ++ []).dropWhile (fun b => decide (b ≠ Text.lineFeed)) = [] :=
    List.dropWhile_append_of_pos (notFeed_of_mem h)
  rw [List.append_nil] at hdrop
  exact hdrop

/-- With no line feed at hand, more is read. -/
theorem advance_of_read (read : Text.Bytes) (reads : List Text.Bytes)
    (hreads : s.reads = read :: reads) (h : Text.lineFeed ∉ s.held) :
    s.advance = { s with reads := reads, held := s.held ++ read } := by
  simp only [advance, dropWhile_of_notFeed h, hreads]

/-- With nothing more to read, the rest is dealt with. -/
theorem advance_of_rest (hreads : s.reads = []) (h : Text.lineFeed ∉ s.held) :
    s.advance =
      if !s.shut then s
      else if s.held = [] then { s with scanning := false }
      else { s with waiting := some (Text.lineOf s.held), held := [] } := by
  simp only [advance, dropWhile_of_notFeed h, hreads]

/-- A scanner that goes on leaves no line out, and stops only when none is left. -/
theorem toSend_advance (hwaiting : s.waiting = none) (hscanning : s.scanning = true) :
    s.advance.toSend = s.toSend ∧ (s.advance.scanning = false → s.advance.toSend = []) := by
  -- A scanner that does not stop has nothing to show for the second part.
  have hgoing : ∀ s' : Scanner, s'.scanning = true → s'.toSend = s.toSend →
      s'.toSend = s.toSend ∧ (s'.scanning = false → s'.toSend = []) := by
    intro s' hscanning' hsame
    refine ⟨hsame, fun hstopped => ?_⟩
    rw [hscanning'] at hstopped
    exact absurd hstopped.symm Bool.false_ne_true
  by_cases hfeed : Text.lineFeed ∈ s.held
  · rcases List.eq_append_cons_of_mem hfeed with ⟨line, rest, hheld, hline⟩
    rw [s.advance_of_feed line rest hheld hline]
    refine hgoing _ hscanning ?_
    rw [toSend, toSend, hwaiting, hheld, List.append_assoc, List.cons_append, Text.linesOf,
      Text.linesOf, Text.linePieces_feed line _ hline]
    rfl
  · cases hreads : s.reads with
    | cons read reads =>
        rw [s.advance_of_read read reads hreads hfeed]
        refine hgoing _ hscanning ?_
        rw [toSend, toSend, hreads, List.flatten_cons, List.append_assoc]
    | nil =>
        have hleft : s.toSend = Text.linesOf s.held := by
          rw [toSend, hwaiting, hreads, List.flatten_nil, List.append_nil]
          rfl
        rw [s.advance_of_rest hreads hfeed]
        by_cases hshut : s.shut = true
        · rw [if_neg (by rw [hshut]; exact Bool.false_ne_true)]
          by_cases hempty : s.held = []
          · rw [if_pos hempty, hleft, hempty, toSend, hwaiting, hreads]
            exact ⟨rfl, fun _ => rfl⟩
          · rw [if_neg hempty]
            refine hgoing _ hscanning ?_
            rw [hleft, toSend, hreads, Text.linesOf, Text.linesOf,
              Text.linePieces_open s.held hempty hfeed]
            rfl
        · rw [if_pos (by rw [Bool.eq_false_iff.mpr hshut]; rfl)]
          exact hgoing s hscanning rfl

/-- What a step of a scanner comes to: the scanner and the stream after it. -/
inductive Stepping (s : Scanner) (near : Stream) : Scanner → Stream → Prop
  /-- A scanner that has stopped does nothing more. -/
  | stopped (hscanning : s.scanning = false) : Stepping s near s near
  /-- The scanner goes on, or waits for something. -/
  | kept (s' : Scanner) (hscanning : s.scanning = true) (hsame : s'.toSend = s.toSend)
    (hnone : s'.scanning = false → s'.toSend = []) : Stepping s near s' near
  /-- The first line that is left goes into the queue. -/
  | sent (s' : Scanner) (line : String) (hscanning : s.scanning = true)
    (hfirst : s.toSend = line :: s'.toSend) (hscanning' : s'.scanning = true) :
    Stepping s near s' { near with queue := near.queue ++ [line] }

/-- Every step comes to one of these, whatever is left of the pipe. -/
theorem stepping_step (near : Stream) :
    s.Stepping near (s.step near).1 (s.step near).2 := by
  rw [step]
  by_cases hscanning : s.scanning = true
  · rw [if_neg (by rw [hscanning]; exact Bool.false_ne_true)]
    cases hwaiting : s.waiting with
    | none =>
        have hadvance := s.toSend_advance hwaiting hscanning
        exact .kept s.advance hscanning hadvance.1 hadvance.2
    | some line =>
        dsimp only [Stream.offer]
        by_cases hfits : near.queue.length < near.capacity
        · rw [if_pos hfits]
          refine .sent { s with waiting := none } line hscanning ?_ hscanning
          rw [toSend, hwaiting]
          rfl
        · rw [if_neg hfits]
          refine .kept s hscanning rfl fun hstopped => ?_
          rw [hscanning] at hstopped
          exact absurd hstopped.symm Bool.false_ne_true
  · rw [if_pos (by rw [Bool.eq_false_iff.mpr hscanning]; rfl)]
    exact .stopped (Bool.eq_false_iff.mpr hscanning)

end Scanner

end FleetBoard
