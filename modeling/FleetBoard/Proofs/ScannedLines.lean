import FleetBoard.Proofs.Arrival
import FleetBoard.Proofs.LossyDecoding
import FleetBoard.Proofs.TextLines
import Mathlib.Data.List.DropRight

/-!
# The Lines That a Scanner Sends

A scanner decodes each line by itself, and it never has more of its pipe than was read.
Neither can be told from the lines that it sends. They are the ones that a reader of the
whole text would find: all bytes decoded at once, cut at the line feeds, without the
carriage returns in front of these, and without the empty rest behind the last one.

What a scanner finds in its queue depends on everybody else who uses that, and so a run
of it is taken over any streams, one for each step. A step that finds room gets on. So a
scanner whose lines are taken off the queue stops after some time, and then it has sent
them all.

## Main definitions

* `Text.shownLines`: The lines that a text shows.
* `Text.CutAtFeeds`: Some bytes in pieces that end in a line feed each.
* `Scanner.run`: A scanner over any streams, and what it sends.
* `Stream.HasRoom`: A stream takes a line.

## Theorems

* `Text.linesOf_eq`: Decoding by lines and by the whole come to the same.
* `Scanner.toSend_run`: What was sent and what is left are all the lines.
* `Scanner.work_run`: A scanner gets on with every step that finds room.
* `Scanner.sends_shown_lines`: What a scanner sends.
-/

namespace FleetBoard

namespace Text

/-- The lines that a text shows: its pieces between line feeds without the carriage
    returns at their ends. Behind the last line feed there is a line only if something
    stands there. -/
def shownLines (cs : List Char) : List String :=
  let pieces := splitFeeds cs
  (if pieces.getLast? = some [] then pieces.dropLast else pieces).map fun piece =>
    String.ofList (piece.rdropWhile fun c => c = '\r')

/-- Some bytes are cut behind every line feed and nowhere else. -/
structure CutAtFeeds (bs : Bytes) (pieces : List Bytes) : Prop where
  whole : pieces.flatten = bs
  single : ∀ piece ∈ pieces, piece ≠ [] ∧ lineFeed ∉ piece.dropLast
  ended : ∀ piece ∈ pieces.dropLast, piece.getLast? = some lineFeed

theorem cutAtFeeds_linePieces (bs : Bytes) : CutAtFeeds bs (linePieces bs) := by
  refine ⟨flatten_linePieces bs, ?_, ?_⟩
  · induction bs using separated_induction lineFeed with
    | nil => exact fun piece h => absurd h List.not_mem_nil
    | last line hne hline =>
        rw [linePieces_open line hne hline, List.forall_mem_singleton]
        exact ⟨hne, fun hmem => hline (List.dropLast_subset _ hmem)⟩
    | more line behind hline ih =>
        rw [linePieces_feed line behind hline, List.forall_mem_cons, List.dropLast_concat]
        exact ⟨⟨List.append_ne_nil_of_right_ne_nil _ (List.cons_ne_nil _ _), hline⟩, ih⟩
  · induction bs using separated_induction lineFeed with
    | nil => exact fun piece h => absurd h List.not_mem_nil
    | last line hne hline =>
        rw [linePieces_open line hne hline]
        exact fun piece h => absurd h List.not_mem_nil
    | more line behind hline ih =>
        rw [linePieces_feed line behind hline]
        intro piece hpiece
        cases hpieces : linePieces behind with
        | nil =>
            rw [hpieces] at hpiece
            exact absurd hpiece List.not_mem_nil
        | cons next pieces =>
            rw [hpieces] at hpiece ih
            rcases List.mem_cons.mp hpiece with rfl | hpiece
            · exact List.getLast?_concat
            · exact ih piece hpiece

section Lines

/-- The first line feed ends the first line. -/
theorem shownLines_feed (cs rest : List Char) (h : '\n' ∉ cs) :
    shownLines (cs ++ '\n' :: rest) =
      String.ofList (cs.rdropWhile fun c => c = '\r') :: shownLines rest := by
  have hne := splitFeeds_ne_nil rest
  have hlast : (cs :: splitFeeds rest).getLast? = (splitFeeds rest).getLast? := by
    rw [List.getLast?_cons, List.getLast?_eq_some_getLast hne]
    rfl
  rw [shownLines, splitFeeds_append_feed, splitFeeds_of_not_mem cs h, List.singleton_append,
    hlast, List.dropLast_cons_of_ne_nil hne, shownLines]
  split <;> rfl

/-- A text without a line feed is one line. -/
theorem shownLines_of_not_mem (cs : List Char) (h : '\n' ∉ cs) (hne : cs ≠ []) :
    shownLines cs = [String.ofList (cs.rdropWhile fun c => c = '\r')] := by
  have hlast : ¬ [cs].getLast? = some [] := fun hempty => hne (Option.some.inj hempty)
  rw [shownLines, splitFeeds_of_not_mem cs h, if_neg hlast]
  rfl

/-- Without a line feed only carriage returns can be in a line end. -/
theorem dropLineEnd_of_not_mem (cs : List Char) (h : '\n' ∉ cs) :
    dropLineEnd cs = cs.rdropWhile fun c => c = '\r' := by
  change (cs.rdropWhile fun c => c = '\n' || c = '\r') = _
  induction cs using List.reverseRecOn with
  | nil => rfl
  | append_singleton cs c ih =>
      rw [List.mem_append, not_or, List.mem_singleton] at h
      rw [List.rdropWhile_concat, List.rdropWhile_concat, ih h.1, decide_eq_false (Ne.symm h.2),
        Bool.false_or]

theorem dropLineEnd_feed (cs : List Char) (h : '\n' ∉ cs) :
    dropLineEnd (cs ++ ['\n']) = cs.rdropWhile fun c => c = '\r' := by
  rw [← dropLineEnd_of_not_mem cs h]
  exact List.rdropWhile_concat_pos _ cs '\n' (by decide)

/-- Decoding by lines and by the whole come to the same. -/
theorem linesOf_eq (bs : Bytes) : linesOf bs = shownLines (decodeLossy bs) := by
  induction bs using separated_induction lineFeed with
  | nil => rfl
  | last line hne hline =>
      have hnewline := newline_not_mem_decodeLossy line hline
      rw [linesOf, linePieces_open line hne hline, shownLines_of_not_mem _ hnewline
        fun hnil => hne ((decodeLossy_eq_nil_iff line hline).mp hnil), List.map_singleton, lineOf,
        dropLineEnd_of_not_mem _ hnewline]
  | more line behind hline ih =>
      have hnewline := newline_not_mem_decodeLossy line hline
      have hend : decodeLossy (line ++ [lineFeed]) = decodeLossy line ++ ['\n'] :=
        decodeLossy_feed line hline []
      rw [linesOf, linePieces_feed line behind hline, List.map_cons, decodeLossy_feed line hline,
        shownLines_feed _ _ hnewline, ← ih, lineOf, hend, dropLineEnd_feed _ hnewline]
      rfl

end Lines

end Text

/-- A stream takes a line. -/
def Stream.HasRoom (near : Stream) : Prop :=
  near.queue.length < near.capacity

instance (near : Stream) : Decidable near.HasRoom :=
  inferInstanceAs (Decidable (_ < _))

namespace Scanner

/-- The lines that a scanner sends step by step, and the scanner after that. Each step
    finds the stream that is given for it, whatever became of the one before. -/
def run (s : Scanner) : List Stream → List String × Scanner
  | [] => ([], s)
  | near :: nears =>
    let (next, near') := s.step near
    let (lines, last) := next.run nears
    (near'.queue.drop near.queue.length ++ lines, last)

variable (s : Scanner)

/-- One step sends the first of the lines that are left, or none. -/
theorem toSend_step (near : Stream) (h : s.scanning = false → s.toSend = []) :
    (s.step near).2.queue.drop near.queue.length ++ (s.step near).1.toSend = s.toSend ∧
      ((s.step near).1.scanning = false → (s.step near).1.toSend = []) := by
  have hstepping := s.stepping_step near
  generalize (s.step near).1 = next, (s.step near).2 = near' at hstepping ⊢
  cases hstepping with
  | stopped _ =>
      rw [List.drop_length]
      exact ⟨rfl, h⟩
  | kept _ _ hsame hnone =>
      rw [List.drop_length]
      exact ⟨hsame, hnone⟩
  | sent _ line _ hfirst hscanning =>
      rw [List.drop_left, hfirst]
      exact ⟨rfl, fun hstopped => absurd (hscanning.symm.trans hstopped) Bool.false_ne_true.symm⟩

/-- What was sent and what is left are all the lines. -/
theorem toSend_run (nears : List Stream) (h : s.scanning = false → s.toSend = []) :
    (s.run nears).1 ++ (s.run nears).2.toSend = s.toSend ∧
      ((s.run nears).2.scanning = false → (s.run nears).2.toSend = []) := by
  induction nears generalizing s with
  | nil => exact ⟨rfl, h⟩
  | cons near nears ih =>
      have hstep := s.toSend_step near h
      have hrest := ih _ hstep.2
      refine ⟨?_, hrest.2⟩
      rw [← hstep.1, ← hrest.1, ← List.append_assoc]
      rfl

/-- A step never makes more work, and one that finds room makes less. -/
theorem work_step_le (near : Stream) (hscanning : s.scanning = true) (hshut : s.shut = true) :
    (s.step near).1.work + (if near.HasRoom then 1 else 0) ≤ s.work := by
  by_cases hwaits : s.Waits near
  · rcases Option.ne_none_iff_exists'.mp hwaits.1 with ⟨line, hwaiting⟩
    have hfull : ¬ near.HasRoom := Nat.not_lt.mpr hwaits.2
    have hstep : s.step near = (s, near) := by
      rw [step, if_neg (by rw [hscanning]; exact Bool.false_ne_true), hwaiting]
      dsimp only [Stream.offer]
      rw [if_neg (Nat.not_lt.mpr hwaits.2)]
    rw [hstep, if_neg hfull]
    exact Nat.le_refl _
  · have hwork := s.work_step near hscanning hshut hwaits
    have hstepping := s.stepping_step near
    have hqueue : near.queue.length ≤ (s.step near).2.queue.length := by
      generalize (s.step near).1 = next, (s.step near).2 = near' at hstepping ⊢
      cases hstepping with
      | stopped _ => exact Nat.le_refl _
      | kept _ _ _ _ => exact Nat.le_refl _
      | sent _ line _ _ _ =>
          rw [List.length_append]
          exact Nat.le_add_right _ _
    split <;> omega

/-- A scanner that is at work has been so all the time. -/
theorem scanning_of_run (nears : List Stream) (h : (s.run nears).2.scanning = true) :
    s.scanning = true := by
  induction nears generalizing s with
  | nil => exact h
  | cons near nears ih =>
      have hnext : (s.step near).1.scanning = true := ih _ h
      by_cases hscanning : s.scanning = true
      · exact hscanning
      · rw [step, if_pos (by rw [Bool.eq_false_iff.mpr hscanning]; rfl)] at hnext
        exact hnext

/-- A scanner gets on with every step that finds room, as long as it is at work. -/
theorem work_run (nears : List Stream) (hshut : s.shut = true)
    (h : (s.run nears).2.scanning = true) :
    (s.run nears).2.work + nears.countP (fun near => near.HasRoom) ≤ s.work := by
  have hscanning := s.scanning_of_run nears h
  induction nears generalizing s with
  | nil => exact Nat.le_refl _
  | cons near nears ih =>
      have hstep := s.work_step_le near hscanning hshut
      have hrest := ih _ (s.frame_step near hshut).1 h
        ((s.step near).1.scanning_of_run nears h)
      rw [List.countP_cons]
      simp only [decide_eq_true_eq]
      change ((s.step near).1.run nears).2.work + _ ≤ _
      omega

/-- The lines of a pipe are those that its text shows as a whole, and each of them is what
    its own bytes make, with none left out. A scanner sends these lines and no others, in
    order and whoever else uses its stream, and when it stops, it has sent all of them. It
    does stop if the pipe ends, after as many steps with room for a line as it has work. -/
theorem sends_shown_lines (p : Pipe) (hshut : p.shut = true) :
    p.lines = Text.shownLines (Text.decodeLossy p.reads.flatten) ∧
      (∃ pieces, Text.CutAtFeeds p.reads.flatten pieces ∧ p.lines = pieces.map Text.lineOf) ∧
      (∀ nears, (p.scanner.run nears).1 <+: p.lines) ∧
      (∀ nears, (p.scanner.run nears).2.scanning = false → (p.scanner.run nears).1 = p.lines) ∧
      ∀ nears, p.scanner.work ≤ nears.countP (fun near => near.HasRoom) →
        (p.scanner.run nears).2.scanning = false := by
  have hsent : ∀ nears, (p.scanner.run nears).1 ++ (p.scanner.run nears).2.toSend = p.lines ∧
      ((p.scanner.run nears).2.scanning = false → (p.scanner.run nears).2.toSend = []) :=
    fun nears => p.scanner.toSend_run nears fun hstopped =>
      absurd hstopped Bool.false_ne_true.symm
  refine ⟨Text.linesOf_eq _, ⟨_, Text.cutAtFeeds_linePieces _, rfl⟩,
    fun nears => ⟨_, (hsent nears).1⟩, fun nears hstopped => ?_, fun nears hroom => ?_⟩
  · have hlines := (hsent nears).1
    rw [(hsent nears).2 hstopped, List.append_nil] at hlines
    exact hlines
  · refine Bool.eq_false_iff.mpr fun hscanning => ?_
    have hwork := p.scanner.work_run nears hshut hscanning
    -- A scanner at work has something to do.
    have hleft : 0 < (p.scanner.run nears).2.work := by
      rw [work, hscanning, Bool.toNat_true]
      omega
    omega

/-- A character comes in two reads and a broken one stands before an empty line. All lines
    are sent after some steps that find room, and the last one has no line feed. -/
theorem broken_character_is_sent :
    let p : Pipe := ⟨[[0xC3], [0xA9, 13, 13, 10, 0xE2, 0x82], [10, 10, 111, 13]], true⟩
    let nears := List.replicate 40 ({ launch := ⟨1⟩, kind := .logs, process := none,
                                      capacity := 1 } : Stream)
    p.shut = true ∧ p.scanner.work ≤ nears.countP (fun near => near.HasRoom) ∧
      (p.scanner.run nears).1 = ["é", "\uFFFD", "", "o"] := by
  intro p nears
  have hshut : p.shut = true := rfl
  have hroom : p.scanner.work ≤ nears.countP (fun near => near.HasRoom) := by decide
  rcases sends_shown_lines p hshut with ⟨hshown, _, _, hall, hstops⟩
  refine ⟨hshut, hroom, ((hall nears (hstops nears hroom)).trans hshown).trans ?_⟩
  decide

end Scanner

end FleetBoard
