import FleetBoard.Proofs.ReadBack
import FleetBoard.Proofs.TextLines
import FleetBoard.Reply

/-!
# The Scan for a Payload

An output is searched for its payload line by line, and only a line that is an object
by itself can have one. An object that is written compactly is one such line, so its
payload is found, unless the line is refused.

Written over several lines it has none. A line may begin with an opening brace, but
then nothing follows on it, or the closing one does: the members of an object stand on
lines of their own. That no line is mistaken for an object is a property of the text
alone, which is kept from one part of the text to the next. The only thing that has to
be known of the part before is whether the line has begun, since a brace inside a text
literal has its quote in front of it.

## Main definitions

* `Tidy`: No line of a text holds an opened object with members.
* `Opens`: A line that begins with a brace holds no members.

## Theorems

* `newline_not_mem_compact`: A compact text is one line.
* `tidy_write`: A text over several lines is tidy.
* `opens_of_tidy`: The lines of a tidy text.
* `payload?_compact`, `payload?_pretty`: What the scan finds.
-/

namespace FleetBoard

theorem head?_or_mem_tail {α : Type} (items : List α) (a : α) (h : a ∈ items) :
    items.head? = some a ∨ a ∈ items.tail := by
  cases items with
  | nil => exact absurd h List.not_mem_nil
  | cons b rest => exact (List.mem_cons.mp h).imp_left fun heq => congrArg some heq.symm

namespace Json

section OneLine

theorem newline_not_mem_separator (first : Bool) : '\n' ∉ separator first := by
  cases first <;> decide

theorem newline_not_mem_writeItems (depth : Nat) (first : Bool) (vs : List Value)
    (h : ∀ v ∈ vs, '\n' ∉ v.write .compact depth) :
    '\n' ∉ Value.writeItems .compact depth first vs := by
  induction vs generalizing first with
  | nil => exact List.not_mem_nil
  | cons v vs ih =>
      have hthis := h v List.mem_cons_self
      have hothers := ih false fun w hw => h w (List.mem_cons_of_mem _ hw)
      simp only [Value.writeItems, Layout.compact, List.nil_append, List.mem_append, not_or]
      exact ⟨newline_not_mem_separator first, hthis, hothers⟩

theorem newline_not_mem_writeMembers (depth : Nat) (first : Bool) (ms : List (String × Value))
    (h : ∀ m ∈ ms, '\n' ∉ m.2.write .compact depth) :
    '\n' ∉ Value.writeMembers .compact depth first ms := by
  induction ms generalizing first with
  | nil => exact List.not_mem_nil
  | cons m ms ih =>
      have hkey := newline_not_mem_renderLiteral m.1
      have hthis := h m List.mem_cons_self
      have hothers := ih false fun w hw => h w (List.mem_cons_of_mem _ hw)
      simp only [Value.writeMembers, Layout.compact, List.nil_append, List.mem_append,
        List.mem_cons, not_or]
      exact ⟨newline_not_mem_separator first, hkey, by decide, hthis, hothers⟩

/-- A compact text is one line. -/
theorem newline_not_mem_compact (v : Value) (depth : Nat) : '\n' ∉ v.write .compact depth := by
  induction v using Value.ind generalizing depth with
  | null => exact (by decide : '\n' ∉ ['n', 'u', 'l', 'l'])
  | bool b =>
      cases b with
      | true => exact (by decide : '\n' ∉ ['t', 'r', 'u', 'e'])
      | false => exact (by decide : '\n' ∉ ['f', 'a', 'l', 's', 'e'])
  | number n => exact newline_not_mem_render n
  | text s => exact newline_not_mem_renderLiteral s
  | array items ih =>
      have hinside := newline_not_mem_writeItems (depth + 1) true items fun v hv =>
        ih v hv (depth + 1)
      cases hempty : items.isEmpty <;>
        simpa [Value.write, Layout.closing, Layout.compact, hempty] using hinside
  | object members ih =>
      have hinside := newline_not_mem_writeMembers (depth + 1) true members fun m hm =>
        ih m hm (depth + 1)
      cases hempty : members.isEmpty <;>
        simpa [Value.write, Layout.closing, Layout.compact, hempty] using hinside

end OneLine

/-- No line of a text holds an opened object with members: behind the brace that a line
    begins with the line ends, or the object is closed. The line may have begun
    already. -/
def Tidy : Bool → List Char → Prop
  | _, [] => True
  | begun, c :: cs =>
    if c = '\n' then Tidy false cs
    else if begun = false ∧ Text.isBlank c = true then Tidy false cs
    else
      (begun = false → c = '\x7b' →
        ∀ d, cs.head? = some d → d = '\n' ∨ d = '\x7d') ∧ Tidy true cs

section Tidiness

variable (rest : List Char) (hrest : Tidy true rest)

include hrest

/-- What comes in a line that has begun leaves it tidy. -/
theorem tidy_append (cs : List Char) (h : '\n' ∉ cs) : Tidy true (cs ++ rest) := by
  induction cs with
  | nil => exact hrest
  | cons c cs ih =>
      have hc : c ≠ '\n' := fun heq => h (by rw [heq]; exact List.mem_cons_self)
      have htail := ih fun hmem => h (List.mem_cons_of_mem _ hmem)
      rw [List.cons_append, Tidy, if_neg hc, if_neg fun hblank => Bool.noConfusion hblank.1]
      exact ⟨fun hbegun => Bool.noConfusion hbegun, htail⟩

/-- A line that begins with anything but a brace is tidy. -/
theorem tidy_token (begun : Bool) (c : Char) (cs : List Char) (hblank : Text.isBlank c = false)
    (hbrace : c ≠ '\x7b') (h : '\n' ∉ c :: cs) : Tidy begun (c :: (cs ++ rest)) := by
  have hc : c ≠ '\n' := fun heq => h (by rw [heq]; exact List.mem_cons_self)
  have htail := tidy_append rest hrest cs fun hmem => h (List.mem_cons_of_mem _ hmem)
  have hnot : ¬ (begun = false ∧ Text.isBlank c = true) := by
    rw [hblank]
    exact fun hand => Bool.noConfusion hand.2
  rw [Tidy, if_neg hc, if_neg hnot]
  exact ⟨fun _ heq => absurd heq hbrace, htail⟩

omit hrest

/-- A new line begins with its indentation. -/
theorem tidy_newLine (begun : Bool) (depth : Nat) (h : Tidy false rest) :
    Tidy begun (Value.newLine depth ++ rest) := by
  have hindent : ∀ n, Tidy false (List.replicate n ' ' ++ rest) := by
    intro n
    induction n with
    | zero => exact h
    | succ n ih =>
        rw [List.replicate_succ, List.cons_append, Tidy, if_neg (by decide),
          if_pos ⟨rfl, by decide⟩]
        exact ih
  rw [Value.newLine, List.cons_append, Tidy, if_pos rfl]
  exact hindent _

/-- A closing bracket is tidy, on a line of its own or not. -/
theorem tidy_closing (depth : Nat) (empty : Bool) (c : Char) (hblank : Text.isBlank c = false)
    (hbrace : c ≠ '\x7b') (hfeed : '\n' ∉ [c]) (hrest : Tidy true rest) :
    Tidy true (Layout.pretty.closing depth empty ++ c :: rest) := by
  cases empty with
  | true => exact tidy_token rest hrest true c [] hblank hbrace hfeed
  | false =>
      exact tidy_newLine _ true depth (tidy_token rest hrest false c [] hblank hbrace hfeed)

end Tidiness

/-- What a number begins with is no white space. -/
theorem isBlank_of_number_head (c : Char) (h : c = '-' ∨ (digit? c).isSome = true) :
    Text.isBlank c = false := by
  rcases h with h | h
  · rw [h]
    decide
  · rw [digit?] at h
    split at h
    next hrange =>
      simp only [Text.isBlank, Bool.or_eq_false_iff, Bool.and_eq_false_iff, decide_eq_false_iff_not,
        beq_eq_false_iff_ne]
      omega
    next => exact absurd h Bool.false_ne_true

section Tidied

variable (depth : Nat) (rest : List Char)

/-- The items of an array are tidy if each of them is on a line of its own. -/
theorem tidy_writeItems (first : Bool) (vs : List Value) (hrest : Tidy true rest)
    (h : ∀ v ∈ vs, ∀ tail, Tidy true tail → Tidy false (v.write .pretty depth ++ tail)) :
    Tidy true (Value.writeItems .pretty depth first vs ++ rest) := by
  induction vs generalizing first with
  | nil => exact hrest
  | cons v vs ih =>
      have hothers := ih false fun w hw => h w (List.mem_cons_of_mem _ hw)
      have hthis := h v List.mem_cons_self _ hothers
      rw [Value.writeItems, List.append_assoc, List.append_assoc, List.append_assoc]
      exact tidy_append _ (tidy_newLine _ true _ hthis) _ (newline_not_mem_separator first)

/-- The members of an object are tidy if the value of each of them is behind its key. -/
theorem tidy_writeMembers (first : Bool) (ms : List (String × Value)) (hrest : Tidy true rest)
    (h : ∀ m ∈ ms, ∀ tail, Tidy true tail → Tidy true (m.2.write .pretty depth ++ tail)) :
    Tidy true (Value.writeMembers .pretty depth first ms ++ rest) := by
  induction ms generalizing first with
  | nil => exact hrest
  | cons m ms ih =>
      have hothers := ih false fun w hw => h w (List.mem_cons_of_mem _ hw)
      have hthis := h m List.mem_cons_self _ hothers
      have hcolon := tidy_append _ hthis [':', ' '] (by decide)
      -- The line begins with the quote of the key, not with a brace.
      have hkey := tidy_token _ hcolon false '"' _ (by decide) (by decide)
        (newline_not_mem_renderLiteral m.1)
      rw [Value.writeMembers, List.append_assoc, List.append_assoc, List.append_assoc,
        List.cons_append, List.append_assoc, List.append_assoc]
      exact tidy_append _ (tidy_newLine _ true _ hkey) _ (newline_not_mem_separator first)

/-- A value that is written over several lines is tidy, wherever it stands. -/
theorem tidy_write (v : Value) (begun : Bool) (hrest : Tidy true rest) :
    Tidy begun (v.write .pretty depth ++ rest) := by
  induction v using Value.ind generalizing begun depth rest with
  | null => exact tidy_token rest hrest begun 'n' ['u', 'l', 'l'] (by decide) (by decide) (by decide)
  | bool b =>
      cases b with
      | true =>
          exact tidy_token rest hrest begun 't' ['r', 'u', 'e'] (by decide) (by decide) (by decide)
      | false =>
          exact tidy_token rest hrest begun 'f' ['a', 'l', 's', 'e'] (by decide) (by decide)
            (by decide)
  | number n =>
      have hline := newline_not_mem_render n
      rcases head_render n with ⟨c, cs, hwritten, hc⟩
      rw [Value.write, hwritten, List.cons_append]
      rw [hwritten] at hline
      exact tidy_token rest hrest begun c cs (isBlank_of_number_head c hc)
        (number_head c hc).2.2.2.2.2.1 hline
  | text s =>
      exact tidy_token rest hrest begun '"' _ (by decide) (by decide)
        (newline_not_mem_renderLiteral s)
  | array items ih =>
      have hclosing := tidy_closing rest depth items.isEmpty ']' (by decide) (by decide) (by decide)
        hrest
      have hitems := tidy_writeItems (depth + 1) _ true items hclosing fun v hv tail htail =>
        ih v hv (depth + 1) tail false htail
      rw [Value.write_array_append]
      exact tidy_token _ hitems begun '[' [] (by decide) (by decide) (by decide)
  | object members ih =>
      have hclosing := tidy_closing rest depth members.isEmpty '\x7d' (by decide) (by decide)
        (by decide) hrest
      have hmembers := tidy_writeMembers (depth + 1) _ true members hclosing fun m hm tail htail =>
        ih m hm (depth + 1) tail true htail
      rw [Value.write_object_append, Tidy, if_neg (by decide),
        if_neg fun hblank => absurd hblank.2 (by decide)]
      refine ⟨fun _ _ d hd => ?_, hmembers⟩
      -- The members stand on lines of their own, if there are any.
      cases members with
      | nil => exact Or.inr (Option.some.inj hd).symm
      | cons m ms => exact Or.inl (Option.some.inj hd).symm

end Tidied

/-- A line that begins with a brace holds no members of an object. -/
def Opens (line : List Char) : Prop :=
  ∀ t, Text.trimStart line = '\x7b' :: t → ∀ d, t.head? = some d → d = '\x7d'

/-- The lines of a tidy text. Of the first one nothing is known where it has begun
    before. -/
theorem opens_of_tidy (begun : Bool) (cs : List Char) (h : Tidy begun cs) :
    (∀ piece ∈ (Text.splitFeeds cs).tail, Opens piece) ∧
      (begun = false → ∀ piece, (Text.splitFeeds cs).head? = some piece → Opens piece) := by
  have hempty : Opens [] := fun t ht => absurd ht (List.cons_ne_nil _ _).symm
  -- Induction on the text. Where its line has begun the first piece is the rest of a line, so
  -- that one is left out, and stands for itself only once the line is known not to have begun.
  induction cs generalizing begun with
  | nil =>
      refine ⟨fun piece hpiece => absurd hpiece List.not_mem_nil, fun _ piece hpiece => ?_⟩
      rw [← Option.some.inj hpiece]
      exact hempty
  | cons c cs ih =>
      rw [Tidy] at h
      by_cases hc : c = '\n'
      · rw [if_pos hc] at h
        rcases ih false h with ⟨htail, hhead⟩
        rw [Text.splitFeeds, if_pos hc]
        refine ⟨fun piece hpiece => ?_, fun _ piece hpiece => ?_⟩
        · -- All pieces behind a line feed are whole lines.
          exact (head?_or_mem_tail _ piece hpiece).elim (hhead rfl piece) (htail piece)
        · rw [← Option.some.inj hpiece]
          exact hempty
      · rw [if_neg hc] at h
        rcases Text.splitFeeds_cons cs c hc with ⟨first, rest, hsplit, hcons⟩
        rw [hcons]
        rw [hsplit] at ih
        by_cases hblank : begun = false ∧ Text.isBlank c = true
        · rw [if_pos hblank] at h
          rcases ih false h with ⟨htail, hhead⟩
          refine ⟨htail, fun _ piece hpiece t ht => ?_⟩
          rw [← Option.some.inj hpiece, Text.trimStart, List.dropWhile_cons_of_pos hblank.2] at ht
          exact hhead rfl first rfl t ht
        · rw [if_neg hblank] at h
          refine ⟨(ih true h.2).1, fun hbegun piece hpiece t ht d hd => ?_⟩
          have hstart : ¬ Text.isBlank c = true := fun hc => hblank ⟨hbegun, hc⟩
          rw [← Option.some.inj hpiece, Text.trimStart, List.dropWhile_cons_of_neg hstart,
            List.cons.injEq] at ht
          rw [← ht.2] at hd
          -- What follows the brace on the line follows it in the text.
          rcases Text.head?_of_splitFeeds cs first rest d hsplit hd with ⟨hnext, hfeed⟩
          exact (h.1 hbegun ht.1 d hnext).resolve_left hfeed

/-- A part of a line that holds no members holds none either. -/
theorem opens_of_beginning (line piece : List Char) (h : line <+: piece) (hpiece : Opens piece) :
    Opens line := by
  intro t ht d hd
  rcases h with ⟨rest, hrest⟩
  have htrim : Text.trimStart piece = '\x7b' :: (t ++ rest) := by
    rw [Text.trimStart] at ht ⊢
    rw [← hrest, List.dropWhile_append, ht]
    rfl
  refine hpiece (t ++ rest) htrim d ?_
  cases t with
  | nil => exact absurd hd (Option.some_ne_none d).symm
  | cons c t => exact hd

end Json

namespace Reply

open Json

/-- A line that begins with a brace and holds no members has no payload. -/
theorem payloadOfLine?_of_opens (line : List Char) (h : Opens line) :
    payloadOfLine? line = none := by
  rw [payloadOfLine?]
  split
  next hbrace =>
    rcases Text.trim_begins_trimStart line with ⟨rest, hrest⟩
    cases hentry : Text.trim line with
    | nil =>
        rw [hentry] at hbrace
        exact absurd hbrace (Option.some_ne_none _).symm
    | cons c t =>
        rw [hentry] at hbrace hrest
        rw [List.head?_cons, Option.some.injEq] at hbrace
        rw [hbrace] at hrest ⊢
        cases t with
        | nil => rfl
        | cons d t =>
            have hd : d = '\x7d' := h _ hrest.symm d rfl
            have hread : Value.read ('\x7b' :: '\x7d' :: t) = .ok (.object [], t) := rfl
            rw [hd, Value.parse, readWhole?, hread]
            -- Behind an object without members there may be anything.
            cases hblank : (skipBlank t).isEmpty <;> simp only [bind, Except.bind, hblank] <;> rfl
  next => rfl

/-- A text that is one line is scanned as that line. -/
theorem payload?_of_line (line : List Char) (h : '\n' ∉ line) (hline : line ≠ []) :
    payload? line = payloadOfLine? line := by
  rw [payload?, Text.splitLines_of_not_mem line h hline, List.reverse_singleton,
    List.findSome?_singleton]

variable (members : List (String × Value))

/-- Over several lines, no line of an object is mistaken for one. -/
theorem payload?_pretty : payload? (Value.object members).pretty = none := by
  have htidy := tidy_write 0 [] (.object members) false trivial
  rw [List.append_nil, Value.write_pretty] at htidy
  rcases opens_of_tidy false _ htidy with ⟨htail, hhead⟩
  rw [payload?, List.findSome?_eq_none_iff]
  intro line hline
  rw [List.mem_reverse] at hline
  rcases Text.piece_of_mem_splitLines _ line hline with ⟨piece, hpiece, hprefix⟩
  refine payloadOfLine?_of_opens line (opens_of_beginning line piece hprefix ?_)
  exact (head?_or_mem_tail _ piece hpiece).elim (hhead rfl piece) (htail piece)

/-- On one line, the payload of an object is found unless the line is refused. -/
theorem payload?_compact (h : (Value.object members).Distinct) :
    payload? (Value.object members).compact =
      if (Value.object members).readable nestingLimit then members.lookup payloadKey else none := by
  have hline := newline_not_mem_compact (.object members) 0
  have hread := readWhole?_write _ _ _ (readsAs_read (.object members) h) .compact
  have htrim : Text.trim (Value.write .compact 0 (.object members)) =
      Value.write .compact 0 (.object members) := by
    rw [Value.write, ← List.append_assoc]
    exact Text.trim_of_ends _ '\x7b' '\x7d' (by decide) (by decide)
  have hscan : payload? (Value.object members).compact =
      payloadOfLine? (Value.object members).compact := by
    rw [← Value.write_compact _ 0]
    exact payload?_of_line _ hline (List.cons_ne_nil _ _)
  -- The only line begins with a brace, so it is read as a value.
  have hbrace : (Value.write .compact 0 (.object members)).head? = some '\x7b' := rfl
  rw [hscan, ← Value.write_compact _ 0, payloadOfLine?, htrim, if_pos hbrace, Value.parse]
  cases hvalue : readWhole? Value.read (Value.write .compact 0 (.object members)) with
  | error e =>
      rw [hvalue, Value.within] at hread
      split at hread
      · exact absurd hread (Option.some_ne_none _).symm
      next hrefused => rw [if_neg hrefused]
  | ok v =>
      rw [hvalue, Value.within] at hread
      split at hread
      next hreadable =>
        rw [if_pos hreadable, Option.some.inj hread]
        rfl
      · exact absurd hread (Option.some_ne_none v)

end Reply

end FleetBoard
