import FleetBoard.Scanner

/-!
# Decoding Around Line Feeds

Decoding with replacements and cutting at line feeds can be done in either order. That is
not so for any byte: a byte may belong to the character before it. But a line feed never
continues a sequence, as every byte that does has its highest bit set. So it ends a
sequence that is open before it as one ill-formed piece, just as the end of the bytes
would, and behind it decoding begins anew.

Nor is there another way for a line feed to come into a text. A sequence of several bytes
stands for a character beyond those of one byte, or for none.

## Main definitions

* `Sequence.Sound`: An unfinished sequence as it can come about.

## Theorems

* `sound_begin`, `sound_feed`: What a byte leaves open, and what it adds.
* `decodeLossy_feed`: A line feed cuts bytes and text alike.
* `newline_not_mem_decodeLossy`: Without a line feed there is none in the text.
* `decodeLossy_eq_nil_iff`: Every byte shows.
-/

namespace FleetBoard

namespace Text

theorem eq_of_ofNat_eq_newline (n : Nat) (h : Char.ofNat n = '\n') : n = 10 := by
  by_cases hvalid : n.isValidChar
  · rw [Char.ofNat, dif_pos hvalid] at h
    have hnat := congrArg Char.toNat h
    exact hnat
  · rw [Char.ofNat, dif_neg hvalid] at h
    exact absurd h (by decide)

namespace Utf8

/-- An unfinished sequence as it can come about: no byte below 128 continues it, and it
    cannot end up as a character of one byte. -/
structure Sequence.Sound (q : Sequence) : Prop where
  low_le : 0x80 ≤ q.low
  beyond : 2 ≤ q.bits ∨ 2 ≤ q.missing ∧ (1 ≤ q.bits ∨ 0x90 ≤ q.low)

/-- What a byte comes to that is no line feed: what it leaves open is sound, there is no
    line feed in what it adds, and it leaves a trace. -/
structure Progress.Sound (p : Progress) : Prop where
  opened : ∀ q ∈ p.2, q.Sound
  newline : some '\n' ∉ p.1
  traced : p ≠ ([], none)

theorem sound_none : ∀ q ∈ (none : Option Sequence), q.Sound :=
  fun q hq => absurd hq (Option.not_mem_none q)

theorem sound_character (n : Nat) (h : n ≠ 10) : Progress.Sound ([some (Char.ofNat n)], none) where
  opened := sound_none
  newline := by
    rw [List.mem_singleton, Option.some.injEq]
    exact fun heq => h (eq_of_ofNat_eq_newline n heq.symm)
  traced := by simp

theorem sound_illFormed : Progress.Sound ([none], none) where
  opened := sound_none
  newline := by simp
  traced := by simp

theorem sound_open (missing low high bits : Nat) (hlow : 0x80 ≤ low)
    (hbeyond : 2 ≤ bits ∨ 2 ≤ missing ∧ (1 ≤ bits ∨ 0x90 ≤ low)) :
    Progress.Sound ([], some ⟨missing, low, high, bits⟩) where
  opened := fun q hq => (Option.mem_some.mp hq) ▸ ⟨hlow, hbeyond⟩
  newline := List.not_mem_nil
  traced := by simp

/-- A byte that begins a sequence, or is a character by itself, or neither. -/
theorem sound_begin (b : UInt8) (hb : b ≠ lineFeed) : (begin b).Sound := by
  have hn : b.toNat ≠ 10 := fun heq => hb (UInt8.toNat_inj.mp heq)
  simp only [begin, beq_iff_eq]
  generalize b.toNat = n at hn
  -- The ranges of the first byte, from below.
  split
  · exact sound_character n hn
  split
  · exact sound_illFormed
  split
  · exact sound_open _ _ _ _ (by omega) (by omega)
  split
  · exact sound_open _ _ _ _ (by omega) (by omega)
  split
  · exact sound_open _ _ _ _ (by omega) (by omega)
  split
  · exact sound_open _ _ _ _ (by omega) (by omega)
  split
  · exact sound_open _ _ _ _ (by omega) (by omega)
  split
  · exact sound_open _ _ _ _ (by omega) (by omega)
  split
  · exact sound_open _ _ _ _ (by omega) (by omega)
  · exact sound_illFormed

/-- A byte that is read after an unfinished sequence continues it, or is read anew. -/
theorem sound_feed (state : Option Sequence) (h : ∀ q ∈ state, q.Sound) (b : UInt8)
    (hb : b ≠ lineFeed) : (feed state b).Sound := by
  have hbegin := sound_begin b hb
  cases state with
  | none => exact hbegin
  | some q =>
      rcases h q rfl with ⟨hlow, hbeyond⟩
      simp only [feed]
      split
      next hinside =>
        split
        · exact sound_character _ (by omega)
        · exact sound_open _ _ _ _ (by omega) (by omega)
      next =>
        refine ⟨hbegin.opened, ?_, by simp⟩
        rw [List.mem_cons, not_or]
        exact ⟨by simp, hbegin.newline⟩

/-- A line feed ends a sequence like the end of the bytes does. -/
theorem feed_lineFeed (state : Option Sequence) (h : ∀ q ∈ state, q.Sound) :
    feed state lineFeed = (finish state ++ [some '\n'], none) := by
  cases state with
  | none => rfl
  | some q =>
      have hlow : ¬ (q.low ≤ lineFeed.toNat ∧ lineFeed.toNat ≤ q.high) := by
        have hlow := (h q rfl).low_le
        have hfeed : lineFeed.toNat = 10 := rfl
        omega
      simp only [feed, if_neg hlow]
      rfl

/-- Behind a line feed decoding begins anew. -/
theorem piecesFrom_feed (state : Option Sequence) (h : ∀ q ∈ state, q.Sound) (line rest : Bytes)
    (hline : lineFeed ∉ line) : piecesFrom state (line ++ lineFeed :: rest) =
      piecesFrom state line ++ some '\n' :: pieces rest := by
  induction line generalizing state with
  | nil =>
      have hfeed := feed_lineFeed state h
      rw [List.nil_append, piecesFrom]
      simp only [hfeed, piecesFrom, pieces, List.append_assoc, List.singleton_append]
  | cons b line ih =>
      rw [List.mem_cons, not_or] at hline
      have hopened := (sound_feed state h b (Ne.symm hline.1)).opened
      rw [List.cons_append, piecesFrom, piecesFrom]
      dsimp only
      rw [ih _ hopened hline.2, List.append_assoc]

theorem newline_not_mem_piecesFrom (state : Option Sequence) (h : ∀ q ∈ state, q.Sound)
    (line : Bytes) (hline : lineFeed ∉ line) : some '\n' ∉ piecesFrom state line := by
  induction line generalizing state with
  | nil => cases state <;> simp [piecesFrom, finish]
  | cons b line ih =>
      rw [List.mem_cons, not_or] at hline
      have hsound := sound_feed state h b (Ne.symm hline.1)
      rw [piecesFrom, List.mem_append, not_or]
      exact ⟨hsound.newline, ih _ hsound.opened hline.2⟩

/-- Bytes leave a trace, and so does an unfinished sequence. -/
theorem piecesFrom_ne_nil (state : Option Sequence) (h : ∀ q ∈ state, q.Sound) (line : Bytes)
    (hline : lineFeed ∉ line) (hany : state ≠ none ∨ line ≠ []) : piecesFrom state line ≠ [] := by
  induction line generalizing state with
  | nil =>
      cases state with
      | none => exact absurd (hany.resolve_right fun hne => hne rfl) fun hne => hne rfl
      | some q => exact List.cons_ne_nil _ _
  | cons b line ih =>
      rw [List.mem_cons, not_or] at hline
      have hsound := sound_feed state h b (Ne.symm hline.1)
      rw [piecesFrom]
      dsimp only
      intro hnil
      rcases List.append_eq_nil_iff.mp hnil with ⟨hfound, hbehind⟩
      refine ih _ hsound.opened hline.2 (Or.inl fun hnone => ?_) hbehind
      exact hsound.traced (Prod.ext hfound hnone)

end Utf8

section Lines

variable (line : Bytes) (h : lineFeed ∉ line)

include h

/-- A line feed cuts bytes and text alike. -/
theorem decodeLossy_feed (rest : Bytes) :
    decodeLossy (line ++ lineFeed :: rest) = decodeLossy line ++ '\n' :: decodeLossy rest := by
  rw [decodeLossy, Utf8.pieces, Utf8.piecesFrom_feed none Utf8.sound_none line rest h,
    List.map_append, List.map_cons]
  rfl

/-- Without a line feed among the bytes there is none in the text. -/
theorem newline_not_mem_decodeLossy : '\n' ∉ decodeLossy line := by
  intro hmem
  rcases List.mem_map.mp hmem with ⟨piece, hpiece, hnewline⟩
  cases piece with
  | none => exact absurd hnewline (by decide)
  | some c =>
      rw [Option.getD_some] at hnewline
      rw [hnewline] at hpiece
      exact Utf8.newline_not_mem_piecesFrom none Utf8.sound_none line h hpiece

theorem decodeLossy_eq_nil_iff : decodeLossy line = [] ↔ line = [] := by
  constructor
  · intro hnil
    refine Classical.byContradiction fun hne => ?_
    exact Utf8.piecesFrom_ne_nil none Utf8.sound_none line h (Or.inr hne)
      (List.map_eq_nil_iff.mp hnil)
  · rintro rfl
    rfl

end Lines

end Text

end FleetBoard
