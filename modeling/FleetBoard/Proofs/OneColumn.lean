import FleetBoard.Proofs.Wrapping
import FleetBoard.Text.Fit
import Mathlib.Algebra.Order.Ring.Int

/-!
# One Column for Every Character

Tables and rows kept free are worked out by counting characters, and what is drawn takes
columns. The two counts agree for texts whose characters take one column each, whether or
not some of them join into a cluster: the signs that make a cluster narrower or wider than
its characters are together, selectors, joiners and skin tones, take no column or two.

## Main definitions

* `takesOneColumn`: A character that is counted as it is drawn.
* `OneColumnEach`: A text of such characters.

## Theorems

* `clusterWidth_eq_length`: The columns of a cluster.
* `columns_glyphs_eq_length`, `columns_line_eq_sum`: The columns of a text and of a line.
-/

namespace FleetBoard

namespace Text

/-- Whether a character takes one column. A line feed takes none, since it is not drawn
    inside a line. -/
def takesOneColumn (c : Char) : Bool :=
  charWidth c == 1 && c != '\n'

/-- A text of characters that take one column each. -/
def OneColumnEach (s : String) : Prop :=
  ∀ c ∈ s.toList, takesOneColumn c = true

instance (s : String) : Decidable (OneColumnEach s) :=
  decidable_of_decidable_of_iff (List.all_eq_true (l := s.toList) (p := takesOneColumn))

section Texts

variable (s t : String)

theorem oneColumnEach_append (hs : OneColumnEach s) (ht : OneColumnEach t) :
    OneColumnEach (s ++ t) := by
  intro c hc
  rw [String.toList_append, List.mem_append] at hc
  exact hc.elim (hs c) (ht c)

theorem oneColumnEach_replicate (n : Nat) (c : Char) (hc : takesOneColumn c = true) :
    OneColumnEach (String.ofList (List.replicate n c)) := by
  intro d hd
  rw [String.toList_ofList, List.mem_replicate] at hd
  rw [hd.2, hc]

/-- A text that is filled up with spaces. -/
theorem oneColumnEach_pad (width : Nat) (hs : OneColumnEach s) : OneColumnEach (pad width s) :=
  oneColumnEach_append s _ hs (oneColumnEach_replicate _ ' ' (by decide +kernel))

/-- A text that is cut. The ellipsis takes one column too. -/
theorem oneColumnEach_fit (room : Nat) (hs : OneColumnEach s) : OneColumnEach (fit room s) := by
  unfold fit
  split
  · exact hs
  · split
    · exact fun c hc => absurd hc (by simp)
    · intro c hc
      rw [String.toList_ofList, List.mem_append, List.mem_singleton] at hc
      rcases hc with hc | hc
      · exact hs c (List.mem_of_mem_take hc)
      · rw [hc]
        decide +kernel

theorem length_pad (width : Nat) : (pad width s).length = max s.length width := by
  rw [pad, String.length_append, String.length_ofList, List.length_replicate]
  omega

end Texts

section Clusters

theorem ne_nil_of_mem_clustersFrom (t : ClusterTail) (held cs : List Char) (hheld : held ≠ []) :
    ∀ k ∈ clustersFrom t held cs, k ≠ [] := by
  induction cs generalizing t held with
  | nil =>
      intro k hk
      rw [clustersFrom, List.mem_singleton] at hk
      rw [hk]
      exact fun h => hheld (List.reverse_eq_nil_iff.mp h)
  | cons c cs ih =>
      intro k hk
      rw [clustersFrom] at hk
      split at hk
      · exact ih _ _ (List.cons_ne_nil c held) k hk
      · rcases List.mem_cons.mp hk with hk | hk
        · rw [hk]
          exact fun h => hheld (List.reverse_eq_nil_iff.mp h)
        · exact ih _ _ (List.cons_ne_nil c []) k hk

theorem ne_nil_of_mem_clusters (cs k : List Char) (hk : k ∈ clusters cs) : k ≠ [] := by
  cases cs with
  | nil => exact absurd hk List.not_mem_nil
  | cons c cs => exact ne_nil_of_mem_clustersFrom _ _ _ (List.cons_ne_nil c []) k hk

theorem mem_of_mem_clusters (cs k : List Char) (hk : k ∈ clusters cs) (c : Char) (hc : c ∈ k) :
    c ∈ cs := by
  rw [← clusters_flatten cs]
  exact List.mem_flatten.mpr ⟨k, hk, hc⟩

end Clusters

section Widths

/-- A skin tone takes two columns, or none. -/
theorem charWidth_of_modifier (c : Char) (h : emojiModifierRanges.mem c = true) :
    charWidth c ≠ 1 := by
  have hrange : 0x1F3FB ≤ c.toNat ∧ c.toNat ≤ 0x1F3FF := by
    simpa [emojiModifierRanges, CharRanges.mem] using h
  have hwide : wideRanges.mem c = true := by
    refine List.any_eq_true.mpr ⟨(0x1F3F8, 0x1F43E), by decide, ?_⟩
    simp only [Bool.and_eq_true, decide_eq_true_eq]
    omega
  rw [charWidth, if_neg (by omega), hwide]
  split <;> decide

variable (k : List Char)

/-- Characters that take one column each make no picture. -/
theorem isPictureCluster_eq_false (h : ∀ c ∈ k, charWidth c = 1) : isPictureCluster k = false := by
  cases k with
  | nil => rfl
  | cons c rest =>
      have hrest : ∀ d ∈ rest, charWidth d = 1 := fun d hd => h d (List.mem_cons_of_mem c hd)
      have hselector : rest.head? ≠ some pictureSelector := by
        intro hhead
        have hone := hrest _ (List.mem_of_head? hhead)
        exact absurd hone (by decide +kernel)
      have htone : rest.any emojiModifierRanges.mem = false := by
        rw [List.any_eq_false]
        exact fun d hd htone => charWidth_of_modifier d htone (hrest d hd)
      have hjoiner : rest.contains '\u200D' = false := by
        rw [Bool.eq_false_iff]
        intro hmem
        have hone := hrest _ (List.contains_iff_mem.mp hmem)
        exact absurd hone (by decide +kernel)
      rw [isPictureCluster, htone, hjoiner, beq_eq_false_iff_ne.mpr hselector]
      simp only [Bool.and_false, Bool.false_and, Bool.or_false]

theorem foldr_charWidth (h : ∀ c ∈ k, charWidth c = 1) :
    k.foldr (fun c n => charWidth c + n) 0 = k.length := by
  induction k with
  | nil => rfl
  | cons c rest ih =>
      rw [List.foldr_cons, h c List.mem_cons_self, ih fun d hd => h d (List.mem_cons_of_mem c hd),
        List.length_cons, Nat.add_comm]

/-- A cluster of characters that take one column each takes as many columns as it has
    characters. -/
theorem clusterWidth_eq_length (h : ∀ c ∈ k, takesOneColumn c = true) :
    clusterWidth k = k.length := by
  have hone : ∀ c ∈ k, charWidth c = 1 := by
    intro c hc
    have := h c hc
    rw [takesOneColumn, Bool.and_eq_true, beq_iff_eq] at this
    exact this.1
  have hpicture := isPictureCluster_eq_false k hone
  have hsum := foldr_charWidth k hone
  unfold clusterWidth
  split
  · exact hone _ (List.mem_singleton.mpr rfl)
  · -- A line feed is none of these characters.
    have hfeed := h '\n' (List.mem_cons_of_mem _ (List.mem_singleton.mpr rfl))
    exact absurd hfeed (by decide +kernel)
  · rename_i c rest _ _
    have hselector : rest.head? ≠ some letterSelector := by
      intro hhead
      have hselector := hone _ (List.mem_cons_of_mem c (List.mem_of_head? hhead))
      exact absurd hselector (by decide +kernel)
    rw [hpicture, if_neg Bool.false_ne_true, beq_eq_false_iff_ne.mpr hselector, Bool.and_false,
      if_neg Bool.false_ne_true]
    exact hsum
  · rfl

end Widths

end Text

namespace Screen

open Text

variable {Look : Type} (look : Role → Look)

/-- Every glyph of a text whose characters take one column each has some of them, and
    takes as many columns. -/
theorem glyph_of_oneColumnEach (s : Span) (h : OneColumnEach s.text) (g : Glyph Look)
    (hg : g ∈ s.glyphs look) :
    g.symbol ≠ [] ∧ (∀ c ∈ g.symbol, c ∈ s.text.toList) ∧ g.columns = g.symbol.length := by
  rw [Span.glyphs, List.mem_map] at hg
  rcases hg with ⟨k, hk, rfl⟩
  rw [List.mem_filter] at hk
  have hmem := mem_of_mem_clusters _ k hk.1
  exact ⟨ne_nil_of_mem_clusters _ k hk.1, hmem,
    clusterWidth_eq_length k fun c hc => h c (hmem c hc)⟩

theorem columns_of_clusters (a : Look) (ks : List (List Char))
    (h : ∀ k ∈ ks, ∀ c ∈ k, takesOneColumn c = true) :
    columns (ks.map fun k => (⟨k, clusterWidth k, a⟩ : Glyph Look)) = ks.flatten.length := by
  induction ks with
  | nil => rfl
  | cons k ks ih =>
      rw [List.map_cons, columns_cons, ih fun k hk => h k (List.mem_cons_of_mem _ hk),
        List.flatten_cons, List.length_append, clusterWidth_eq_length k (h k List.mem_cons_self)]

/-- A text whose characters take one column each takes as many columns as it has
    characters. -/
theorem columns_glyphs_eq_length (s : Span) (h : OneColumnEach s.text) :
    columns (s.glyphs look) = s.text.length := by
  -- No cluster is left out, and each takes as many columns as it has characters.
  have hfeed : (clusters s.text.toList).filter (fun k => k != ['\n']) = clusters s.text.toList := by
    rw [List.filter_eq_self]
    intro k hk
    rw [bne_iff_ne]
    intro heq
    have hmem := mem_of_mem_clusters _ k hk '\n' (by rw [heq]; exact List.mem_singleton.mpr rfl)
    exact absurd (h '\n' hmem) (by decide +kernel)
  have hone : ∀ k ∈ clusters s.text.toList, ∀ c ∈ k, takesOneColumn c = true :=
    fun k hk c hc => h c (mem_of_mem_clusters _ k hk c hc)
  rw [Span.glyphs, hfeed, columns_of_clusters _ _ hone, clusters_flatten, String.length_toList]

theorem columns_span (s : Span) (h : OneColumnEach s.text) :
    columns (Line.glyphs look [s]) = s.text.length := by
  rw [Line.glyphs, List.flatMap_singleton, columns_glyphs_eq_length look s h]

theorem glyphs_append (l m : Line) :
    Line.glyphs look (l ++ m) = l.glyphs look ++ m.glyphs look :=
  List.flatMap_append

variable (l : Line)

theorem columns_line : columns (l.glyphs look) = (l.map fun s => columns (s.glyphs look)).sum := by
  induction l with
  | nil => rfl
  | cons s l ih =>
      rw [List.map_cons, List.sum_cons, ← ih, ← columns_append]
      rfl

/-- A line takes as many columns as its texts have characters. -/
theorem columns_line_eq_sum (h : ∀ s ∈ l, OneColumnEach s.text) :
    columns (l.glyphs look) = (l.map fun s => s.text.length).sum := by
  rw [columns_line, List.map_congr_left fun s hs => columns_glyphs_eq_length look s (h s hs)]

end Screen

end FleetBoard
