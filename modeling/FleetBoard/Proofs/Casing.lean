import FleetBoard.Text.LowerCase

/-!
# Lower Case in Context

What the lower case of a piece of a text has to do with the lower case of the text.
Every character but the capital sigma has one lower case wherever it stands. A capital
sigma takes the final form at the end of a word, and whether it stands there can depend
on what is further out than the piece reaches, on either side. The characters that the
rule skips make this a question of any distance.

So a piece keeps its lower case everywhere exactly if each of its capital sigmas finds
enough inside the piece to settle its form. When a text grows at its end, the only
sigma in danger is a final one with nothing but skipped characters behind it, and only
a letter turns it.

## Main definitions

* `lowerBetween`: The lower case of a piece between what surrounds it.
* `isDecisive`: Characters that are not all skipped by the rule.
* `isSettled`: The lower case of a text is the same in all surroundings.
* `turnsSigma`: A character turns a final sigma at the end of a text.

## Theorems

* `lower_append`: The lower case of a text of two pieces.
* `formIsSettled_iff`: When the form of a sigma is settled by what stands near it.
* `isSettled_iff`: When a piece keeps its lower case in all surroundings.
* `lower_infix_of_isSettled`: A settled piece of a text becomes a piece of its lower
  case.
* `isSettled_of_no_sigma`: Texts without a capital sigma are settled.
* `turnsSigma_eq_false_iff`: When a text keeps its lower case as it grows.
* `turnsSigma_of_isSettled`: A settled text keeps it.
-/

namespace FleetBoard

namespace Text

/-- The lower case of a piece that stands between the characters `before` it, nearest
    first, and `after` it. -/
def lowerBetween (before : List Char) : List Char → List Char → List Char
  | [], _ => []
  | c :: cs, after => lowerAt before c (cs ++ after) ++ lowerBetween (c :: before) cs after

theorem lowerAfter_append (before cs after : List Char) :
    lowerAfter before (cs ++ after) =
      lowerBetween before cs after ++ lowerAfter (cs.reverse ++ before) after := by
  -- Each character of the piece stands before the rest of it, so `before` grows.
  induction cs generalizing before with
  | nil => rfl
  | cons c rest ih =>
      rw [List.cons_append, lowerAfter, lowerBetween, ih, List.append_assoc, List.reverse_cons,
        List.append_assoc]
      rfl

theorem lower_eq (cs : List Char) : lower cs = lowerBetween [] cs [] := by
  have happend := lowerAfter_append [] cs []
  rw [List.append_nil, lowerAfter, List.append_nil] at happend
  exact happend

theorem lower_append (cs after : List Char) :
    lower (cs ++ after) = lowerBetween [] cs after ++ lowerAfter cs.reverse after := by
  rw [lower, lowerAfter_append, List.append_nil]

/-- The lower case of a piece in its place is a piece of the lower case. -/
theorem lowerBetween_infix (before cs after : List Char) :
    lowerBetween before.reverse cs after <:+: lower (before ++ cs ++ after) := by
  rw [List.append_assoc, lower_append, lowerAfter_append, ← List.append_assoc]
  exact List.infix_append _ _ _

section Surroundings

variable (before before' after after' cs : List Char) (c : Char)

/-- A character has a lower case of one length wherever it stands. -/
theorem length_lowerAt : (lowerAt before c after).length = (lowerAt before' c after').length := by
  rw [lowerAt, lowerAt]
  split
  · rfl
  · rfl

/-- Only the form of a sigma can differ from place to place. -/
theorem lowerAt_eq_iff :
    lowerAt before c after = lowerAt before' c after' ↔
      (c = 'Σ' → endsWord before after = endsWord before' after') := by
  rw [lowerAt, lowerAt]
  by_cases hsigma : c = 'Σ'
  · rw [if_pos hsigma, if_pos hsigma, List.cons_eq_cons, and_iff_left rfl]
    cases endsWord before after <;> cases endsWord before' after' <;> simp [hsigma]
  · -- Any other character has the same lower case in both places.
    rw [if_neg hsigma, if_neg hsigma]
    exact iff_of_true rfl fun hc => absurd hc hsigma

/-- A piece has one lower case in two places exactly if its first character has and the
    rest of it has. The pieces of both can be told apart, since a character has a lower
    case of one length. -/
theorem lowerBetween_cons_eq_iff :
    lowerBetween before (c :: cs) after = lowerBetween before' (c :: cs) after' ↔
      (c = 'Σ' → endsWord before (cs ++ after) = endsWord before' (cs ++ after')) ∧
        lowerBetween (c :: before) cs after = lowerBetween (c :: before') cs after' := by
  rw [lowerBetween, lowerBetween]
  constructor
  · intro h
    have hpieces := List.append_inj h (length_lowerAt before before' _ _ c)
    exact ⟨(lowerAt_eq_iff before before' _ _ c).mp hpieces.1, hpieces.2⟩
  · rintro ⟨hhead, htail⟩
    rw [(lowerAt_eq_iff before before' _ _ c).mpr hhead, htail]

theorem length_lowerBetween :
    (lowerBetween before cs after).length = (lowerBetween before' cs after').length := by
  induction cs generalizing before before' with
  | nil => rfl
  | cons c rest ih =>
      rw [lowerBetween, lowerBetween, List.length_append, List.length_append, ih _ (c :: before'),
        length_lowerAt before before']

end Surroundings

/-- Whether some of the characters are not skipped by the rule for a final sigma. -/
def isDecisive (cs : List Char) : Bool :=
  cs.any fun c => !caseIgnorableRanges.mem c

section Decisive

variable (cs more : List Char)

/-- What is met first is met in `cs` if there is anything to meet. -/
theorem meetsCased_append :
    meetsCased (cs ++ more) = if isDecisive cs then meetsCased cs else meetsCased more := by
  induction cs with
  | nil => rfl
  | cons c rest ih =>
      cases hskipped : caseIgnorableRanges.mem c with
      | true =>
          rw [meetsCased, meetsCased, List.cons_append, List.dropWhile_cons_of_pos hskipped,
            List.dropWhile_cons_of_pos hskipped]
          rw [isDecisive, List.any_cons, hskipped]
          exact ih
      | false =>
          rw [isDecisive, List.any_cons, hskipped, Bool.not_false, Bool.true_or, if_pos rfl,
            meetsCased, meetsCased, List.cons_append,
            List.dropWhile_cons_of_neg (Bool.eq_false_iff.mp hskipped),
            List.dropWhile_cons_of_neg (Bool.eq_false_iff.mp hskipped)]

theorem isDecisive_of_meetsCased (h : meetsCased cs = true) : isDecisive cs = true := by
  -- Behind a text that is skipped stands nothing here, and no letter is met there.
  have happend := meetsCased_append cs []
  rw [List.append_nil, h] at happend
  cases hdecisive : isDecisive cs with
  | true => rfl
  | false =>
      rw [hdecisive] at happend
      exact Bool.noConfusion happend

end Decisive

/-- Whether the form of a sigma between `before` and `after` is the same whatever stands
    further out: a letter after it makes it no final one, and otherwise both sides have
    to decide, or the side before it alone against the final form. -/
def formIsSettled (before after : List Char) : Bool :=
  meetsCased after || (isDecisive before && (!meetsCased before || isDecisive after))

/-- The form of a sigma is settled exactly if nothing further out can change it. -/
theorem formIsSettled_iff (before after : List Char) :
    formIsSettled before after = true ↔
      ∀ outer outer', endsWord (before ++ outer) (after ++ outer') = endsWord before after := by
  have hbefore := isDecisive_of_meetsCased before
  have hafter := isDecisive_of_meetsCased after
  have hletter : meetsCased ['a'] = true := by decide +kernel
  simp only [endsWord, meetsCased_append, formIsSettled]
  constructor
  · -- Only what the four sides meet and what is skipped matters, and only so far as a
    -- side that meets a letter is not skipped.
    intro h outer outer'
    revert h hbefore hafter
    generalize meetsCased outer = casedOuter, meetsCased outer' = casedOuter'
    cases meetsCased before <;> cases isDecisive before <;> cases meetsCased after <;>
      cases isDecisive after <;> simp
  · -- A letter on one side only tells the undecided cases from the decided ones.
    intro h
    have hleft := h ['a'] []
    have hright := h [] ['a']
    rw [hletter, show meetsCased [] = false from rfl] at hleft hright
    revert hleft hright hbefore hafter
    cases meetsCased before <;> cases isDecisive before <;> cases meetsCased after <;>
      cases isDecisive after <;> simp

/-- Whether each capital sigma of a text that follows `before` finds its form settled. -/
def isSettledAfter (before : List Char) : List Char → Bool
  | [] => true
  | c :: cs => (c != 'Σ' || formIsSettled before cs) && isSettledAfter (c :: before) cs

/-- Whether each capital sigma of a text finds its form settled inside the text. -/
def isSettled (cs : List Char) : Bool :=
  isSettledAfter [] cs

/-- The same for a text with `before` in front of it that is fixed. -/
theorem isSettledAfter_iff (before cs : List Char) :
    isSettledAfter before cs = true ↔
      ∀ outer outer', lowerBetween (before ++ outer) cs outer' = lowerBetween before cs [] := by
  -- Further out is the same for all characters of the text: what is near the first one
  -- is `before` and the rest, and the rest has that character near it as well.
  induction cs generalizing before with
  | nil => exact iff_of_true rfl fun _ _ => rfl
  | cons c rest ih =>
      have hhead : (c != 'Σ' || formIsSettled before rest) = true ↔
          (c = 'Σ' → ∀ outer outer',
            endsWord (before ++ outer) (rest ++ outer') = endsWord before (rest ++ [])) := by
        rw [Bool.or_eq_true, bne_iff_ne, formIsSettled_iff, List.append_nil]
        exact Decidable.imp_iff_not_or.symm
      simp only [lowerBetween_cons_eq_iff]
      rw [isSettledAfter, Bool.and_eq_true, hhead, ih]
      exact ⟨fun h outer outer' => ⟨fun hsigma => h.1 hsigma outer outer', h.2 outer outer'⟩,
        fun h => ⟨fun hsigma outer outer' => (h outer outer').1 hsigma,
          fun outer outer' => (h outer outer').2⟩⟩

/-- A text has the same lower case in all surroundings exactly if each of its capital
    sigmas finds its form settled inside the text. -/
theorem isSettled_iff (cs : List Char) :
    isSettled cs = true ↔ ∀ before after, lowerBetween before cs after = lower cs := by
  rw [isSettled, isSettledAfter_iff, lower_eq]
  rfl

/-- The lower case of a settled text stands wherever the text stands. -/
theorem lower_infix_of_isSettled (cs whole : List Char) (h : isSettled cs = true)
    (hstands : cs <:+: whole) : lower cs <:+: lower whole := by
  rcases hstands with ⟨before, after, hwhole⟩
  rw [← (isSettled_iff cs).mp h before.reverse after, ← hwhole]
  exact lowerBetween_infix before cs after

theorem isSettledAfter_of_no_sigma (before cs : List Char) (h : 'Σ' ∉ cs) :
    isSettledAfter before cs = true := by
  induction cs generalizing before with
  | nil => rfl
  | cons c rest ih =>
      rw [List.mem_cons, not_or] at h
      have hhead : (c != 'Σ') = true := bne_iff_ne.mpr (Ne.symm h.1)
      rw [isSettledAfter, hhead, Bool.true_or, Bool.true_and]
      exact ih (c :: before) h.2

/-- A text without a capital sigma has the same lower case in all surroundings. -/
theorem isSettled_of_no_sigma (cs : List Char) (h : 'Σ' ∉ cs) : isSettled cs = true :=
  isSettledAfter_of_no_sigma [] cs h

/-- Whether a text that follows `before` has a capital sigma of the final form with
    nothing behind it but characters that the rule skips. -/
def endsInSigma (before : List Char) : List Char → Bool
  | [] => false
  | c :: cs =>
    (c == 'Σ' && meetsCased before && !isDecisive cs) || endsInSigma (c :: before) cs

/-- Whether a character turns a final sigma at the end of a text, so that it is none
    any more. -/
def turnsSigma (cs : List Char) (c : Char) : Bool :=
  endsInSigma [] cs && meetsCased [c]

/-- One more character changes the form of a sigma exactly if it is a letter that is met
    behind a final one. -/
theorem endsWord_concat_iff (before after : List Char) (c : Char) :
    endsWord before (after ++ [c]) = endsWord before after ↔
      (meetsCased before && !isDecisive after && meetsCased [c]) = false := by
  have hafter := isDecisive_of_meetsCased after
  rw [endsWord, endsWord, meetsCased_append]
  revert hafter
  generalize meetsCased [c] = letter
  cases meetsCased before <;> cases meetsCased after <;> cases isDecisive after <;>
    cases letter <;> simp

theorem endsInSigma_and_iff (before cs : List Char) (c : Char) :
    (endsInSigma before cs && meetsCased [c]) = false ↔
      lowerBetween before cs [c] = lowerBetween before cs [] := by
  induction cs generalizing before with
  | nil => exact iff_of_true rfl rfl
  | cons d rest ih =>
      rw [lowerBetween_cons_eq_iff, ← ih, List.append_nil, endsWord_concat_iff, endsInSigma,
        Bool.and_or_distrib_right, Bool.or_eq_false_iff]
      -- The rest is the induction's. What is left is asked of a sigma only.
      refine and_congr_left' ?_
      by_cases hsigma : d = 'Σ'
      · simp [hsigma]
      · simp [hsigma]

/-- A text keeps its lower case when a character is added exactly if that turns no
    sigma. -/
theorem turnsSigma_eq_false_iff (cs : List Char) (c : Char) :
    turnsSigma cs c = false ↔ lower cs <+: lower (cs ++ [c]) := by
  rw [turnsSigma, endsInSigma_and_iff, lower_append, lower_eq]
  constructor
  · intro h
    rw [h]
    exact List.prefix_append _ _
  · -- Both begin the lower case of the longer text, and they have one length.
    intro h
    have hlength := length_lowerBetween [] [] [c] [] cs
    have hbegins := List.prefix_of_prefix_length_le h (List.prefix_append _ _)
      (Nat.le_of_eq hlength.symm)
    exact (hbegins.eq_of_length hlength.symm).symm

/-- Nothing turns a sigma of a settled text. -/
theorem turnsSigma_of_isSettled (cs : List Char) (c : Char) (h : isSettled cs = true) :
    turnsSigma cs c = false := by
  rw [turnsSigma_eq_false_iff, lower_append, (isSettled_iff cs).mp h]
  exact List.prefix_append _ _

end Text

end FleetBoard
