import FleetBoard.Json.Printer
import FleetBoard.Json.Skip
import FleetBoard.Proofs.Token

/-!
# Layouts

A value is written compactly or over several lines, and the two texts differ in
blanks only. So they are written by one writer here that is told which blanks to
put where, and what is read back from its texts is read back from both.

Readers of containers share two loops that are open in what they do with an item or
a member. What such a loop makes of a text that was written is therefore said once:
it folds over the items or members, as long as each of them is read as it should be
wherever it stands. A value and a decoder then differ in what they fold.

Loops and nested readers are given fuel, which is the length of the text. A text that
was written is longer than the number of its items, and longer than each of them.

## Main definitions

* `Layout`: The blanks that a writer puts between the parts of a value.
* `Value.write`: A value in a layout.

## Theorems

* `Value.ind`: Induction over values.
* `write_compact`, `write_pretty`: The two layouts.
* `foldItems_write`, `foldMembers_write`: What the loops make of a written text.
-/

namespace FleetBoard

namespace Json

/-- Induction over values: what holds of the items of an array and of the values of
    the members of an object holds of these. -/
theorem Value.ind {motive : Value → Prop} (null : motive .null) (bool : ∀ b, motive (.bool b))
    (number : ∀ n, motive (.number n)) (text : ∀ s, motive (.text s))
    (array : ∀ items, (∀ v ∈ items, motive v) → motive (.array items))
    (object : ∀ members, (∀ m ∈ members, motive m.2) → motive (.object members)) (v : Value) :
    motive v :=
  @Value.rec motive (fun items => ∀ v ∈ items, motive v) (fun members => ∀ m ∈ members, motive m.2)
    (fun m => motive m.2) null bool number text array object
    (fun _ h => absurd h List.not_mem_nil)
    (fun _ _ hhead htail _ h => (List.mem_cons.mp h).elim (fun heq => heq ▸ hhead) (htail _))
    (fun _ h => absurd h List.not_mem_nil)
    (fun _ _ hhead htail _ h => (List.mem_cons.mp h).elim (fun heq => heq ▸ hhead) (htail _))
    (fun _ _ h => h) v

/-- A text of blanks only. -/
def Blank (cs : List Char) : Prop :=
  ∀ c ∈ cs, isSpace c = true

theorem blank_nil : Blank [] := fun _ h => absurd h List.not_mem_nil

/-- The blanks that a writer puts between the parts of a value. -/
structure Layout where
  /-- What stands in front of an item or a member, and in front of the closing bracket
      after the last one, by the depth. -/
  line : Nat → List Char
  /-- What stands behind the colon of a member. -/
  gap : List Char
  blank_line : ∀ depth, Blank (line depth)
  blank_gap : Blank gap

namespace Layout

/-- Everything on one line. -/
def compact : Layout where
  line _ := []
  gap := []
  blank_line _ := blank_nil
  blank_gap := blank_nil

/-- Every item and member on a line of its own. -/
def pretty : Layout where
  line := Value.newLine
  gap := [' ']
  blank_line depth c h := by
    rw [Value.newLine, List.mem_cons, List.mem_replicate] at h
    rcases h with h | ⟨_, h⟩ <;> rw [h] <;> rfl
  blank_gap c h := by
    rw [List.mem_singleton.mp h]
    rfl

/-- What stands in front of the closing bracket of a container. An empty one is
    closed at once. -/
def closing (l : Layout) (depth : Nat) (empty : Bool) : List Char :=
  if empty then [] else l.line depth

theorem blank_closing (l : Layout) (depth : Nat) (empty : Bool) : Blank (l.closing depth empty) := by
  cases empty with
  | true => exact blank_nil
  | false => exact l.blank_line depth

end Layout

/-- The comma in front of every item and member but the first. -/
def separator (first : Bool) : List Char :=
  if first then [] else [',']

namespace Value

mutual

/-- A value in a layout, inside `depth` containers. -/
def write (l : Layout) (depth : Nat) : Value → List Char
  | .null => ['n', 'u', 'l', 'l']
  | .bool true => ['t', 'r', 'u', 'e']
  | .bool false => ['f', 'a', 'l', 's', 'e']
  | .number n => n.render
  | .text s => renderLiteral s
  | .array items =>
    '[' :: (writeItems l (depth + 1) true items ++ (l.closing depth items.isEmpty ++ [']']))
  | .object members =>
    '\x7b' :: (writeMembers l (depth + 1) true members ++
      (l.closing depth members.isEmpty ++ ['\x7d']))

/-- The items of an array from one on. -/
def writeItems (l : Layout) (depth : Nat) (first : Bool) : List Value → List Char
  | [] => []
  | v :: vs =>
    separator first ++ (l.line depth ++ (v.write l depth ++ writeItems l depth false vs))

/-- The members of an object from one on. -/
def writeMembers (l : Layout) (depth : Nat) (first : Bool) : List (String × Value) → List Char
  | [] => []
  | (k, v) :: ms =>
    separator first ++ (l.line depth ++ (renderLiteral k ++
      ':' :: (l.gap ++ (v.write l depth ++ writeMembers l depth false ms))))

end

section Compact

theorem writeItems_compact (depth : Nat) (vs : List Value)
    (h : ∀ v ∈ vs, v.write .compact depth = v.compact) :
    writeItems .compact depth false vs = compactItems vs := by
  induction vs with
  | nil => rfl
  | cons v vs ih =>
      rw [writeItems, compactItems, h v List.mem_cons_self,
        ih fun w hw => h w (List.mem_cons_of_mem _ hw)]
      rfl

theorem writeMembers_compact (depth : Nat) (ms : List (String × Value))
    (h : ∀ m ∈ ms, m.2.write .compact depth = m.2.compact) :
    writeMembers .compact depth false ms = compactMembers ms := by
  induction ms with
  | nil => rfl
  | cons m ms ih =>
      rw [writeMembers, compactMembers, h m List.mem_cons_self,
        ih fun w hw => h w (List.mem_cons_of_mem _ hw)]
      rfl

theorem write_compact (v : Value) (depth : Nat) : v.write .compact depth = v.compact := by
  induction v using Value.ind generalizing depth with
  | null => rfl
  | bool b => cases b <;> rfl
  | number n => rfl
  | text s => rfl
  | array items ih =>
      cases items with
      | nil => rfl
      | cons v vs =>
          have hothers := writeItems_compact (depth + 1) vs fun w hw =>
            ih w (List.mem_cons_of_mem _ hw) (depth + 1)
          rw [write, writeItems, compact, ih v List.mem_cons_self, hothers, List.append_assoc]
          rfl
  | object members ih =>
      cases members with
      | nil => rfl
      | cons m ms =>
          have hothers := writeMembers_compact (depth + 1) ms fun w hw =>
            ih w (List.mem_cons_of_mem _ hw) (depth + 1)
          rw [write, writeMembers, compact, ih m List.mem_cons_self, hothers]
          simp only [separator, Layout.compact, Layout.closing, if_true, List.nil_append,
            List.append_assoc, List.cons_append, List.isEmpty_cons, Bool.false_eq_true, if_false]

end Compact

section Pretty

theorem writeItems_pretty (depth : Nat) (vs : List Value)
    (h : ∀ v ∈ vs, v.write .pretty depth = v.prettyAt depth) :
    writeItems .pretty depth false vs = prettyItems depth vs := by
  induction vs with
  | nil => rfl
  | cons v vs ih =>
      rw [writeItems, prettyItems, h v List.mem_cons_self,
        ih fun w hw => h w (List.mem_cons_of_mem _ hw), List.append_assoc]
      rfl

theorem writeMembers_pretty (depth : Nat) (ms : List (String × Value))
    (h : ∀ m ∈ ms, m.2.write .pretty depth = m.2.prettyAt depth) :
    writeMembers .pretty depth false ms = prettyMembers depth ms := by
  induction ms with
  | nil => rfl
  | cons m ms ih =>
      rw [writeMembers, prettyMembers, h m List.mem_cons_self,
        ih fun w hw => h w (List.mem_cons_of_mem _ hw), List.append_assoc]
      rfl

theorem write_pretty (v : Value) (depth : Nat) : v.write .pretty depth = v.prettyAt depth := by
  induction v using Value.ind generalizing depth with
  | null => rfl
  | bool b => cases b <;> rfl
  | number n => rfl
  | text s => rfl
  | array items ih =>
      cases items with
      | nil => rfl
      | cons v vs =>
          have hothers := writeItems_pretty (depth + 1) vs fun w hw =>
            ih w (List.mem_cons_of_mem _ hw) (depth + 1)
          rw [write, writeItems, prettyAt, ih v List.mem_cons_self, hothers]
          simp only [separator, Layout.pretty, Layout.closing, if_true, List.nil_append,
            List.append_assoc, List.isEmpty_cons, Bool.false_eq_true, if_false]
  | object members ih =>
      cases members with
      | nil => rfl
      | cons m ms =>
          have hothers := writeMembers_pretty (depth + 1) ms fun w hw =>
            ih w (List.mem_cons_of_mem _ hw) (depth + 1)
          rw [write, writeMembers, prettyAt, ih m List.mem_cons_self, hothers]
          simp only [separator, Layout.pretty, Layout.closing, if_true, List.nil_append,
            List.append_assoc, List.cons_append, List.isEmpty_cons, Bool.false_eq_true, if_false]

end Pretty

/-- An array and what follows it: its items stand between the brackets. -/
theorem write_array_append (l : Layout) (depth : Nat) (items : List Value) (rest : List Char) :
    (array items).write l depth ++ rest =
      '[' :: (writeItems l (depth + 1) true items ++
        (l.closing depth items.isEmpty ++ ']' :: rest)) := by
  rw [write, List.cons_append, List.append_assoc, List.append_assoc, List.singleton_append]

/-- An object and what follows it: its members stand between the braces. -/
theorem write_object_append (l : Layout) (depth : Nat) (members : List (String × Value))
    (rest : List Char) :
    (object members).write l depth ++ rest =
      '\x7b' :: (writeMembers l (depth + 1) true members ++
        (l.closing depth members.isEmpty ++ '\x7d' :: rest)) := by
  rw [write, List.cons_append, List.append_assoc, List.append_assoc, List.singleton_append]

end Value

section Blanks

variable (blank cs : List Char)

theorem skipBlank_append (h : Blank blank) : skipBlank (blank ++ cs) = skipBlank cs :=
  List.dropWhile_append_of_pos h

theorem skipBlank_cons (c : Char) (h : isSpace c = false) : skipBlank (c :: cs) = c :: cs :=
  List.dropWhile_cons_of_neg (by rw [h]; exact Bool.false_ne_true)

theorem skipBlank_blank_cons (c : Char) (hblank : Blank blank) (h : isSpace c = false) :
    skipBlank (blank ++ c :: cs) = c :: cs := by
  rw [skipBlank_append blank _ hblank, skipBlank_cons cs c h]

/-- A number ends at blanks, and behind them at what ends it. -/
theorem ends_blank (h : Blank blank) (hcs : Ends cs) : Ends (blank ++ cs) := by
  cases blank with
  | nil => exact hcs
  | cons c blank => exact ends_cons c _ (Or.inl (h c List.mem_cons_self))

end Blanks

/-- What a number begins with begins nothing else. -/
theorem number_head (c : Char) (h : c = '-' ∨ (digit? c).isSome = true) :
    c ≠ 'n' ∧ c ≠ 't' ∧ c ≠ 'f' ∧ c ≠ '"' ∧ c ≠ '[' ∧ c ≠ '\x7b' ∧ c ≠ ']' ∧ isSpace c = false := by
  have hother : ∀ d : Char, d ≠ '-' → digit? d = none → c ≠ d := by
    intro d hsign hdigit hd
    rw [hd, hdigit] at h
    exact h.elim hsign Bool.noConfusion
  refine ⟨hother _ (by decide) (by decide), hother _ (by decide) (by decide),
    hother _ (by decide) (by decide), hother _ (by decide) (by decide),
    hother _ (by decide) (by decide), hother _ (by decide) (by decide),
    hother _ (by decide) (by decide), ?_⟩
  rw [isSpace, Bool.or_eq_false_iff, Bool.or_eq_false_iff, Bool.or_eq_false_iff, beq_eq_false_iff_ne,
    beq_eq_false_iff_ne, beq_eq_false_iff_ne, beq_eq_false_iff_ne]
  exact ⟨⟨⟨hother _ (by decide) (by decide), hother _ (by decide) (by decide)⟩,
    hother _ (by decide) (by decide)⟩, hother _ (by decide) (by decide)⟩

section Written

variable (l : Layout) (depth : Nat)

/-- A value begins with no blank and closes no array. -/
theorem head_write (v : Value) :
    ∃ c cs, v.write l depth = c :: cs ∧ isSpace c = false ∧ c ≠ ']' := by
  cases v with
  | null => exact ⟨'n', _, rfl, rfl, by decide⟩
  | bool b => cases b <;> exact ⟨_, _, rfl, rfl, by decide⟩
  | number n =>
      rcases head_render n with ⟨c, cs, hwritten, hc⟩
      rcases number_head c hc with ⟨_, _, _, _, _, _, hclose, hspace⟩
      exact ⟨c, cs, hwritten, hspace, hclose⟩
  | text s => exact ⟨'"', _, rfl, rfl, by decide⟩
  | array items => exact ⟨'[', _, rfl, rfl, by decide⟩
  | object members => exact ⟨'\x7b', _, rfl, rfl, by decide⟩

theorem skipBlank_write (blank rest : List Char) (v : Value) (h : Blank blank) :
    skipBlank (blank ++ (v.write l depth ++ rest)) = v.write l depth ++ rest := by
  rcases head_write l depth v with ⟨c, cs, hwritten, hspace, _⟩
  rw [hwritten, List.cons_append, skipBlank_blank_cons blank _ c h hspace]

/-- A number ends at the next item, or at the end of its array. -/
theorem ends_writeItems (vs : List Value) (blank rest : List Char) (h : Blank blank) :
    Ends (Value.writeItems l depth false vs ++ (blank ++ ']' :: rest)) := by
  cases vs with
  | nil => exact ends_blank blank _ h (ends_cons _ _ (Or.inr (Or.inr (Or.inl rfl))))
  | cons v vs => exact ends_cons _ _ (Or.inr (Or.inl rfl))

/-- A number ends at the next member, or at the end of its object. -/
theorem ends_writeMembers (ms : List (String × Value)) (blank rest : List Char) (h : Blank blank) :
    Ends (Value.writeMembers l depth false ms ++ (blank ++ '\x7d' :: rest)) := by
  cases ms with
  | nil => exact ends_blank blank _ h (ends_cons _ _ (Or.inr (Or.inr (Or.inr rfl))))
  | cons m ms => exact ends_cons _ _ (Or.inr (Or.inl rfl))

theorem length_write_pos (v : Value) : 0 < (v.write l depth).length := by
  rcases head_write l depth v with ⟨c, cs, hwritten, _⟩
  rw [hwritten]
  exact Nat.succ_pos _

/-- The items of an array are longer than each of them, and than their number. -/
theorem length_writeItems (first : Bool) (vs : List Value) :
    vs.length ≤ (Value.writeItems l depth first vs).length ∧
      ∀ v ∈ vs, (v.write l depth).length ≤ (Value.writeItems l depth first vs).length := by
  induction vs generalizing first with
  | nil => exact ⟨Nat.le_refl _, fun v h => absurd h List.not_mem_nil⟩
  | cons v vs ih =>
      rcases ih false with ⟨hcount, heach⟩
      have hpos := length_write_pos l depth v
      simp only [Value.writeItems, List.length_append, List.length_cons]
      refine ⟨by omega, fun w hw => ?_⟩
      rcases List.mem_cons.mp hw with hw | hw
      · rw [hw]
        omega
      · have hlength := heach w hw
        omega

/-- The members of an object are longer than each of their values, and than their
    number. -/
theorem length_writeMembers (first : Bool) (ms : List (String × Value)) :
    ms.length ≤ (Value.writeMembers l depth first ms).length ∧
      ∀ m ∈ ms, (m.2.write l depth).length ≤ (Value.writeMembers l depth first ms).length := by
  induction ms generalizing first with
  | nil => exact ⟨Nat.le_refl _, fun m h => absurd h List.not_mem_nil⟩
  | cons m ms ih =>
      rcases ih false with ⟨hcount, heach⟩
      simp only [Value.writeMembers, List.length_append, List.length_cons]
      refine ⟨by omega, fun w hw => ?_⟩
      rcases List.mem_cons.mp hw with hw | hw
      · rw [hw]
        omega
      · have hlength := heach w hw
        omega

end Written

section Outcomes

variable {ε α β : Type}

theorem toOption_bind (x : Except ε α) (f : α → Except ε β) :
    (x >>= f).toOption = x.toOption.bind fun a => (f a).toOption := by
  cases x <;> rfl

theorem toOption_eq_some_iff (x : Except ε α) (a : α) : x.toOption = some a ↔ x = .ok a := by
  cases x <;> simp only [Except.toOption, Option.some.injEq, Except.ok.injEq, reduceCtorEq]

theorem toOption_map (x : Except ε α) (f : α → β) : (x.map f).toOption = x.toOption.map f := by
  cases x <;> rfl

end Outcomes

section Loops

variable {σ : Type} (l : Layout) (depth : Nat) (blank rest : List Char) (hblank : Blank blank)

include hblank

theorem nextItem_close (first : Bool) : nextItem first (blank ++ ']' :: rest) = .ok none := by
  rw [nextItem, skipBlank_blank_cons blank rest ']' hblank rfl]
  exact if_pos rfl

theorem closeArray_close : closeArray (blank ++ ']' :: rest) = .ok rest := by
  rw [closeArray, skipBlank_blank_cons blank rest ']' hblank rfl]
  exact if_pos rfl

theorem nextKey_close (first : Bool) : nextKey first (blank ++ '\x7d' :: rest) = .ok none := by
  rw [nextKey, skipBlank_blank_cons blank rest '\x7d' hblank rfl]
  exact if_pos rfl

theorem closeObject_close : closeObject (blank ++ '\x7d' :: rest) = .ok rest := by
  rw [closeObject, skipBlank_blank_cons blank rest '\x7d' hblank rfl]
  exact if_pos rfl

omit hblank

/-- The next item is the one that was written next. -/
theorem nextItem_write (first : Bool) (v : Value) (cs : List Char) :
    nextItem first (separator first ++ (l.line depth ++ (v.write l depth ++ cs))) =
      .ok (some (v.write l depth ++ cs)) := by
  rcases head_write l depth v with ⟨c, tail, hwritten, hspace, hclose⟩
  have hitem := skipBlank_write l depth (l.line depth) cs v (l.blank_line depth)
  -- Only behind an item there is a comma, and the first one has none in front of it.
  cases first with
  | true =>
      rw [separator, if_pos rfl, List.nil_append, nextItem, hitem, hwritten, List.cons_append]
      dsimp only
      rw [if_neg hclose, if_pos rfl]
  | false =>
      have hcomma : (',' : Char) ≠ ']' := by decide
      rw [separator, if_neg Bool.false_ne_true, List.singleton_append, nextItem,
        skipBlank_cons _ ',' rfl]
      dsimp only
      rw [if_neg hcomma, if_neg Bool.false_ne_true, if_pos rfl, hitem, hwritten, List.cons_append]
      dsimp only
      rw [if_neg hclose]

/-- The next key is the one that was written next. -/
theorem nextKey_write (first : Bool) (k : String) (cs : List Char) :
    nextKey first (separator first ++ (l.line depth ++ (renderLiteral k ++ cs))) =
      .ok (some (k.toList.flatMap renderChar ++ '"' :: cs)) := by
  have hquote : ('"' : Char) ≠ '\x7d' := by decide
  have hkey : skipBlank (l.line depth ++ (renderLiteral k ++ cs)) = renderLiteral k ++ cs := by
    rw [renderLiteral_append, skipBlank_blank_cons _ _ '"' (l.blank_line depth) rfl]
  cases first with
  | true =>
      rw [separator, if_pos rfl, List.nil_append, nextKey, hkey, renderLiteral_append]
      dsimp only
      rw [if_neg hquote, if_pos rfl, if_pos rfl]
  | false =>
      have hcomma : (',' : Char) ≠ '\x7d' := by decide
      rw [separator, if_neg Bool.false_ne_true, List.singleton_append, nextKey,
        skipBlank_cons _ ',' rfl]
      dsimp only
      rw [if_neg hcomma, if_neg Bool.false_ne_true, if_pos rfl, hkey, renderLiteral_append]
      dsimp only
      rw [if_pos rfl]

theorem readColon_cons (cs : List Char) : readColon (':' :: cs) = .ok cs := by
  rw [readColon, skipBlank_cons cs ':' rfl]
  exact if_pos rfl

include hblank

/-- The loop over the items of an array folds over them. -/
theorem foldItems_write (item : σ → Reader σ) (f : σ → Value → Option σ) (vs : List Value)
    (hitem : ∀ v ∈ vs, ∀ s cs, Ends cs →
      (item s (v.write l depth ++ cs)).toOption = (f s v).map (·, cs))
    (fuel : Nat) (first : Bool) (s : σ) (hfuel : vs.length < fuel) :
    (foldItems item fuel first s
      (Value.writeItems l depth first vs ++ (blank ++ ']' :: rest))).toOption =
      (vs.foldlM f s).map (·, rest) := by
  induction vs generalizing fuel first s with
  | nil =>
      rcases fuel with _ | fuel
      · exact absurd hfuel (Nat.not_lt_zero _)
      rw [Value.writeItems, List.nil_append, foldItems, nextItem_close blank rest hblank first]
      simp only [bind, Except.bind, closeArray_close blank rest hblank]
      rfl
  | cons v vs ih =>
      rcases fuel with _ | fuel
      · exact absurd hfuel (Nat.not_lt_zero _)
      -- Behind the item stands the next one or the end, and either ends a number.
      have hthis := hitem v List.mem_cons_self s _ (ends_writeItems l depth vs blank rest hblank)
      have hothers := fun s' => ih (fun w hw => hitem w (List.mem_cons_of_mem _ hw)) fuel false s'
        (Nat.lt_of_succ_lt_succ hfuel)
      rw [Value.writeItems, List.append_assoc, List.append_assoc, List.append_assoc, foldItems,
        nextItem_write l depth first v]
      change (item s _ >>= fun p => foldItems item fuel false p.1 p.2).toOption = _
      rw [toOption_bind, hthis, List.foldlM_cons]
      cases f s v with
      | none => rfl
      | some s' => exact hothers s'

/-- The loop over the members of an object folds over them, with their keys. -/
theorem foldMembers_write (member : σ → String → Except Fault (Reader σ))
    (f : σ → String × Value → Option σ) (ms : List (String × Value))
    (hmember : ∀ m ∈ ms, ∀ s cs, Ends cs →
      ((member s m.1).toOption.bind fun value =>
        (value (l.gap ++ (m.2.write l depth ++ cs))).toOption) = (f s m).map (·, cs))
    (fuel : Nat) (first : Bool) (s : σ) (hfuel : ms.length < fuel) :
    (foldMembers member fuel first s
      (Value.writeMembers l depth first ms ++ (blank ++ '\x7d' :: rest))).toOption =
      (ms.foldlM f s).map (·, rest) := by
  induction ms generalizing fuel first s with
  | nil =>
      rcases fuel with _ | fuel
      · exact absurd hfuel (Nat.not_lt_zero _)
      rw [Value.writeMembers, List.nil_append, foldMembers, nextKey_close blank rest hblank first]
      simp only [bind, Except.bind, closeObject_close blank rest hblank]
      rfl
  | cons m ms ih =>
      rcases fuel with _ | fuel
      · exact absurd hfuel (Nat.not_lt_zero _)
      have hthis := hmember m List.mem_cons_self s _
        (ends_writeMembers l depth ms blank rest hblank)
      have hothers := fun s' => ih (fun w hw => hmember w (List.mem_cons_of_mem _ hw)) fuel false s'
        (Nat.lt_of_succ_lt_succ hfuel)
      rw [Value.writeMembers, List.append_assoc, List.append_assoc, List.append_assoc,
        List.cons_append, List.append_assoc, List.append_assoc, foldMembers,
        nextKey_write l depth first m.1]
      simp only [bind, Except.bind, readLiteral_renderLiteral]
      rw [List.foldlM_cons, Option.bind_eq_bind]
      cases hm : member s m.1 with
      | error e =>
          -- A key that is refused keeps its value from being read.
          rw [hm] at hthis
          rw [Option.map_eq_none_iff.mp hthis.symm]
          rfl
      | ok value =>
          rw [hm] at hthis
          simp only [readColon_cons]
          change (value _ >>= fun p => foldMembers member fuel false p.1 p.2).toOption = _
          rw [toOption_bind]
          change (value _).toOption = _ at hthis
          rw [hthis]
          cases f s m with
          | none => rfl
          | some s' => exact hothers s'

/-- The loop over members that nobody asked for comes to their end. -/
theorem skipMembers_write (value : Reader Unit) (ms : List (String × Value))
    (hvalue : ∀ m ∈ ms, ∀ cs, Ends cs →
      value (l.gap ++ (m.2.write l depth ++ cs)) = .ok ((), cs))
    (fuel : Nat) (first : Bool) (hfuel : ms.length < fuel) :
    skipMembers value fuel first
      (Value.writeMembers l depth first ms ++ (blank ++ '\x7d' :: rest)) = .ok ((), rest) := by
  induction ms generalizing fuel first with
  | nil =>
      rcases fuel with _ | fuel
      · exact absurd hfuel (Nat.not_lt_zero _)
      rw [Value.writeMembers, List.nil_append, skipMembers, nextKey_close blank rest hblank first]
      simp only [bind, Except.bind, closeObject_close blank rest hblank]
      rfl
  | cons m ms ih =>
      rcases fuel with _ | fuel
      · exact absurd hfuel (Nat.not_lt_zero _)
      have hthis := hvalue m List.mem_cons_self _ (ends_writeMembers l depth ms blank rest hblank)
      have hothers := ih (fun w hw => hvalue w (List.mem_cons_of_mem _ hw)) fuel false
        (Nat.lt_of_succ_lt_succ hfuel)
      rw [Value.writeMembers, List.append_assoc, List.append_assoc, List.append_assoc,
        List.cons_append, List.append_assoc, List.append_assoc, skipMembers,
        nextKey_write l depth first m.1]
      simp only [bind, Except.bind, skipLiteral_renderLiteral, readColon_cons, hthis]
      exact hothers

end Loops

end Json

end FleetBoard
