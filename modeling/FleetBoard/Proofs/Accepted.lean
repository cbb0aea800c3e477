import FleetBoard.Proofs.Skipping

/-!
# What Decoders Accept

A decoder reads a text by its shape, and knows no other way round a member that it has no
field for than to pass over it. Here it is the other way round: whatever a decoder
accepts would have been passed over to the same place. So what it has accepted is well
formed, and it can be looked at again without the shape that it was read by.

The reader of any values has no shape either. It differs from passing over in what it
refuses, so it accepts less, and ends at the same place where it does.

## Theorems

* `skips_of_head`: Readers that look at the first character.
* `skips_text`, `skips_map`, `skips_optional`, `skips_list`, `skips_record`: The decoders.
* `read_list_singleton`: A list of one item is that item between brackets.
* `Value.skips_readWith`: The reader of any values.
-/

namespace FleetBoard

namespace Json

namespace Decoder

/-- What is passed over is passed over whatever is made of its value. -/
theorem skips_of_map {α β : Type} (reader : Reader α) (f : α → β) (h : Skips reader) :
    Skips fun cs => (reader cs).map fun p => (f p.1, p.2) := by
  intro cs b rest hread
  rcases (map_eq_ok_iff _ _ _).mp hread with ⟨⟨a, tail⟩, ha, hpair⟩
  rw [← (Prod.mk.inj hpair).2]
  exact h cs a tail ha

variable {α : Type} (d : Decoder α)

theorem skips_map {β : Type} (f : α → β) (h : Skips d.read) : Skips (d.map f).read :=
  skips_of_map d.read f h

/-- A reader that looks for its first character behind blanks passes over what it accepts
    if it does so from that character on. -/
theorem skips_of_head (reader : Reader α) (step : Char → Reader α)
    (hreader : ∀ cs, reader cs = match skipBlank cs with
      | [] => .error .truncated
      | c :: tail => step c tail)
    (hstep : ∀ cs c tail a rest, skipBlank cs = c :: tail → step c tail = .ok (a, rest) →
      rest.length < cs.length ∧
        ∀ fuel, cs.length ≤ fuel → skipWith (fuel + 1) cs = .ok ((), rest)) :
    Skips reader := by
  intro cs a rest h
  rw [hreader] at h
  cases hcs : skipBlank cs with
  | nil =>
      rw [hcs] at h
      cases h
  | cons c tail =>
      rw [hcs] at h
      rcases hstep cs c tail a rest hcs h with ⟨hlength, hskip⟩
      exact ⟨hlength, skipWith_of_succ cs rest hskip⟩

theorem skips_text : Skips Decoder.text.read := by
  refine skips_of_head _ (fun c tail =>
    if c = '"' then readLiteral tail else .error (refusal (c :: tail))) (fun _ => rfl) ?_
  intro cs c tail s rest hcs h
  split at h
  next hquote =>
    rw [hquote] at hcs
    have hliteral := skipLiteral_of_read tail rest s h
    have hlength := length_skipLiteralFrom .plain tail rest hliteral
    refine ⟨Nat.lt_trans hlength (length_of_skipBlank cs tail '"' hcs), fun fuel _ => ?_⟩
    rw [skipWith_quote fuel cs tail hcs, hliteral]
    rfl
  · cases h

theorem skips_optional (h : Skips d.read) : Skips d.optional.read := by
  refine skips_of_head _ (fun c tail =>
    if c = 'n' then (readWord ['u', 'l', 'l'] tail).map fun p => (none, p.2)
    else (d.read (c :: tail)).map fun p => (some p.1, p.2)) (fun _ => rfl) ?_
  intro cs c tail a rest hcs hread
  split at hread
  next hnull =>
    rw [hnull] at hcs
    rcases (map_eq_ok_iff _ _ _).mp hread with ⟨⟨_, behind⟩, hword, hpair⟩
    have htail := length_of_skipBlank cs tail 'n' hcs
    have hlength := length_readWord tail behind _ _ hword
    rw [← (Prod.mk.inj hpair).2]
    refine ⟨Nat.lt_of_le_of_lt (hlength ▸ Nat.le_add_left _ _) htail, fun fuel _ => ?_⟩
    rw [skipWith_null fuel cs tail hcs]
    exact hword
  next hnull =>
    -- The shape is read from the first character on, and the blanks go with it.
    rcases (map_eq_ok_iff _ _ _).mp hread with ⟨⟨a', behind⟩, hshape, hpair⟩
    rcases h (c :: tail) a' behind hshape with ⟨hlength, hskip⟩
    have hfront := length_skipBlank cs
    rw [hcs] at hfront
    rw [← (Prod.mk.inj hpair).2]
    refine ⟨Nat.lt_of_lt_of_le hlength hfront, fun fuel hfuel => ?_⟩
    rw [skipWith_behind_blank (fuel + 1) cs tail c hcs]
    exact hskip (fuel + 1) (Nat.lt_succ_of_le (Nat.le_trans hfront hfuel))

/-- A list is read by its first character. -/
theorem read_list (cs : List Char) : d.list.read cs =
    match skipBlank cs with
    | [] => .error .truncated
    | c :: tail =>
      if c = '[' then
        (foldItems (fun items cs => (d.read cs).map fun p => (p.1 :: items, p.2))
          (tail.length + 1) true [] tail).map fun p => (p.1.reverse, p.2)
      else .error (refusal (c :: tail)) :=
  rfl

theorem skips_list (h : Skips d.read) : Skips d.list.read := by
  refine skips_of_head _ _ (read_list d) ?_
  intro cs c tail a rest hcs hread
  split at hread
  next hbracket =>
    rw [hbracket] at hcs
    rcases (map_eq_ok_iff _ _ _).mp hread with ⟨⟨items, behind⟩, hloop, hpair⟩
    rw [← (Prod.mk.inj hpair).2]
    exact skip_array cs tail behind hcs fun fuel hfuel =>
      skip_items fuel _ (fun items => skips_of_map d.read (· :: items) h) _ fuel true [] items
        tail behind hfuel hfuel hloop
  · cases hread

/-- Where an array is closed there are no more items. -/
theorem nextItem_of_closeArray (first : Bool) (cs rest : List Char)
    (h : closeArray cs = .ok rest) : nextItem first cs = .ok none := by
  unfold closeArray at h
  rw [nextItem]
  cases hcs : skipBlank cs with
  | nil =>
      rw [hcs] at h
      cases h
  | cons c tail =>
      rw [hcs] at h
      dsimp only at h ⊢
      split at h
      next hclose => rw [if_pos hclose]
      · cases h

/-- The items that a list is read into come on top of those that are there. -/
theorem items_of_list (fuel : Nat) (first : Bool) (items items' : List α) (cs rest : List Char)
    (h : foldItems (fun items cs => (d.read cs).map fun p => (p.1 :: items, p.2)) fuel first items
      cs = .ok (items', rest)) : ∃ added, items' = added ++ items := by
  induction fuel generalizing first items cs with
  | zero => cases h
  | succ fuel ih =>
      rcases (foldItems_eq_ok_iff _ _ _ _ _ _ _).mp h with ⟨_, _, hitems⟩ |
        ⟨front, items₁, tail, _, hread, hothers⟩
      · exact ⟨[], hitems.symm⟩
      · rcases (map_eq_ok_iff _ _ _).mp hread with ⟨⟨a, behind⟩, _, hpair⟩
        rcases ih false items₁ tail hothers with ⟨added, hadded⟩
        refine ⟨added ++ [a], ?_⟩
        rw [hadded, ← (Prod.mk.inj hpair).1, List.append_assoc]
        rfl

/-- Where the items of a list are one, it is read and the array is closed behind it. -/
theorem item_of_singleton (fuel : Nat) (first : Bool) (a : α) (cs rest : List Char)
    (h : foldItems (fun items cs => (d.read cs).map fun p => (p.1 :: items, p.2)) fuel first []
      cs = .ok ([a], rest)) :
    ∃ front behind, nextItem first cs = .ok (some front) ∧ d.read front = .ok (a, behind) ∧
      closeArray behind = .ok rest := by
  cases fuel with
  | zero => cases h
  | succ fuel =>
      rcases (foldItems_eq_ok_iff _ _ _ _ _ _ _).mp h with ⟨_, _, hnone⟩ |
        ⟨front, items, behind, hnext, hitem, hothers⟩
      · exact absurd hnone.symm (List.cons_ne_nil a [])
      rcases (map_eq_ok_iff _ _ _).mp hitem with ⟨⟨a', behind'⟩, hread, hpair⟩
      rcases Prod.mk.inj hpair with ⟨hitems, hbehind⟩
      dsimp only at hitems hbehind
      rw [hbehind] at hread
      rw [← hitems] at hothers
      cases fuel with
      | zero => cases hothers
      | succ fuel =>
          rcases (foldItems_eq_ok_iff _ _ _ _ _ _ _).mp hothers with ⟨_, hclose, hone⟩ |
            ⟨_, items', behind₂, _, hitem', hothers'⟩
          · rw [List.cons.injEq] at hone
            rw [hone.1] at hread
            exact ⟨front, behind, hnext, hread, hclose⟩
          · -- Another item would make two of them.
            rcases (map_eq_ok_iff _ _ _).mp hitem' with ⟨_, _, hpair'⟩
            rcases items_of_list d fuel false items' [a] behind₂ rest hothers' with
              ⟨added, hadded⟩
            have hlength := congrArg List.length hadded
            rw [← (Prod.mk.inj hpair').1] at hlength
            simp at hlength

/-- A list of one item is that item between brackets. -/
theorem read_list_singleton (h : Skips d.read) (cs tail rest : List Char) (a : α)
    (hcs : skipBlank cs = '[' :: tail) :
    d.list.read cs = .ok ([a], rest) ↔ ∃ front behind, nextItem true tail = .ok (some front) ∧
      d.read front = .ok (a, behind) ∧ closeArray behind = .ok rest := by
  rw [read_list, hcs]
  dsimp only
  rw [if_pos rfl, map_eq_ok_iff]
  constructor
  · rintro ⟨⟨items, behind⟩, hloop, hpair⟩
    rcases Prod.mk.inj hpair with ⟨hitems, hrest⟩
    dsimp only at hitems hrest
    rw [List.reverse_eq_iff, List.reverse_singleton] at hitems
    rw [hitems, hrest] at hloop
    exact item_of_singleton d _ true a tail rest hloop
  · rintro ⟨front, behind, hnext, hitem, hclose⟩
    have hfront := length_nextItem tail front true hnext
    have hlength := (h front a behind hitem).1
    refine ⟨([a], rest), (foldItems_eq_ok_iff _ _ _ _ _ _ _).mpr (Or.inr ⟨front, [a], behind, hnext,
      (map_eq_ok_iff _ _ _).mpr ⟨(a, behind), hitem, rfl⟩, ?_⟩), rfl⟩
    cases hfuel : tail.length with
    | zero => omega
    | succ fuel =>
        exact (foldItems_eq_ok_iff _ _ _ _ _ _ _).mpr
          (Or.inl ⟨nextItem_of_closeArray false behind rest hclose, hclose, rfl⟩)

section Records

variable {σ : Type} (fields : List (Member σ))

/-- A record is read by its first character. -/
theorem read_record (start : σ) (cs : List Char) : (record fields start).read cs =
    match skipBlank cs with
    | [] => .error .truncated
    | c :: tail =>
      if c = '\x7b' then
        match foldMembers (readMember fields) (tail.length + 1) true ⟨start, []⟩ tail with
        | .error e => .error e
        | .ok (d, rest) =>
          match finishDraft fields d with
          | some s => .ok (s, rest)
          | none => .error .mismatch
      else if c = '[' then
        match readItems fields true start tail with
        | .error e => .error e
        | .ok (s, rest) => (closeArray rest).map fun rest => (s, rest)
      else .error (refusal (c :: tail)) :=
  rfl

variable (hfields : ∀ f ∈ fields, Skips f.store.read)

include hfields

/-- A member of a record is passed over, by its field or without one. -/
theorem skips_readMember (draft : Draft σ) (key : String) (reader : Reader (Draft σ))
    (h : readMember fields draft key = .ok reader) : Skips reader := by
  have hother : Skips fun cs => (skipValue cs).map fun p => (draft, p.2) :=
    skips_of_map skipValue (fun _ => draft) skips_skipValue
  unfold readMember at h
  cases hindex : fieldIndex key fields with
  | none =>
      rw [hindex] at h
      rw [← Except.ok.inj h]
      exact hother
  | some i =>
      rw [hindex] at h
      dsimp only at h
      split at h
      · cases h
      cases hfield : fields[i]? with
      | none =>
          rw [hfield] at h
          rw [← Except.ok.inj h]
          exact hother
      | some f =>
          rw [hfield] at h
          rw [← Except.ok.inj h]
          exact skips_of_map f.store.read
            (fun set => (⟨set draft.value, i :: draft.seen⟩ : Draft σ))
            (hfields f (List.mem_of_getElem? hfield))

/-- A record that is written as an array is passed over as an array. -/
theorem skip_readItems (n m : Nat) (first : Bool) (s s' : σ) (cs tail rest : List Char)
    (hn : cs.length < n) (hm : cs.length < m)
    (h : readItems fields first s cs = .ok (s', tail)) (hclose : closeArray tail = .ok rest) :
    rest.length < cs.length ∧
      foldItems (fun _ tail => skipWith n tail) m first () cs = .ok ((), rest) := by
  -- A field whose item is missing takes nothing from the text, so the loop that skips
  -- stays where it is until the next field finds one.
  induction fields generalizing m first s cs with
  | nil =>
      rw [readItems, Except.ok.injEq, Prod.mk.injEq] at h
      rw [← h.2] at hclose
      refine ⟨length_closeArray cs rest hclose, ?_⟩
      cases m with
      | zero => exact absurd hm (Nat.not_lt_zero _)
      | succ m =>
          rw [foldItems_eq_ok_iff]
          exact Or.inl ⟨nextItem_of_closeArray first cs rest hclose, hclose, rfl⟩
  | cons f fields ih =>
      rw [readItems] at h
      have hothers := ih fun f hf => hfields f (List.mem_cons_of_mem _ hf)
      cases hnext : nextItem first cs with
      | error e =>
          rw [hnext] at h
          cases h
      | ok next =>
          rw [hnext] at h
          cases next with
          | none =>
              dsimp only at h
              split at h
              · cases h
              · exact hothers m first s cs hn hm h
          | some cs' =>
              dsimp only at h
              cases hread : f.store.read cs' with
              | error e =>
                  rw [hread] at h
                  cases h
              | ok stored =>
                  rcases stored with ⟨set, behind⟩
                  rw [hread] at h
                  cases m with
                  | zero => exact absurd hm (Nat.not_lt_zero _)
                  | succ m =>
                      have hfront := length_nextItem cs cs' first hnext
                      rcases hfields f List.mem_cons_self cs' set behind hread with
                        ⟨hlength, hskip⟩
                      rcases hothers m false (set s) behind (by omega) (by omega) h with
                        ⟨hrest, hloop⟩
                      rw [foldItems_eq_ok_iff]
                      exact ⟨by omega, Or.inr ⟨cs', (), behind, hnext, hskip n (by omega), hloop⟩⟩

/-- A record is passed over, as an object and as an array. -/
theorem skips_record (start : σ) : Skips (record fields start).read := by
  refine skips_of_head _ _ (read_record fields start) ?_
  intro cs c tail s rest hcs hread
  split at hread
  next hbrace =>
    rw [hbrace] at hcs
    cases hloop : foldMembers (readMember fields) (tail.length + 1) true ⟨start, []⟩ tail with
    | error e =>
        rw [hloop] at hread
        cases hread
    | ok read =>
        rcases read with ⟨draft, behind⟩
        rw [hloop] at hread
        dsimp only at hread
        cases hfinish : finishDraft fields draft with
        | none =>
            rw [hfinish] at hread
            cases hread
        | some value =>
            rw [hfinish] at hread
            rw [← (Prod.mk.inj (Except.ok.inj hread)).2]
            exact skip_object cs tail behind hcs fun fuel hfuel =>
              skip_members fuel (readMember fields) (skips_readMember fields hfields) _ fuel true
                _ draft tail behind hfuel hfuel hloop
  next hbrace =>
    split at hread
    next hbracket =>
      rw [hbracket] at hcs
      cases hitems : readItems fields true start tail with
      | error e =>
          rw [hitems] at hread
          cases hread
      | ok read =>
          rcases read with ⟨value, behind⟩
          rw [hitems] at hread
          rcases (map_eq_ok_iff _ _ _).mp hread with ⟨after, hclose, hpair⟩
          rw [← (Prod.mk.inj hpair).2]
          exact skip_array cs tail after hcs fun fuel hfuel =>
            skip_readItems fields hfields fuel fuel true start value tail behind after hfuel hfuel
              hitems hclose
    · cases hread

end Records

end Decoder

section Numbers

variable (atEnd atEnd' : Fault) (cs rest : List Char)

theorem readWhole_of_ok (n : Nat) (h : readWhole atEnd cs = .ok (n, rest)) :
    readWhole atEnd' cs = .ok (n, rest) := by
  unfold readWhole at h ⊢
  split at h
  · cases h
  · cases h
  · exact h

theorem readFraction_of_ok (ds : List Digit) (h : readFraction atEnd cs = .ok (ds, rest)) :
    readFraction atEnd' cs = .ok (ds, rest) := by
  unfold readFraction at h ⊢
  grind

theorem readExponent_of_ok (e : Option Exponent) (h : readExponent atEnd cs = .ok (e, rest)) :
    readExponent atEnd' cs = .ok (e, rest) := by
  unfold readExponent at h ⊢
  grind

/-- How a number that breaks off is told makes no difference to one that does not. -/
theorem scanNumber_of_ok (n : Number) (h : scanNumber atEnd cs = .ok (n, rest)) :
    scanNumber atEnd' cs = .ok (n, rest) := by
  unfold scanNumber at h ⊢
  dsimp only at h ⊢
  rw [bind_eq_ok_iff] at h ⊢
  rcases h with ⟨⟨whole, behindWhole⟩, hwhole, h⟩
  refine ⟨_, readWhole_of_ok atEnd atEnd' _ _ whole hwhole, ?_⟩
  rw [bind_eq_ok_iff] at h ⊢
  rcases h with ⟨⟨fraction, behindPoint⟩, hfraction, h⟩
  refine ⟨_, readFraction_of_ok atEnd atEnd' _ _ fraction hfraction, ?_⟩
  rw [bind_eq_ok_iff] at h ⊢
  rcases h with ⟨⟨exponent, behindExponent⟩, hexponent, h⟩
  exact ⟨_, readExponent_of_ok atEnd atEnd' _ _ exponent hexponent, h⟩

/-- A number in range is one in any case. -/
theorem scanNumber_of_readNumber (n : Number) (h : readNumber cs = .ok (n, rest)) :
    scanNumber atEnd cs = .ok (n, rest) := by
  unfold readNumber at h
  rcases (bind_eq_ok_iff _ _ _).mp h with ⟨⟨number, behind⟩, hscan, hfinite⟩
  dsimp only at hfinite
  split at hfinite
  · rw [← Except.ok.inj hfinite]
    exact scanNumber_of_ok .truncated atEnd cs behind number hscan
  · cases hfinite

end Numbers

namespace Value

section Heads

variable (fuel room : Nat) (cs tail rest : List Char) (v : Value)

theorem readWith_bracket (h : skipBlank cs = '[' :: tail) : readWith (fuel + 1) room cs =
    if room = 0 then .error .malformed
    else (foldItems
      (fun items cs => (readWith fuel (room - 1) cs).map fun p => (p.1 :: items, p.2))
      fuel true [] tail).map fun p => (.array p.1.reverse, p.2) := by
  rw [readWith, h]
  rfl

theorem readWith_brace (h : skipBlank cs = '\x7b' :: tail) : readWith (fuel + 1) room cs =
    if room = 0 then .error .malformed
    else (foldMembers
      (fun members key => .ok fun cs =>
        (readWith fuel (room - 1) cs).map fun p => (putMember key p.1 members, p.2))
      fuel true [] tail).map fun p => (.object p.1, p.2) := by
  rw [readWith, h]
  rfl

/-- A value that was made of something else than members is no object. -/
theorem made_of_map {α : Type} (f : α → Value) (hf : ∀ a members, f a ≠ .object members)
    (x : Except Fault (α × List Char)) (h : x.map (fun p => (f p.1, p.2)) = .ok (v, rest)) :
    ∃ a, x = .ok (a, rest) ∧ ∀ members, v ≠ .object members := by
  rcases (map_eq_ok_iff _ _ _).mp h with ⟨⟨a, behind⟩, hread, hpair⟩
  rcases Prod.mk.inj hpair with ⟨rfl, rfl⟩
  exact ⟨a, hread, hf a⟩

/-- What is no container is passed over as it is read, and is no object. -/
theorem skip_scalar (c : Char) (hcs : skipBlank cs = c :: tail) (hbracket : c ≠ '[')
    (hbrace : c ≠ '\x7b') (h : readWith (fuel + 1) room cs = .ok (v, rest)) :
    skipWith (fuel + 1) cs = .ok ((), rest) ∧ ∀ members, v ≠ .object members := by
  have hword : ∀ word a, (∀ members, a ≠ Value.object members) →
      (readWord word tail).map (fun p => (a, p.2)) = .ok (v, rest) →
      readWord word tail = .ok ((), rest) ∧ ∀ members, v ≠ .object members := by
    intro word a ha hread
    rcases made_of_map rest v (fun _ => a) (fun _ => ha) _ hread with ⟨_, hskip, hv⟩
    exact ⟨hskip, hv⟩
  rw [readWith, hcs] at h
  rw [skipWith, hcs]
  simp only [if_neg hbracket, if_neg hbrace] at h ⊢
  split at h
  next hnull =>
    rw [if_pos hnull]
    exact hword _ .null (fun _ => Value.noConfusion) h
  next hnull =>
  rw [if_neg hnull]
  split at h
  next htrue =>
    rw [if_pos htrue]
    exact hword _ (.bool true) (fun _ => Value.noConfusion) h
  next htrue =>
  rw [if_neg htrue]
  split at h
  next hfalse =>
    rw [if_pos hfalse]
    exact hword _ (.bool false) (fun _ => Value.noConfusion) h
  next hfalse =>
  rw [if_neg hfalse]
  split at h
  next hnumber =>
    rcases made_of_map rest v .number (fun _ _ => Value.noConfusion) _ h with ⟨n, hread, hv⟩
    rw [if_pos hnumber, scanNumber_of_readNumber .malformed _ _ n hread]
    exact ⟨rfl, hv⟩
  next hnumber =>
  rw [if_neg hnumber]
  split at h
  next hquote =>
    rcases made_of_map rest v .text (fun _ _ => Value.noConfusion) _ h with ⟨text, hread, hv⟩
    rw [if_pos hquote, skipLiteral_of_read tail rest text hread]
    exact ⟨rfl, hv⟩
  next => cases h

end Heads

/-- The next member of an object is passed over if its value is. -/
theorem skips_putMember (value : Reader Value) (hvalue : Skips value)
    (members : List (String × Value)) (key : String) (reader : Reader (List (String × Value)))
    (h : (Except.ok fun cs => (value cs).map fun p => (putMember key p.1 members, p.2)) =
      (.ok reader : Except Fault (Reader (List (String × Value))))) : Skips reader := by
  rw [← Except.ok.inj h]
  exact Decoder.skips_of_map value (putMember key · members) hvalue

/-- Whatever is read as a value is passed over. -/
theorem skips_readWith (fuel room : Nat) : Skips (readWith fuel room) := by
  -- A container reads its parts with one fuel less. So these are passed over, and the loop
  -- over them is a loop that passes over.
  induction fuel generalizing room with
  | zero => intro cs v rest h; cases h
  | succ fuel ih =>
      intro cs v rest h
      cases hcs : skipBlank cs with
      | nil =>
          rw [readWith, hcs] at h
          cases h
      | cons c tail =>
          by_cases hbracket : c = '['
          · rw [hbracket] at hcs
            rw [readWith_bracket fuel room cs tail hcs] at h
            split at h
            · cases h
            rcases (map_eq_ok_iff _ _ _).mp h with ⟨⟨items, behind⟩, hloop, hpair⟩
            rw [← (Prod.mk.inj hpair).2]
            rcases skip_array cs tail behind hcs fun n hn =>
              skip_items n _ (fun items => Decoder.skips_of_map _ (· :: items) (ih _)) fuel n true
                [] items tail behind hn hn hloop with ⟨hlength, hskip⟩
            exact ⟨hlength, skipWith_of_succ cs behind hskip⟩
          by_cases hbrace : c = '\x7b'
          · rw [hbrace] at hcs
            rw [readWith_brace fuel room cs tail hcs] at h
            split at h
            · cases h
            rcases (map_eq_ok_iff _ _ _).mp h with ⟨⟨members, behind⟩, hloop, hpair⟩
            rw [← (Prod.mk.inj hpair).2]
            rcases skip_object cs tail behind hcs fun n hn =>
              skip_members n _ (skips_putMember _ (ih _)) fuel n true [] members tail behind hn hn
                hloop with ⟨hlength, hskip⟩
            exact ⟨hlength, skipWith_of_succ cs behind hskip⟩
          · have hskip := (skip_scalar fuel room cs tail rest v c hcs hbracket hbrace h).1
            refine ⟨length_scalar fuel cs tail rest c () hcs hbracket hbrace hskip,
              skipWith_of_succ cs rest fun n _ => ?_⟩
            rw [skipWith_scalar n cs tail c hcs hbracket hbrace fuel]
            exact hskip

end Value

end Json

end FleetBoard
