import FleetBoard.Json.Decoder
import FleetBoard.Proofs.ReadBack

/-!
# The Two Routes of a Decoder

A decoder reads an expected shape from a value that has been read already, or straight
from a text. The two routes have little in common. One knows the members of an object
only once, the other meets them one by one. One has no fuel and no blanks, and skips
nothing. Still they agree on every value in which no key is repeated, from whatever
layout it is read: `Decoder.Agrees` says so of one decoder, and each way to build a
decoder from others keeps it.

A value that a reader of any values would refuse makes no difference. What a decoder
asks for is never nested too deeply and never out of range, and the rest is skipped.

## Main definitions

* `Head`: What a text of a value begins with.
* `Decoder.Agrees`: The two routes agree.

## Theorems

* `head_write_append`: A value is told by its first character.
* `isFinite_of_natural?`: A natural number of moderate size is in range.
* `agrees_text`, `agrees_flag`, `agrees_natural`: The routes agree on plain values.
* `agrees_map`, `agrees_optional`, `agrees_list`, `agrees_dictionary`,
  `agrees_record`: They agree on what is built from others.
-/

namespace FleetBoard

namespace Json

/-- What a text of a value begins with: every kind of value has its own
    characters. -/
structure Head (v : Value) (c : Char) : Prop where
  null : c = 'n' ↔ v = .null
  yes : c = 't' ↔ v = .bool true
  no : c = 'f' ↔ v = .bool false
  number : (c = '-' ∨ (digit? c).isSome = true) ↔ ∃ n, v = .number n
  text : c = '"' ↔ ∃ s, v = .text s
  array : c = '[' ↔ ∃ items, v = .array items
  object : c = '\x7b' ↔ ∃ members, v = .object members

theorem head_write_append (l : Layout) (depth : Nat) (v : Value) (rest cs : List Char) (c : Char)
    (h : v.write l depth ++ rest = c :: cs) : Head v c := by
  cases v with
  | null =>
      have hdigit : digit? 'n' = none := by decide
      rw [← (List.cons.inj h).1]
      constructor <;> simp [hdigit]
  | bool b =>
      cases b with
      | true =>
          have hdigit : digit? 't' = none := by decide
          rw [← (List.cons.inj h).1]
          constructor <;> simp [hdigit]
      | false =>
          have hdigit : digit? 'f' = none := by decide
          rw [← (List.cons.inj h).1]
          constructor <;> simp [hdigit]
  | number n =>
      rcases head_render n with ⟨d, tail, hwritten, hd⟩
      rw [Value.write, hwritten, List.cons_append] at h
      rw [(List.cons.inj h).1] at hd
      rcases number_head c hd with ⟨hn, ht, hf, hquote, hbracket, hbrace, _⟩
      constructor <;> simp [hn, ht, hf, hquote, hbracket, hbrace, hd]
  | text s =>
      have hdigit : digit? '"' = none := by decide
      rw [← (List.cons.inj h).1]
      constructor <;> simp [hdigit]
  | array items =>
      have hdigit : digit? '[' = none := by decide
      rw [← (List.cons.inj h).1]
      constructor <;> simp [hdigit]
  | object members =>
      have hdigit : digit? '\x7b' = none := by decide
      rw [← (List.cons.inj h).1]
      constructor <;> simp [hdigit]

/-- A reader that looks at the first character reads a value as it does from there. -/
theorem readsAs_of_body {α : Type} (reader : Reader α)
    (body : Char → List Char → Except Fault (α × List Char))
    (hreader : ∀ cs, reader cs = match skipBlank cs with
      | [] => .error .truncated
      | c :: tail => body c tail)
    (v : Value) (outcome : Option α)
    (hbody : ∀ l depth rest c cs, Ends rest → v.write l depth ++ rest = c :: cs → Head v c →
      (body c cs).toOption = outcome.map (·, rest)) : ReadsAs reader v outcome := by
  intro l depth blank rest hblank hrest
  rw [hreader, skipBlank_write l depth blank rest v hblank]
  rcases head_write l depth v with ⟨c, cs, hwritten, _⟩
  rw [hwritten, List.cons_append]
  have htext : v.write l depth ++ rest = c :: (cs ++ rest) := by
    rw [hwritten, List.cons_append]
  exact hbody l depth rest c (cs ++ rest) hrest htext (head_write_append l depth v rest _ c htext)

namespace Decoder

/-- The two routes of a decoder agree on every value in which no key is repeated. -/
def Agrees {α : Type} (d : Decoder α) : Prop :=
  ∀ v : Value, v.Distinct → ReadsAs d.read v (d.ofValue v)

theorem agrees_text : text.Agrees := by
  intro v _
  refine readsAs_of_body _ _ (fun _ => rfl) v _ fun l depth rest c cs _ htext hhead => ?_
  by_cases hc : c = '"'
  · rcases hhead.text.mp hc with ⟨s, hs⟩
    rw [hs, Value.write, renderLiteral_append] at htext
    rw [if_pos hc, ← (List.cons.inj htext).2, readLiteral_renderLiteral, hs]
    rfl
  · have hother : text.ofValue v = none := by
      cases v with
      | text s => exact absurd (hhead.text.mpr ⟨s, rfl⟩) hc
      | _ => rfl
    rw [if_neg hc, hother]
    rfl

theorem agrees_flag : flag.Agrees := by
  intro v _
  refine readsAs_of_body _ _ (fun _ => rfl) v _ fun l depth rest c cs _ htext hhead => ?_
  by_cases hyes : c = 't'
  · have hv := hhead.yes.mp hyes
    rw [hv] at htext ⊢
    rw [if_pos hyes, ← (List.cons.inj htext).2]
    rfl
  by_cases hno : c = 'f'
  · have hv := hhead.no.mp hno
    rw [hv] at htext ⊢
    rw [if_neg hyes, if_pos hno, ← (List.cons.inj htext).2]
    rfl
  · have hother : flag.ofValue v = none := by
      cases v with
      | bool b =>
          cases b with
          | true => exact absurd (hhead.yes.mpr rfl) hyes
          | false => exact absurd (hhead.no.mpr rfl) hno
      | _ => rfl
    rw [if_neg hyes, if_neg hno, hother]
    rfl

/-- Digits that fit are all taken into the significand. -/
theorem takeSignificand_of_lt (ds : List Digit) (s : Nat)
    (h : ds.foldl (fun n d => n * 10 + d.val) s < significandLimit) :
    takeSignificand s ds = (ds.foldl (fun n d => n * 10 + d.val) s, []) := by
  have hgrows : ∀ (ds : List Digit) (s : Nat), s ≤ ds.foldl (fun n d => n * 10 + d.val) s := by
    intro ds
    induction ds with
    | nil => exact fun s => Nat.le_refl s
    | cons d ds ih =>
        intro s
        have hnext := ih (s * 10 + d.val)
        rw [List.foldl_cons]
        omega
  induction ds generalizing s with
  | nil => rfl
  | cons d ds ih =>
      rw [List.foldl_cons] at h ⊢
      have hnext := hgrows ds (s * 10 + d.val)
      rw [takeSignificand, if_pos (by omega), ih _ h]

/-- A number of at most 53 bits is not rounded. -/
theorem roundDouble_of_lt (n : Nat) (h : n < Nat.pow 2 53) : roundDouble n = n := by
  by_cases hzero : n = 0
  · rw [hzero]
    rfl
  have hbits : n.log2 < 53 := (Nat.log2_lt hzero).mpr h
  have hexcess : n.log2 + 1 - 53 = 0 := by omega
  simp [roundDouble, hexcess, hzero, Nat.mod_one]

/-- A significand of at most 53 bits without an exponent is in range. -/
theorem isFiniteAt_zero (k : Nat) (hk : k < Nat.pow 2 53) : isFiniteAt k 0 = true := by
  have hone : roundDouble (Nat.pow 10 (Int.toNat 0)) = 1 := by decide
  have hlimit : Nat.pow 2 54 - 1 ≤ doubleOverflow := by
    -- The power is never evaluated: its exponent becomes a variable.
    unfold doubleOverflow
    generalize 970 = scale
    exact Nat.le_mul_of_pos_right _ (Nat.two_pow_pos scale)
  have hround : roundDouble k * roundDouble (Nat.pow 10 (Int.toNat 0)) < doubleOverflow := by
    rw [roundDouble_of_lt k hk, hone, Nat.mul_one]
    calc k < Nat.pow 2 53 := hk
      _ ≤ Nat.pow 2 54 - 1 := by decide
      _ ≤ doubleOverflow := hlimit
  rw [isFiniteAt]
  split
  · rfl
  · rw [if_neg (by decide)]
    exact decide_eq_true hround

/-- A natural number of moderate size is in range. -/
theorem isFinite_of_natural? (n : Number) (k : Nat) (h : n.natural? = some k)
    (hk : k < Nat.pow 2 53) : n.isFinite = true := by
  rcases n with ⟨negative, whole, fraction, exponent⟩
  have hparts : fraction = [] ∧ exponent = none ∧ whole = k := by
    simp only [Number.natural?, Bool.and_eq_true, List.isEmpty_iff, Option.isNone_iff_eq_none,
      Option.ite_none_right_eq_some, Option.some.injEq] at h
    exact ⟨h.1.1.2, h.1.2, h.2⟩
  rcases hparts with ⟨hfraction, hexponent, hwhole⟩
  rcases digitsOf_spec whole with ⟨d, ds, hdigits, hvalue, _⟩
  have hfits : (digitsOf whole).foldl (fun n d => n * 10 + d.val) 0 = k := by
    rw [hdigits, ← hwhole, ← hvalue, ofDigits]
  have hroom : Nat.pow 2 53 ≤ significandLimit := by decide
  have htake : takeSignificand 0 (digitsOf whole) = (k, []) := by
    rw [takeSignificand_of_lt _ 0 (by omega), hfits]
  simp only [Number.isFinite, htake, hfraction, hexponent, takeSignificand]
  exact isFiniteAt_zero k hk

theorem agrees_natural (limit : Nat) (hlimit : limit < Nat.pow 2 53) : (natural limit).Agrees := by
  intro v _
  refine readsAs_of_body _ _ (fun _ => rfl) v _ fun l depth rest c cs hrest htext hhead => ?_
  by_cases hc : c = '-' ∨ (digit? c).isSome = true
  · rcases hhead.number.mp hc with ⟨n, hn⟩
    rw [hn, Value.write] at htext
    rw [if_pos hc, ← htext, readNumber_render rest n hrest, hn]
    -- A number out of range is not asked for anyway.
    have hrange : ∀ k, boundedNatural limit n = some k → n.isFinite = true := by
      intro k hk
      rw [boundedNatural, Option.filter_eq_some_iff] at hk
      exact isFinite_of_natural? n k hk.1 (Nat.lt_of_le_of_lt (of_decide_eq_true hk.2) hlimit)
    change _ = (boundedNatural limit n).map _
    cases hbounded : boundedNatural limit n with
    | none =>
        cases n.isFinite with
        | false => rfl
        | true =>
            rw [if_pos rfl]
            simp only [hbounded]
            rfl
    | some k =>
        rw [if_pos (hrange k hbounded)]
        simp only [hbounded]
        rfl
  · have hother : (natural limit).ofValue v = none := by
      cases v with
      | number n => exact absurd (hhead.number.mpr ⟨n, rfl⟩) hc
      | _ => rfl
    rw [if_neg hc, hother]
    rfl

variable {α β : Type} (d : Decoder α) (hd : d.Agrees)

include hd

theorem agrees_map (f : α → β) : (d.map f).Agrees := by
  intro v hv l depth blank rest hblank hrest
  change ((d.read _).map _).toOption = ((d.ofValue v).map f).map _
  rw [toOption_map, hd v hv l depth blank rest hblank hrest]
  cases d.ofValue v <;> rfl

theorem agrees_optional : d.optional.Agrees := by
  intro v hv
  refine readsAs_of_body _ _ (fun _ => rfl) v _ fun l depth rest c cs hrest htext hhead => ?_
  by_cases hc : c = 'n'
  · have hnull := hhead.null.mp hc
    rw [hnull] at htext ⊢
    rw [if_pos hc, ← (List.cons.inj htext).2]
    rfl
  · -- What is not null is left to the decoder, from the same character on.
    have hother : d.optional.ofValue v = (d.ofValue v).map some := by
      cases v with
      | null => exact absurd (hhead.null.mpr rfl) hc
      | _ => rfl
    rw [if_neg hc, toOption_map, ← htext, ← List.nil_append (v.write l depth ++ rest),
      hd v hv l depth [] rest blank_nil hrest, hother]
    cases d.ofValue v <;> rfl

theorem agrees_list : d.list.Agrees := by
  intro v hv
  refine readsAs_of_body _ _ (fun _ => rfl) v _ fun l depth rest c cs hrest htext hhead => ?_
  by_cases hc : c = '['
  · rcases hhead.array.mp hc with ⟨items, hitems⟩
    rw [hitems] at htext hv ⊢
    rw [Value.write_array_append] at htext
    have hcount := (length_writeItems l (depth + 1) true items).1
    rw [if_pos hc, toOption_map, ← (List.cons.inj htext).2,
      foldItems_write l (depth + 1) _ rest (l.blank_closing depth items.isEmpty) _
        (fun items v => (d.ofValue v).map fun a => a :: items) items ?_ _ true []
        (by rw [List.length_append]; omega),
      foldlM_items]
    · change _ = (items.mapM d.ofValue).map _
      cases items.mapM d.ofValue with
      | none => rfl
      | some as =>
          change some ((as.reverse ++ []).reverse, rest) = some (as, rest)
          rw [List.append_nil, List.reverse_reverse]
    · intro w hw s cs hcs
      rw [toOption_map, ← List.nil_append (w.write l (depth + 1) ++ cs),
        hd w (hv.items w hw) l (depth + 1) [] cs blank_nil hcs]
      cases d.ofValue w <;> rfl
  · have hother : d.list.ofValue v = none := by
      cases v with
      | array items => exact absurd (hhead.array.mpr ⟨items, rfl⟩) hc
      | _ => rfl
    rw [if_neg hc, hother]
    rfl

theorem agrees_dictionary : d.dictionary.Agrees := by
  intro v hv
  refine readsAs_of_body _ _ (fun _ => rfl) v _ fun l depth rest c cs hrest htext hhead => ?_
  by_cases hc : c = '\x7b'
  · rcases hhead.object.mp hc with ⟨members, hmembers⟩
    rw [hmembers] at htext hv ⊢
    rw [Value.write_object_append] at htext
    have hcount := (length_writeMembers l (depth + 1) true members).1
    rw [if_pos hc, toOption_map, ← (List.cons.inj htext).2,
      foldMembers_write l (depth + 1) _ rest (l.blank_closing depth members.isEmpty) _
        (fun members m => (d.ofValue m.2).map fun a => putMember m.1 a members) members ?_ _ true []
        (by rw [List.length_append]; omega),
      foldlM_members d.ofValue members [] hv.members.1 (fun _ _ _ h => absurd h List.not_mem_nil)]
    · change _ = Option.map _ (Option.map _ (members.mapM fun m =>
        (d.ofValue m.2).map fun a => (m.1, a)))
      cases members.mapM fun m => (d.ofValue m.2).map fun a => (m.1, a) <;> rfl
    · intro m hm s cs hcs
      change (Except.map _ (d.read _)).toOption = _
      rw [toOption_map, hd m.2 (hv.members.2 m hm) l (depth + 1) l.gap cs l.blank_gap hcs]
      cases d.ofValue m.2 <;> rfl
  · have hother : d.dictionary.ofValue v = none := by
      cases v with
      | object members => exact absurd (hhead.object.mpr ⟨members, rfl⟩) hc
      | _ => rfl
    rw [if_neg hc, hother]
    rfl

omit hd

section Records

variable {σ : Type} (fields : List (Member σ)) (hfields : ∀ f ∈ fields, f.store.Agrees)

include hfields

/-- One member of a record, known or not, is taken alike. -/
theorem readMember_write (l : Layout) (depth : Nat) (m : String × Value) (hm : m.2.Distinct)
    (draft : Draft σ) (cs : List Char) (hcs : Ends cs) :
    ((readMember fields draft m.1).toOption.bind fun value =>
      (value (l.gap ++ (m.2.write l depth ++ cs))).toOption) =
      (takeMember fields draft m.1 m.2).map (·, cs) := by
  have hskip : ((skipValue (l.gap ++ (m.2.write l depth ++ cs))).map
      fun p => (draft, p.2)).toOption = some (draft, cs) := by
    rw [toOption_map, readsAs_skipValue m.2 l depth l.gap cs l.blank_gap hcs]
    rfl
  unfold readMember takeMember
  cases fieldIndex m.1 fields with
  | none => exact hskip
  | some i =>
      dsimp only
      by_cases hseen : draft.seen.contains i = true
      · rw [if_pos hseen, if_pos hseen]
        rfl
      rw [if_neg hseen, if_neg hseen]
      cases hfield : fields[i]? with
      | none => exact hskip
      | some f =>
          have hstore := hfields f (List.mem_of_getElem? hfield) m.2 hm l depth l.gap cs
            l.blank_gap hcs
          change (Except.map _ (f.store.read _)).toOption = _
          rw [toOption_map, hstore]
          dsimp only
          cases f.store.ofValue m.2 <;> rfl

omit hfields

/-- An array that goes on is not closed. -/
theorem closeArray_writeItems (l : Layout) (depth : Nat) (first : Bool) (v : Value)
    (vs : List Value) (cs : List Char) :
    (closeArray (Value.writeItems l depth first (v :: vs) ++ cs)).toOption = none := by
  rw [Value.writeItems, List.append_assoc, List.append_assoc, List.append_assoc, closeArray]
  cases first with
  | true =>
      rcases head_write l depth v with ⟨c, tail, hwritten, _, hclose⟩
      rw [separator, if_pos rfl, List.nil_append, skipBlank_write l depth _ _ v
        (l.blank_line depth), hwritten, List.cons_append]
      dsimp only
      rw [if_neg hclose]
      rfl
  | false => rfl

include hfields

/-- A record that is written as an array is read item by item. -/
theorem readItems_write (l : Layout) (depth : Nat) (blank rest : List Char) (hblank : Blank blank)
    (items : List Value) (hitems : ∀ v ∈ items, v.Distinct) (first : Bool) (s : σ) :
    ((readItems fields first s
        (Value.writeItems l depth first items ++ (blank ++ ']' :: rest))).toOption.bind fun p =>
      (closeArray p.2).toOption.map fun rest => (p.1, rest)) =
      (takeItems fields items s).map (·, rest) := by
  -- Induction on the fields, each of which takes the next item where there is one.
  induction fields generalizing items first s with
  | nil =>
      cases items with
      | nil =>
          change (closeArray (blank ++ ']' :: rest)).toOption.map _ = _
          rw [closeArray_close blank rest hblank]
          rfl
      | cons v vs =>
          change (closeArray _).toOption.map _ = _
          rw [closeArray_writeItems]
          rfl
  | cons f fields ih =>
      have hothers := ih fun g hg => hfields g (List.mem_cons_of_mem _ hg)
      cases items with
      | nil =>
          rw [Value.writeItems, List.nil_append, readItems, nextItem_close blank rest hblank first,
            takeItems]
          -- Items that are missing are made up for, but not for every field.
          cases f.neededInArray with
          | true => rfl
          | false => exact hothers [] hitems first s
      | cons v vs =>
          have hstore := hfields f List.mem_cons_self v (hitems v List.mem_cons_self) l depth [] _
            blank_nil (ends_writeItems l depth vs blank rest hblank)
          rw [List.nil_append] at hstore
          rw [Value.writeItems, List.append_assoc, List.append_assoc, List.append_assoc, readItems,
            nextItem_write l depth first v, takeItems]
          dsimp only
          cases hread : f.store.read _ with
          | error e =>
              rw [hread] at hstore
              rw [Option.map_eq_none_iff.mp hstore.symm]
              rfl
          | ok p =>
              rw [hread] at hstore
              rcases Option.map_eq_some_iff.mp hstore.symm with ⟨set, hset, hp⟩
              rw [hset, ← hp]
              exact hothers vs (fun w hw => hitems w (List.mem_cons_of_mem _ hw)) false (set s)

theorem agrees_record (start : σ) : (record fields start).Agrees := by
  intro v hv
  refine readsAs_of_body _ _ (fun _ => rfl) v _ fun l depth rest c cs hrest htext hhead => ?_
  by_cases hobject : c = '\x7b'
  · rcases hhead.object.mp hobject with ⟨members, hmembers⟩
    rw [hmembers] at htext hv ⊢
    rw [Value.write_object_append] at htext
    have hcount := (length_writeMembers l (depth + 1) true members).1
    have hfold := foldMembers_write l (depth + 1) _ rest (l.blank_closing depth members.isEmpty)
      (readMember fields) (fun d m => takeMember fields d m.1 m.2) members
      (fun m hm draft cs hcs =>
        readMember_write fields hfields l (depth + 1) m (hv.members.2 m hm) draft cs hcs)
      (cs.length + 1) true ⟨start, []⟩
      (by rw [← (List.cons.inj htext).2, List.length_append]; omega)
    rw [(List.cons.inj htext).2] at hfold
    rw [if_pos hobject]
    change _ = Option.map _ (Option.bind _ (finishDraft fields))
    cases hread : foldMembers (readMember fields) (cs.length + 1) true ⟨start, []⟩ cs with
    | error e =>
        rw [hread] at hfold
        rw [Option.map_eq_none_iff.mp hfold.symm]
        rfl
    | ok p =>
        rw [hread] at hfold
        rcases Option.map_eq_some_iff.mp hfold.symm with ⟨draft, hdraft, hp⟩
        rw [hdraft, ← hp]
        dsimp only [Option.bind_some]
        cases finishDraft fields draft <;> rfl
  by_cases harray : c = '['
  · rcases hhead.array.mp harray with ⟨items, hitems⟩
    rw [hitems] at htext hv ⊢
    rw [Value.write_array_append] at htext
    have hfold := readItems_write fields hfields l (depth + 1) _ rest
      (l.blank_closing depth items.isEmpty) items hv.items true start
    rw [(List.cons.inj htext).2] at hfold
    rw [if_neg hobject, if_pos harray]
    change _ = Option.map _ (takeItems fields items start)
    rw [← hfold]
    cases readItems fields true start cs with
    | error e => rfl
    | ok p => exact toOption_map _ _
  · have hother : (record fields start).ofValue v = none := by
      cases v with
      | array items => exact absurd (hhead.array.mpr ⟨items, rfl⟩) harray
      | object members => exact absurd (hhead.object.mpr ⟨members, rfl⟩) hobject
      | _ => rfl
    rw [if_neg hobject, if_neg harray, hother]
    rfl

end Records

end Decoder

end Json

end FleetBoard
