import FleetBoard.Proofs.Layout

/-!
# Values Read Back

A value that was written is read as the same value from every layout, unless it is
refused: because it is nested too deeply for the reader, or because a number of it is
out of range. The layout has no part in that. A key that is repeated would get the
last of its values, so the keys of every object have to differ.

A value that is only skipped is never refused, however deep it is and whatever its
numbers are.

## Main definitions

* `Value.Distinct`: No key is repeated, at any depth.
* `Value.readable`: A reader with so much room does not refuse the value.
* `ReadsAs`: What a reader makes of a value, in every layout.

## Theorems

* `foldlM_items`, `foldlM_members`: What is collected from items and members.
* `readWith_write`: A value is read back where it is readable.
* `skipWith_write`: Every value is skipped.
* `readWhole?_write`: A whole text is read as its value.
-/

namespace FleetBoard

namespace Json

namespace Value

/-- No key is repeated in an object, at any depth. -/
inductive Distinct : Value → Prop
  | null : Distinct .null
  | bool (b : Bool) : Distinct (.bool b)
  | number (n : Number) : Distinct (.number n)
  | text (s : String) : Distinct (.text s)
  | array (items : List Value) (hitems : ∀ v ∈ items, v.Distinct) : Distinct (.array items)
  | object (members : List (String × Value)) (hkeys : (members.map Prod.fst).Nodup)
      (hmembers : ∀ m ∈ members, m.2.Distinct) : Distinct (.object members)

theorem Distinct.items {items : List Value} (h : (Value.array items).Distinct) :
    ∀ v ∈ items, v.Distinct := by
  cases h with
  | array _ hitems => exact hitems

theorem Distinct.members {members : List (String × Value)} (h : (Value.object members).Distinct) :
    (members.map Prod.fst).Nodup ∧ ∀ m ∈ members, m.2.Distinct := by
  cases h with
  | object _ hkeys hmembers => exact ⟨hkeys, hmembers⟩

mutual

/-- A reader with so much room does not refuse the value: there are no more
    containers around each other, and the numbers are in range. -/
def readable (room : Nat) : Value → Bool
  | .null => true
  | .bool _ => true
  | .number n => n.isFinite
  | .text _ => true
  | .array items => room != 0 && readableItems (room - 1) items
  | .object members => room != 0 && readableMembers (room - 1) members

/-- A reader does not refuse any of the items. -/
def readableItems (room : Nat) : List Value → Bool
  | [] => true
  | v :: vs => v.readable room && readableItems room vs

/-- A reader does not refuse any of the values of the members. -/
def readableMembers (room : Nat) : List (String × Value) → Bool
  | [] => true
  | (_, v) :: ms => v.readable room && readableMembers room ms

end

/-- The value, if a reader with so much room does not refuse it. -/
def within (room : Nat) (v : Value) : Option Value :=
  if v.readable room then some v else none

theorem mapM_within (room : Nat) (vs : List Value) :
    vs.mapM (within room) = if readableItems room vs then some vs else none := by
  induction vs with
  | nil => rfl
  | cons v vs ih =>
      rw [List.mapM_cons, ih, within, readableItems]
      cases v.readable room <;> cases readableItems room vs <;> rfl

theorem mapM_within_members (room : Nat) (ms : List (String × Value)) :
    (ms.mapM fun m => (within room m.2).map fun v => (m.1, v)) =
      if readableMembers room ms then some ms else none := by
  induction ms with
  | nil => rfl
  | cons m ms ih =>
      rw [List.mapM_cons, ih, within, readableMembers]
      cases m.2.readable room <;> cases readableMembers room ms <;> rfl

end Value

section Collected

variable {α : Type} (g : Value → Option α)

/-- Items that are collected one by one are collected in their order. -/
theorem foldlM_items (vs : List Value) (before : List α) :
    vs.foldlM (fun items v => (g v).map fun a => a :: items) before =
      (vs.mapM g).map fun items => items.reverse ++ before := by
  induction vs generalizing before with
  | nil => rfl
  | cons v vs ih =>
      rw [List.foldlM_cons, List.mapM_cons]
      cases g v with
      | none => rfl
      | some a =>
          -- The items come up the wrong way round, and are turned at the end.
          change List.foldlM _ (a :: before) vs = _
          rw [ih (a :: before)]
          cases vs.mapM g with
          | none => rfl
          | some items =>
              change some (items.reverse ++ a :: before) = some ((a :: items).reverse ++ before)
              rw [List.reverse_cons, List.append_assoc, List.singleton_append]

theorem putMember_of_new (key : String) (a : α) (members : List (String × α))
    (h : ∀ m ∈ members, m.1 ≠ key) : putMember key a members = members ++ [(key, a)] := by
  induction members with
  | nil => rfl
  | cons m rest ih =>
      rw [putMember, if_neg (h m List.mem_cons_self),
        ih fun m hm => h m (List.mem_cons_of_mem _ hm)]
      rfl

/-- Members whose keys differ are collected one by one in their order. -/
theorem foldlM_members (ms : List (String × Value)) (before : List (String × α))
    (hkeys : (ms.map Prod.fst).Nodup) (hnew : ∀ m ∈ ms, ∀ b ∈ before, b.1 ≠ m.1) :
    ms.foldlM (fun members m => (g m.2).map fun a => putMember m.1 a members) before =
      (ms.mapM fun m => (g m.2).map fun a => (m.1, a)).map fun members => before ++ members := by
  induction ms generalizing before with
  | nil => exact congrArg some (List.append_nil before).symm
  | cons m ms ih =>
      rw [List.map_cons, List.nodup_cons] at hkeys
      rw [List.foldlM_cons, List.mapM_cons]
      cases g m.2 with
      | none => rfl
      | some a =>
          -- A new key is put behind the ones before, so the order is kept.
          change List.foldlM _ (putMember m.1 a before) ms = _
          rw [putMember_of_new m.1 a before (hnew m List.mem_cons_self), ih _ hkeys.2]
          · cases ms.mapM fun m => (g m.2).map fun a => (m.1, a) with
            | none => rfl
            | some members =>
                change some ((before ++ [(m.1, a)]) ++ members) =
                  some (before ++ (m.1, a) :: members)
                rw [List.append_assoc, List.singleton_append]
          · intro w hw b hb
            rcases List.mem_append.mp hb with hb | hb
            · exact hnew w (List.mem_cons_of_mem _ hw) b hb
            · rw [List.mem_singleton.mp hb]
              intro heq
              have hkey : w.1 ∈ ms.map Prod.fst := List.mem_map_of_mem hw
              rw [← heq] at hkey
              exact hkeys.1 hkey

/-- Nothing is collected from items that are skipped. -/
theorem foldlM_skip (vs : List Value) : vs.foldlM (fun _ _ => some ()) () = some () := by
  induction vs with
  | nil => rfl
  | cons v vs ih => exact ih

end Collected

section ReadBack

variable (l : Layout)

/-- A value that was written is read back, unless it is refused. -/
theorem readWith_write (v : Value) (hv : v.Distinct) (fuel room depth : Nat)
    (blank rest : List Char) (hblank : Blank blank) (hrest : Ends rest)
    (hfuel : (v.write l depth).length < fuel) :
    (Value.readWith fuel room (blank ++ (v.write l depth ++ rest))).toOption =
      (v.within room).map (·, rest) := by
  -- Induction on the value, for any fuel that is more than the length of the text. What is
  -- inside a container is shorter than it, so one unit less is enough for each of them.
  induction v using Value.ind generalizing fuel room depth blank rest
  all_goals
    rcases fuel with _ | fuel
    · exact absurd hfuel (Nat.not_lt_zero _)
    rw [Value.readWith, skipBlank_write l depth blank rest _ hblank]
  case null => rfl
  case bool b => cases b <;> rfl
  case number n =>
    rcases head_render n with ⟨c, cs, hwritten, hc⟩
    rcases number_head c hc with ⟨hn, ht, hf, _⟩
    have hread := readNumber_render rest n hrest
    rw [hwritten, List.cons_append] at hread
    rw [Value.write, hwritten, List.cons_append]
    dsimp only
    rw [if_neg hn, if_neg ht, if_neg hf, if_pos hc, hread, Value.within, Value.readable]
    cases n.isFinite <;> rfl
  case text s =>
    rw [Value.write, renderLiteral_append]
    change ((readLiteral _).map _).toOption = _
    rw [readLiteral_renderLiteral]
    rfl
  case array items ih =>
    have hitems := hv.items
    rw [Value.write, List.length_cons, List.length_append] at hfuel
    rcases length_writeItems l (depth + 1) true items with ⟨hcount, heach⟩
    rw [Value.write_array_append]
    change (if room = 0 then _ else _ : Except Fault _).toOption = _
    cases room with
    | zero => rfl
    | succ room =>
        rw [if_neg (Nat.succ_ne_zero room), toOption_map,
          foldItems_write l (depth + 1) _ rest (l.blank_closing depth items.isEmpty) _
            (fun items v => (v.within room).map fun v => v :: items) items ?_ fuel true []
            (by omega),
          foldlM_items, Value.mapM_within, Value.within, Value.readable]
        · change _ = Option.map _ (if Value.readableItems room items then _ else _)
          cases Value.readableItems room items with
          | false => rfl
          | true =>
              change some (Value.array (items.reverse ++ []).reverse, rest) = _
              rw [List.append_nil, List.reverse_reverse]
              rfl
        · -- Each item is read with one container less to spare.
          intro v hv s cs hcs
          have hlength := heach v hv
          rw [toOption_map, ← List.nil_append (v.write l (depth + 1) ++ cs), Nat.add_sub_cancel,
            ih v hv (hitems v hv) fuel room (depth + 1) [] cs blank_nil hcs (by omega)]
          cases v.within room <;> rfl
  case object members ih =>
    rcases hv.members with ⟨hkeys, hmembers⟩
    rw [Value.write, List.length_cons, List.length_append] at hfuel
    rcases length_writeMembers l (depth + 1) true members with ⟨hcount, heach⟩
    rw [Value.write_object_append]
    change (if room = 0 then _ else _ : Except Fault _).toOption = _
    cases room with
    | zero => rfl
    | succ room =>
        rw [if_neg (Nat.succ_ne_zero room), toOption_map,
          foldMembers_write l (depth + 1) _ rest (l.blank_closing depth members.isEmpty) _
            (fun members m => (m.2.within room).map fun v => putMember m.1 v members) members ?_
            fuel true [] (by omega),
          foldlM_members (Value.within room) members [] hkeys
            (fun _ _ _ h => absurd h List.not_mem_nil),
          Value.mapM_within_members, Value.within, Value.readable]
        · change _ = Option.map _ (if Value.readableMembers room members then _ else _)
          cases Value.readableMembers room members <;> rfl
        · intro m hm s cs hcs
          have hlength := heach m hm
          change (Except.map _ _).toOption = _
          rw [toOption_map, Nat.add_sub_cancel,
            ih m hm (hmembers m hm) fuel room (depth + 1) l.gap cs l.blank_gap hcs (by omega)]
          cases m.2.within room <;> rfl

/-- Every value that was written is skipped. -/
theorem skipWith_write (v : Value) (fuel depth : Nat) (blank rest : List Char)
    (hblank : Blank blank) (hrest : Ends rest) (hfuel : (v.write l depth).length < fuel) :
    skipWith fuel (blank ++ (v.write l depth ++ rest)) = .ok ((), rest) := by
  induction v using Value.ind generalizing fuel depth blank rest
  all_goals
    rcases fuel with _ | fuel
    · exact absurd hfuel (Nat.not_lt_zero _)
    rw [skipWith, skipBlank_write l depth blank rest _ hblank]
  case null => rfl
  case bool b => cases b <;> rfl
  case number n =>
    rcases head_render n with ⟨c, cs, hwritten, hc⟩
    rcases number_head c hc with ⟨hn, ht, hf, _⟩
    have hscan := scanNumber_render rest .malformed n hrest
    rw [hwritten, List.cons_append] at hscan
    rw [Value.write, hwritten, List.cons_append]
    dsimp only
    rw [if_neg hn, if_neg ht, if_neg hf, if_pos hc, hscan]
    rfl
  case text s =>
    rw [Value.write, renderLiteral_append]
    change (skipLiteral _).map _ = _
    rw [skipLiteral_renderLiteral]
    rfl
  case array items ih =>
    rw [Value.write, List.length_cons, List.length_append] at hfuel
    rcases length_writeItems l (depth + 1) true items with ⟨hcount, heach⟩
    rw [Value.write_array_append]
    change foldItems _ fuel true () _ = _
    rw [← toOption_eq_some_iff, foldItems_write l (depth + 1) _ rest
      (l.blank_closing depth items.isEmpty) _ (fun _ _ => some ()) items ?_ fuel true () (by omega),
      foldlM_skip]
    · rfl
    · intro v hv s cs hcs
      have hlength := heach v hv
      exact (toOption_eq_some_iff _ _).mpr
        (ih v hv fuel (depth + 1) [] cs blank_nil hcs (by omega))
  case object members ih =>
    rw [Value.write, List.length_cons, List.length_append] at hfuel
    rcases length_writeMembers l (depth + 1) true members with ⟨hcount, heach⟩
    rw [Value.write_object_append]
    change skipMembers _ fuel true _ = _
    refine skipMembers_write l (depth + 1) _ rest (l.blank_closing depth members.isEmpty) _ members
      (fun m hm cs hcs => ?_) fuel true (by omega)
    have hlength := heach m hm
    exact ih m hm fuel (depth + 1) l.gap cs l.blank_gap hcs (by omega)

end ReadBack

/-- What a reader makes of a value, from every layout and wherever it stands: it is
    refused, or read up to its end. -/
def ReadsAs {α : Type} (reader : Reader α) (v : Value) (outcome : Option α) : Prop :=
  ∀ (l : Layout) (depth : Nat) (blank rest : List Char), Blank blank → Ends rest →
    (reader (blank ++ (v.write l depth ++ rest))).toOption = outcome.map (·, rest)

/-- A whole text that was written is read as its value is. -/
theorem readWhole?_write {α : Type} (reader : Reader α) (v : Value) (outcome : Option α)
    (h : ReadsAs reader v outcome) (l : Layout) :
    (readWhole? reader (v.write l 0)).toOption = outcome := by
  have hread := h l 0 [] [] blank_nil ends_nil
  rw [List.nil_append, List.append_nil] at hread
  rw [readWhole?, toOption_bind, hread]
  cases outcome <;> rfl

theorem readsAs_read (v : Value) (hv : v.Distinct) :
    ReadsAs Value.read v (v.within nestingLimit) := by
  intro l depth blank rest hblank hrest
  refine readWith_write l v hv _ nestingLimit depth blank rest hblank hrest ?_
  simp only [List.length_append]
  omega

theorem readsAs_skipValue (v : Value) : ReadsAs skipValue v (some ()) := by
  intro l depth blank rest hblank hrest
  refine (toOption_eq_some_iff _ _).mpr (skipWith_write l v _ depth blank rest hblank hrest ?_)
  simp only [List.length_append]
  omega

end Json

end FleetBoard
