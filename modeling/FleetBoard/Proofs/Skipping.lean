import FleetBoard.Json.Decoder
import FleetBoard.Proofs.Layout

/-!
# Passing Over What Is Read

A value that nobody asked for is passed over by a reader of its own, which knows no
shapes. It is less strict than the others: codes need not pair up, numbers may be out of
range, and nothing is nested too deeply for it. What another reader accepts should be
passed over to the same place, or the two would disagree on where a value ends.

That is a property of readers, and containers hand it on. A loop over items or members
that are passed over one by one is itself passed over, keys and all.

Fuel is the length of the text. Every value takes at least one character off the front,
so any fuel that is longer than the text does as well as another.

## Main definitions

* `LiteralState.skipped`: What a state of a literal is where codes are not paired up.
* `Skips`: Whatever a reader accepts is passed over.

## Theorems

* `skipLiteral_of_read`: A literal that is read is skipped.
* `skip_items`, `skip_members`: A container whose parts are passed over is too.
* `skips_skipValue`: Any fuel will do.
-/

namespace FleetBoard

namespace Json

section Outcomes

variable {ε α β : Type}

theorem bind_eq_ok_iff (x : Except ε α) (f : α → Except ε β) (b : β) :
    x >>= f = .ok b ↔ ∃ a, x = .ok a ∧ f a = .ok b := by
  rw [← toOption_eq_some_iff, toOption_bind, Option.bind_eq_some_iff]
  simp only [toOption_eq_some_iff]

theorem map_eq_ok_iff (x : Except ε α) (f : α → β) (b : β) :
    x.map f = .ok b ↔ ∃ a, x = .ok a ∧ f a = b := by
  rw [← toOption_eq_some_iff, toOption_map, Option.map_eq_some_iff]
  simp only [toOption_eq_some_iff]

end Outcomes

section Lengths

variable (cs rest : List Char)

theorem length_skipBlank : (skipBlank cs).length ≤ cs.length :=
  (List.dropWhile_sublist isSpace).length_le

theorem length_of_skipBlank (c : Char) (h : skipBlank cs = c :: rest) :
    rest.length < cs.length := by
  have hlength := length_skipBlank cs
  rw [h, List.length_cons] at hlength
  exact hlength

theorem isSpace_of_skipBlank (c : Char) (h : skipBlank cs = c :: rest) : isSpace c = false := by
  have hhead := List.head?_dropWhile_not isSpace cs
  rw [← skipBlank, h] at hhead
  exact hhead

/-- A mark that has to stand behind blanks is taken off with them. -/
theorem length_of_mark (mark : Char)
    (h : (match skipBlank cs with
      | [] => .error .truncated
      | c :: rest => if c = mark then .ok rest else .error .malformed : Except Fault (List Char)) =
        .ok rest) : rest.length < cs.length := by
  cases hcs : skipBlank cs with
  | nil =>
      rw [hcs] at h
      cases h
  | cons c tail =>
      rw [hcs] at h
      dsimp only at h
      split at h
      · rw [← Except.ok.inj h]
        exact length_of_skipBlank cs tail c hcs
      · cases h

theorem length_readColon (h : readColon cs = .ok rest) : rest.length < cs.length :=
  length_of_mark cs rest ':' h

theorem length_closeArray (h : closeArray cs = .ok rest) : rest.length < cs.length :=
  length_of_mark cs rest ']' h

theorem length_closeObject (h : closeObject cs = .ok rest) : rest.length < cs.length :=
  length_of_mark cs rest '\x7d' h

theorem length_nextItem (first : Bool) (h : nextItem first cs = .ok (some rest)) :
    rest.length ≤ cs.length := by
  unfold nextItem at h
  have hlength := length_skipBlank cs
  cases hcs : skipBlank cs with
  | nil =>
      rw [hcs] at h
      cases h
  | cons c tail =>
      rw [hcs] at h hlength
      have htail := length_skipBlank tail
      rw [List.length_cons] at hlength
      grind

theorem length_nextKey (first : Bool) (h : nextKey first cs = .ok (some rest)) :
    rest.length < cs.length := by
  unfold nextKey at h
  have hlength := length_skipBlank cs
  cases hcs : skipBlank cs with
  | nil =>
      rw [hcs] at h
      cases h
  | cons c tail =>
      rw [hcs] at h hlength
      have htail := length_skipBlank tail
      rw [List.length_cons] at hlength
      grind

theorem length_readWord (word : List Char) (u : Unit) (h : readWord word cs = .ok (u, rest)) :
    cs.length = word.length + rest.length := by
  induction word generalizing cs with
  | nil =>
      rw [readWord, Except.ok.injEq, Prod.mk.injEq] at h
      rw [h.2, List.length_nil, Nat.zero_add]
  | cons w word ih =>
      cases cs with
      | nil => cases h
      | cons c tail =>
          rw [readWord] at h
          split at h
          · rw [List.length_cons, List.length_cons, ih tail h]
            omega
          · cases h

theorem length_readDigits :
    cs.length = (readDigits cs).1.length + (readDigits cs).2.length := by
  induction cs with
  | nil => rfl
  | cons c tail ih =>
      rw [readDigits]
      cases digit? c with
      | none => simp
      | some d =>
          simp only [List.length_cons]
          omega

theorem length_readWhole (atEnd : Fault) (n : Nat) (h : readWhole atEnd cs = .ok (n, rest)) :
    rest.length < cs.length := by
  have hlength := length_readDigits cs
  unfold readWhole at h
  grind

theorem length_readFraction (atEnd : Fault) (ds : List Digit)
    (h : readFraction atEnd cs = .ok (ds, rest)) : rest.length ≤ cs.length := by
  unfold readFraction at h
  split at h
  next tail =>
    have hlength := length_readDigits tail
    grind
  next => grind

theorem length_readExponent (atEnd : Fault) (e : Option Exponent)
    (h : readExponent atEnd cs = .ok (e, rest)) : rest.length ≤ cs.length := by
  cases cs with
  | nil =>
      rw [readExponent, Except.ok.injEq, Prod.mk.injEq] at h
      exact Nat.le_of_eq (congrArg List.length h.2.symm)
  | cons c tail =>
      have hsign : (readSign tail).2.length ≤ tail.length := by
        unfold readSign
        split <;> simp
      have hlength := length_readDigits (readSign tail).2
      rw [readExponent] at h
      grind

theorem length_behindSign :
    (match cs with
      | '-' :: rest => (true, rest)
      | _ => (false, cs) : Bool × List Char).2.length ≤ cs.length := by
  split <;> simp

theorem length_scanNumber (atEnd : Fault) (n : Number) (h : scanNumber atEnd cs = .ok (n, rest)) :
    rest.length < cs.length := by
  unfold scanNumber at h
  dsimp only at h
  rw [bind_eq_ok_iff] at h
  rcases h with ⟨⟨whole, behindWhole⟩, hwhole, h⟩
  rw [bind_eq_ok_iff] at h
  rcases h with ⟨⟨fraction, behindPoint⟩, hfraction, h⟩
  rw [bind_eq_ok_iff] at h
  rcases h with ⟨⟨exponent, behindExponent⟩, hexponent, h⟩
  have h₁ := length_readWhole _ _ _ _ hwhole
  have h₂ := length_readFraction _ _ _ _ hfraction
  have h₃ := length_readExponent _ _ _ _ hexponent
  rw [← (Prod.mk.inj (Except.ok.inj h)).2]
  exact Nat.lt_of_le_of_lt (Nat.le_trans h₃ h₂) (Nat.lt_of_lt_of_le h₁ (length_behindSign cs))

end Lengths

section Literals

/-- The state of a literal that is skipped: codes are not paired up, and what they come
    to is forgotten. -/
def LiteralState.skipped : LiteralState → LiteralState
  | .plain => .plain
  | .escape => .escape
  | .code missing _ _ => .code missing 0 none
  | .pairSlash _ => .plain
  | .pairLetter _ => .escape

/-- After a complete code a literal that is skipped goes on as before it. -/
theorem skipped_endCode (n : Nat) (high : Option Nat) (c : Option Char) (state : LiteralState)
    (h : endCode n high = .ok (c, state)) : state.skipped = .plain := by
  unfold endCode at h
  grind [LiteralState.skipped]

theorem consChar_eq_ok_iff (c : Char) (r : Except Fault (List Char × List Char))
    (s rest : List Char) :
    consChar c r = .ok (s, rest) ↔ ∃ tail, r = .ok (tail, rest) ∧ s = c :: tail := by
  rw [consChar, map_eq_ok_iff]
  grind

theorem skipLiteralFrom_plain (c : Char) (cs : List Char) :
    skipLiteralFrom .plain (c :: cs) =
      if c = '"' then .ok cs
      else if c = '\\' then skipLiteralFrom .escape cs
      else if c.toNat < 0x20 then .error .malformed
      else skipLiteralFrom .plain cs :=
  rfl

/-- A literal that is read is skipped, to the same place. -/
theorem skipLiteralFrom_of_read (state : LiteralState) (cs s rest : List Char)
    (h : readLiteralFrom state cs = .ok (s, rest)) :
    skipLiteralFrom state.skipped cs = .ok rest := by
  -- Both readers go character by character, and stay in states that belong together.
  induction cs generalizing state s with
  | nil => cases state <;> cases h
  | cons c cs ih =>
      cases state with
      | plain =>
          rw [readLiteralFrom] at h
          rw [LiteralState.skipped, skipLiteralFrom_plain]
          split at h
          next hquote => rw [if_pos hquote, (Prod.mk.inj (Except.ok.inj h)).2]
          next hquote =>
            rw [if_neg hquote]
            split at h
            next hslash =>
              rw [if_pos hslash]
              exact ih .escape s h
            next hslash =>
              rw [if_neg hslash]
              split at h
              · cases h
              next hcontrol =>
                rw [if_neg hcontrol]
                rcases (consChar_eq_ok_iff c _ s rest).mp h with ⟨tail, htail, _⟩
                exact ih .plain tail htail
      | escape =>
          rw [readLiteralFrom] at h
          rw [LiteralState.skipped, skipLiteralFrom]
          split at h
          next hcode =>
            rw [if_pos hcode]
            split at h
            next hbytes =>
              rw [if_pos hbytes]
              exact ih (.code 4 0 none) s h
            · cases h
          next hcode =>
            rw [if_neg hcode]
            cases hescaped : escaped? c with
            | none =>
                rw [hescaped] at h
                cases h
            | some e =>
                rw [hescaped] at h
                rcases (consChar_eq_ok_iff e _ s rest).mp h with ⟨tail, htail, _⟩
                exact ih .plain tail htail
      | code missing value high =>
          rw [readLiteralFrom] at h
          rw [LiteralState.skipped, skipLiteralFrom]
          cases hhex : hexValue? c with
          | none =>
              rw [hhex] at h
              cases h
          | some d =>
              rw [hhex] at h
              dsimp only at h ⊢
              split at h
              next hlast =>
                rw [if_pos hlast]
                cases hcode : endCode (value * 16 + d) high with
                | error e =>
                    rw [hcode] at h
                    cases h
                | ok ended =>
                    rcases ended with ⟨char, state⟩
                    have hplain := skipped_endCode _ _ _ _ hcode
                    rw [hcode] at h
                    rw [← hplain]
                    cases char with
                    | none => exact ih state s h
                    | some e =>
                        rcases (consChar_eq_ok_iff e _ s rest).mp h with ⟨tail, htail, _⟩
                        exact ih state tail htail
              next hlast =>
                rw [if_neg hlast]
                exact ih (.code (missing - 1) (value * 16 + d) high) s h
      | pairSlash high =>
          -- Only a backslash goes on, and it is one for the skipped literal as well.
          rw [readLiteralFrom] at h
          split at h
          next hslash =>
            rw [LiteralState.skipped, skipLiteralFrom_plain, hslash]
            exact ih (.pairLetter high) s h
          · cases h
      | pairLetter high =>
          rw [readLiteralFrom] at h
          rw [LiteralState.skipped, skipLiteralFrom]
          split at h
          next hcode =>
            rw [if_pos hcode]
            split at h
            next hbytes =>
              rw [if_pos hbytes]
              exact ih (.code 4 0 (some high)) s h
            · cases h
          · cases h

theorem skipLiteral_of_read (cs rest : List Char) (s : String)
    (h : readLiteral cs = .ok (s, rest)) : skipLiteral cs = .ok rest := by
  rcases (map_eq_ok_iff _ _ _).mp h with ⟨⟨read, tail⟩, hread, hpair⟩
  rw [← (Prod.mk.inj hpair).2]
  exact skipLiteralFrom_of_read .plain cs read tail hread

theorem length_skipLiteralFrom (state : LiteralState) (cs rest : List Char)
    (h : skipLiteralFrom state cs = .ok rest) : rest.length < cs.length := by
  induction cs generalizing state with
  | nil => cases state <;> cases h
  | cons c cs ih =>
      -- Every character but a closing quote leads on to the rest of the literal.
      have hon : ∀ next, skipLiteralFrom next cs = .ok rest → rest.length < (c :: cs).length :=
        fun next hnext => Nat.lt_succ_of_lt (ih next hnext)
      unfold skipLiteralFrom at h
      grind

end Literals

/-- Whatever a reader accepts takes at least one character, and is passed over to the
    same place with any fuel that is longer than the text. -/
def Skips {α : Type} (reader : Reader α) : Prop :=
  ∀ cs a rest, reader cs = .ok (a, rest) →
    rest.length < cs.length ∧ ∀ fuel, cs.length < fuel → skipWith fuel cs = .ok ((), rest)

section Rounds

variable {σ : Type} (fuel : Nat) (first : Bool) (s s' : σ) (cs rest : List Char)

/-- A loop over items that succeeds has come to the closing bracket, or it has read one
    item and goes on. -/
theorem foldItems_eq_ok_iff (item : σ → Reader σ) :
    foldItems item (fuel + 1) first s cs = .ok (s', rest) ↔
      (nextItem first cs = .ok none ∧ closeArray cs = .ok rest ∧ s = s') ∨
      ∃ front s₁ tail, nextItem first cs = .ok (some front) ∧ item s front = .ok (s₁, tail) ∧
        foldItems item fuel false s₁ tail = .ok (s', rest) := by
  rw [foldItems, bind_eq_ok_iff]
  constructor
  · rintro ⟨_ | front, hnext, h⟩
    · rcases (bind_eq_ok_iff _ _ _).mp h with ⟨tail, hclose, hend⟩
      rcases Prod.mk.inj (Except.ok.inj hend) with ⟨hstate, hrest⟩
      exact Or.inl ⟨hnext, by rw [hclose, hrest], hstate⟩
    · rcases (bind_eq_ok_iff _ _ _).mp h with ⟨⟨s₁, tail⟩, hread, hothers⟩
      exact Or.inr ⟨front, s₁, tail, hnext, hread, hothers⟩
  · rintro (⟨hnext, hclose, hstate⟩ | ⟨front, s₁, tail, hnext, hread, hothers⟩)
    · refine ⟨none, hnext, (bind_eq_ok_iff _ _ _).mpr ⟨rest, hclose, ?_⟩⟩
      rw [hstate]
      rfl
    · exact ⟨some front, hnext, (bind_eq_ok_iff _ _ _).mpr ⟨(s₁, tail), hread, hothers⟩⟩

/-- A loop over members that succeeds has come to the closing brace, or it has read one
    member and goes on. -/
theorem foldMembers_eq_ok_iff (member : σ → String → Except Fault (Reader σ)) :
    foldMembers member (fuel + 1) first s cs = .ok (s', rest) ↔
      (nextKey first cs = .ok none ∧ closeObject cs = .ok rest ∧ s = s') ∨
      ∃ front key behindKey reader value s₁ tail, nextKey first cs = .ok (some front) ∧
        readLiteral front = .ok (key, behindKey) ∧ member s key = .ok reader ∧
        readColon behindKey = .ok value ∧ reader value = .ok (s₁, tail) ∧
        foldMembers member fuel false s₁ tail = .ok (s', rest) := by
  rw [foldMembers, bind_eq_ok_iff]
  constructor
  · rintro ⟨_ | front, hnext, h⟩
    · rcases (bind_eq_ok_iff _ _ _).mp h with ⟨tail, hclose, hend⟩
      rcases Prod.mk.inj (Except.ok.inj hend) with ⟨hstate, hrest⟩
      exact Or.inl ⟨hnext, by rw [hclose, hrest], hstate⟩
    · rcases (bind_eq_ok_iff _ _ _).mp h with ⟨⟨key, behindKey⟩, hkey, h⟩
      rcases (bind_eq_ok_iff _ _ _).mp h with ⟨reader, hreader, h⟩
      rcases (bind_eq_ok_iff _ _ _).mp h with ⟨value, hcolon, h⟩
      rcases (bind_eq_ok_iff _ _ _).mp h with ⟨⟨s₁, tail⟩, hread, hothers⟩
      exact Or.inr ⟨front, key, behindKey, reader, value, s₁, tail, hnext, hkey, hreader, hcolon,
        hread, hothers⟩
  · rintro (⟨hnext, hclose, hstate⟩ |
      ⟨front, key, behindKey, reader, value, s₁, tail, hnext, hkey, hreader, hcolon, hread,
        hothers⟩)
    · refine ⟨none, hnext, (bind_eq_ok_iff _ _ _).mpr ⟨rest, hclose, ?_⟩⟩
      rw [hstate]
      rfl
    · refine ⟨some front, hnext, (bind_eq_ok_iff _ _ _).mpr ⟨(key, behindKey), hkey, ?_⟩⟩
      refine (bind_eq_ok_iff _ _ _).mpr ⟨reader, hreader, ?_⟩
      refine (bind_eq_ok_iff _ _ _).mpr ⟨value, hcolon, ?_⟩
      exact (bind_eq_ok_iff _ _ _).mpr ⟨(s₁, tail), hread, hothers⟩

/-- The same of a loop that skips the keys as well. -/
theorem skipMembers_eq_ok_iff (value : Reader Unit) :
    skipMembers value (fuel + 1) first cs = .ok ((), rest) ↔
      (nextKey first cs = .ok none ∧ closeObject cs = .ok rest) ∨
      ∃ front behindKey text tail, nextKey first cs = .ok (some front) ∧
        skipLiteral front = .ok behindKey ∧ readColon behindKey = .ok text ∧
        value text = .ok ((), tail) ∧ skipMembers value fuel false tail = .ok ((), rest) := by
  rw [skipMembers, bind_eq_ok_iff]
  constructor
  · rintro ⟨_ | front, hnext, h⟩
    · rcases (bind_eq_ok_iff _ _ _).mp h with ⟨tail, hclose, hend⟩
      exact Or.inl ⟨hnext, by rw [hclose, (Prod.mk.inj (Except.ok.inj hend)).2]⟩
    · rcases (bind_eq_ok_iff _ _ _).mp h with ⟨behindKey, hkey, h⟩
      rcases (bind_eq_ok_iff _ _ _).mp h with ⟨text, hcolon, h⟩
      rcases (bind_eq_ok_iff _ _ _).mp h with ⟨⟨_, tail⟩, hread, hothers⟩
      exact Or.inr ⟨front, behindKey, text, tail, hnext, hkey, hcolon, hread, hothers⟩
  · rintro (⟨hnext, hclose⟩ | ⟨front, behindKey, text, tail, hnext, hkey, hcolon, hread, hothers⟩)
    · exact ⟨none, hnext, (bind_eq_ok_iff _ _ _).mpr ⟨rest, hclose, rfl⟩⟩
    · refine ⟨some front, hnext, (bind_eq_ok_iff _ _ _).mpr ⟨behindKey, hkey, ?_⟩⟩
      refine (bind_eq_ok_iff _ _ _).mpr ⟨text, hcolon, ?_⟩
      exact (bind_eq_ok_iff _ _ _).mpr ⟨((), tail), hread, hothers⟩

end Rounds

section Loops

variable {σ : Type} (n : Nat)

/-- An array whose items are passed over is passed over. -/
theorem skip_items (item : σ → Reader σ) (hitem : ∀ s, Skips (item s)) (fuel m : Nat)
    (first : Bool) (s s' : σ) (cs rest : List Char) (hn : cs.length < n) (hm : cs.length < m)
    (h : foldItems item fuel first s cs = .ok (s', rest)) :
    rest.length < cs.length ∧
      foldItems (fun _ tail => skipWith n tail) m first () cs = .ok ((), rest) := by
  -- Every item takes at least one character, so fuel that is longer than the text lasts.
  induction fuel generalizing m first s cs with
  | zero => cases h
  | succ fuel ih =>
      cases m with
      | zero => exact absurd hm (Nat.not_lt_zero _)
      | succ m =>
          rw [foldItems_eq_ok_iff] at h ⊢
          rcases h with ⟨hnext, hclose, _⟩ | ⟨front, s₁, tail, hnext, hread, hothers⟩
          · exact ⟨length_closeArray cs rest hclose, Or.inl ⟨hnext, hclose, rfl⟩⟩
          · have hfront := length_nextItem cs front first hnext
            rcases hitem s front s₁ tail hread with ⟨hlength, hskip⟩
            rcases ih m false s₁ tail (by omega) (by omega) hothers with ⟨hrest, hloop⟩
            exact ⟨by omega, Or.inr ⟨front, (), tail, hnext, hskip n (by omega), hloop⟩⟩

/-- An object whose members are passed over is passed over, keys and all. -/
theorem skip_members (member : σ → String → Except Fault (Reader σ))
    (hmember : ∀ s key reader, member s key = .ok reader → Skips reader) (fuel m : Nat)
    (first : Bool) (s s' : σ) (cs rest : List Char) (hn : cs.length < n) (hm : cs.length < m)
    (h : foldMembers member fuel first s cs = .ok (s', rest)) :
    rest.length < cs.length ∧ skipMembers (skipWith n) m first cs = .ok ((), rest) := by
  induction fuel generalizing m first s cs with
  | zero => cases h
  | succ fuel ih =>
      cases m with
      | zero => exact absurd hm (Nat.not_lt_zero _)
      | succ m =>
          rw [foldMembers_eq_ok_iff] at h
          rw [skipMembers_eq_ok_iff]
          rcases h with ⟨hnext, hclose, _⟩ |
            ⟨front, key, behindKey, reader, value, s₁, tail, hnext, hkey, hreader, hcolon, hread,
              hothers⟩
          · exact ⟨length_closeObject cs rest hclose, Or.inl ⟨hnext, hclose⟩⟩
          · have hliteral := skipLiteral_of_read front behindKey key hkey
            have h₁ := length_nextKey cs front first hnext
            have h₂ := length_skipLiteralFrom .plain front behindKey hliteral
            have h₃ := length_readColon behindKey value hcolon
            rcases hmember s key reader hreader value s₁ tail hread with ⟨hlength, hskip⟩
            rcases ih m false s₁ tail (by omega) (by omega) hothers with ⟨hrest, hloop⟩
            exact ⟨by omega, Or.inr ⟨front, behindKey, value, tail, hnext, hliteral, hcolon,
              hskip n (by omega), hloop⟩⟩

/-- An object that is passed over with some fuel is passed over with other fuel. -/
theorem skip_skipMembers (value : Reader Unit) (hvalue : Skips value) (fuel m : Nat)
    (first : Bool) (cs rest : List Char) (hn : cs.length < n) (hm : cs.length < m)
    (h : skipMembers value fuel first cs = .ok ((), rest)) :
    rest.length < cs.length ∧ skipMembers (skipWith n) m first cs = .ok ((), rest) := by
  induction fuel generalizing m first cs with
  | zero => cases h
  | succ fuel ih =>
      cases m with
      | zero => exact absurd hm (Nat.not_lt_zero _)
      | succ m =>
          rw [skipMembers_eq_ok_iff] at h ⊢
          rcases h with ⟨hnext, hclose⟩ |
            ⟨front, behindKey, text, tail, hnext, hliteral, hcolon, hread, hothers⟩
          · exact ⟨length_closeObject cs rest hclose, Or.inl ⟨hnext, hclose⟩⟩
          · have h₁ := length_nextKey cs front first hnext
            have h₂ := length_skipLiteralFrom .plain front behindKey hliteral
            have h₃ := length_readColon behindKey text hcolon
            rcases hvalue text () tail hread with ⟨hlength, hskip⟩
            rcases ih m false tail (by omega) (by omega) hothers with ⟨hrest, hloop⟩
            exact ⟨by omega, Or.inr ⟨front, behindKey, text, tail, hnext, hliteral, hcolon,
              hskip n (by omega), hloop⟩⟩

end Loops

section Heads

variable (fuel : Nat) (cs tail rest : List Char)

theorem skipWith_null (h : skipBlank cs = 'n' :: tail) :
    skipWith (fuel + 1) cs = readWord ['u', 'l', 'l'] tail := by
  rw [skipWith, h]
  rfl

theorem skipWith_quote (h : skipBlank cs = '"' :: tail) :
    skipWith (fuel + 1) cs = (skipLiteral tail).map fun rest => ((), rest) := by
  rw [skipWith, h]
  rfl

theorem skipWith_bracket (h : skipBlank cs = '[' :: tail) :
    skipWith (fuel + 1) cs = foldItems (fun _ cs => skipWith fuel cs) fuel true () tail := by
  rw [skipWith, h]
  rfl

theorem skipWith_brace (h : skipBlank cs = '\x7b' :: tail) :
    skipWith (fuel + 1) cs = skipMembers (skipWith fuel) fuel true tail := by
  rw [skipWith, h]
  rfl

/-- An array is passed over if its items are. -/
theorem skip_array (hcs : skipBlank cs = '[' :: tail)
    (h : ∀ fuel, tail.length < fuel → rest.length < tail.length ∧
      foldItems (fun _ cs => skipWith fuel cs) fuel true () tail = .ok ((), rest)) :
    rest.length < cs.length ∧
      ∀ fuel, cs.length ≤ fuel → skipWith (fuel + 1) cs = .ok ((), rest) := by
  have htail := length_of_skipBlank cs tail '[' hcs
  refine ⟨Nat.lt_trans (h cs.length htail).1 htail, fun fuel hfuel => ?_⟩
  rw [skipWith_bracket fuel cs tail hcs]
  exact (h fuel (Nat.lt_of_lt_of_le htail hfuel)).2

/-- An object is passed over if its members are. -/
theorem skip_object (hcs : skipBlank cs = '\x7b' :: tail)
    (h : ∀ fuel, tail.length < fuel → rest.length < tail.length ∧
      skipMembers (skipWith fuel) fuel true tail = .ok ((), rest)) :
    rest.length < cs.length ∧
      ∀ fuel, cs.length ≤ fuel → skipWith (fuel + 1) cs = .ok ((), rest) := by
  have htail := length_of_skipBlank cs tail '\x7b' hcs
  refine ⟨Nat.lt_trans (h cs.length htail).1 htail, fun fuel hfuel => ?_⟩
  rw [skipWith_brace fuel cs tail hcs]
  exact (h fuel (Nat.lt_of_lt_of_le htail hfuel)).2

/-- Blanks at the front are passed over with the value behind them. -/
theorem skipWith_behind_blank (c : Char) (h : skipBlank cs = c :: tail) :
    skipWith fuel cs = skipWith fuel (c :: tail) := by
  cases fuel with
  | zero => rfl
  | succ fuel =>
      rw [skipWith, skipWith, h, skipBlank_cons tail c (isSpace_of_skipBlank cs tail c h)]

/-- Only containers need fuel. -/
theorem skipWith_scalar (c : Char) (h : skipBlank cs = c :: tail) (hbracket : c ≠ '[')
    (hbrace : c ≠ '\x7b') (m : Nat) : skipWith (fuel + 1) cs = skipWith (m + 1) cs := by
  rw [skipWith, skipWith, h]
  simp only [if_neg hbracket, if_neg hbrace]

/-- What is no container takes at least one character. -/
theorem length_scalar (c : Char) (u : Unit) (h : skipBlank cs = c :: tail)
    (hbracket : c ≠ '[') (hbrace : c ≠ '\x7b') (hskip : skipWith (fuel + 1) cs = .ok (u, rest)) :
    rest.length < cs.length := by
  have htail := length_of_skipBlank cs tail c h
  have hword : ∀ word, readWord word tail = .ok (u, rest) → rest.length < cs.length := by
    intro word hread
    have hlength := length_readWord tail rest word u hread
    omega
  rw [skipWith, h] at hskip
  simp only [if_neg hbracket, if_neg hbrace] at hskip
  split at hskip
  · exact hword _ hskip
  split at hskip
  · exact hword _ hskip
  split at hskip
  · exact hword _ hskip
  split at hskip
  · rcases (map_eq_ok_iff _ _ _).mp hskip with ⟨⟨number, behind⟩, hscan, hpair⟩
    have hlength := length_scanNumber (c :: tail) behind .malformed number hscan
    rw [← (Prod.mk.inj hpair).2]
    rw [List.length_cons] at hlength
    dsimp only
    omega
  split at hskip
  · rcases (map_eq_ok_iff _ _ _).mp hskip with ⟨behind, hliteral, hpair⟩
    have hlength := length_skipLiteralFrom .plain tail behind hliteral
    rw [← (Prod.mk.inj hpair).2]
    omega
  · cases hskip

end Heads

/-- To have some fuel beyond the text is to have one more than its length at least. -/
theorem skipWith_of_succ (cs rest : List Char)
    (h : ∀ fuel, cs.length ≤ fuel → skipWith (fuel + 1) cs = .ok ((), rest)) (fuel : Nat)
    (hfuel : cs.length < fuel) : skipWith fuel cs = .ok ((), rest) := by
  cases fuel with
  | zero => exact absurd hfuel (Nat.not_lt_zero _)
  | succ fuel => exact h fuel (Nat.le_of_lt_succ hfuel)

/-- Any fuel will do, as long as it is longer than the text. -/
theorem skips_skipWith (n : Nat) : Skips (skipWith n) := by
  -- With one fuel less the parts of a container are skipped, so its loop is a loop over
  -- parts that are passed over, and these do not depend on fuel.
  induction n with
  | zero => intro cs u rest h; cases h
  | succ n ih =>
      intro cs u rest h
      cases hcs : skipBlank cs with
      | nil =>
          rw [skipWith, hcs] at h
          cases h
      | cons c tail =>
          by_cases hbracket : c = '['
          · rw [hbracket] at hcs
            rw [skipWith_bracket n cs tail hcs] at h
            rcases skip_array cs tail rest hcs fun fuel hfuel =>
              skip_items fuel (fun _ => skipWith n) (fun _ => ih) n fuel true () u tail rest hfuel
                hfuel h with ⟨hlength, hskip⟩
            exact ⟨hlength, skipWith_of_succ cs rest hskip⟩
          by_cases hbrace : c = '\x7b'
          · rw [hbrace] at hcs
            rw [skipWith_brace n cs tail hcs] at h
            rcases skip_object cs tail rest hcs fun fuel hfuel =>
              skip_skipMembers fuel (skipWith n) ih n fuel true tail rest hfuel hfuel h with
              ⟨hlength, hskip⟩
            exact ⟨hlength, skipWith_of_succ cs rest hskip⟩
          · refine ⟨length_scalar n cs tail rest c u hcs hbracket hbrace h,
              skipWith_of_succ cs rest fun fuel _ => ?_⟩
            rw [skipWith_scalar fuel cs tail c hcs hbracket hbrace n]
            exact h

theorem skips_skipValue : Skips skipValue :=
  fun cs u rest h => skips_skipWith (cs.length + 1) cs u rest h

end Json

end FleetBoard
