import FleetBoard.Json.Number
import FleetBoard.Json.Literal

/-!
# Tokens Read Back

What is written for a text or a number is read as the same one, whatever follows.
Only a number has to be told where it ends, since one more digit would belong to it.

A literal is gone through character by character. `renderChar_cases` says in which
three ways a character is written, and everything about literals goes by them: they
are read back, they are skipped, and they hold no line end. A number is gone through
by its parts, each of which stops at the first character of the next one.

## Main definitions

* `Ends`: A number does not go on with what follows.

## Theorems

* `renderChar_cases`: How a character is written.
* `readLiteral_renderLiteral`, `skipLiteral_renderLiteral`: A literal is read back,
  or skipped.
* `digitsOf_spec`: The digits of a number denote it, without leading zeros.
* `scanNumber_render`: A number is read back.
-/

namespace FleetBoard

namespace Json

/-- How a character is written in a literal: by a letter after a backslash, by its
    code, or as it is. -/
theorem renderChar_cases (c : Char) :
    (∃ letter, renderChar c = ['\\', letter] ∧ letter ≠ 'u' ∧ letter ≠ '\n' ∧
      escaped? letter = some c) ∨
    (c.toNat < 0x20 ∧ renderChar c =
      ['\\', 'u', '0', '0', hexChar (c.toNat / 16), hexChar (c.toNat % 16)]) ∨
    (renderChar c = [c] ∧ c ≠ '"' ∧ c ≠ '\\' ∧ ¬ c.toNat < 0x20) := by
  unfold renderChar
  by_cases hquote : c = '"'
  · exact Or.inl ⟨'"', by rw [if_pos hquote], by decide, by decide, by rw [hquote]; rfl⟩
  rw [if_neg hquote]
  by_cases hslash : c = '\\'
  · exact Or.inl ⟨'\\', by rw [if_pos hslash], by decide, by decide, by rw [hslash]; rfl⟩
  rw [if_neg hslash]
  by_cases hback : c = '\x08'
  · exact Or.inl ⟨'b', by rw [if_pos hback], by decide, by decide, by rw [hback]; rfl⟩
  rw [if_neg hback]
  by_cases hform : c = '\x0c'
  · exact Or.inl ⟨'f', by rw [if_pos hform], by decide, by decide, by rw [hform]; rfl⟩
  rw [if_neg hform]
  by_cases hfeed : c = '\n'
  · exact Or.inl ⟨'n', by rw [if_pos hfeed], by decide, by decide, by rw [hfeed]; rfl⟩
  rw [if_neg hfeed]
  by_cases hreturn : c = '\r'
  · exact Or.inl ⟨'r', by rw [if_pos hreturn], by decide, by decide, by rw [hreturn]; rfl⟩
  rw [if_neg hreturn]
  by_cases htab : c = '\t'
  · exact Or.inl ⟨'t', by rw [if_pos htab], by decide, by decide, by rw [htab]; rfl⟩
  rw [if_neg htab]
  by_cases hcontrol : c.toNat < 0x20
  · exact Or.inr (Or.inl ⟨hcontrol, if_pos hcontrol⟩)
  · exact Or.inr (Or.inr ⟨if_neg hcontrol, hquote, hslash, hcontrol⟩)

/-- The digits of a code, and none of them ends a line. -/
theorem hexChar_spec (n : Nat) (h : n < 16) :
    hexValue? (hexChar n) = some n ∧ hexChar n ≠ '\n' ∧ (hexChar n).utf8Size = 1 := by
  have hall : ∀ d : Fin 16, hexValue? (hexChar d) = some d.val ∧ hexChar d ≠ '\n' ∧
      (hexChar d).utf8Size = 1 := by decide
  exact hall ⟨n, h⟩

section Codes

variable (c : Char) (hc : c.toNat < 0x20) (cs : List Char)

include hc

theorem hexChars_of_control : hexValue? (hexChar (c.toNat / 16)) = some (c.toNat / 16) ∧
    hexValue? (hexChar (c.toNat % 16)) = some (c.toNat % 16) ∧
    hasFourBytes ('0' :: '0' :: hexChar (c.toNat / 16) :: hexChar (c.toNat % 16) :: cs) = true := by
  rcases hexChar_spec (c.toNat / 16) (by omega) with ⟨hhigh, _, hhighSize⟩
  rcases hexChar_spec (c.toNat % 16) (by omega) with ⟨hlow, _, hlowSize⟩
  refine ⟨hhigh, hlow, ?_⟩
  have hzero : Char.utf8Size '0' = 1 := by decide
  simp only [hasFourBytes, List.take_succ_cons, List.take_zero, List.foldr_cons, List.foldr_nil,
    hzero, hhighSize, hlowSize, Nat.reduceAdd, Nat.le_refl, decide_true]

/-- The code of a control character is that of a whole character. -/
theorem endCode_of_control :
    endCode (c.toNat / 16 * 16 + c.toNat % 16) none = .ok (some c, .plain) := by
  have hcode : c.toNat / 16 * 16 + c.toNat % 16 = c.toNat := by omega
  have hhigh : isHighSurrogate c.toNat = false := by
    rw [isHighSurrogate, Bool.and_eq_false_iff, decide_eq_false_iff_not]
    omega
  have hlow : isLowSurrogate c.toNat = false := by
    rw [isLowSurrogate, Bool.and_eq_false_iff, decide_eq_false_iff_not]
    omega
  rw [hcode, endCode, hhigh, hlow, if_neg Bool.false_ne_true, if_neg Bool.false_ne_true,
    Char.ofNat_toNat]

end Codes

section Literals

variable (c : Char) (cs : List Char)

theorem readLiteralFrom_renderChar :
    readLiteralFrom .plain (renderChar c ++ cs) = consChar c (readLiteralFrom .plain cs) := by
  have hslash : ('\\' : Char) ≠ '"' := by decide
  rcases renderChar_cases c with ⟨letter, hwritten, hletter, _, hescaped⟩ | ⟨hcontrol, hwritten⟩ |
    ⟨hwritten, hquote, hback, hcontrol⟩
  · rw [hwritten, List.cons_append, List.cons_append, List.nil_append, readLiteralFrom,
      if_neg hslash, if_pos rfl, readLiteralFrom, if_neg hletter, hescaped]
  · rcases hexChars_of_control c hcontrol cs with ⟨hhigh, hlow, hroom⟩
    have hzero : hexValue? '0' = some 0 := by decide
    rw [hwritten]
    simp only [List.cons_append, List.nil_append, readLiteralFrom, if_neg hslash, if_true, hroom,
      hzero, hhigh, hlow, Nat.reduceLeDiff, if_false, Nat.reduceSub, Nat.zero_mul, Nat.zero_add,
      Nat.le_refl, endCode_of_control c hcontrol]
  · rw [hwritten, List.cons_append, List.nil_append, readLiteralFrom, if_neg hquote, if_neg hback,
      if_neg hcontrol]

theorem skipLiteralFrom_renderChar :
    skipLiteralFrom .plain (renderChar c ++ cs) = skipLiteralFrom .plain cs := by
  have hslash : ('\\' : Char) ≠ '"' := by decide
  rcases renderChar_cases c with ⟨letter, hwritten, hletter, _, hescaped⟩ | ⟨hcontrol, hwritten⟩ |
    ⟨hwritten, hquote, hback, hcontrol⟩
  · rw [hwritten, List.cons_append, List.cons_append, List.nil_append, skipLiteralFrom,
      if_neg hslash, if_pos rfl, skipLiteralFrom, if_neg hletter, hescaped, Option.isSome_some,
      if_pos rfl]
    all_goals simp only [reduceCtorEq, imp_self, implies_true]
  · rcases hexChars_of_control c hcontrol cs with ⟨hhigh, hlow, hroom⟩
    have hzero : hexValue? '0' = some 0 := by decide
    rw [hwritten]
    simp only [List.cons_append, List.nil_append, skipLiteralFrom, if_neg hslash, if_true, hroom,
      hzero, hhigh, hlow, Nat.reduceLeDiff, if_false, Nat.reduceSub, Nat.le_refl]
  · rw [hwritten, List.cons_append, List.nil_append, skipLiteralFrom, if_neg hquote, if_neg hback,
      if_neg hcontrol]
    all_goals simp only [reduceCtorEq, imp_self, implies_true]

theorem newline_not_mem_renderChar : '\n' ∉ renderChar c := by
  rcases renderChar_cases c with ⟨letter, hwritten, _, hfeed, _⟩ | ⟨hcontrol, hwritten⟩ |
    ⟨hwritten, _, _, hcontrol⟩
  · rw [hwritten]
    simp [hfeed.symm]
  · have hhigh := (hexChar_spec (c.toNat / 16) (by omega)).2.1
    have hlow := (hexChar_spec (c.toNat % 16) (by omega)).2.1
    rw [hwritten]
    simp [hhigh.symm, hlow.symm]
  · rw [hwritten, List.mem_singleton]
    intro hfeed
    rw [← hfeed] at hcontrol
    exact hcontrol (by decide)

variable (s : String)

/-- The characters of a literal after its opening quote. -/
theorem renderLiteral_append :
    renderLiteral s ++ cs = '"' :: (s.toList.flatMap renderChar ++ '"' :: cs) := by
  rw [renderLiteral, List.cons_append, List.append_assoc, List.singleton_append]

theorem readLiteral_renderLiteral :
    readLiteral (s.toList.flatMap renderChar ++ '"' :: cs) = .ok (s, cs) := by
  -- The text is gone through as characters, so that the induction is on them.
  have hread : ∀ text : List Char, readLiteralFrom .plain (text.flatMap renderChar ++ '"' :: cs) =
      .ok (text, cs) := by
    intro text
    induction text with
    | nil => rfl
    | cons c text ih =>
        rw [List.flatMap_cons, List.append_assoc, readLiteralFrom_renderChar, ih]
        rfl
  rw [readLiteral, hread]
  exact congrArg (fun text => Except.ok (text, cs)) (String.ofList_toList)

theorem skipLiteral_renderLiteral :
    skipLiteral (s.toList.flatMap renderChar ++ '"' :: cs) = .ok cs := by
  rw [skipLiteral]
  induction s.toList with
  | nil => rfl
  | cons c text ih => rw [List.flatMap_cons, List.append_assoc, skipLiteralFrom_renderChar, ih]

/-- A literal stays on its line. -/
theorem newline_not_mem_renderLiteral : '\n' ∉ renderLiteral s := by
  rw [renderLiteral, List.mem_cons, List.mem_append, List.mem_flatMap, List.mem_singleton]
  rintro (h | ⟨c, _, h⟩ | h)
  · exact absurd h (by decide)
  · exact newline_not_mem_renderChar c h
  · exact absurd h (by decide)

end Literals

/-- A number does not go on with what follows. -/
def Ends (rest : List Char) : Prop :=
  ∀ c, rest.head? = some c → digit? c = none ∧ c ≠ '.' ∧ c ≠ 'e' ∧ c ≠ 'E'

theorem ends_nil : Ends [] := fun c h => absurd h (Option.some_ne_none c).symm

/-- What stands between values ends a number. -/
theorem ends_cons (c : Char) (cs : List Char)
    (h : isSpace c = true ∨ c = ',' ∨ c = ']' ∨ c = '\x7d') : Ends (c :: cs) := by
  intro d hd
  rw [List.head?_cons, Option.some.injEq] at hd
  rw [← hd]
  rw [isSpace, Bool.or_eq_true, Bool.or_eq_true, Bool.or_eq_true, beq_iff_eq, beq_iff_eq,
    beq_iff_eq, beq_iff_eq] at h
  rcases h with (((h | h) | h) | h) | h | h | h <;> rw [h] <;> decide

section Numbers

variable (rest : List Char)

theorem digit?_char (d : Digit) : digit? d.char = some d := by
  have hall : ∀ d : Fin 10, digit? (Digit.char d) = some d := by decide
  exact hall d

theorem readDigits_append (ds : List Digit) (h : ∀ c, rest.head? = some c → digit? c = none) :
    readDigits (ds.map Digit.char ++ rest) = (ds, rest) := by
  induction ds with
  | nil =>
      cases rest with
      | nil => rfl
      | cons c cs =>
          rw [List.map_nil, List.nil_append, readDigits, h c rfl]
  | cons d ds ih =>
      rw [List.map_cons, List.cons_append, readDigits, digit?_char, ih]

theorem ofDigits_concat (ds : List Digit) (d : Digit) :
    ofDigits (ds ++ [d]) = ofDigits ds * 10 + d.val := by
  rw [ofDigits, List.foldl_append, List.foldl_cons, List.foldl_nil, ofDigits]

theorem digitsOnto_spec (fuel n : Nat) (tail : List Digit) (hfuel : n < fuel) :
    ∃ d ds, digitsOnto fuel n tail = d :: (ds ++ tail) ∧ ofDigits (d :: ds) = n ∧
      (d = 0 → n = 0 ∧ ds = []) := by
  induction fuel generalizing n tail with
  | zero => omega
  | succ fuel ih =>
      rw [digitsOnto]
      by_cases hlast : n < 10
      · refine ⟨⟨n % 10, Nat.mod_lt n (by decide)⟩, [], ?_, ?_, ?_⟩
        · rw [if_pos hlast]
          rfl
        · have hmod : n % 10 = n := Nat.mod_eq_of_lt hlast
          simp only [ofDigits, List.foldl_cons, List.foldl_nil]
          omega
        · intro hzero
          have hmod : n % 10 = 0 := congrArg Fin.val hzero
          exact ⟨by omega, rfl⟩
      · -- The other digits are those of the tenth part.
        rcases ih (n / 10) (⟨n % 10, Nat.mod_lt n (by decide)⟩ :: tail) (by omega) with
          ⟨d, ds, hdigits, hvalue, hzero⟩
        refine ⟨d, ds ++ [⟨n % 10, Nat.mod_lt n (by decide)⟩], ?_, ?_, ?_⟩
        · rw [if_neg hlast, hdigits, List.append_assoc, List.singleton_append]
        · rw [← List.cons_append, ofDigits_concat, hvalue]
          dsimp only
          omega
        · intro hd
          have hnone := (hzero hd).1
          omega

/-- The digits of a number denote it, and only those of zero begin with a zero. -/
theorem digitsOf_spec (n : Nat) : ∃ d ds, digitsOf n = d :: ds ∧ ofDigits (d :: ds) = n ∧
    (d = 0 → n = 0 ∧ ds = []) := by
  rcases digitsOnto_spec (n + 1) n [] (Nat.lt_succ_self n) with ⟨d, ds, hdigits, hspec⟩
  rw [List.append_nil] at hdigits
  exact ⟨d, ds, hdigits, hspec⟩

theorem readWhole_digitsOf (atEnd : Fault) (n : Nat)
    (h : ∀ c, rest.head? = some c → digit? c = none) :
    readWhole atEnd ((digitsOf n).map Digit.char ++ rest) = .ok (n, rest) := by
  rcases digitsOf_spec n with ⟨d, ds, hdigits, hvalue, hzero⟩
  have hlead : ¬ (d = 0 ∧ ds ≠ []) := fun hd => hd.2 (hzero hd.1).2
  rw [readWhole, readDigits_append rest _ h, hdigits]
  dsimp only
  rw [if_neg hlead, hvalue]

theorem char_ne (d : Digit) : d.char ≠ '-' ∧ d.char ≠ '+' ∧ d.char ≠ '.' := by
  have hall : ∀ d : Fin 10, Digit.char d ≠ '-' ∧ Digit.char d ≠ '+' ∧ Digit.char d ≠ '.' := by
    decide
  exact hall d

/-- The text of the digits after the point, if there are any. -/
def renderFraction (ds : List Digit) : List Char :=
  if ds.isEmpty then [] else '.' :: ds.map Digit.char

theorem readFraction_renderFraction (atEnd : Fault) (ds : List Digit)
    (hdigit : ∀ c, rest.head? = some c → digit? c = none)
    (hpoint : ∀ c, rest.head? = some c → c ≠ '.') :
    readFraction atEnd (renderFraction ds ++ rest) = .ok (ds, rest) := by
  cases ds with
  | nil =>
      change readFraction atEnd rest = .ok ([], rest)
      cases rest with
      | nil => rfl
      | cons c cs =>
          have hc := hpoint c rfl
          unfold readFraction
          split
          next hpoint' => exact absurd (List.cons.inj hpoint').1 hc
          next => rfl
  | cons d ds =>
      change readFraction atEnd ('.' :: ((d :: ds).map Digit.char ++ rest)) = _
      rw [readFraction, readDigits_append rest _ hdigit]

theorem readExponent_renderExponent (atEnd : Fault) (e : Option Exponent) (h : Ends rest) :
    readExponent atEnd (Number.renderExponent e ++ rest) = .ok (e, rest) := by
  cases e with
  | none =>
      change readExponent atEnd rest = .ok (none, rest)
      cases rest with
      | nil => rfl
      | cons c cs =>
          rcases h c rfl with ⟨_, _, he, hE⟩
          rw [readExponent, if_neg (by simp only [he, hE, or_self, not_false_eq_true])]
  | some e =>
      rcases e with ⟨negative, d, ds⟩
      have hsign : readSign ((if negative then ['-'] else []) ++
          ((d :: ds).map Digit.char ++ rest)) = (negative, (d :: ds).map Digit.char ++ rest) := by
        cases negative with
        | true => rfl
        | false =>
            -- The first digit is no sign.
            rcases char_ne d with ⟨hminus, hplus, _⟩
            change readSign (d.char :: _) = (false, d.char :: _)
            unfold readSign
            split
            next heq => exact absurd (List.cons.inj heq).1 hplus
            next heq => exact absurd (List.cons.inj heq).1 hminus
            next => rfl
      rw [Number.renderExponent, List.cons_append, List.append_assoc, readExponent,
        if_pos (Or.inl rfl), hsign]
      dsimp only
      rw [readDigits_append rest (d :: ds) fun c hc => (h c hc).1]

/-- The digits after the point end at the exponent. -/
theorem head_renderExponent (e : Option Exponent) (h : Ends rest) (c : Char)
    (hc : (Number.renderExponent e ++ rest).head? = some c) : digit? c = none ∧ c ≠ '.' := by
  cases e with
  | none =>
      rcases h c hc with ⟨hdigit, hpoint, _⟩
      exact ⟨hdigit, hpoint⟩
  | some e =>
      rw [Number.renderExponent, List.cons_append, List.head?_cons, Option.some.injEq] at hc
      rw [← hc]
      decide

/-- The whole part ends at the point, or where there is none at what follows. -/
theorem head_renderFraction (ds : List Digit) (h : ∀ c, rest.head? = some c → digit? c = none)
    (c : Char) (hc : (renderFraction ds ++ rest).head? = some c) : digit? c = none := by
  cases ds with
  | nil => exact h c hc
  | cons d ds =>
      change some '.' = some c at hc
      rw [← Option.some.inj hc]
      decide

theorem render_eq (n : Number) : n.render = (if n.negative then ['-'] else []) ++
    ((digitsOf n.whole).map Digit.char ++
      (renderFraction n.fraction ++ Number.renderExponent n.exponent)) := by
  rw [Number.render, renderFraction, List.append_assoc, List.append_assoc]

/-- A number is read back, in range or not, whatever follows that ends it. -/
theorem scanNumber_render (atEnd : Fault) (n : Number) (h : Ends rest) :
    scanNumber atEnd (n.render ++ rest) = .ok (n, rest) := by
  -- A part ends where the next one begins, so the last one comes first here.
  have hexponent := head_renderExponent rest n.exponent h
  have hwhole := readWhole_digitsOf (renderFraction n.fraction ++
    (Number.renderExponent n.exponent ++ rest)) atEnd n.whole
    (head_renderFraction _ n.fraction fun c hc => (hexponent c hc).1)
  have hfraction := readFraction_renderFraction (Number.renderExponent n.exponent ++ rest) atEnd
    n.fraction (fun c hc => (hexponent c hc).1) fun c hc => (hexponent c hc).2
  have hrest := readExponent_renderExponent rest atEnd n.exponent h
  have htext : n.render ++ rest = (if n.negative then ['-'] else []) ++
      ((digitsOf n.whole).map Digit.char ++ (renderFraction n.fraction ++
        (Number.renderExponent n.exponent ++ rest))) := by
    rw [render_eq]
    simp only [List.append_assoc]
  rw [htext]
  rcases n with ⟨negative, whole, fraction, exponent⟩
  cases negative with
  | true =>
      rw [if_pos rfl, List.singleton_append]
      simp only [scanNumber, bind, Except.bind, hwhole, hfraction, hrest]
      rfl
  | false =>
      rw [if_neg Bool.false_ne_true, List.nil_append]
      unfold scanNumber
      split
      next cs negative tail hsign =>
        split at hsign
        next heq =>
          -- The first digit is no sign.
          rcases digitsOf_spec whole with ⟨d, ds, hdigits, _⟩
          rw [hdigits] at heq
          exact absurd (List.cons.inj heq).1 (char_ne d).1
        next =>
          rw [← (Prod.mk.inj hsign).1, ← (Prod.mk.inj hsign).2]
          simp only [bind, Except.bind, hwhole, hfraction, hrest]
          rfl

/-- A number in range is read back, and another one is refused. -/
theorem readNumber_render (n : Number) (h : Ends rest) :
    readNumber (n.render ++ rest) =
      if n.isFinite then .ok (n, rest) else .error .malformed := by
  rw [readNumber, scanNumber_render rest .truncated n h]
  rfl

theorem newline_not_mem_digits (ds : List Digit) : '\n' ∉ ds.map Digit.char := by
  have hall : ∀ d : Fin 10, Digit.char d ≠ '\n' := by decide
  rw [List.mem_map]
  rintro ⟨d, _, hd⟩
  exact hall d hd

/-- A number stays on its line. -/
theorem newline_not_mem_render (n : Number) : '\n' ∉ n.render := by
  have hwhole := newline_not_mem_digits (digitsOf n.whole)
  have hfraction : '\n' ∉ renderFraction n.fraction := by
    rw [renderFraction]
    split
    · exact List.not_mem_nil
    · rw [List.mem_cons]
      exact fun h => h.elim (by decide) (newline_not_mem_digits _)
  have hexponent : '\n' ∉ Number.renderExponent n.exponent := by
    cases n.exponent with
    | none => exact List.not_mem_nil
    | some e =>
        have hdigits := newline_not_mem_digits (e.first :: e.rest)
        rw [Number.renderExponent, List.mem_cons, List.mem_append]
        rintro (h | h | h)
        · exact absurd h (by decide)
        · revert h
          split <;> decide
        · exact hdigits h
  rw [render_eq, List.mem_append, List.mem_append, List.mem_append]
  rintro (h | h | h | h)
  · revert h
    split <;> decide
  · exact hwhole h
  · exact hfraction h
  · exact hexponent h

/-- A number begins with a sign or a digit. -/
theorem head_render (n : Number) : ∃ c cs, n.render = c :: cs ∧
    (c = '-' ∨ (digit? c).isSome = true) := by
  rw [render_eq]
  cases n.negative with
  | true => exact ⟨'-', _, rfl, Or.inl rfl⟩
  | false =>
      rcases digitsOf_spec n.whole with ⟨d, ds, hdigits, _⟩
      rw [hdigits]
      exact ⟨d.char, _, rfl, Or.inr (by rw [digit?_char]; rfl)⟩

end Numbers

end Json

end FleetBoard
