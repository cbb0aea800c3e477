import FleetBoard.Proofs.Accepted
import FleetBoard.Proofs.Routes

/-!
# Outputs Without a Payload

Nothing can be read where the orchestration tool has printed no payload. That is so for
nearly every such output: it is not read as one envelope as a whole, and so its fault is
told. But the payload of the project list and of the add-ons may be null, and a missing
member counts as null there. So an object without a payload, which is what a log entry
is, is read as an envelope whose payload is null, and nothing is said to be there where
nothing was said.

An envelope may also be written as an array, like every record, and then its payload is
the one item. The keys of an object are all there is to ask of it otherwise. They are
read here without any shape, and whatever a decoder accepts has them.

## Main definitions

* `readKeys`, `keys?`: The keys of an object, whatever its values are.
* `Reply.LineCarries`, `Reply.Carries`: A line, or an output, has a payload.
* `Reply.Bare`: An output is an object without one.

## Theorems

* `keys_of_loop`: Whatever is made of members, their keys can be kept instead.
* `keys_of_members`, `members_of_keys`: The loop over an envelope and the one over keys.
* `keys_of_envelope`, `envelope_of_keys`: Envelopes that are objects.
* `envelope_of_item`: Envelopes that are arrays.
* `readPayload_without_payload`: What is read where there is no payload.
* `nothing_read_unless_bare`: The project list and the add-ons.
-/

namespace FleetBoard

namespace Json

/-- A key is kept, and its value is passed over. -/
def keepKey (keys : List String) (key : String) : Except Fault (Reader (List String)) :=
  .ok fun cs => (skipValue cs).map fun p => (key :: keys, p.2)

/-- The keys of an object off the front of a text, the last one first. -/
def readKeys : Reader (List String) := fun cs =>
  match skipBlank cs with
  | [] => .error .truncated
  | c :: rest =>
    if c = '\x7b' then foldMembers keepKey (rest.length + 1) true [] rest
    else .error (refusal (c :: rest))

/-- The keys of the object that a whole text is. -/
def keys? (cs : List Char) : Option (List String) :=
  (readWhole? readKeys cs).toOption

namespace Value

/-- The keys of an object. Other values have none. -/
def keys : Value → List String
  | .object members => members.map Prod.fst
  | _ => []

theorem mem_keys_of_member? (v raw : Value) (key : String) (h : v.member? key = some raw) :
    key ∈ v.keys := by
  cases v with
  | object members =>
      rw [member?, List.lookup_eq_some_iff] at h
      rcases h with ⟨before, after, hmembers, _⟩
      rw [keys, hmembers, List.map_append, List.map_cons]
      exact List.mem_append.mpr (Or.inr List.mem_cons_self)
  | _ => exact absurd h (Option.some_ne_none raw).symm

end Value

/-- A loop over members whose values are passed over goes over the same keys as the loop
    that keeps them. What only the member with one key has a say in is as before if that
    key does not come up. -/
theorem keys_of_loop {σ β : Type} (member : σ → String → Except Fault (Reader σ))
    (hskips : ∀ s key reader, member s key = .ok reader → Skips reader) (mark : String) (f : σ → β)
    (hother : ∀ s key reader cs s' rest, key ≠ mark → member s key = .ok reader →
      reader cs = .ok (s', rest) → f s' = f s)
    (fuel m : Nat) (first : Bool) (s s' : σ) (keys : List String) (cs rest : List Char)
    (hm : cs.length < m) (h : foldMembers member fuel first s cs = .ok (s', rest)) :
    ∃ added, foldMembers keepKey m first keys cs = .ok (added ++ keys, rest) ∧
      (mark ∉ added → f s' = f s) := by
  -- Whatever the loop accepts is passed over, so both loops are at the same place after
  -- every member.
  induction fuel generalizing m first s keys cs with
  | zero => cases h
  | succ fuel ih =>
      cases m with
      | zero => exact absurd hm (Nat.not_lt_zero _)
      | succ m =>
          rw [foldMembers_eq_ok_iff] at h
          rcases h with ⟨hnext, hclose, hsame⟩ |
            ⟨front, key, behindKey, reader, value, s₁, tail, hnext, hkey, hreader, hcolon, hread,
              hothers⟩
          · refine ⟨[], ?_, fun _ => by rw [hsame]⟩
            rw [foldMembers_eq_ok_iff]
            exact Or.inl ⟨hnext, hclose, rfl⟩
          · rcases hskips s key reader hreader value s₁ tail hread with ⟨hlength, hskip⟩
            have h₁ := length_nextKey cs front first hnext
            have h₂ := length_skipLiteralFrom .plain front behindKey
              (skipLiteral_of_read front behindKey key hkey)
            have h₃ := length_readColon behindKey value hcolon
            rcases ih m false s₁ (key :: keys) tail (by omega) hothers with ⟨added, hloop, hsame⟩
            refine ⟨added ++ [key], ?_, fun hnone => ?_⟩
            · rw [foldMembers_eq_ok_iff, List.append_assoc]
              exact Or.inr ⟨front, key, behindKey, _, value, key :: keys, tail, hnext, hkey, rfl,
                hcolon, (map_eq_ok_iff _ _ _).mpr ⟨((), tail), hskip _ (Nat.lt_succ_self _), rfl⟩,
                hloop⟩
            · rw [List.mem_append, List.mem_singleton, not_or] at hnone
              rw [hsame hnone.1]
              exact hother s key reader value s₁ tail (fun heq => hnone.2 heq.symm) hreader hread

theorem readWhole?_eq_ok_iff {α : Type} (reader : Reader α) (cs : List Char) (a : α) :
    readWhole? reader cs = .ok a ↔
      ∃ rest, reader cs = .ok (a, rest) ∧ (skipBlank rest).isEmpty = true := by
  rw [readWhole?, bind_eq_ok_iff]
  constructor
  · rintro ⟨⟨value, rest⟩, hread, hend⟩
    dsimp only at hend
    split at hend
    next hblank =>
      rw [← Except.ok.inj hend]
      exact ⟨rest, hread, hblank⟩
    · cases hend
  · rintro ⟨rest, hread, hblank⟩
    refine ⟨(a, rest), hread, ?_⟩
    dsimp only
    rw [if_pos hblank]
    rfl

theorem mem_keys?_iff (cs : List Char) (keys : List String) : keys ∈ keys? cs ↔
    ∃ rest, readKeys cs = .ok (keys, rest) ∧ (skipBlank rest).isEmpty = true := by
  rw [keys?, Option.mem_def, toOption_eq_some_iff, readWhole?_eq_ok_iff]

end Json

namespace Reply

open Json

/-- A line is, blanks around it aside, an object with a payload. -/
def LineCarries (line : List Char) : Prop :=
  ∃ v ∈ (Value.parse (Text.trim line)).toOption, payloadKey ∈ v.keys

instance (line : List Char) : Decidable (LineCarries line) :=
  inferInstanceAs (Decidable (∃ _ ∈ _, _))

/-- An output has a payload: one of its lines has, or it is an object as a whole and
    has. -/
def Carries (output : List Char) : Prop :=
  (∃ line ∈ Text.splitLines output, LineCarries line) ∨ ∃ keys ∈ keys? output, payloadKey ∈ keys

instance (output : List Char) : Decidable (Carries output) :=
  inferInstanceAs (Decidable (_ ∨ _))

/-- An output is as a whole an object without a payload. -/
def Bare (output : List Char) : Prop :=
  ∃ keys ∈ keys? output, payloadKey ∉ keys

instance (output : List Char) : Decidable (Bare output) :=
  inferInstanceAs (Decidable (∃ _ ∈ _, _))

/-- The scan passes over a line without a payload. -/
theorem payloadOfLine?_of_not_carries (line : List Char) (h : ¬LineCarries line) :
    payloadOfLine? line = none := by
  unfold payloadOfLine?
  dsimp only
  split
  · cases hparse : Value.parse (Text.trim line) with
    | error e => rfl
    | ok v =>
        cases hmember : v.member? payloadKey with
        | none => exact hmember
        | some raw =>
            refine absurd ⟨v, ?_, v.mem_keys_of_member? raw payloadKey hmember⟩ h
            rw [hparse]
            rfl
  · rfl

/-- The scan finds nothing where no line has a payload. -/
theorem payload?_of_no_line (output : List Char)
    (h : ∀ line ∈ Text.splitLines output, ¬LineCarries line) : payload? output = none := by
  rw [payload?, List.findSome?_eq_none_iff]
  exact fun line hline => payloadOfLine?_of_not_carries line (h line (List.mem_reverse.mp hline))

section Envelope

variable {α : Type} (d : Decoder α) (absent : Option α)

/-- An envelope is read as a record. -/
theorem read_envelope : (envelope d absent).read =
    (Decoder.record (envelopeFields d absent) absent).read :=
  rfl

/-- A member with another key leaves an envelope as it is. -/
theorem readMember_other (draft : Draft (Option α)) (key : String) (h : key ≠ payloadKey) :
    Decoder.readMember (envelopeFields d absent) draft key =
      .ok fun cs => (skipValue cs).map fun p => (draft, p.2) := by
  rw [Decoder.readMember, fieldIndex_envelope, if_neg h]

/-- The loop over keys finds an envelope without a payload, and leaves it as it is. -/
theorem members_of_keys (fuel : Nat) (first : Bool) (draft : Draft (Option α))
    (keys keys' : List String) (cs rest : List Char)
    (h : foldMembers keepKey fuel first keys cs = .ok (keys', rest)) :
    ∃ added, keys' = added ++ keys ∧ (payloadKey ∉ added →
      foldMembers (Decoder.readMember (envelopeFields d absent)) fuel first draft cs =
        .ok (draft, rest)) := by
  induction fuel generalizing first keys cs with
  | zero => cases h
  | succ fuel ih =>
      rw [foldMembers_eq_ok_iff] at h
      rcases h with ⟨hnext, hclose, hkeys⟩ |
        ⟨front, key, behindKey, reader, value, keys₁, tail, hnext, hkey, hreader, hcolon, hread,
          hothers⟩
      · refine ⟨[], hkeys.symm, fun _ => ?_⟩
        rw [foldMembers_eq_ok_iff]
        exact Or.inl ⟨hnext, hclose, rfl⟩
      · rw [← Except.ok.inj hreader] at hread
        rcases (map_eq_ok_iff _ _ _).mp hread with ⟨⟨u, behind⟩, hskip, hpair⟩
        rcases Prod.mk.inj hpair with ⟨hkeys, htail⟩
        rw [← hkeys] at hothers
        rcases ih false (key :: keys) tail hothers with ⟨added, hadded, hloop⟩
        refine ⟨added ++ [key], by rw [hadded, List.append_assoc]; rfl, fun hnone => ?_⟩
        rw [List.mem_append, List.mem_singleton, not_or] at hnone
        rw [foldMembers_eq_ok_iff]
        refine Or.inr ⟨front, key, behindKey, _, value, draft, tail, hnext, hkey,
          readMember_other d absent draft key fun heq => hnone.2 heq.symm, hcolon, ?_,
          hloop hnone.1⟩
        exact (map_eq_ok_iff _ _ _).mpr ⟨(u, behind), hskip, by rw [← htail]⟩

/-- An object without a payload is an envelope as far as that may be absent. -/
theorem envelope_of_keys (cs rest : List Char) (keys : List String) (x : α)
    (h : readKeys cs = .ok (keys, rest)) (hnone : payloadKey ∉ keys) (habsent : absent = some x) :
    (envelope d absent).read cs = .ok (some x, rest) := by
  rw [readKeys] at h
  cases hcs : skipBlank cs with
  | nil =>
      rw [hcs] at h
      cases h
  | cons c tail =>
      rw [hcs] at h
      dsimp only at h
      split at h
      next hbrace =>
        rcases members_of_keys d absent _ true ⟨absent, []⟩ [] keys tail rest h with
          ⟨added, hkeys, hloop⟩
        rw [List.append_nil] at hkeys
        rw [← hkeys] at hloop
        rw [read_envelope, Decoder.read_record, hcs]
        dsimp only
        rw [if_pos hbrace, hloop hnone, habsent]
        rfl
      · cases h

variable (hd : Skips d.read)

include hd

theorem skips_envelopeField (f : Member (Option α)) (hf : f ∈ envelopeFields d absent) :
    Skips f.store.read := by
  rw [List.mem_singleton.mp hf]
  exact Decoder.skips_map d _ hd

/-- The loop over the members of an envelope goes over the same keys, and has a payload
    from nowhere but the member of that name. -/
theorem keys_of_members (fuel : Nat) (first : Bool) (draft draft' : Draft (Option α))
    (keys : List String) (cs rest : List Char) (hfuel : cs.length < fuel)
    (h : foldMembers (Decoder.readMember (envelopeFields d absent)) fuel first draft cs =
      .ok (draft', rest)) :
    ∃ added, foldMembers keepKey fuel first keys cs = .ok (added ++ keys, rest) ∧
      (payloadKey ∉ added → draft' = draft) := by
  refine keys_of_loop _ (Decoder.skips_readMember _ (skips_envelopeField d absent hd)) payloadKey id
    ?_ fuel fuel first draft draft' keys cs rest hfuel h
  intro draft key reader cs draft' rest hkey hreader hread
  rw [readMember_other d absent draft key hkey] at hreader
  rw [← Except.ok.inj hreader] at hread
  rcases (map_eq_ok_iff _ _ _).mp hread with ⟨_, _, hpair⟩
  exact (Prod.mk.inj hpair).1.symm

/-- An envelope that is written as an object has the keys that are read off it. Without
    its own key among them, its payload is what stands for an absent one. -/
theorem keys_of_envelope (cs tail rest : List Char) (o : Option α)
    (hcs : skipBlank cs = '\x7b' :: tail) (h : (envelope d absent).read cs = .ok (o, rest)) :
    ∃ keys, readKeys cs = .ok (keys, rest) ∧ (payloadKey ∉ keys → o = absent) := by
  have hread : readKeys cs = foldMembers keepKey (tail.length + 1) true [] tail := by
    rw [readKeys, hcs]
    rfl
  rw [read_envelope, Decoder.read_record, hcs] at h
  dsimp only at h
  rw [if_pos rfl] at h
  cases hloop : foldMembers (Decoder.readMember (envelopeFields d absent)) (tail.length + 1) true
      ⟨absent, []⟩ tail with
  | error e =>
      rw [hloop] at h
      cases h
  | ok read =>
      rcases read with ⟨draft, behind⟩
      rw [hloop] at h
      rcases keys_of_members d absent hd _ true _ draft [] tail behind (Nat.lt_succ_self _) hloop
        with ⟨keys, hkeys, hsame⟩
      rw [List.append_nil] at hkeys
      dsimp only at h
      cases hfinish : finishDraft (envelopeFields d absent) draft with
      | none =>
          rw [hfinish] at h
          cases h
      | some value =>
          rw [hfinish] at h
          rcases Prod.mk.inj (Except.ok.inj h) with ⟨hvalue, hrest⟩
          refine ⟨keys, by rw [hread, hkeys, hrest], fun hnone => ?_⟩
          rw [← hvalue]
          rw [hsame hnone, finishDraft] at hfinish
          split at hfinish
          · exact (Option.some.inj hfinish).symm
          · cases hfinish

/-- An envelope that is written as an array is a list of one payload. -/
theorem envelope_of_item (cs tail rest : List Char) (x : α) (hcs : skipBlank cs = '[' :: tail) :
    (envelope d absent).read cs = .ok (some x, rest) ↔ d.list.read cs = .ok ([x], rest) := by
  rw [Decoder.read_list_singleton d hd cs tail rest x hcs, read_envelope, Decoder.read_record, hcs]
  dsimp only
  rw [if_neg (by decide), if_pos rfl, envelopeFields, Decoder.readItems]
  cases hnext : nextItem true tail with
  | error e => simp
  | ok next =>
      cases next with
      | none => simp
      | some front =>
          dsimp only
          rw [Decoder.map]
          dsimp only
          cases hitem : d.read front with
          | error e => simp [Except.map, hitem]
          | ok read =>
              rcases read with ⟨a, behind⟩
              rw [Except.map]
              dsimp only
              rw [Decoder.readItems]
              dsimp only
              rw [map_eq_ok_iff]
              constructor
              · rintro ⟨tail', hclose, hpair⟩
                rcases Prod.mk.inj hpair with ⟨hpayload, hrest⟩
                rw [← Option.some.inj hpayload, ← hrest]
                exact ⟨front, behind, rfl, hitem, hclose⟩
              · rintro ⟨front', behind', hfront, hitem', hclose⟩
                rw [← Option.some.inj (Except.ok.inj hfront), hitem] at hitem'
                rcases Prod.mk.inj (Except.ok.inj hitem') with ⟨ha, hbehind⟩
                rw [ha, hbehind]
                exact ⟨rest, hclose, rfl⟩

/-- What is read where there is no payload: what stands for an absent one in an object
    without it, or the one item of an array. -/
theorem readPayload_without_payload (x : α) (output : String) (h : ¬Carries output.toList) :
    readPayload d absent output = .ok x ↔
      (Bare output.toList ∧ absent = some x) ∨ d.list.parse output.toList = .ok [x] := by
  rw [Carries, not_or] at h
  rcases h with ⟨hlines, hwhole⟩
  have hscan := payload?_of_no_line output.toList fun line hline hcarries =>
    hlines ⟨line, hline, hcarries⟩
  have hparse : readPayload d absent output = .ok x ↔
      (envelope d absent).parse output.toList = .ok (some x) := by
    rw [readPayload, hscan]
    cases (envelope d absent).parse output.toList with
    | error e => simp
    | ok o => cases o <;> simp
  rw [hparse, Decoder.parse, Decoder.parse, readWhole?_eq_ok_iff, readWhole?_eq_ok_iff]
  -- An envelope is an object or an array, as its first character says.
  constructor
  · rintro ⟨rest, hread, hend⟩
    cases hcs : skipBlank output.toList with
    | nil =>
        rw [read_envelope, Decoder.read_record, hcs] at hread
        cases hread
    | cons c tail =>
        by_cases hbrace : c = '\x7b'
        · rw [hbrace] at hcs
          rcases keys_of_envelope d absent hd _ tail rest _ hcs hread with ⟨keys, hkeys, hsame⟩
          have hmem := (mem_keys?_iff _ keys).mpr ⟨rest, hkeys, hend⟩
          have hnone : payloadKey ∉ keys := fun hin => hwhole ⟨keys, hmem, hin⟩
          exact Or.inl ⟨⟨keys, hmem, hnone⟩, (hsame hnone).symm⟩
        by_cases hbracket : c = '['
        · rw [hbracket] at hcs
          exact Or.inr ⟨rest, (envelope_of_item d absent hd _ tail rest x hcs).mp hread, hend⟩
        · rw [read_envelope, Decoder.read_record, hcs] at hread
          dsimp only at hread
          rw [if_neg hbrace, if_neg hbracket] at hread
          cases hread
  · rintro (⟨⟨keys, hmem, hnone⟩, habsent⟩ | ⟨rest, hlist, hend⟩)
    · rcases (mem_keys?_iff _ keys).mp hmem with ⟨rest, hkeys, hend⟩
      exact ⟨rest, envelope_of_keys d absent _ rest keys x hkeys hnone habsent, hend⟩
    · refine ⟨rest, ?_, hend⟩
      cases hcs : skipBlank output.toList with
      | nil =>
          rw [Decoder.read_list, hcs] at hlist
          cases hlist
      | cons c tail =>
          by_cases hbracket : c = '['
          · rw [hbracket] at hcs
            exact (envelope_of_item d absent hd _ tail rest x hcs).mpr hlist
          · rw [Decoder.read_list, hcs] at hlist
            dsimp only at hlist
            rw [if_neg hbracket] at hlist
            cases hlist

end Envelope

section Shapes

theorem skips_listOrNull {α : Type} (d : Decoder α) (hd : Skips d.read) :
    Skips (listOrNull d).read :=
  Decoder.skips_map _ _ (Decoder.skips_optional _ (Decoder.skips_list d hd))

/-- A field that holds a text is passed over. -/
theorem skips_textField {σ : Type} (f : String → σ → σ) : Skips (Decoder.text.map f).read :=
  Decoder.skips_map _ f Decoder.skips_text

theorem skips_listEntry : Skips listEntry.read := by
  refine Decoder.skips_record _ ?_ _
  simp only [List.forall_mem_cons, optionalField]
  exact ⟨skips_textField _, skips_textField _, skips_textField _, skips_textField _,
    skips_textField _, skips_textField _, fun _ h => absurd h List.not_mem_nil⟩

theorem skips_addonEntry : Skips addonEntry.read :=
  Decoder.skips_record _ (List.forall_mem_singleton.mpr (skips_textField _)) _

end Shapes

/-- Where an output has no payload, neither in a line nor as a whole, the project list is
    read in two cases only: the output is one object, and then nothing is on the list, or
    it is an array of one payload. It is the same with the add-ons. All else is an error. -/
theorem nothing_read_unless_bare (output : String) (h : ¬Carries output.toList) :
    (∀ projects, readProjects output = .ok projects ↔
      (Bare output.toList ∧ projects = []) ∨
        ∃ entries, (listOrNull listEntry).list.parse output.toList = .ok [entries] ∧
          projects = entries.map ListEntry.summary) ∧
    (∀ names, readAddons output = .ok names ↔
      (Bare output.toList ∧ names = []) ∨
        (listOrNull addonEntry).list.parse output.toList = .ok [names]) := by
  have hentries := fun entries => readPayload_without_payload (listOrNull listEntry) (some [])
    (skips_listOrNull _ skips_listEntry) entries output h
  have hnames := fun names => readPayload_without_payload (listOrNull addonEntry) (some [])
    (skips_listOrNull _ skips_addonEntry) names output h
  refine ⟨fun projects => ?_, fun names => ?_⟩
  · rw [readProjects, map_eq_ok_iff]
    constructor
    · rintro ⟨entries, hread, hprojects⟩
      rcases (hentries entries).mp hread with ⟨hbare, hnone⟩ | hitem
      · refine Or.inl ⟨hbare, ?_⟩
        rw [← hprojects, ← Option.some.inj hnone]
        rfl
      · exact Or.inr ⟨entries, hitem, hprojects.symm⟩
    · rintro (⟨hbare, hnone⟩ | ⟨entries, hitem, hprojects⟩)
      · exact ⟨[], (hentries []).mpr (Or.inl ⟨hbare, rfl⟩), hnone.symm⟩
      · exact ⟨entries, (hentries entries).mpr (Or.inr hitem), hprojects.symm⟩
  · rw [readAddons, hnames, Option.some.injEq, @eq_comm _ [] names]

/-- Two log entries are no list, and no add-ons. -/
theorem log_entries_are_an_error :
    let output := "\x7b\"level\":\"info\"\x7d\n\x7b\"level\":\"fatal\"\x7d\n"
    ¬Carries output.toList ∧ (∀ projects, readProjects output ≠ .ok projects) ∧
      ∀ names, readAddons output ≠ .ok names := by
  intro output
  have hcarries : ¬Carries output.toList := by decide
  have hbare : ¬Bare output.toList := by decide
  have hno_list : ((listOrNull listEntry).list.parse output.toList).isOk = false := by decide
  have hno_names : ((listOrNull addonEntry).list.parse output.toList).isOk = false := by decide
  rcases nothing_read_unless_bare output hcarries with ⟨hprojects, hnames⟩
  refine ⟨hcarries, fun projects hread => ?_, fun names hread => ?_⟩
  · rcases (hprojects projects).mp hread with ⟨h, _⟩ | ⟨entries, hitem, _⟩
    · exact hbare h
    · rw [hitem] at hno_list
      cases hno_list
  · rcases (hnames names).mp hread with ⟨h, _⟩ | hitem
    · exact hbare h
    · rw [hitem] at hno_names
      cases hno_names

/-- One log entry is an empty list, and no add-ons. -/
theorem log_entry_reads_as_nothing :
    let output := "\x7b\"level\":\"fatal\",\"msg\":\"docker is not running\"\x7d\n"
    ¬Carries output.toList ∧ readProjects output = .ok [] ∧ readAddons output = .ok [] :=
  ⟨by decide, rfl, rfl⟩

end Reply

end FleetBoard
