import FleetBoard.Proofs.Payload

/-!
# The Last Payload Counts

The orchestration tool prints log entries around the payload that was asked for, and other
programs may print into its output as well. An output is read from its last line up until
a line has a payload, so what is read is what that line would give alone. Nothing before
the line counts, and behind it nothing without a payload.

A line has a payload if it can be read as a value, and is an object with that key. That
is less than to be such an object. A value may not be nested too deeply, its numbers have
to be in range and the codes in its texts have to pair up, whichever member it is that
offends. A line that is refused for that is passed over like a broken one. It is an
envelope by itself all the same, so it gives its payload alone and does not in an output.

## Main definitions

* `Reply.LineHolds`: A line is an object with a payload, whatever its values are.
* `Reply.LastCarrier`: The last line of an output that has a payload.
* `Reply.ReadAlike`: Two outputs that nothing is read differently from.

## Theorems

* `Value.keys_of_read`: The keys of an object that was read as a value.
* `lineHolds_of_lineCarries`: A line with a payload is an object with one.
* `payload?_of_last`: The scan finds the payload of the last line that has one.
* `exists_lastCarrier`, `LastCarrier.unique`: There is one such line.
* `lastCarrier_between`: It is the last one in other texts too.
* `last_payload_counts`: What surrounds it makes no difference.
-/

namespace FleetBoard

namespace Json

namespace Value

/-- A member with another key leaves the value of a key as it is. -/
theorem lookup_putMember {α : Type} (members : List (String × α)) (key mark : String) (a : α)
    (h : key ≠ mark) : (putMember key a members).lookup mark = members.lookup mark := by
  have hmark : (mark == key) = false := beq_false_of_ne (Ne.symm h)
  induction members with
  | nil => rw [putMember, List.lookup_cons, hmark]
  | cons m members ih =>
      rcases m with ⟨k, b⟩
      rw [putMember]
      split
      next heq => rw [List.lookup_cons, List.lookup_cons, heq, hmark]
      next => rw [List.lookup_cons, List.lookup_cons, ih]

variable (cs rest : List Char) (members : List (String × Value))

/-- An object is read off its opening brace. -/
theorem read_object (h : read cs = .ok (.object members, rest)) :
    ∃ tail, skipBlank cs = '\x7b' :: tail ∧ foldMembers
      (fun members key => .ok fun cs' =>
        (readWith cs.length (nestingLimit - 1) cs').map fun p => (putMember key p.1 members, p.2))
      cs.length true [] tail = .ok (members, rest) := by
  rw [read] at h
  cases hcs : skipBlank cs with
  | nil =>
      rw [readWith, hcs] at h
      cases h
  | cons c tail =>
      by_cases hbracket : c = '['
      · rw [hbracket] at hcs
        rw [readWith_bracket _ _ cs tail hcs, if_neg (by decide)] at h
        rcases (map_eq_ok_iff _ _ _).mp h with ⟨_, _, hpair⟩
        cases hpair
      by_cases hbrace : c = '\x7b'
      · rw [hbrace] at hcs
        rw [readWith_brace _ _ cs tail hcs, if_neg (by decide)] at h
        rcases (map_eq_ok_iff _ _ _).mp h with ⟨⟨members', behind⟩, hloop, hpair⟩
        rcases Prod.mk.inj hpair with ⟨hmembers, rfl⟩
        rw [← Value.object.inj hmembers]
        exact ⟨tail, by rw [hbrace], hloop⟩
      · exact absurd rfl ((skip_scalar _ _ cs tail rest _ c hcs hbracket hbrace h).2 members)

/-- An object that is read as a value has the keys that are read off it. -/
theorem keys_of_read (h : read cs = .ok (.object members, rest)) (mark : String) :
    ∃ keys, readKeys cs = .ok (keys, rest) ∧ (mark ∉ keys → members.lookup mark = none) := by
  rcases read_object cs rest members h with ⟨tail, hcs, hloop⟩
  have hread : readKeys cs = foldMembers keepKey (tail.length + 1) true [] tail := by
    rw [readKeys, hcs]
    rfl
  have hloop' := keys_of_loop _ (skips_putMember _ (skips_readWith _ _)) mark (List.lookup mark)
    (fun members key reader cs members' rest hkey hreader hmember => by
      rw [← Except.ok.inj hreader] at hmember
      rcases (map_eq_ok_iff _ _ _).mp hmember with ⟨⟨v, behind⟩, _, hpair⟩
      rw [← (Prod.mk.inj hpair).1]
      exact lookup_putMember members key mark v hkey)
    _ (tail.length + 1) true [] members [] tail rest (Nat.lt_succ_self _) hloop
  rcases hloop' with ⟨keys, hkeys, hnone⟩
  rw [List.append_nil] at hkeys
  exact ⟨keys, by rw [hread, hkeys], hnone⟩

end Value

end Json

namespace Reply

open Json

/-- A line is, blanks around it aside, an object with the key of a payload, whatever its
    values are. -/
def LineHolds (line : List Char) : Prop :=
  ∃ keys ∈ keys? (Text.trim line), payloadKey ∈ keys

instance (line : List Char) : Decidable (LineHolds line) :=
  inferInstanceAs (Decidable (∃ _ ∈ _, _))

/-- The last line of an output that has a payload. -/
structure LastCarrier (output line : List Char) : Prop where
  /-- No line behind it has one. -/
  last : ∃ before after, Text.splitLines output = before ++ line :: after ∧
    ∀ l ∈ after, ¬LineCarries l
  carries : LineCarries line

/-- Two outputs that nothing is read differently from, be it a value or a fault. -/
structure ReadAlike (output output' : String) : Prop where
  projects : readProjects output = readProjects output'
  description : ∀ root, readDescription output root = readDescription output' root
  addons : readAddons output = readAddons output'

theorem isBlank_of_isSpace (c : Char) (h : isSpace c = true) : Text.isBlank c = true := by
  simp only [isSpace, Bool.or_eq_true, beq_iff_eq] at h
  rcases h with ((rfl | rfl) | rfl) | rfl <;> decide

section Line

variable (line : List Char)

/-- The object that a line with a payload is. -/
theorem object_of_lineCarries (h : LineCarries line) : ∃ members raw rest,
    Value.read (Text.trim line) = .ok (.object members, rest) ∧
      (skipBlank rest).isEmpty = true ∧ members.lookup payloadKey = some raw := by
  rcases h with ⟨v, hv, hkey⟩
  rw [Option.mem_def, toOption_eq_some_iff, Value.parse, readWhole?_eq_ok_iff] at hv
  rcases hv with ⟨rest, hread, hend⟩
  cases v with
  | object members =>
      cases hlookup : members.lookup payloadKey with
      | some raw => exact ⟨members, raw, rest, hread, hend, hlookup⟩
      | none =>
          rw [List.lookup_eq_none_iff] at hlookup
          rcases List.mem_map.mp hkey with ⟨m, hm, heq⟩
          have hne := hlookup m hm
          rw [heq, bne_self_eq_false] at hne
          cases hne
  | _ => exact absurd hkey List.not_mem_nil

/-- A line with a payload is an object that holds one. -/
theorem lineHolds_of_lineCarries (h : LineCarries line) : LineHolds line := by
  rcases object_of_lineCarries line h with ⟨members, raw, rest, hread, hend, hraw⟩
  rcases Value.keys_of_read _ rest members hread payloadKey with ⟨keys, hkeys, hnone⟩
  refine ⟨keys, (mem_keys?_iff _ keys).mpr ⟨rest, hkeys, hend⟩, Decidable.not_not.mp fun hkey => ?_⟩
  rw [hnone hkey] at hraw
  cases hraw

/-- Nothing that blanks are is left at the front of a line that was trimmed. -/
theorem skipBlank_trim : skipBlank (Text.trim line) = Text.trim line := by
  cases hline : Text.trim line with
  | nil => rfl
  | cons c cs =>
      have hblank := (Text.trimmed_trim line).first c (by rw [hline]; rfl)
      refine skipBlank_cons cs c ?_
      rw [← Bool.not_eq_true] at hblank ⊢
      exact fun hspace => hblank (isBlank_of_isSpace c hspace)

/-- The scan finds the payload of a line that has one. -/
theorem payloadOfLine?_of_carries (h : LineCarries line) :
    ∃ raw, payloadOfLine? line = some raw := by
  rcases object_of_lineCarries line h with ⟨members, raw, rest, hread, hend, hraw⟩
  rcases Value.read_object _ rest members hread with ⟨tail, hcs, _⟩
  have hparse : Value.parse (Text.trim line) = .ok (.object members) :=
    (readWhole?_eq_ok_iff _ _ _).mpr ⟨rest, hread, hend⟩
  have hbrace : (Text.trim line).head? = some '\x7b' := by
    rw [← skipBlank_trim, hcs]
    rfl
  refine ⟨raw, ?_⟩
  rw [payloadOfLine?, if_pos hbrace, hparse]
  exact hraw

end Line

section Scan

variable {output output' : String} {line line' : List Char}

/-- The scan finds the payload of the last line that has one. -/
theorem payload?_of_last {output : List Char} (h : LastCarrier output line) :
    ∃ raw, payload? output = some raw ∧ payloadOfLine? line = some raw := by
  rcases h.last with ⟨before, after, hlines, hafter⟩
  rcases payloadOfLine?_of_carries line h.carries with ⟨raw, hraw⟩
  have hnone : after.reverse.findSome? payloadOfLine? = none :=
    List.findSome?_eq_none_iff.mpr fun l hl =>
      payloadOfLine?_of_not_carries l (hafter l (List.mem_reverse.mp hl))
  refine ⟨raw, ?_, hraw⟩
  rw [payload?, hlines, List.reverse_append, List.reverse_cons, List.append_assoc,
    List.singleton_append, List.findSome?_append, hnone, Option.none_or, List.findSome?_cons, hraw]

/-- Where the scan finds a payload nothing else is read. -/
theorem readPayload_of_payload {α : Type} (d : Decoder α) (absent : Option α) (raw : Value)
    (h : payload? output.toList = some raw) (h' : payload? output'.toList = some raw) :
    readPayload d absent output = readPayload d absent output' := by
  rw [readPayload, readPayload, h, h']

/-- Blanks around the line make no difference. -/
theorem readAlike_of_last (h : LastCarrier output.toList line)
    (h' : LastCarrier output'.toList line') (htrim : Text.trim line' = Text.trim line) :
    ReadAlike output output' := by
  rcases payload?_of_last h with ⟨raw, hscan, hraw⟩
  rcases payload?_of_last h' with ⟨raw', hscan', hraw'⟩
  have hsame : raw' = raw := by
    rw [payloadOfLine?, htrim, ← payloadOfLine?, hraw] at hraw'
    exact (Option.some.inj hraw').symm
  rw [hsame] at hscan'
  exact ⟨by rw [readProjects, readProjects, readPayload_of_payload _ _ raw hscan hscan'],
    fun root => by
      rw [readDescription, readDescription, readPayload_of_payload _ _ raw hscan hscan'],
    readPayload_of_payload _ _ raw hscan hscan'⟩

end Scan

section Lines

/-- The last line with a payload is found from the end. -/
theorem find?_eq_some_iff_lastCarrier (output line : List Char) :
    (Text.splitLines output).reverse.find? (fun l => decide (LineCarries l)) = some line ↔
      LastCarrier output line := by
  simp only [find?_reverse_eq_some_iff, decide_eq_true_eq, decide_eq_false_iff_not]
  exact ⟨fun h => ⟨h.2, h.1⟩, fun h => ⟨h.carries, h.last⟩⟩

theorem exists_lastCarrier (output : List Char)
    (h : ∃ line ∈ Text.splitLines output, LineCarries line) : ∃ line, LastCarrier output line := by
  rcases h with ⟨line, hline, hcarries⟩
  have hsome : ((Text.splitLines output).reverse.find? fun l => decide (LineCarries l)).isSome :=
    List.find?_isSome.mpr ⟨line, List.mem_reverse.mpr hline, decide_eq_true hcarries⟩
  rcases Option.isSome_iff_exists.mp hsome with ⟨last, hlast⟩
  exact ⟨last, (find?_eq_some_iff_lastCarrier output last).mp hlast⟩

theorem LastCarrier.unique {output line line' : List Char} (h : LastCarrier output line)
    (h' : LastCarrier output line') : line = line' := by
  rw [← find?_eq_some_iff_lastCarrier] at h h'
  rw [h] at h'
  exact Option.some.inj h'

/-- A line with a payload has it in any text that has no other payload behind that line. -/
theorem lastCarrier_between (line front ending back : List Char) (hcarries : LineCarries line)
    (hfeed : '\n' ∉ line) (hfront : front = [] ∨ front.getLast? = some '\n')
    (hending : Text.LineEnd ending back) (hback : ∀ l ∈ Text.splitLines back, ¬LineCarries l) :
    ∃ line', LastCarrier (front ++ (line ++ (ending ++ back))) line' ∧
      Text.trim line' = Text.trim line := by
  have hline : line ≠ [] := by
    rintro rfl
    exact absurd hcarries (by decide)
  rcases Text.splitLines_of_lineEnd line ending back hfeed hline hending with
    ⟨line', hlines, htrim⟩
  refine ⟨line', ⟨⟨Text.splitLines front, Text.splitLines back, ?_, hback⟩, ?_⟩, htrim⟩
  · rw [Text.splitLines_append_of_ended front _ hfront, hlines]
  · rw [LineCarries, htrim]
    exact hcarries

/-- The text around the last line with a payload may be exchanged. -/
theorem readAlike_between (output : String) (line front ending back : List Char)
    (h : LastCarrier output.toList line) (hfront : front = [] ∨ front.getLast? = some '\n')
    (hending : Text.LineEnd ending back) (hback : ∀ l ∈ Text.splitLines back, ¬LineCarries l) :
    ReadAlike output (String.ofList (front ++ (line ++ (ending ++ back)))) := by
  rcases h.last with ⟨before, after, hlines, _⟩
  have hmem : line ∈ Text.splitLines output.toList := by
    rw [hlines]
    exact List.mem_append_cons_self
  have hfeed := Text.newline_not_mem_of_splitLines _ line hmem
  rcases lastCarrier_between line front ending back h.carries hfeed hfront hending hback with
    ⟨line', hlast, htrim⟩
  refine readAlike_of_last h ?_ htrim
  rw [String.toList_ofList]
  exact hlast

end Lines

/-- Where a line has a payload, what is read of an output is what is read of the last such
    line alone, be it a value or a fault. So it is the same for all outputs that have the
    same line last, and whatever is put before it, and behind it without a payload. -/
theorem last_payload_counts (output : String)
    (h : ∃ line ∈ Text.splitLines output.toList, LineCarries line) :
    ∃ line, LastCarrier output.toList line ∧ ReadAlike output (String.ofList line) ∧
      (∀ output' line', LastCarrier output'.toList line' → Text.trim line' = Text.trim line →
        ReadAlike output output') ∧
      ∀ front ending back, (front = [] ∨ front.getLast? = some '\n') →
        Text.LineEnd ending back → (∀ l ∈ Text.splitLines back, ¬LineCarries l) →
        ReadAlike output (String.ofList (front ++ (line ++ (ending ++ back)))) := by
  rcases exists_lastCarrier output.toList h with ⟨line, hlast⟩
  have hput := fun front ending back => readAlike_between output line front ending back hlast
  refine ⟨line, hlast, ?_, fun output' line' => readAlike_of_last hlast, hput⟩
  have halone := hput [] [] [] (Or.inl rfl) Text.LineEnd.none fun l hl => absurd hl List.not_mem_nil
  rw [List.nil_append, List.append_nil, List.append_nil] at halone
  exact halone

/-- An older payload, a log entry and a broken line make no difference. -/
theorem payload_among_noise :
    let line := "  \x7b\"raw\":[\x7b\"name\":\"shop\"\x7d]\x7d"
    let output := "starting\n\x7b\"raw\":[]\x7d\n" ++ line ++
      "\r\n\x7b\"level\":\"info\"\x7d\n\x7b\"raw\":["
    LastCarrier output.toList line.toList ∧ ReadAlike output line ∧
      readProjects output = .ok [⟨"shop", .unknown, "", "", ⟨""⟩⟩] := by
  intro line output
  have hcarries : ∃ l ∈ Text.splitLines output.toList, LineCarries l := by decide
  have hlast : LastCarrier output.toList line.toList :=
    (find?_eq_some_iff_lastCarrier _ _).mp (by decide)
  have hread : readProjects output = .ok [⟨"shop", .unknown, "", "", ⟨""⟩⟩] := by
    unfold output line
    rfl
  rcases last_payload_counts output hcarries with ⟨line', hlast', halone, _⟩
  rw [hlast'.unique hlast, String.ofList_toList] at halone
  exact ⟨hlast, halone, hread⟩

/-- A line that is refused for a number out of range has a payload alone, and none behind a
    log entry. -/
theorem refused_line_is_passed_over :
    let line := "\x7b\"raw\":[\x7b\"name\":\"shop\"\x7d],\"limit\":1e999\x7d"
    let output := "\x7b\"level\":\"info\"\x7d\n" ++ line ++ "\n"
    Text.splitLines output.toList = ["\x7b\"level\":\"info\"\x7d".toList, line.toList] ∧
      LineHolds line.toList ∧
      readProjects line = .ok [⟨"shop", .unknown, "", "", ⟨""⟩⟩] ∧
      readProjects output = .error .malformed ∧ ¬ReadAlike output line := by
  refine ⟨rfl, by decide, rfl, rfl, fun h => ?_⟩
  have hsame : (Except.error Fault.malformed : Except Fault (List Project)) =
    .ok [⟨"shop", .unknown, "", "", ⟨""⟩⟩] := h.projects
  cases hsame

end Reply

end FleetBoard
