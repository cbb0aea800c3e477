import FleetBoard.Proofs.Agreement
import FleetBoard.Proofs.LineScan

/-!
# Replies in Either Layout

The orchestration tool is read by two routes. A payload that the scan finds has been
read as a value before it is decoded; where the scan finds none, the whole text is
decoded as it stands. Which route is taken depends on the layout of the reply, and on
whether a reader of any values would refuse it. What is read does not: the two routes
of every decoder agree, and an envelope decoded as a whole gives what its payload gives.

So a reply reads the same on one line and over several, with nothing asked of its depth
or its numbers. Only no key may be repeated: the scan overlooks that, and the other
route does not.

## Theorems

* `ofValue_envelope`: An envelope holds what its payload holds.
* `readPayload_write`: What is read of a payload, by either route.
* `agrees_listEntry`, `agrees_printedDescription`, `agrees_addonEntry`: The shapes of the
  replies.
* `layouts_read_alike`: A reply reads the same in either layout.
-/

namespace FleetBoard

namespace Reply

open Json

section Envelope

variable {α : Type} (d : Decoder α) (absent : Option α)

/-- The fields of an envelope: its payload. -/
def envelopeFields : List (Member (Option α)) :=
  [⟨[payloadKey], d.map fun v _ => some v, absent.isNone, true⟩]

theorem fieldIndex_envelope (key : String) :
    fieldIndex key (envelopeFields d absent) = if key = payloadKey then some 0 else none := by
  rw [envelopeFields, fieldIndex, List.findIdx?_cons, List.findIdx?_nil, List.contains_cons,
    List.contains_nil, Bool.or_false]
  by_cases hkey : key = payloadKey
  · rw [if_pos hkey, if_pos (beq_iff_eq.mpr hkey)]
  · rw [if_neg hkey, if_neg (by rw [beq_iff_eq]; exact hkey)]
    rfl

/-- Members with other keys leave an envelope as it is. -/
theorem foldlM_others (members : List (String × Value)) (draft : Draft (Option α))
    (h : payloadKey ∉ members.map Prod.fst) :
    members.foldlM (fun draft m => Decoder.takeMember (envelopeFields d absent) draft m.1 m.2)
      draft = some draft := by
  induction members with
  | nil => rfl
  | cons m ms ih =>
      rw [List.map_cons, List.mem_cons, not_or] at h
      rw [List.foldlM_cons, Decoder.takeMember, fieldIndex_envelope,
        if_neg fun heq => h.1 heq.symm]
      exact ih h.2

/-- The payload is taken from among the other members. -/
theorem foldlM_envelope (members : List (String × Value)) (raw : Value)
    (hkeys : (members.map Prod.fst).Nodup) (hraw : members.lookup payloadKey = some raw) :
    members.foldlM (fun draft m => Decoder.takeMember (envelopeFields d absent) draft m.1 m.2)
      ⟨absent, []⟩ = (d.ofValue raw).map fun a => ⟨some a, [0]⟩ := by
  induction members with
  | nil => exact absurd hraw (Option.some_ne_none raw).symm
  | cons m ms ih =>
      rw [List.map_cons, List.nodup_cons] at hkeys
      rw [List.foldlM_cons, Decoder.takeMember, fieldIndex_envelope]
      rw [List.lookup_cons] at hraw
      by_cases hkey : m.1 = payloadKey
      · rw [hkey, beq_self_eq_true] at hraw
        rw [if_pos hkey, Option.some.inj hraw]
        rw [hkey] at hkeys
        change Option.bind (((d.ofValue raw).map _).map _) _ = _
        cases d.ofValue raw with
        | none => rfl
        | some a => exact foldlM_others d absent ms _ hkeys.1
      · rw [beq_eq_false_iff_ne.mpr fun heq => hkey heq.symm] at hraw
        rw [if_neg hkey]
        exact ih hkeys.2 hraw

theorem ofValue_envelope (members : List (String × Value)) (raw : Value)
    (hkeys : (members.map Prod.fst).Nodup) (hraw : members.lookup payloadKey = some raw) :
    (envelope d absent).ofValue (.object members) = (d.ofValue raw).map some := by
  change Option.bind (members.foldlM (fun draft m => Decoder.takeMember (envelopeFields d absent)
    draft m.1 m.2) ⟨absent, []⟩) (finishDraft (envelopeFields d absent)) = _
  rw [foldlM_envelope d absent members raw hkeys hraw]
  cases d.ofValue raw with
  | none => rfl
  | some a => cases absent <;> rfl

variable (hd : d.Agrees)

include hd

theorem agrees_envelope : (envelope d absent).Agrees :=
  Decoder.agrees_record _ (List.forall_mem_singleton.mpr (Decoder.agrees_map d hd _)) absent

/-- What is read of a payload: what its decoder makes of it, by whichever route. -/
theorem readPayload_write (l : Layout) (members : List (String × Value)) (raw : Value)
    (hraw : members.lookup payloadKey = some raw) (hdistinct : (Value.object members).Distinct)
    (hscan : payload? (Value.write l 0 (.object members)) = none ∨
      payload? (Value.write l 0 (.object members)) = some raw) :
    (readPayload d absent (String.ofList (Value.write l 0 (.object members)))).toOption =
      d.ofValue raw := by
  rw [readPayload, String.toList_ofList]
  rcases hscan with hnone | hsome
  · have hwhole := readWhole?_write _ _ _
      (agrees_envelope d absent hd (.object members) hdistinct) l
    rw [ofValue_envelope d absent members raw hdistinct.members.1 hraw] at hwhole
    rw [hnone]
    dsimp only [Decoder.parse]
    cases hread : readWhole? (envelope d absent).read (Value.write l 0 (.object members)) with
    | error e =>
        rw [hread] at hwhole
        rw [Option.map_eq_none_iff.mp hwhole.symm]
        rfl
    | ok payload =>
        rw [hread] at hwhole
        rcases Option.map_eq_some_iff.mp hwhole.symm with ⟨a, ha, hpayload⟩
        rw [ha, ← hpayload]
        rfl
  · rw [hsome]
    dsimp only
    cases d.ofValue raw <;> rfl

end Envelope

section Shapes

theorem agrees_listOrNull {α : Type} (d : Decoder α) (hd : d.Agrees) : (listOrNull d).Agrees :=
  Decoder.agrees_map _ (Decoder.agrees_optional _ (Decoder.agrees_list d hd)) _

/-- A field that holds a text is read alike by the two routes. -/
theorem agrees_textField {σ : Type} (f : String → σ → σ) : (Decoder.text.map f).Agrees :=
  Decoder.agrees_map _ Decoder.agrees_text f

theorem agrees_listEntry : listEntry.Agrees := by
  refine Decoder.agrees_record _ ?_ _
  simp only [List.forall_mem_cons, optionalField]
  exact ⟨agrees_textField _, agrees_textField _, agrees_textField _, agrees_textField _,
    agrees_textField _, agrees_textField _, fun _ h => absurd h List.not_mem_nil⟩

theorem agrees_databaseInfo : databaseInfo.Agrees := by
  have hport : (Decoder.natural maxPort).Agrees := Decoder.agrees_natural maxPort (by decide)
  exact Decoder.agrees_record _ (List.forall_mem_singleton.mpr
    (Decoder.agrees_map _ (Decoder.agrees_optional _ hport) _)) _

theorem agrees_serviceEntry : serviceEntry.Agrees :=
  Decoder.agrees_record _ (List.forall_mem_singleton.mpr (agrees_textField _)) _

theorem agrees_printedDescription : printedDescription.Agrees := by
  refine Decoder.agrees_record _ ?_ _
  simp only [List.forall_mem_cons, optionalField, detailText]
  exact ⟨agrees_textField _, agrees_textField _, agrees_textField _, agrees_textField _,
    agrees_textField _, agrees_textField _, agrees_textField _, agrees_textField _,
    agrees_textField _, Decoder.agrees_map _ Decoder.agrees_flag _, agrees_textField _,
    Decoder.agrees_map _ (Decoder.agrees_list _ Decoder.agrees_text) _, agrees_textField _,
    agrees_textField _, Decoder.agrees_map _ agrees_databaseInfo _,
    Decoder.agrees_map _ (Decoder.agrees_dictionary _ agrees_serviceEntry) _,
    fun _ h => absurd h List.not_mem_nil⟩

theorem agrees_addonEntry : addonEntry.Agrees :=
  Decoder.agrees_record _ (List.forall_mem_singleton.mpr (agrees_textField _)) _

end Shapes

section Layouts

variable (members : List (String × Value)) (raw : Value)
  (hraw : members.lookup payloadKey = some raw) (hdistinct : (Value.object members).Distinct)

include hraw hdistinct

/-- Whether or not the scan finds the payload of a compact text, its decoder tells what
    is read. -/
theorem readPayload_compact {α : Type} (d : Decoder α) (absent : Option α) (hd : d.Agrees) :
    (readPayload d absent (String.ofList (Value.object members).compact)).toOption =
      d.ofValue raw := by
  have hscan := payload?_compact members hdistinct
  rw [← Value.write_compact _ 0] at hscan ⊢
  refine readPayload_write d absent hd .compact members raw hraw hdistinct ?_
  rw [hscan]
  split
  · exact Or.inr hraw
  · exact Or.inl rfl

theorem readPayload_pretty {α : Type} (d : Decoder α) (absent : Option α) (hd : d.Agrees) :
    (readPayload d absent (String.ofList (Value.object members).pretty)).toOption =
      d.ofValue raw := by
  have hscan := payload?_pretty members
  rw [Value.pretty, ← Value.write_pretty] at hscan ⊢
  exact readPayload_write d absent hd .pretty members raw hraw hdistinct (Or.inl hscan)

/-- An object with a payload, in which no key is repeated at any depth, reads the same on
    one line and over several: the project list, a description for any root, and the
    add-ons are read from the one text exactly if they are from the other, with equal
    results. On one line the scan finds the payload, as long as the object is not nested
    too deeply and its numbers are in range; over several lines it never does, and the
    whole text is decoded. -/
theorem layouts_read_alike :
    payload? (Value.object members).pretty = none ∧
    ((Value.object members).readable nestingLimit = true →
      payload? (Value.object members).compact = some raw) ∧
    (readProjects (String.ofList (Value.object members).compact)).toOption =
      (readProjects (String.ofList (Value.object members).pretty)).toOption ∧
    (∀ root, (readDescription (String.ofList (Value.object members).compact) root).toOption =
      (readDescription (String.ofList (Value.object members).pretty) root).toOption) ∧
    (readAddons (String.ofList (Value.object members).compact)).toOption =
      (readAddons (String.ofList (Value.object members).pretty)).toOption := by
  have halike : ∀ {α : Type} (d : Decoder α) (absent : Option α), d.Agrees →
      (readPayload d absent (String.ofList (Value.object members).compact)).toOption =
        (readPayload d absent (String.ofList (Value.object members).pretty)).toOption := by
    intro α d absent hd
    rw [readPayload_compact members raw hraw hdistinct d absent hd,
      readPayload_pretty members raw hraw hdistinct d absent hd]
  refine ⟨payload?_pretty members, fun hreadable => ?_, ?_, fun root => ?_, ?_⟩
  · rw [payload?_compact members hdistinct, if_pos hreadable, hraw]
  · rw [readProjects, readProjects, toOption_map, toOption_map,
      halike _ _ (agrees_listOrNull _ agrees_listEntry)]
  · rw [readDescription, readDescription, toOption_map, toOption_map,
      halike _ _ agrees_printedDescription]
  · exact halike _ _ (agrees_listOrNull _ agrees_addonEntry)

omit hraw hdistinct

/-- The item in the payload has a member of that name too, and a number that no add-on is
    asked for. The payload is the outer one in either layout, and an item of a list for the
    project list and the add-ons. It is no description, which the other reply has. -/
theorem nested_payload_reads_alike :
    let item : Value := .object [("name", .text "redis"), (payloadKey, .array []),
      ("published_port", .number ⟨false, 65536, [], none⟩)]
    let reply : Value := .object [("level", .text "info"), (payloadKey, .array [item])]
    let shop : Value := .object [("name", .text "shop"), ("status", .text "running")]
    payload? reply.pretty = none ∧ payload? reply.compact = some (.array [item]) ∧
      (readProjects (String.ofList reply.compact)).toOption =
        (readProjects (String.ofList reply.pretty)).toOption ∧
      (readProjects (String.ofList reply.pretty)).toOption =
        some [⟨"redis", .unknown, "", "", ⟨""⟩⟩] ∧
      (readDescription (String.ofList reply.pretty) ⟨"/srv/shop"⟩).toOption = none ∧
      (readAddons (String.ofList reply.pretty)).toOption = some ["redis"] ∧
      (readDescription (String.ofList (Value.object [(payloadKey, shop)]).pretty)
          ⟨"/srv/shop"⟩).toOption =
        some { name := "shop", status := .running, root := ⟨"/srv/shop"⟩ } := by
  intro item reply shop
  have hitem : item.Distinct := by
    refine .object _ (by decide) ?_
    simp only [List.forall_mem_cons]
    exact ⟨.text _, .array _ fun _ h => absurd h List.not_mem_nil, .number _,
      fun _ h => absurd h List.not_mem_nil⟩
  have hreply : reply.Distinct := by
    refine .object _ (by decide) ?_
    simp only [List.forall_mem_cons]
    exact ⟨.text _, .array _ (List.forall_mem_singleton.mpr hitem),
      fun _ h => absurd h List.not_mem_nil⟩
  rcases layouts_read_alike [("level", .text "info"), (payloadKey, .array [item])] (.array [item])
    rfl hreply with ⟨hpretty, hcompact, hprojects, hdescription, haddons⟩
  have hshop : (Value.object [(payloadKey, shop)]).Distinct := by
    refine .object _ (by decide) (List.forall_mem_singleton.mpr (.object _ (by decide) ?_))
    simp only [List.forall_mem_cons]
    exact ⟨.text _, .text _, fun _ h => absurd h List.not_mem_nil⟩
  have hother := (layouts_read_alike [(payloadKey, shop)] shop rfl hshop).2.2.2.1 ⟨"/srv/shop"⟩
  -- evaluating the range of doubles is out of the question; the number is a small natural
  have hfinite : Number.isFinite ⟨false, 65536, [], none⟩ = true :=
    Decoder.isFinite_of_natural? _ 65536 rfl (by decide)
  have hreadable : reply.readable nestingLimit = true := by
    simp [reply, item, Value.readable, Value.readableItems, Value.readableMembers, nestingLimit,
      hfinite]
  refine ⟨hpretty, hcompact hreadable, hprojects, ?_, ?_, ?_, ?_⟩
  · rw [← hprojects, readProjects, toOption_map, readPayload_compact _ (.array [item]) rfl hreply
      _ _ (agrees_listOrNull _ agrees_listEntry)]
    rfl
  · rw [← hdescription, readDescription, toOption_map, readPayload_compact _ (.array [item]) rfl
      hreply _ _ agrees_printedDescription]
    rfl
  · rw [← haddons, readAddons, readPayload_compact _ (.array [item]) rfl hreply _ _
      (agrees_listOrNull _ agrees_addonEntry)]
    rfl
  · rw [← hother, readDescription, toOption_map, readPayload_compact _ shop rfl hshop _ _
      agrees_printedDescription]
    rfl

end Layouts

end Reply

end FleetBoard
