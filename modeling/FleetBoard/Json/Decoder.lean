import FleetBoard.Json.Skip

/-!
# Decoders

A decoder describes an expected shape once and reads it by two routes: from a
value that has been read already, and straight from a text. The first route
knows every member of an object only once, the second sees the text as it is, so
a key that is repeated is a mismatch there.

A record is written as an object or, with its fields in order, as an array. Keys
that it does not know are passed over.

## Main definitions

* `Decoder`: An expected shape with its two routes.
* `Decoder.text`, `Decoder.flag`, `Decoder.natural`: Texts, truth values and
  bounded natural numbers.
* `Decoder.optional`, `Decoder.list`, `Decoder.dictionary`: Shapes built from
  another one.
* `Member`, `Decoder.record`: Records.
-/

namespace FleetBoard

namespace Json

/-- An expected shape with its two routes. A value that has been read already
    can only mismatch. -/
structure Decoder (α : Type) where
  ofValue : Value → Option α
  read : Reader α

/-- The fault of a text that holds another kind of value than expected: a
    mismatch, unless the value is not even well formed as far as its kind
    requires it to be read. -/
def refusal (cs : List Char) : Fault :=
  let after {α : Type} (r : Except Fault α) : Fault :=
    match r with
    | .ok _ => .mismatch
    | .error e => e
  match cs with
  | [] => .truncated
  | c :: rest =>
    if c = 'n' then after (readWord ['u', 'l', 'l'] rest)
    else if c = 't' then after (readWord ['r', 'u', 'e'] rest)
    else if c = 'f' then after (readWord ['a', 'l', 's', 'e'] rest)
    else if c = '-' ∨ (digit? c).isSome then after (readNumber cs)
    else if c = '"' then after (readLiteral rest)
    else if c = '[' ∨ c = '\x7b' then .mismatch
    else .malformed

/-- A field of a record that is being read into a `σ`. -/
structure Member (σ : Type) where
  /-- The keys that the field goes by. -/
  names : List String
  /-- How the value of the field is stored. -/
  store : Decoder (σ → σ)
  /-- Whether a record written as an object has to have the field. -/
  neededInObject : Bool
  /-- Whether a record written as an array has to have the field. -/
  neededInArray : Bool

/-- A record that is being read, and the positions of the fields it has got. -/
structure Draft (σ : Type) where
  value : σ
  seen : List Nat

/-- The position of the field that goes by a key. -/
def fieldIndex {σ : Type} (key : String) (fields : List (Member σ)) : Option Nat :=
  fields.findIdx? fun f => f.names.contains key

/-- The value of a draft that has all the fields an object needs. -/
def finishDraft {σ : Type} (fields : List (Member σ)) (d : Draft σ) : Option σ :=
  if (fields.zipIdx.all fun f => !f.1.neededInObject || d.seen.contains f.2) then some d.value
  else none

namespace Decoder

/-- Texts. -/
def text : Decoder String where
  ofValue
    | .text s => some s
    | _ => none
  read cs :=
    match skipBlank cs with
    | [] => .error .truncated
    | c :: rest => if c = '"' then readLiteral rest else .error (refusal (c :: rest))

/-- Truth values. -/
def flag : Decoder Bool where
  ofValue
    | .bool b => some b
    | _ => none
  read cs :=
    match skipBlank cs with
    | [] => .error .truncated
    | c :: rest =>
      if c = 't' then (readWord ['r', 'u', 'e'] rest).map fun p => (true, p.2)
      else if c = 'f' then (readWord ['a', 'l', 's', 'e'] rest).map fun p => (false, p.2)
      else .error (refusal (c :: rest))

/-- The value of a number that is natural and at most `limit`. -/
def boundedNatural (limit : Nat) (n : Number) : Option Nat :=
  n.natural?.filter (· ≤ limit)

/-- Natural numbers up to a limit. -/
def natural (limit : Nat) : Decoder Nat where
  ofValue
    | .number n => boundedNatural limit n
    | _ => none
  read cs :=
    match skipBlank cs with
    | [] => .error .truncated
    | c :: rest =>
      if c = '-' ∨ (digit? c).isSome then
        match readNumber (c :: rest) with
        | .error e => .error e
        | .ok (n, rest) =>
          match boundedNatural limit n with
          | some v => .ok (v, rest)
          | none => .error .mismatch
      else .error (refusal (c :: rest))

/-- A decoded value, changed. -/
def map {α β : Type} (f : α → β) (d : Decoder α) : Decoder β where
  ofValue v := (d.ofValue v).map f
  read cs := (d.read cs).map fun p => (f p.1, p.2)

/-- A shape or the null value. -/
def optional {α : Type} (d : Decoder α) : Decoder (Option α) where
  ofValue
    | .null => some none
    | v => (d.ofValue v).map some
  read cs :=
    match skipBlank cs with
    | [] => .error .truncated
    | c :: rest =>
      if c = 'n' then (readWord ['u', 'l', 'l'] rest).map fun p => (none, p.2)
      else (d.read (c :: rest)).map fun p => (some p.1, p.2)

/-- Arrays of a shape. -/
def list {α : Type} (d : Decoder α) : Decoder (List α) where
  ofValue
    | .array items => items.mapM d.ofValue
    | _ => none
  read cs :=
    match skipBlank cs with
    | [] => .error .truncated
    | c :: rest =>
      if c = '[' then
        (foldItems (fun items cs => (d.read cs).map fun p => (p.1 :: items, p.2))
          (rest.length + 1) true [] rest).map fun p => (p.1.reverse, p.2)
      else .error (refusal (c :: rest))

/-- Members in ascending order of their keys. -/
def sortMembers {α : Type} (members : List (String × α)) : List (String × α) :=
  members.mergeSort fun a b => a.1 ≤ b.1

/-- Objects with any keys whose members have a shape, ascending by key. Of a
    repeated key the last member counts. -/
def dictionary {α : Type} (d : Decoder α) : Decoder (List (String × α)) where
  ofValue
    | .object members =>
      (members.mapM fun m => (d.ofValue m.2).map fun v => (m.1, v)).map sortMembers
    | _ => none
  read cs :=
    match skipBlank cs with
    | [] => .error .truncated
    | c :: rest =>
      if c = '\x7b' then
        (foldMembers
          (fun members key => .ok fun cs =>
            (d.read cs).map fun p => (putMember key p.1 members, p.2))
          (rest.length + 1) true [] rest).map fun p => (sortMembers p.1, p.2)
      else .error (refusal (c :: rest))

/-- A draft after one member of an object. A field that the draft has already is
    refused. -/
def takeMember {σ : Type} (fields : List (Member σ)) (d : Draft σ) (key : String) (v : Value) :
    Option (Draft σ) :=
  match fieldIndex key fields with
  | none => some d
  | some i =>
    if d.seen.contains i then none
    else
      match fields[i]? with
      | none => some d
      | some f => (f.store.ofValue v).map fun set => ⟨set d.value, i :: d.seen⟩

/-- A record from the items of an array. -/
def takeItems {σ : Type} : List (Member σ) → List Value → σ → Option σ
  | [], [], s => some s
  | [], _ :: _, _ => none
  | f :: fields, [], s => if f.neededInArray then none else takeItems fields [] s
  | f :: fields, v :: vs, s =>
    match f.store.ofValue v with
    | some set => takeItems fields vs (set s)
    | none => none

/-- A draft after one member of an object in a text. -/
def readMember {σ : Type} (fields : List (Member σ)) (d : Draft σ) (key : String) :
    Except Fault (Reader (Draft σ)) :=
  match fieldIndex key fields with
  | none => .ok fun cs => (skipValue cs).map fun p => (d, p.2)
  | some i =>
    if d.seen.contains i then .error .mismatch
    else
      match fields[i]? with
      | none => .ok fun cs => (skipValue cs).map fun p => (d, p.2)
      | some f => .ok fun cs => (f.store.read cs).map fun p => (⟨p.1 d.value, i :: d.seen⟩, p.2)

/-- A record from an array in a text whose opening bracket has been read, up to
    its closing bracket. -/
def readItems {σ : Type} : List (Member σ) → Bool → σ → Reader σ
  | [], _, s, cs => .ok (s, cs)
  | f :: fields, first, s, cs =>
    match nextItem first cs with
    | .error e => .error e
    | .ok none => if f.neededInArray then .error .mismatch else readItems fields first s cs
    | .ok (some cs) =>
      match f.store.read cs with
      | .error e => .error e
      | .ok (set, rest) => readItems fields false (set s) rest

/-- Records: `start` has the defaults of the fields. -/
def record {σ : Type} (fields : List (Member σ)) (start : σ) : Decoder σ where
  ofValue
    | .object members =>
      (members.foldlM (fun d m => takeMember fields d m.1 m.2) ⟨start, []⟩).bind
        (finishDraft fields)
    | .array items => takeItems fields items start
    | _ => none
  read cs :=
    match skipBlank cs with
    | [] => .error .truncated
    | c :: rest =>
      if c = '\x7b' then
        match foldMembers (readMember fields) (rest.length + 1) true ⟨start, []⟩ rest with
        | .error e => .error e
        | .ok (d, rest) =>
          match finishDraft fields d with
          | some s => .ok (s, rest)
          | none => .error .mismatch
      else if c = '[' then
        match readItems fields true start rest with
        | .error e => .error e
        | .ok (s, rest) => (closeArray rest).map fun rest => (s, rest)
      else .error (refusal (c :: rest))

/-- The value of a whole text. -/
def parse {α : Type} (d : Decoder α) (cs : List Char) : Except Fault α :=
  readWhole? d.read cs

end Decoder

end Json

end FleetBoard
