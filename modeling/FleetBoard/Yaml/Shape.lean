import FleetBoard.Yaml.Node

/-!
# Expected Shapes

A node is read as the kind of value that is expected there. Any scalar is a
text. A number or a truth value has to be plain, or a literal block with the
right tag. What is not written is an empty list or a mapping without keys.

## Main definitions

* `Shape`: An expected shape.
* `Shape.text`, `Shape.flag`, `Shape.natural`: Texts, truth values and bounded
  natural numbers.
* `Shape.optional`, `Shape.list`, `Shape.record`: Shapes built from other ones.
-/

namespace FleetBoard

namespace Yaml

/-- An expected shape: what a node of a document is read as, if it has the
    shape. -/
def Shape (α : Type) : Type :=
  Node → Node → Option α

/-- A tag of the standard. -/
def standardTag (name : String) : List Char :=
  ("tag:yaml.org,2002:" ++ name).toList

/-- The words for a truth value. -/
def flagWord? (text : List Char) : Option Bool :=
  if ["true", "True", "TRUE"].contains (String.ofList text) then some true
  else if ["false", "False", "FALSE"].contains (String.ofList text) then some false
  else none

/-- Whether a text is a word for nothing. -/
def isNullWord (text : List Char) : Bool :=
  ["null", "Null", "NULL", "~"].contains (String.ofList text)

/-- The value of digits in a base, if there are any and all are digits of it. -/
def digits? (base : Nat) (cs : List Char) : Option Nat :=
  match cs.mapM hexDigit? with
  | none => none
  | some ds =>
    if !ds.isEmpty && ds.all (· < base) then some (ds.foldl (fun n d => n * base + d) 0) else none

/-- The value of a natural number: digits, or digits of another base after a
    mark. A plus sign may stand in front. A zero in front of other digits makes
    a text of them. -/
def naturalWord? (text : List Char) : Option Nat :=
  let unsigned := if text.head? = some '+' then text.drop 1 else text
  match unsigned with
  | '0' :: 'x' :: ds => digits? 16 ds
  | '0' :: 'o' :: ds => digits? 8 ds
  | '0' :: 'b' :: ds => digits? 2 ds
  | '0' :: _ :: _ => none
  | ds => digits? 10 ds

/-- Whether a scalar may be read as something else than a text: a plain one, or a
    literal block with the right tag. -/
def isTyped (style : Style) (tag : Option (List Char)) (name : String) : Bool :=
  style == .plain || (style == .literal && tag == some (standardTag name))

namespace Shape

/-- A shape that an alias of a node has as well as the node. -/
def ofNode {α : Type} (f : Node → Option α) : Shape α := fun document n =>
  match n with
  | .alias number => (document.anchored? number).bind f
  | n => f n

/-- Texts. -/
def text : Shape String :=
  ofNode fun
    | .scalar _ _ _ cs => some (String.ofList cs)
    | _ => none

/-- Truth values. -/
def flag : Shape Bool :=
  ofNode fun
    | .scalar _ tag style cs => if isTyped style tag "bool" then flagWord? cs else none
    | _ => none

/-- Natural numbers up to a limit. -/
def natural (limit : Nat) : Shape Nat :=
  ofNode fun
    | .scalar _ tag style cs =>
      if isTyped style tag "int" then (naturalWord? cs).filter (· ≤ limit) else none
    | _ => none

/-- Whether a node stands for a value at all. A tag that says there is none needs
    a word for it. -/
def isPresent? : Node → Option Bool
  | .scalar _ none .plain cs => some (!cs.isEmpty && !isNullWord cs)
  | .scalar _ (some tag) .plain cs =>
    if tag = standardTag "null" then (if isNullWord cs then some false else none) else some true
  | _ => some true

/-- A shape or nothing. -/
def optional {α : Type} (s : Shape α) : Shape (Option α) := fun document n =>
  let read (n : Node) : Option (Option α) :=
    match isPresent? n with
    | none => none
    | some false => some none
    | some true => (s document n).map some
  ofNode read document n

/-- Whether a scalar is not written. -/
def isAbsent : Node → Bool
  | .scalar _ _ .plain [] => true
  | _ => false

/-- Sequences of a shape. -/
def list {α : Type} (s : Shape α) : Shape (List α) := fun document n =>
  let read (n : Node) : Option (List α) :=
    match n with
    | .sequence _ items => items.mapM (s document)
    | n => if isAbsent n then some [] else none
  ofNode read document n

/-- A value with the keys of a mapping that it was read from. -/
structure Filled (σ : Type) where
  value : σ
  keys : List String

/-- A value after one more pair of a mapping. Keys that are not known are passed
    over, and one that is known may not be repeated. -/
def addPair {σ : Type} (fields : List (String × Shape (σ → σ))) (document : Node)
    (r : Filled σ) (pair : Node × Node) : Option (Filled σ) :=
  match text document pair.1 with
  | none => none
  | some key =>
    match fields.lookup key with
    | none => some r
    | some s =>
      if r.keys.contains key then none
      else (s document pair.2).map fun set => ⟨set r.value, key :: r.keys⟩

/-- Mappings with known keys, of which some are needed. -/
def record {σ : Type} (fields : List (String × Shape (σ → σ))) (needed : List String)
    (start : σ) : Shape σ := fun document n =>
  let read (n : Node) : Option σ :=
    let filled :=
      match n with
      | .mapping _ pairs => pairs.foldlM (addPair fields document) ⟨start, []⟩
      | n => if isAbsent n then some ⟨start, []⟩ else none
    filled.bind fun r => if needed.all r.keys.contains then some r.value else none
  ofNode read document n

/-- A shape with a function on its values. -/
def map {α β : Type} (f : α → β) (s : Shape α) : Shape β := fun document n =>
  (s document n).map f

/-- The value of a file that has the shape. A file without a document is read as
    one that is not written. -/
def parse {α : Type} (s : Shape α) (file : List Char) : Except Fault α := do
  let document := (← Node.parse file).getD .absent
  match s document document with
  | some a => return a
  | none => throw .mismatch

end Shape

end Yaml

end FleetBoard
