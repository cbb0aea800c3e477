import FleetBoard.Json.Number
import FleetBoard.Json.Literal

/-!
# Values

The values of the interchange format and the reading of any of them. A reader
gives up a text that is nested too deeply.

Containers are read by two loops that are open in what they do with an item or
a member, so that every reader of containers shares their separators and their
faults.

## Main definitions

* `Value`: A value of the interchange format.
* `foldItems`, `foldMembers`: The loops over an array and over an object.
* `Value.read`: A value off the front of a text.
* `Value.parse`: The value that a whole text holds.
* `Value.member?`: A member of an object.
-/

namespace FleetBoard

namespace Json

/-- A value of the interchange format. The members of an object are in the order
    in which their keys first came up. -/
inductive Value
  | null
  | bool (b : Bool)
  | number (n : Number)
  | text (s : String)
  | array (items : List Value)
  | object (members : List (String × Value))
  deriving Repr

/-- An item of an array, a comma in front of it unless it is the first, or
    `none` at the closing bracket. -/
def nextItem (first : Bool) (cs : List Char) : Except Fault (Option (List Char)) :=
  match skipBlank cs with
  | [] => .error .truncated
  | c :: rest =>
    if c = ']' then .ok none
    else if first then .ok (some (c :: rest))
    else if c = ',' then
      match skipBlank rest with
      | [] => .error .truncated
      | d :: tail => if d = ']' then .error .malformed else .ok (some (d :: tail))
    else .error .malformed

/-- The text after the closing bracket of an array that holds no more items. -/
def closeArray (cs : List Char) : Except Fault (List Char) :=
  match skipBlank cs with
  | [] => .error .truncated
  | c :: rest => if c = ']' then .ok rest else .error .malformed

/-- The loop over the items of an array whose opening bracket has been read. The
    fuel is the length of the text. -/
def foldItems {σ : Type} (item : σ → Reader σ) :
    Nat → Bool → σ → List Char → Except Fault (σ × List Char)
  | 0, _, _, _ => .error .truncated
  | fuel + 1, first, s, cs => do
    match ← nextItem first cs with
    | none =>
      let rest ← closeArray cs
      return (s, rest)
    | some cs =>
      let (s, rest) ← item s cs
      foldItems item fuel false s rest

/-- The text after the opening quote of the next key, a comma in front of it
    unless it is the first, or `none` at the closing brace. -/
def nextKey (first : Bool) (cs : List Char) : Except Fault (Option (List Char)) :=
  match skipBlank cs with
  | [] => .error .truncated
  | c :: rest =>
    if c = '\x7d' then .ok none
    else if first then
      if c = '"' then .ok (some rest) else .error .malformed
    else if c = ',' then
      match skipBlank rest with
      | [] => .error .truncated
      | d :: tail => if d = '"' then .ok (some tail) else .error .malformed
    else .error .malformed

/-- The text after the colon between a key and its value. -/
def readColon (cs : List Char) : Except Fault (List Char) :=
  match skipBlank cs with
  | [] => .error .truncated
  | c :: rest => if c = ':' then .ok rest else .error .malformed

/-- The text after the closing brace of an object that holds no more members. -/
def closeObject (cs : List Char) : Except Fault (List Char) :=
  match skipBlank cs with
  | [] => .error .truncated
  | c :: rest => if c = '\x7d' then .ok rest else .error .malformed

/-- The loop over the members of an object whose opening brace has been read. A
    member is read from the colon on, and may be refused by its key alone. -/
def foldMembers {σ : Type} (member : σ → String → Except Fault (Reader σ)) :
    Nat → Bool → σ → List Char → Except Fault (σ × List Char)
  | 0, _, _, _ => .error .truncated
  | fuel + 1, first, s, cs => do
    match ← nextKey first cs with
    | none =>
      let rest ← closeObject cs
      return (s, rest)
    | some cs =>
      let (key, cs) ← readLiteral cs
      let value ← member s key
      let cs ← readColon cs
      let (s, rest) ← value cs
      foldMembers member fuel false s rest

/-- The members of an object after one more: a key that is there already gets
    the new value. -/
def putMember {α : Type} (key : String) (value : α) : List (String × α) → List (String × α)
  | [] => [(key, value)]
  | (k, v) :: rest =>
    if k = key then (k, value) :: rest else (k, v) :: putMember key value rest

/-- How deeply containers may be nested. -/
def nestingLimit : Nat := 127

namespace Value

/-- A value off the front of a text, with at most `room` containers around each
    other. The fuel is the length of the text. -/
def readWith : Nat → Nat → Reader Value
  | 0, _, _ => .error .truncated
  | fuel + 1, room, cs =>
    match skipBlank cs with
    | [] => .error .truncated
    | c :: rest =>
      if c = 'n' then (readWord ['u', 'l', 'l'] rest).map fun p => (.null, p.2)
      else if c = 't' then (readWord ['r', 'u', 'e'] rest).map fun p => (.bool true, p.2)
      else if c = 'f' then (readWord ['a', 'l', 's', 'e'] rest).map fun p => (.bool false, p.2)
      else if c = '-' ∨ (digit? c).isSome then
        (readNumber (c :: rest)).map fun p => (.number p.1, p.2)
      else if c = '"' then (readLiteral rest).map fun p => (.text p.1, p.2)
      else if c = '[' then
        if room = 0 then .error .malformed
        else
          (foldItems
            (fun items cs => (readWith fuel (room - 1) cs).map fun p => (p.1 :: items, p.2))
            fuel true [] rest).map fun p => (.array p.1.reverse, p.2)
      else if c = '\x7b' then
        if room = 0 then .error .malformed
        else
          (foldMembers
            (fun members key => .ok fun cs =>
              (readWith fuel (room - 1) cs).map fun p => (putMember key p.1 members, p.2))
            fuel true [] rest).map fun p => (.object p.1, p.2)
      else .error .malformed

/-- A value off the front of a text. -/
def read : Reader Value := fun cs =>
  readWith (cs.length + 1) nestingLimit cs

/-- A member of an object. -/
def member? (key : String) : Value → Option Value
  | .object members => members.lookup key
  | _ => none

end Value

/-- The value that a reader finds in a whole text: nothing but blanks may
    follow. -/
def readWhole? {α : Type} (reader : Reader α) (cs : List Char) : Except Fault α := do
  let (value, rest) ← reader cs
  if (skipBlank rest).isEmpty then return value else throw .malformed

/-- The value that a whole text holds. -/
def Value.parse (cs : List Char) : Except Fault Value :=
  readWhole? Value.read cs

end Json

end FleetBoard
