import FleetBoard.Json.Value

/-!
# Skipping Values

A value that nobody asked for is passed over: it has to be well formed, but it
may be nested to any depth, its numbers may be out of range and the codes in its
texts need not pair up. A number that breaks off at the end of the text counts
as malformed.

## Main definitions

* `skipMembers`: The loop over an object that nobody asked for.
* `skipValue`: The text after a value.
-/

namespace FleetBoard

namespace Json

/-- The loop over the members of an object whose keys are skipped too. -/
def skipMembers (value : Reader Unit) : Nat → Bool → Reader Unit
  | 0, _, _ => .error .truncated
  | fuel + 1, first, cs => do
    match ← nextKey first cs with
    | none =>
      let rest ← closeObject cs
      return ((), rest)
    | some cs =>
      let cs ← skipLiteral cs
      let cs ← readColon cs
      let (_, rest) ← value cs
      skipMembers value fuel false rest

/-- The text after a value. The fuel is the length of the text. -/
def skipWith : Nat → Reader Unit
  | 0, _ => .error .truncated
  | fuel + 1, cs =>
    match skipBlank cs with
    | [] => .error .truncated
    | c :: rest =>
      if c = 'n' then readWord ['u', 'l', 'l'] rest
      else if c = 't' then readWord ['r', 'u', 'e'] rest
      else if c = 'f' then readWord ['a', 'l', 's', 'e'] rest
      else if c = '-' ∨ (digit? c).isSome then
        (scanNumber .malformed (c :: rest)).map fun p => ((), p.2)
      else if c = '"' then (skipLiteral rest).map fun rest => ((), rest)
      else if c = '[' then foldItems (fun _ cs => skipWith fuel cs) fuel true () rest
      else if c = '\x7b' then skipMembers (skipWith fuel) fuel true rest
      else .error .malformed

/-- The text after a value. -/
def skipValue : Reader Unit := fun cs =>
  skipWith (cs.length + 1) cs

end Json

end FleetBoard
