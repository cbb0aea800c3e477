import FleetBoard.Yaml.Cursor

/-!
# Quoted Scalars

Inside single quotes a quote is written twice and nothing else is special. Inside
double quotes a backslash begins an escape, and one at the end of a line joins
the lines without a space.

## Main definitions

* `takeQuoted`: The quoted scalar at a place.
-/

namespace FleetBoard

namespace Yaml

/-- The quote of scalars without escapes. -/
def singleQuote : Char := '\x27'

/-- The quote of scalars with escapes. -/
def doubleQuote : Char := '"'

/-- The character that a letter after a backslash stands for. -/
def escape? (c : Char) : Option Char :=
  if c = '0' then some '\x00'
  else if c = 'a' then some '\x07'
  else if c = 'b' then some '\x08'
  else if c = 't' ∨ c = '\t' then some '\t'
  else if c = 'n' then some '\n'
  else if c = 'v' then some '\x0b'
  else if c = 'f' then some '\x0c'
  else if c = 'r' then some '\r'
  else if c = 'e' then some '\x1b'
  else if c = ' ' ∨ c = doubleQuote ∨ c = '/' ∨ c = '\\' then some c
  else if c = 'N' then some '\u0085'
  else if c = '_' then some '\u00a0'
  else if c = 'L' then some '\u2028'
  else if c = 'P' then some '\u2029'
  else none

/-- How many digits the code has that a letter after a backslash begins. -/
def codeLength? (c : Char) : Option Nat :=
  if c = 'x' then some 2 else if c = 'u' then some 4 else if c = 'U' then some 8 else none

/-- The value of a hexadecimal digit. -/
def hexDigit? (c : Char) : Option Nat :=
  if c.isDigit then some (c.toNat - 0x30)
  else if 'a' ≤ c ∧ c ≤ 'f' then some (c.toNat - 0x61 + 10)
  else if 'A' ≤ c ∧ c ≤ 'F' then some (c.toNat - 0x41 + 10)
  else none

/-- The character of a code of `n` digits at the front of a text. -/
def codeChar? (n : Nat) (cs : List Char) : Option Char :=
  let digits := cs.take n
  if digits.length < n then none
  else
    match digits.mapM hexDigit? with
    | none => none
    | some ds =>
      let value := ds.foldl (fun v d => v * 16 + d) 0
      if value.isValidChar then some (Char.ofNat value) else none

/-- A run of a quoted scalar: its characters, newest first, and whether it ended
    at a line break that was escaped. -/
structure QuotedRun where
  reversed : List Char
  joined : Bool
  cursor : Cursor

/-- The characters of a quoted scalar up to the next gap or to the closing quote.
    The fuel is the length of the file. -/
def quotedRun (quote : Char) : Nat → List Char → Cursor → Except Fault QuotedRun
  | 0, acc, c => .ok ⟨acc, false, c⟩
  | fuel + 1, acc, c =>
    match c.rest with
    | [] => .ok ⟨acc, false, c⟩
    | ch :: rest =>
      if isBlank ch || isBreak ch then .ok ⟨acc, false, c⟩
      else if ch = quote then
        if quote = singleQuote ∧ rest.head? = some singleQuote then
          quotedRun quote fuel (singleQuote :: acc) (c.skip 2)
        else .ok ⟨acc, false, c⟩
      else if quote = doubleQuote ∧ ch = '\\' then
        match rest with
        | [] => .error .badToken
        | e :: tail =>
          if isBreak e then .ok ⟨acc, true, (c.skip 1).takeBreak.2⟩
          else
            match escape? e, codeLength? e with
            | some r, _ => quotedRun quote fuel (r :: acc) (c.skip 2)
            | none, some n =>
              match codeChar? n tail with
              | some r => quotedRun quote fuel (r :: acc) (c.skip (2 + n))
              | none => .error .badToken
            | none, none => .error .badToken
      else quotedRun quote fuel (ch :: acc) (c.skip 1)

/-- The rest of a quoted scalar after a text, and the place after its closing
    quote. The fuel is the length of the file. -/
def quotedFrom (quote : Char) : Nat → List Char → Cursor → Except Fault (List Char × Cursor)
  | 0, _, _ => .error .badToken
  | fuel + 1, text, c =>
    if c.atDocumentMark || c.rest.isEmpty then .error .badToken
    else do
      let run ← quotedRun quote c.rest.length [] c
      let text := text ++ run.reversed.reverse
      if run.cursor.sees quote then return (text, run.cursor.skip 1)
      let (gap, c) ← run.cursor.takeGap 0 (if run.joined then .breaks [] [] else .blanks [])
      quotedFrom quote fuel (text ++ gap.text) c

/-- The quoted scalar at a place, and the place after it. -/
def takeQuoted (quote : Char) (c : Cursor) : Except Fault (List Char × Cursor) :=
  quotedFrom quote (c.rest.length + 1) [] (c.skip 1)

end Yaml

end FleetBoard
