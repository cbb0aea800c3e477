import FleetBoard.Yaml.Scalar.Quoted

/-!
# Anchors, Tags and Directives

The names that nodes are given, the tags that say what they are, and the lines
in front of a document that say how tags are abbreviated.

## Main definitions

* `takeName`: The name of an anchor or an alias.
* `takeTag`: The tag at a place.
* `takeDirective`: The directive at a place.
-/

namespace FleetBoard

namespace Yaml

/-- The name after the mark of an anchor or an alias, and the place after it. -/
def takeName (c : Cursor) : Except Fault (List Char × Cursor) :=
  let (name, c) := (c.skip 1).takeWhile isNameChar
  let closed := atWordEnd c.rest || c.rest.head?.any fun ch => "?:,]\x7d%@\x60".toList.contains ch
  if name.isEmpty || !closed then .error .badToken else .ok (name, c)

/-- The characters of tags. Inside angle brackets there may be more of them. -/
def isTagChar (verbatim : Bool) (c : Char) : Bool :=
  isNameChar c || ";/?:@&=+$.!~*\x27()".toList.contains c ||
    (verbatim && (c == ',' || c == '[' || c == ']'))

/-- The octet that a percent sign begins. -/
def octet? : List Char → Option Nat
  | '%' :: a :: b :: _ =>
    match hexDigit? a, hexDigit? b with
    | some x, some y => some (x * 16 + y)
    | _, _ => none
  | _ => none

/-- How many octets follow the first one of a character. -/
def trailingOctets? (n : Nat) : Option Nat :=
  if n < 0x80 then some 0
  else if n < 0xC0 then none
  else if n < 0xE0 then some 1
  else if n < 0xF0 then some 2
  else if n < 0xF8 then some 3
  else none

/-- The octets that follow the first one of a character. -/
def takeTrailing : Nat → Cursor → Except Fault (List Char × Cursor)
  | 0, c => .ok ([], c)
  | n + 1, c =>
    match octet? c.rest with
    | none => .error .badToken
    | some o =>
      if 0x80 ≤ o ∧ o < 0xC0 then
        (takeTrailing n (c.skip 3)).map fun p => (Char.ofNat o :: p.1, p.2)
      else .error .badToken

/-- The octets of a character that is written with percent signs. -/
def takeOctets (c : Cursor) : Except Fault (List Char × Cursor) :=
  match octet? c.rest with
  | none => .error .badToken
  | some o =>
    match trailingOctets? o with
    | none => .error .badToken
    | some n => (takeTrailing n (c.skip 3)).map fun p => (Char.ofNat o :: p.1, p.2)

/-- The characters of a tag and the place after them. The fuel is the length of
    the file. -/
def takeTagCharsFrom (verbatim : Bool) : Nat → Cursor → Except Fault (List Char × Cursor)
  | 0, c => .ok ([], c)
  | fuel + 1, c =>
    match c.rest with
    | [] => .ok ([], c)
    | ch :: _ =>
      if ch = '%' then do
        let (octets, c) ← takeOctets c
        let (more, c) ← takeTagCharsFrom verbatim fuel c
        return (octets ++ more, c)
      else if isTagChar verbatim ch then
        (takeTagCharsFrom verbatim fuel (c.skip 1)).map fun p => (ch :: p.1, p.2)
      else .ok ([], c)

/-- A tag or a part of one, after the part `head` that was read already. It may
    not be empty. -/
def takeTagChars (verbatim : Bool) (head : List Char) (c : Cursor) :
    Except Fault (List Char × Cursor) := do
  let (chars, after) ← takeTagCharsFrom verbatim c.rest.length c
  if head.isEmpty && chars.isEmpty then throw .badToken
  return (head.drop 1 ++ chars, after)

/-- A handle of tags: an exclamation mark, a name and perhaps another mark. -/
def takeHandle (c : Cursor) : List Char × Cursor :=
  let (name, c) := (c.skip 1).takeWhile isNameChar
  if c.sees '!' then ('!' :: name ++ ['!'], c.skip 1) else ('!' :: name, c)

/-- A tag: its handle, the text after that, and the place after it. -/
def takeTagParts (c : Cursor) : Except Fault (List Char × List Char × Cursor) :=
  if c.rest.take 2 = ['!', '<'] then do
    let (suffix, c) ← takeTagChars true [] (c.skip 2)
    if c.sees '>' then return ([], suffix, c.skip 1) else throw .badToken
  else do
    let (handle, c) := takeHandle c
    if 2 ≤ handle.length ∧ handle.getLast? = some '!' then
      let (suffix, c) ← takeTagChars false [] c
      return (handle, suffix, c)
    else
      let (suffix, c) ← takeTagChars false handle c
      -- The mark alone is a tag of its own.
      if suffix.isEmpty then return ([], ['!'], c) else return (['!'], suffix, c)

/-- The tag at a place and the place after it. A word has to end there, or an
    entry in brackets. -/
def takeTag (inFlow : Bool) (c : Cursor) : Except Fault (Token × Cursor) := do
  let (handle, suffix, c) ← takeTagParts c
  if atWordEnd c.rest || (inFlow && c.sees ',') then return (.tag handle suffix, c)
  else throw .badToken

/-- A number of a version, at most nine digits long, and the place after it. -/
def takeNumber (c : Cursor) : Except Fault (Nat × Cursor) :=
  let (digits, c) := c.takeWhile Char.isDigit
  if digits.isEmpty || 9 < digits.length then .error .badToken
  else .ok (digits.foldl (fun n d => n * 10 + (d.toNat - 0x30)) 0, c)

/-- A version after the name of its directive. -/
def takeVersion (c : Cursor) : Except Fault (Token × Cursor) := do
  let (major, c) ← takeNumber c.skipBlanks
  if !c.sees '.' then throw .badToken
  let (minor, c) ← takeNumber (c.skip 1)
  return (.version major minor, c)

/-- An abbreviation of tags after the name of its directive. -/
def takeAbbreviation (c : Cursor) : Except Fault (Token × Cursor) := do
  let c := c.skipBlanks
  if !c.sees '!' then throw .badToken
  let (handle, c) := takeHandle c
  if 2 ≤ handle.length ∧ handle.getLast? ≠ some '!' then throw .badToken
  if !c.rest.head?.any isBlank then throw .badToken
  let (meaning, c) ← takeTagChars true [] c.skipBlanks
  if atWordEnd c.rest then return (.tagHandle handle meaning, c) else throw .badToken

/-- The directive at a place and the place on the line after it. -/
def takeDirective (c : Cursor) : Except Fault (Token × Cursor) := do
  let (name, c) := (c.skip 1).takeWhile isNameChar
  if !atWordEnd c.rest then throw .badToken
  let (token, c) ←
    if name = "YAML".toList then takeVersion c
    else if name = "TAG".toList then takeAbbreviation c
    else throw .badToken
  return (token, ← c.endLine)

end Yaml

end FleetBoard
