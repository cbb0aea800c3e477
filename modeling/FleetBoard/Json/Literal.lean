import FleetBoard.Json.Fault

/-!
# Text Literals

A text literal is read one character at a time. What a backslash has begun is
held in a small state, so that no look further ahead is needed than to see
whether four bytes are left for a code.

A literal that is only skipped has to be closed and its escapes have to be
well formed, but its codes need not pair up to characters.

## Main definitions

* `LiteralState`: What a backslash has begun.
* `readLiteral`: The characters of a literal after its opening quote.
* `skipLiteral`: The text after a literal whose opening quote has been read.
* `renderLiteral`: A text as a literal, with its quotes.
-/

namespace FleetBoard

namespace Json

/-- What a backslash has begun. `high` is a leading surrogate whose trailing
    one is still missing. -/
inductive LiteralState
  | plain
  | escape
  | code (missing value : Nat) (high : Option Nat)
  | pairSlash (high : Nat)
  | pairLetter (high : Nat)
  deriving DecidableEq, Repr

/-- The value of a hexadecimal digit. -/
def hexValue? (c : Char) : Option Nat :=
  if '0' ≤ c ∧ c ≤ '9' then some (c.toNat - '0'.toNat)
  else if 'a' ≤ c ∧ c ≤ 'f' then some (c.toNat - 'a'.toNat + 10)
  else if 'A' ≤ c ∧ c ≤ 'F' then some (c.toNat - 'A'.toNat + 10)
  else none

/-- Whether the text goes on for the four bytes that a code takes. -/
def hasFourBytes (cs : List Char) : Bool :=
  4 ≤ (cs.take 4).foldr (fun c n => c.utf8Size + n) 0

/-- The character that a letter after a backslash stands for. -/
def escaped? (c : Char) : Option Char :=
  if c = '"' ∨ c = '\\' ∨ c = '/' then some c
  else if c = 'b' then some '\x08'
  else if c = 'f' then some '\x0c'
  else if c = 'n' then some '\n'
  else if c = 'r' then some '\r'
  else if c = 't' then some '\t'
  else none

/-- Whether a code is a leading surrogate. -/
def isHighSurrogate (n : Nat) : Bool :=
  0xD800 ≤ n && n ≤ 0xDBFF

/-- Whether a code is a trailing surrogate. -/
def isLowSurrogate (n : Nat) : Bool :=
  0xDC00 ≤ n && n ≤ 0xDFFF

/-- The character of a pair of surrogates. -/
def pairChar (high low : Nat) : Char :=
  Char.ofNat (0x10000 + (high - 0xD800) * 0x400 + (low - 0xDC00))

/-- A character read in front of the result. -/
def consChar (c : Char) (r : Except Fault (List Char × List Char)) :
    Except Fault (List Char × List Char) :=
  r.map fun p => (c :: p.1, p.2)

/-- What follows a complete code: the character it adds, if any, and the state
    after it. A trailing surrogate has to follow a leading one. -/
def endCode (n : Nat) : Option Nat → Except Fault (Option Char × LiteralState)
  | some high =>
    if isLowSurrogate n then .ok (some (pairChar high n), .plain) else .error .malformed
  | none =>
    if isHighSurrogate n then .ok (none, .pairSlash n)
    else if isLowSurrogate n then .error .malformed
    else .ok (some (Char.ofNat n), .plain)

/-- The characters of a literal up to its closing quote, and the text after
    it. -/
def readLiteralFrom : LiteralState → List Char → Except Fault (List Char × List Char)
  | _, [] => .error .truncated
  | .plain, c :: cs =>
    if c = '"' then .ok ([], cs)
    else if c = '\\' then readLiteralFrom .escape cs
    else if c.toNat < 0x20 then .error .malformed
    else consChar c (readLiteralFrom .plain cs)
  | .escape, c :: cs =>
    if c = 'u' then
      if hasFourBytes cs then readLiteralFrom (.code 4 0 none) cs else .error .truncated
    else
      match escaped? c with
      | some e => consChar e (readLiteralFrom .plain cs)
      | none => .error .malformed
  | .code missing value high, c :: cs =>
    match hexValue? c with
    | none => .error .malformed
    | some d =>
      if missing ≤ 1 then
        match endCode (value * 16 + d) high with
        | .error e => .error e
        | .ok (none, state) => readLiteralFrom state cs
        | .ok (some e, state) => consChar e (readLiteralFrom state cs)
      else readLiteralFrom (.code (missing - 1) (value * 16 + d) high) cs
  | .pairSlash high, c :: cs =>
    if c = '\\' then readLiteralFrom (.pairLetter high) cs else .error .malformed
  | .pairLetter high, c :: cs =>
    if c = 'u' then
      if hasFourBytes cs then readLiteralFrom (.code 4 0 (some high)) cs else .error .truncated
    else .error .malformed

/-- The characters of a literal whose opening quote has been read, and the text
    after it. -/
def readLiteral (cs : List Char) : Except Fault (String × List Char) :=
  (readLiteralFrom .plain cs).map fun p => (String.ofList p.1, p.2)

/-- The text after a literal that is only skipped. Codes are not paired up. -/
def skipLiteralFrom : LiteralState → List Char → Except Fault (List Char)
  | _, [] => .error .truncated
  | .escape, c :: cs =>
    if c = 'u' then
      if hasFourBytes cs then skipLiteralFrom (.code 4 0 none) cs else .error .truncated
    else if (escaped? c).isSome then skipLiteralFrom .plain cs
    else .error .malformed
  | .code missing _ _, c :: cs =>
    match hexValue? c with
    | none => .error .malformed
    | some _ =>
      if missing ≤ 1 then skipLiteralFrom .plain cs
      else skipLiteralFrom (.code (missing - 1) 0 none) cs
  | _, c :: cs =>
    if c = '"' then .ok cs
    else if c = '\\' then skipLiteralFrom .escape cs
    else if c.toNat < 0x20 then .error .malformed
    else skipLiteralFrom .plain cs

/-- The text after a literal whose opening quote has been read. -/
def skipLiteral (cs : List Char) : Except Fault (List Char) :=
  skipLiteralFrom .plain cs

/-- The character of a hexadecimal digit. -/
def hexChar (n : Nat) : Char :=
  if n < 10 then Char.ofNat (0x30 + n) else Char.ofNat (0x61 + (n - 10))

/-- A character inside a literal: quotes, backslashes and control characters
    are escaped, and all else stands for itself. -/
def renderChar (c : Char) : List Char :=
  if c = '"' then ['\\', '"']
  else if c = '\\' then ['\\', '\\']
  else if c = '\x08' then ['\\', 'b']
  else if c = '\x0c' then ['\\', 'f']
  else if c = '\n' then ['\\', 'n']
  else if c = '\r' then ['\\', 'r']
  else if c = '\t' then ['\\', 't']
  else if c.toNat < 0x20 then
    ['\\', 'u', '0', '0', hexChar (c.toNat / 16), hexChar (c.toNat % 16)]
  else [c]

/-- A text as a literal, with its quotes. -/
def renderLiteral (s : String) : List Char :=
  '"' :: (s.toList.flatMap renderChar ++ ['"'])

end Json

end FleetBoard
