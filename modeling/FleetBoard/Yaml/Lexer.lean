import FleetBoard.Yaml.Property
import FleetBoard.Yaml.Scalar.Block
import FleetBoard.Yaml.Scalar.Plain

/-!
# Cutting a File into Tokens

A key is known as one only when its colon is met. Until then the place where it
would begin is remembered, and the tokens that begin the key, and perhaps a
mapping, are put in there afterwards. Such a place is given up at the end of its
line and after a number of characters. In a block, where a new line begins as
deeply indented as the block, nothing else than a key may stand there, and giving
it up is a fault.

Columns decide where blocks end. Inside brackets they play no part.

## Main definitions

* `KeyPlace`: A place where a key may have begun.
* `Lexer`: The tokens so far with what the next ones depend on.
* `tokens`: The tokens of a file.
-/

namespace FleetBoard

namespace Yaml

/-- A place where a key may have begun. -/
structure KeyPlace where
  /-- Whether nothing but a key may stand there. -/
  required : Bool
  /-- How many tokens were in front of it. -/
  before : Nat
  index : Nat
  line : Nat
  column : Nat
  deriving DecidableEq, Repr

/-- How many characters a key may have. -/
def longestKey : Nat := 1024

/-- The tokens so far with what the next ones depend on. -/
structure Lexer where
  cursor : Cursor
  /-- The tokens, newest first. -/
  reversed : List Token := []
  /-- Whether a key may begin here. -/
  keyAllowed : Bool := true
  /-- The columns of the blocks that are open, innermost first. -/
  blocks : List Nat := []
  /-- Where a key may have begun on this level of brackets. -/
  key : Option KeyPlace := none
  /-- Where keys may have begun on the levels around it, innermost first. -/
  outerKeys : List (Option KeyPlace) := []

namespace Lexer

/-- Whether the place is inside brackets. -/
def inFlow (l : Lexer) : Bool :=
  !l.outerKeys.isEmpty

/-- One more token. -/
def emit (l : Lexer) (t : Token) : Lexer :=
  { l with reversed := t :: l.reversed }

/-- A token put in where there were only `before` tokens. -/
def insert (l : Lexer) (before : Nat) (t : Token) : Lexer :=
  let later := l.reversed.length - before
  { l with reversed := l.reversed.take later ++ t :: l.reversed.drop later }

/-- The place after `n` characters of the line. -/
def skip (l : Lexer) (n : Nat) : Lexer :=
  { l with cursor := l.cursor.skip n }

/-- Whether a place is too far back for a key that ends here. -/
def isStale (c : Cursor) (k : KeyPlace) : Bool :=
  k.line < c.line || k.index + longestKey < c.index

/-- A place for a key, unless it is too far back. -/
def refresh (c : Cursor) : Option KeyPlace → Except Fault (Option KeyPlace)
  | none => .ok none
  | some k =>
    if isStale c k then (if k.required then .error .badToken else .ok none) else .ok (some k)

/-- The places that are too far back are given up. -/
def dropStaleKeys (l : Lexer) : Except Fault Lexer := do
  let key ← refresh l.cursor l.key
  let outerKeys ← l.outerKeys.mapM (refresh l.cursor)
  return { l with key := key, outerKeys := outerKeys }

/-- The place for a key on this level is given up. -/
def dropKey (l : Lexer) : Except Fault Lexer :=
  match l.key with
  | some k => if k.required then .error .badToken else .ok { l with key := none }
  | none => .ok l

/-- A key may begin here, if it is allowed to. -/
def markKey (l : Lexer) : Except Fault Lexer := do
  if !l.keyAllowed then return l
  let l ← l.dropKey
  let c := l.cursor
  let required := !l.inFlow && l.blocks.head? == some c.column
  return { l with key := some ⟨required, l.reversed.length, c.index, c.line, c.column⟩ }

/-- A block begins at a column where there were `before` tokens, unless the blocks
    that are open reach that column. -/
def openBlock (l : Lexer) (column before : Nat) (t : Token) : Lexer :=
  if l.inFlow || l.blocks.head?.any (column ≤ ·) then l
  else { l.insert before t with blocks := column :: l.blocks }

/-- The blocks that are deeper than a column end, or all of them without a
    column. -/
def closeBlocks (l : Lexer) (column : Option Nat) : Lexer :=
  if l.inFlow then l
  else
    let deeper := fun b : Nat =>
      match column with
      | none => true
      | some c => decide (c < b)
    let closed := l.blocks.takeWhile deeper
    { l with
      blocks := l.blocks.dropWhile deeper
      reversed := closed.map (fun _ => Token.blockEnd) ++ l.reversed }

/-- The place of the next token: after blanks, comments and line breaks. A tab
    may not stand where a key may begin in a block. The fuel is the length of the
    file. -/
def skipToToken : Nat → Lexer → Lexer
  | 0, l => l
  | fuel + 1, l =>
    let c := l.cursor
    let c := if c.column = 0 ∧ c.sees '\uFEFF' then c.skip 1 else c
    let tabs := l.inFlow || !l.keyAllowed
    let c := (c.takeWhile fun ch => ch == ' ' || (tabs && ch == '\t')).2.skipComment
    match c.takeBreak with
    | ([], _) => { l with cursor := c }
    | (_, next) =>
      skipToToken fuel { l with cursor := next, keyAllowed := l.keyAllowed || !l.inFlow }

/-- A directive. -/
def directive (l : Lexer) : Except Fault Lexer := do
  let l ← (l.closeBlocks none).dropKey
  let (t, c) ← takeDirective l.cursor
  return { l.emit t with cursor := c, keyAllowed := false }

/-- The mark at the beginning or the end of a document. -/
def documentMark (l : Lexer) (t : Token) : Except Fault Lexer := do
  let l ← (l.closeBlocks none).dropKey
  return { (l.emit t).skip 3 with keyAllowed := false }

/-- An opening bracket. -/
def openFlow (l : Lexer) (t : Token) : Except Fault Lexer := do
  let l ← l.markKey
  return { (l.emit t).skip 1 with
    key := none, outerKeys := l.key :: l.outerKeys, keyAllowed := true }

/-- A closing bracket. -/
def closeFlow (l : Lexer) (t : Token) : Except Fault Lexer := do
  let l ← l.dropKey
  let l := { (l.emit t).skip 1 with keyAllowed := false }
  match l.outerKeys with
  | [] => return l
  | key :: outer => return { l with key := key, outerKeys := outer }

/-- A comma. -/
def flowEntry (l : Lexer) : Except Fault Lexer := do
  let l ← l.dropKey
  return { (l.emit .flowEntry).skip 1 with keyAllowed := true }

/-- The mark of an item of a block. -/
def blockEntry (l : Lexer) : Except Fault Lexer := do
  if !l.inFlow && !l.keyAllowed then throw .badToken
  let l := l.openBlock l.cursor.column l.reversed.length .blockSequenceStart
  let l ← l.dropKey
  return { (l.emit .blockEntry).skip 1 with keyAllowed := true }

/-- The mark of a key. -/
def keyMark (l : Lexer) : Except Fault Lexer := do
  if !l.inFlow && !l.keyAllowed then throw .badToken
  let l := l.openBlock l.cursor.column l.reversed.length .blockMappingStart
  let l ← l.dropKey
  return { (l.emit .key).skip 1 with keyAllowed := !l.inFlow }

/-- The mark of a value. It makes a key of what stands in front of it. -/
def valueMark (l : Lexer) : Except Fault Lexer := do
  match l.key with
  | some k =>
    let l := (l.insert k.before .key).openBlock k.column k.before .blockMappingStart
    return { (l.emit .value).skip 1 with key := none, keyAllowed := false }
  | none =>
    if !l.inFlow && !l.keyAllowed then throw .badToken
    let l := l.openBlock l.cursor.column l.reversed.length .blockMappingStart
    return { (l.emit .value).skip 1 with keyAllowed := !l.inFlow }

/-- A token at which a key may begin. -/
def property (l : Lexer) (take : Cursor → Except Fault (Token × Cursor)) : Except Fault Lexer := do
  let l ← l.markKey
  let (t, c) ← take l.cursor
  return { l.emit t with cursor := c, keyAllowed := false }

/-- A block scalar. -/
def blockScalar (l : Lexer) (style : Style) : Except Fault Lexer := do
  let l ← l.dropKey
  let (text, c) ← takeBlock (style == .folded) l.blocks.head? l.cursor
  return { l.emit (.scalar style text) with cursor := c, keyAllowed := true }

/-- A plain scalar. A key may begin after it if the line has ended. -/
def plainScalar (l : Lexer) : Except Fault Lexer := do
  let l ← l.markKey
  let indent :=
    match l.blocks.head? with
    | none => 0
    | some n => n + 1
  let s ← takePlain l.inFlow indent l.cursor
  return { l.emit (.scalar .plain s.text) with cursor := s.cursor, keyAllowed := s.endsLine }

/-- The characters that no plain scalar begins with. -/
def isIndicator (c : Char) : Bool :=
  isFlowChar c || "-?:#&*!|>\x27\"%@\x60".toList.contains c

/-- Whether a plain scalar begins with a character. -/
def beginsPlain (inFlow : Bool) (ch : Char) (rest : List Char) : Bool :=
  !(isIndicator ch || isBlank ch || isBreak ch) || (ch == '-' && !rest.head?.any isBlank) ||
    (!inFlow && (ch == '?' || ch == ':') && !atWordEnd rest)

/-- The token that begins with a character, which is the first of the text. -/
def token (l : Lexer) (ch : Char) (rest : List Char) : Except Fault Lexer :=
  let free := l.inFlow || atWordEnd rest
  if l.cursor.column = 0 ∧ ch = '%' then l.directive
  else if l.cursor.atDocumentMark then
    l.documentMark (if ch = '-' then .documentStart else .documentEnd)
  else if ch = '[' then l.openFlow .flowSequenceStart
  else if ch = '\x7b' then l.openFlow .flowMappingStart
  else if ch = ']' then l.closeFlow .flowSequenceEnd
  else if ch = '\x7d' then l.closeFlow .flowMappingEnd
  else if ch = ',' then l.flowEntry
  else if ch = '-' ∧ atWordEnd rest then l.blockEntry
  else if ch = '?' ∧ free then l.keyMark
  else if ch = ':' ∧ free then l.valueMark
  else if ch = '*' then l.property fun c => (takeName c).map fun p => (.alias p.1, p.2)
  else if ch = '&' then l.property fun c => (takeName c).map fun p => (.anchor p.1, p.2)
  else if ch = '!' then l.property (takeTag l.inFlow)
  else if ch = '|' ∧ !l.inFlow then l.blockScalar .literal
  else if ch = '>' ∧ !l.inFlow then l.blockScalar .folded
  else if ch = singleQuote then
    l.property fun c => (takeQuoted ch c).map fun p => (.scalar .singleQuoted p.1, p.2)
  else if ch = doubleQuote then
    l.property fun c => (takeQuoted ch c).map fun p => (.scalar .doubleQuoted p.1, p.2)
  else if beginsPlain l.inFlow ch rest then l.plainScalar
  else .error .badToken

/-- The tokens of the rest of a file, newest first. The fuel is more than its
    length. -/
def run : Nat → Lexer → Except Fault (List Token)
  | 0, _ => .error .badToken
  | fuel + 1, l => do
    let l := skipToToken (l.cursor.rest.length + 1) l
    let l ← l.dropStaleKeys
    let l := l.closeBlocks (some l.cursor.column)
    match l.cursor.rest with
    | [] =>
      let l ← (l.closeBlocks none).dropKey
      return l.reversed
    | ch :: rest => run fuel (← l.token ch rest)

end Lexer

/-- The tokens of a file. -/
def tokens (text : List Char) : Except Fault (List Token) :=
  match text.find? fun c => !isAllowed c with
  | some c => .error (.forbiddenCharacter c)
  | none => (Lexer.run (text.length + 1) { cursor := { rest := text } }).map List.reverse

end Yaml

end FleetBoard
