import FleetBoard.Yaml.Lexer

/-!
# Nodes

The structure of a document. A node that has an anchor can be named again by an
alias. An alias holds the number of the anchor that its name had at that place.

Anchors are numbered by how many different names there were before them, so a
name that is used again moves to a number that the next new name gets as well. Of
the nodes with one number the last one counts.

## Main definitions

* `Node`: The structure of a document.
* `Node.anchored?`: The node that an alias stands for.
* `Node.ofTokens?`: The document that some tokens make up, if there is one.
* `Node.parse`: The document of a file.
-/

namespace FleetBoard

namespace Yaml

/-- The structure of a document. -/
inductive Node
  | scalar (anchor : Option Nat) (tag : Option (List Char)) (style : Style) (text : List Char)
  | sequence (anchor : Option Nat) (items : List Node)
  | mapping (anchor : Option Nat) (pairs : List (Node × Node))
  | alias (anchor : Nat)
  deriving Repr

namespace Node

/-- A scalar that is not written at all. -/
def absent : Node :=
  .scalar none none .plain []

end Node

/-- What is known in front of a node: the handles of tags with their meanings. -/
abbrev Handles := List (List Char × List Char)

/-- The handles that every document has. -/
def standardHandles : Handles :=
  [(['!'], ['!']), (['!', '!'], "tag:yaml.org,2002:".toList)]

/-- The names of anchors with their numbers. -/
abbrev Anchors := List (List Char × Nat)

/-- The number of an anchor, and the names with it. -/
def bindAnchor (anchors : Anchors) : Option (List Char) → Option Nat × Anchors
  | none => (none, anchors)
  | some name =>
    (some anchors.length, (name, anchors.length) :: anchors.filter fun a => a.1 != name)

/-- What is read of a document so far: the tokens that are left, and the
    anchors. -/
structure Reading where
  rest : List Token
  anchors : Anchors := []

/-- A function that reads a node, or a part of one, off the front of the
    tokens. -/
abbrev NodeReader (α : Type) := Reading → Except Fault (α × Reading)

namespace Reading

/-- The reading without its first token. -/
def next (r : Reading) : Reading :=
  { r with rest := r.rest.drop 1 }

/-- Whether a token is the next one. -/
def sees (r : Reading) (t : Token) : Bool :=
  r.rest.head? == some t

/-- Whether one of some tokens is the next one. -/
def seesAny (r : Reading) (ts : List Token) : Bool :=
  r.rest.head?.any ts.contains

end Reading

/-- The tag that a handle and a suffix stand for. -/
def resolveTag (handles : Handles) (handle suffix : List Char) : Except Fault (List Char) :=
  if handle.isEmpty then .ok suffix
  else
    match handles.lookup handle with
    | some meaning => .ok (meaning ++ suffix)
    | none => .error .badStructure

/-- The anchor and the tag in front of a node, in either order. -/
structure Properties where
  anchor : Option (List Char) := none
  tag : Option (List Char) := none

/-- The anchor and the tag in front of a node. -/
def takeProperties (handles : Handles) (ts : List Token) :
    Except Fault (Properties × List Token) := do
  match ts with
  | .anchor a :: .tag h s :: rest => return (⟨some a, some (← resolveTag handles h s)⟩, rest)
  | .tag h s :: .anchor a :: rest => return (⟨some a, some (← resolveTag handles h s)⟩, rest)
  | .anchor a :: rest => return (⟨some a, none⟩, rest)
  | .tag h s :: rest => return (⟨none, some (← resolveTag handles h s)⟩, rest)
  | _ => return ({}, ts)

/-- The tag of a scalar that is written: the mark alone is none. -/
def scalarTag (tag : Option (List Char)) : Option (List Char) :=
  if tag = some ['!'] then none else tag

mutual

/-- A node. Blocks are allowed or not, and so is a sequence that is not indented
    more than its mapping. -/
def readNode (handles : Handles) : Nat → Bool → Bool → NodeReader Node
  | 0, _, _, _ => .error .badStructure
  | fuel + 1, block, flush, r => do
    match r.rest with
    | .alias name :: rest =>
      match r.anchors.lookup name with
      | some n => return (.alias n, { r with rest := rest })
      | none => throw (.unknownAlias name)
    | ts =>
      let (p, rest) ← takeProperties handles ts
      let (anchor, anchors) := bindAnchor r.anchors p.anchor
      let r : Reading := { rest := rest, anchors := anchors }
      match rest with
      | .scalar style text :: _ => return (.scalar anchor (scalarTag p.tag) style text, r.next)
      | .blockEntry :: _ =>
        if flush then
          let (items, r) ← readFlush handles fuel r
          return (.sequence anchor items, r)
        else emptyNode p anchor r
      | .flowSequenceStart :: _ =>
        let (items, r) ← readFlowItems handles fuel true r.next
        return (.sequence anchor items, r)
      | .flowMappingStart :: _ =>
        let (pairs, r) ← readFlowPairs handles fuel true r.next
        return (.mapping anchor pairs, r)
      | .blockSequenceStart :: _ =>
        if block then
          let (items, r) ← readItems handles fuel r.next
          return (.sequence anchor items, r)
        else emptyNode p anchor r
      | .blockMappingStart :: _ =>
        if block then
          let (pairs, r) ← readPairs handles fuel r.next
          return (.mapping anchor pairs, r)
        else emptyNode p anchor r
      | _ => emptyNode p anchor r

/-- A node that is not written, which needs an anchor or a tag to stand here. -/
def emptyNode (p : Properties) (anchor : Option Nat) : NodeReader Node := fun r =>
  if p.anchor.isSome || p.tag.isSome then .ok (.scalar anchor p.tag .plain [], r)
  else .error .badStructure

/-- The items of a block sequence up to its end. -/
def readItems (handles : Handles) : Nat → NodeReader (List Node)
  | 0, _ => .error .badStructure
  | fuel + 1, r => do
    if r.sees .blockEnd then return ([], r.next)
    if !r.sees .blockEntry then throw .badStructure
    let (item, r) ← readUnless handles fuel true false [.blockEntry, .blockEnd] r.next
    let (items, r) ← readItems handles fuel r
    return (item :: items, r)

/-- The items of a sequence that is not indented more than its mapping. -/
def readFlush (handles : Handles) : Nat → NodeReader (List Node)
  | 0, _ => .error .badStructure
  | fuel + 1, r => do
    if !r.sees .blockEntry then return ([], r)
    let (item, r) ←
      readUnless handles fuel true false [.blockEntry, .key, .value, .blockEnd] r.next
    let (items, r) ← readFlush handles fuel r
    return (item :: items, r)

/-- The pairs of a block mapping up to its end. -/
def readPairs (handles : Handles) : Nat → NodeReader (List (Node × Node))
  | 0, _ => .error .badStructure
  | fuel + 1, r => do
    if r.sees .blockEnd then return ([], r.next)
    if !r.sees .key then throw .badStructure
    let stop : List Token := [.key, .value, .blockEnd]
    let (key, r) ← readUnless handles fuel true true stop r.next
    let (value, r) ←
      if r.sees .value then readUnless handles fuel true true stop r.next
      else pure (.absent, r)
    let (pairs, r) ← readPairs handles fuel r
    return ((key, value) :: pairs, r)

/-- The items of a sequence in brackets up to its end. A pair may stand as an
    item. -/
def readFlowItems (handles : Handles) : Nat → Bool → NodeReader (List Node)
  | 0, _, _ => .error .badStructure
  | fuel + 1, first, r => do
    if r.sees .flowSequenceEnd then return ([], r.next)
    if !first && !r.sees .flowEntry then throw .badStructure
    let r := if first then r else r.next
    if r.sees .flowSequenceEnd then return ([], r.next)
    let (item, r) ←
      if r.sees .key then readPairItem handles fuel r.next
      else readNode handles fuel false false r
    let (items, r) ← readFlowItems handles fuel false r
    return (item :: items, r)

/-- A pair that stands as an item of a sequence in brackets. When its key is not
    written, the token after the mark is passed over. -/
def readPairItem (handles : Handles) : Nat → NodeReader Node
  | 0, _ => .error .badStructure
  | fuel + 1, r => do
    let (key, r) ←
      if r.seesAny [.value, .flowEntry, .flowSequenceEnd] then pure (Node.absent, r.next)
      else readNode handles fuel false false r
    let (value, r) ←
      if r.sees .value then
        readUnless handles fuel false false [.flowEntry, .flowSequenceEnd] r.next
      else pure (Node.absent, r)
    return (.mapping none [(key, value)], r)

/-- The pairs of a mapping in brackets up to its end. -/
def readFlowPairs (handles : Handles) : Nat → Bool → NodeReader (List (Node × Node))
  | 0, _, _ => .error .badStructure
  | fuel + 1, first, r => do
    if r.sees .flowMappingEnd then return ([], r.next)
    if !first && !r.sees .flowEntry then throw .badStructure
    let r := if first then r else r.next
    if r.sees .flowMappingEnd then return ([], r.next)
    let stop : List Token := [.flowEntry, .flowMappingEnd]
    let (pair, r) ←
      if r.sees .key then do
        let (key, r) ← readUnless handles fuel false false (.value :: stop) r.next
        let (value, r) ←
          if r.sees .value then readUnless handles fuel false false stop r.next
          else pure (.absent, r)
        pure ((key, value), r)
      else do
        let (key, r) ← readNode handles fuel false false r
        pure ((key, .absent), r)
    let (pairs, r) ← readFlowPairs handles fuel false r
    return (pair :: pairs, r)

/-- A node, unless one of some tokens stands there, which means that it is not
    written. -/
def readUnless (handles : Handles) :
    Nat → Bool → Bool → List Token → NodeReader Node
  | 0, _, _, _, _ => .error .badStructure
  | fuel + 1, block, flush, stop, r =>
    if r.seesAny stop then .ok (.absent, r) else readNode handles fuel block flush r

end

/-- The directives in front of a document: no two versions, and no two meanings of
    a handle. -/
def takeDirectives (versioned : Bool) (handles : Handles) :
    List Token → Except Fault (Handles × List Token)
  | .version major minor :: ts =>
    if versioned || major != 1 || (minor != 1 && minor != 2) then .error .badStructure
    else takeDirectives true handles ts
  | .tagHandle handle meaning :: ts =>
    if (handles.lookup handle).isSome then .error .badStructure
    else takeDirectives versioned ((handle, meaning) :: handles) ts
  | ts => .ok (handles, ts)

/-- The fuel for reading some tokens: no token is passed by more than a few
    readers. -/
def readingFuel (ts : List Token) : Nat :=
  4 * ts.length + 4

/-- The node of a document whose mark has been read. -/
def readMarked (handles : Handles) (ts : List Token) : Except Fault (Node × List Token) :=
  match ts with
  | [] | .documentEnd :: _ | .documentStart :: _ | .version .. :: _ | .tagHandle .. :: _ =>
    .ok (.absent, ts)
  | _ => (readNode handles (readingFuel ts) true false { rest := ts }).map fun p => (p.1, p.2.rest)

/-- The first document of some tokens with the tokens after it, if there is one.
    Its mark may be missing when it has no directives. -/
def readDocument (ts : List Token) : Except Fault (Option (Node × List Token)) := do
  let (handles, rest) ← takeDirectives false [] ts
  let all := handles ++ standardHandles
  match rest with
  | [] => if handles.isEmpty && ts.isEmpty then return none else throw .badStructure
  | .documentStart :: rest => return some (← readMarked all rest)
  | rest =>
    if rest.length < ts.length then throw .badStructure
    else
      let (node, r) ← readNode all (readingFuel ts) true false { rest := ts }
      return some (node, r.rest)

/-- The document that some tokens make up, if there is one. -/
def Node.ofTokens? (ts : List Token) : Except Fault (Option Node) := do
  match ← readDocument ts with
  | none => return none
  | some (node, rest) =>
    if (rest.dropWhile (· == .documentEnd)).isEmpty then return some node
    else throw .secondDocument

namespace Node

/-- The document of a file, if there is one. -/
def parse (text : List Char) : Except Fault (Option Node) := do
  ofTokens? (← tokens text)

mutual

/-- The nodes of a document that have an anchor, with its number, in order. -/
def anchoredNodes (n : Node) : List (Nat × Node) :=
  match n with
  | .scalar (some a) .. => [(a, n)]
  | .scalar none .. => []
  | .sequence a items => (a.map fun i => (i, n)).toList ++ anchoredItems items
  | .mapping a pairs => (a.map fun i => (i, n)).toList ++ anchoredPairs pairs
  | .alias _ => []

/-- The nodes of some items that have an anchor. -/
def anchoredItems : List Node → List (Nat × Node)
  | [] => []
  | n :: ns => anchoredNodes n ++ anchoredItems ns

/-- The nodes of some pairs that have an anchor. -/
def anchoredPairs : List (Node × Node) → List (Nat × Node)
  | [] => []
  | (k, v) :: ps => anchoredNodes k ++ anchoredNodes v ++ anchoredPairs ps

end

/-- The node that the aliases of a number stand for: the last one with that
    number. -/
def anchored? (document : Node) (number : Nat) : Option Node :=
  (document.anchoredNodes.reverse).lookup number

end Node

end Yaml

end FleetBoard
