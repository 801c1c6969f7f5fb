import AgentFleet.Document.Token

/-!
# Nodes of a document

The tree of a document before its scalars get a meaning: scalars with or without
quotes, sequences and mappings, each under an optional tag, and references to
anchored nodes. A tree is read from the tokens of a document by recursive
descent; a stream holds at most one document.
-/

namespace AgentFleet.Document

/-- A node of a document. -/
inductive Node where
  /-- A scalar; `plain` when it is written without quotes. -/
  | scalar (tag : Option String) (text : String) (plain : Bool)
  /-- A sequence of nodes. -/
  | sequence (tag : Option String) (items : List Node)
  /-- A mapping as pairs of nodes. -/
  | mapping (tag : Option String) (entries : List (Node × Node))
  /-- The node that was anchored under a number. -/
  | alias (id : Nat)
  /-- A node anchored under a number. -/
  | anchored (id : Nat) (node : Node)
  deriving Repr, Inhabited

namespace Node

/-- The scalar of a place that holds nothing. -/
def empty : Node :=
  .scalar none "" true

mutual

/-- The anchored nodes in the order in which they begin. -/
def anchors : Node → List (Nat × Node)
  | .scalar .. | .alias _ => []
  | .sequence _ items => anchorsOfItems items
  | .mapping _ entries => anchorsOfEntries entries
  | .anchored id node => (id, node) :: anchors node

/-- The anchored nodes below the items of a sequence. -/
def anchorsOfItems : List Node → List (Nat × Node)
  | [] => []
  | n :: ns => anchors n ++ anchorsOfItems ns

/-- The anchored nodes below the entries of a mapping. -/
def anchorsOfEntries : List (Node × Node) → List (Nat × Node)
  | [] => []
  | (k, v) :: es => anchors k ++ anchors v ++ anchorsOfEntries es

end

mutual

/-- How many scalars, references, and ends of collections a node has. -/
def weight : Node → Nat
  | .scalar .. | .alias _ => 1
  | .sequence _ items => 2 + weightOfItems items
  | .mapping _ entries => 2 + weightOfEntries entries
  | .anchored _ node => weight node

/-- The weight of the items of a sequence. -/
def weightOfItems : List Node → Nat
  | [] => 0
  | n :: ns => weight n + weightOfItems ns

/-- The weight of the entries of a mapping. -/
def weightOfEntries : List (Node × Node) → Nat
  | [] => 0
  | (k, v) :: es => weight k + weight v + weightOfEntries es

end

end Node

/-! ### Reading nodes -/

/-- What is left of a document and what its beginning declared. -/
structure Stream where
  /-- The tokens that are left. -/
  tokens : List Token
  /-- The short names for the beginnings of tags. -/
  handles : List (String × String) := []
  /-- The numbers of the anchors by name, latest first. -/
  anchors : List (String × Nat) := []
  /-- How many different names anchors have. -/
  names : Nat := 0

/-- A reader of a part of a document; it fails on a malformed part. -/
abbrev StreamReader (α : Type) := StateT Stream Option α

namespace StreamReader

/-- The next token. -/
def next? : StreamReader (Option Token) := do
  return (← get).tokens.head?

/-- Passes the next token. -/
def skip : StreamReader Unit :=
  modify fun s => { s with tokens := s.tokens.drop 1 }

/-- Whether the next token is one of some tokens. -/
def isNext (tokens : List Token) : StreamReader Bool := do
  return match ← next? with
    | some t => tokens.contains t
    | none => false

/-- Passes a token if it is the next one, and says whether it was. -/
def accept (t : Token) : StreamReader Bool := do
  if ← isNext [t] then
    skip
    return true
  else return false

/-- Passes a token that must be the next one. -/
def expect (t : Token) : StreamReader Unit := do
  if ← accept t then return () else failure

/-- Gives a name to the node that begins next. A repeated name does not count as a new one, so
the number that it gets is given again to the next name. -/
def declareAnchor (name : String) : StreamReader Nat := do
  let s ← get
  let isNew := (s.anchors.lookup name).isNone
  set { s with
    anchors := (name, s.names) :: s.anchors
    names := if isNew then s.names + 1 else s.names }
  return s.names

/-- The whole name of a tag. -/
def tagName (handle name : String) : StreamReader String := do
  if handle.isEmpty then return name
  else
    match (← get).handles.lookup handle with
    | some start => return start ++ name
    | none =>
      if handle == "!" then return "!" ++ name
      else if handle == "!!" then return "tag:yaml.org,2002:" ++ name
      else failure

/-- The anchor and the tag of the next node, in either order. -/
def properties : StreamReader (Option String × Option (String × String)) := do
  let s ← get
  match s.tokens with
  | .anchor a :: .tag h n :: rest | .tag h n :: .anchor a :: rest =>
    set { s with tokens := rest }
    return (some a, some (h, n))
  | .anchor a :: rest =>
    set { s with tokens := rest }
    return (some a, none)
  | .tag h n :: rest =>
    set { s with tokens := rest }
    return (none, some (h, n))
  | _ => return (none, none)

end StreamReader

open StreamReader

mutual

/-- Reads a node. Block collections need `block`; with `dashes` a sequence may stand at the
column of the mapping around it. -/
def readNode (block dashes : Bool) : Nat → StreamReader Node
  | 0 => failure
  | fuel + 1 => do
    match ← next? with
    | some (.alias name) =>
      skip
      match (← get).anchors.lookup name with
      | some id => return .alias id
      | none => failure
    | _ =>
      let (anchor, tagParts) ← properties
      let tag ← tagParts.mapM fun (h, n) => tagName h n
      let id ← anchor.mapM declareAnchor
      let node ← readContent block dashes (anchor.isSome || tag.isSome) tag fuel
      return match id with
        | some id => .anchored id node
        | none => node

/-- Reads what follows the properties of a node; a node with `properties` may be empty. -/
def readContent (block dashes properties : Bool) (tag : Option String) : Nat → StreamReader Node
  | 0 => failure
  | fuel + 1 => do
    match ← next? with
    | some (.scalar text plain) =>
      skip
      return .scalar tag text plain
    | some .openSequence =>
      skip
      return .sequence tag (← readFlowItems true fuel)
    | some .openMapping =>
      skip
      return .mapping tag (← readFlowEntries true fuel)
    | t =>
      if dashes && t == some .item then return .sequence tag (← readDashedItems fuel)
      else if block && t == some .blockSequence then
        skip
        return .sequence tag (← readBlockItems fuel)
      else if block && t == some .blockMapping then
        skip
        return .mapping tag (← readBlockEntries fuel)
      else if properties then return .scalar tag "" true
      else failure

/-- Reads a node unless one of some tokens follows, which leaves the place empty. -/
def readUnless (stops : List Token) (block dashes : Bool) : Nat → StreamReader Node
  | 0 => failure
  | fuel + 1 => do
    if ← isNext stops then return .empty else readNode block dashes fuel

/-- Reads the items of a block sequence. -/
def readBlockItems : Nat → StreamReader (List Node)
  | 0 => failure
  | fuel + 1 => do
    if ← accept .item then
      let node ← readUnless [.item, .blockEnd] true false fuel
      return node :: (← readBlockItems fuel)
    else
      expect .blockEnd
      return []

/-- Reads the items of a sequence at the column of the mapping around it. -/
def readDashedItems : Nat → StreamReader (List Node)
  | 0 => failure
  | fuel + 1 => do
    if ← accept .item then
      let node ← readUnless [.item, .key, .value, .blockEnd] true false fuel
      return node :: (← readDashedItems fuel)
    else return []

/-- Reads the entries of a block mapping. -/
def readBlockEntries : Nat → StreamReader (List (Node × Node))
  | 0 => failure
  | fuel + 1 => do
    if ← accept .key then
      let key ← readUnless [.key, .value, .blockEnd] true true fuel
      let value ←
        if ← accept .value then readUnless [.key, .value, .blockEnd] true true fuel
        else pure .empty
      return (key, value) :: (← readBlockEntries fuel)
    else
      expect .blockEnd
      return []

/-- Reads the items of a sequence in brackets. -/
def readFlowItems (first : Bool) : Nat → StreamReader (List Node)
  | 0 => failure
  | fuel + 1 => do
    if ← accept .closeSequence then return []
    else
      if !first then expect .comma
      if ← accept .key then
        let pair ← readPair fuel
        return .mapping none [pair] :: (← readFlowItems false fuel)
      else if ← accept .closeSequence then return []
      else
        let node ← readNode false false fuel
        return node :: (← readFlowItems false fuel)

/-- Reads a pair that is an item of a sequence in brackets. A token that stands where the key
should begin is passed along with the empty key. -/
def readPair : Nat → StreamReader (Node × Node)
  | 0 => failure
  | fuel + 1 => do
    let key ←
      if ← isNext [.value, .comma, .closeSequence] then
        skip
        pure .empty
      else readNode false false fuel
    let value ←
      if ← accept .value then readUnless [.comma, .closeSequence] false false fuel
      else pure .empty
    return (key, value)

/-- Reads the entries of a mapping in braces. -/
def readFlowEntries (first : Bool) : Nat → StreamReader (List (Node × Node))
  | 0 => failure
  | fuel + 1 => do
    if ← accept .closeMapping then return []
    else
      if !first then expect .comma
      if ← accept .key then
        let key ← readUnless [.value, .comma, .closeMapping] false false fuel
        let value ←
          if ← accept .value then readUnless [.comma, .closeMapping] false false fuel
          else pure .empty
        return (key, value) :: (← readFlowEntries false fuel)
      else if ← accept .closeMapping then return []
      else
        let key ← readNode false false fuel
        return (key, .empty) :: (← readFlowEntries false fuel)

end

/-! ### Reading a document -/

/-- Reads the directives before a document; the version must be 1.1 or 1.2 and stand once. -/
def readDirectives (version : Bool) : List Token → StreamReader Bool
  | .version major minor :: rest =>
    if version || major != 1 || (minor != 1 && minor != 2) then failure
    else do
      skip
      discard <| readDirectives true rest
      return true
  | .tagName handle start :: rest => do
    if ((← get).handles.lookup handle).isSome then failure
    else
      modify fun s => { s with tokens := rest, handles := (handle, start) :: s.handles }
      discard <| readDirectives version rest
      return true
  | _ => return false

/-- Whether a token begins or ends a document. -/
def isBoundary : Option Token → Bool
  | none | some (.version ..) | some (.tagName ..) | some .documentStart | some .documentEnd => true
  | _ => false

/-- Reads the document that a stream starts with. -/
def readDocument (fuel : Nat) : StreamReader Node := do
  let t ← next?
  let directives ← readDirectives false (← get).tokens
  if directives || t == some .documentStart then
    expect .documentStart
    if isBoundary (← next?) then return .empty else readNode true false fuel
  else readNode true false fuel

/-- The tree of a document, `none` on malformed tokens or a second document. An empty stream has
an empty tree. -/
def Node.ofTokens? (tokens : List Token) : Option Node :=
  if tokens.isEmpty then some .empty
  else
    match (readDocument (3 * tokens.length + 3)).run { tokens := tokens } with
    | some (node, s) => if s.tokens.all (· == .documentEnd) then some node else none
    | none => none

end AgentFleet.Document
