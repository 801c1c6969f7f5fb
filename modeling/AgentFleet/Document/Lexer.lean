import AgentFleet.Document.Token

/-!
# The tokens of a text

A document is cut into tokens from left to right. The indentation of block
collections shows as tokens of its own. That a scalar is a key is known only at
the colon behind it, so every element that may be a key is remembered until
then; a key lies on one line and is at most 1024 bytes long.
-/

namespace AgentFleet.Document

/-- An element that may turn out to be a key. -/
structure KeyCandidate where
  /-- The element must be a key, since nothing else may stand at its column. -/
  required : Bool
  /-- How many tokens precede the element. -/
  tokens : Nat
  /-- Where the element begins. -/
  cursor : Cursor

/-- The state of reading a text as tokens. -/
structure Lexer where
  /-- The position. -/
  cursor : Cursor
  /-- The tokens so far. -/
  tokens : Array Token := #[]
  /-- How many brackets are open. -/
  depth : Nat := 0
  /-- The column of the innermost block, or -1. -/
  indent : Int := -1
  /-- The columns of the enclosing blocks. -/
  outer : List Int := []
  /-- A key may begin here. -/
  keyAllowed : Bool := true
  /-- The possible key at each depth of brackets, innermost first. -/
  keys : List (Option KeyCandidate) := [none]

namespace Lexer

/-- Whether the position lies between brackets. -/
def inFlow (s : Lexer) : Bool :=
  s.depth != 0

/-- Appends a token. -/
def push (s : Lexer) (t : Token) : Lexer :=
  { s with tokens := s.tokens.push t }

/-- Inserts a token after the first `n`. -/
def insertAt (s : Lexer) (n : Nat) (t : Token) : Lexer :=
  { s with tokens := ((s.tokens.toList.take n) ++ t :: s.tokens.toList.drop n).toArray }

/-- Passes `n` characters. -/
def skip (s : Lexer) (n : Nat) : Lexer :=
  { s with cursor := s.cursor.skipMany n }

/-- Goes on at a position. -/
def moveTo (s : Lexer) (p : Cursor) : Lexer :=
  { s with cursor := p }

/-- Says whether a key may begin next. -/
def allowKey (s : Lexer) (allowed : Bool) : Lexer :=
  { s with keyAllowed := allowed }

/-! ### Possible keys -/

/-- Forgets the possible key at this depth, which must not be required. -/
def dropKey (s : Lexer) : Option Lexer :=
  match s.keys with
  | some k :: ks => if k.required then none else some { s with keys := none :: ks }
  | _ => some s

/-- Remembers that the next element may be a key. -/
def saveKey (s : Lexer) : Option Lexer :=
  if !s.keyAllowed then some s
  else
    s.dropKey.map fun s =>
      let required := !s.inFlow && s.indent == (s.cursor.column : Int)
      { s with keys := some ⟨required, s.tokens.size, s.cursor⟩ :: s.keys.drop 1 }

/-- Whether an element can no longer be a key at a position. -/
def KeyCandidate.isStale (k : KeyCandidate) (p : Cursor) : Bool :=
  k.cursor.line < p.line || k.cursor.index + 1024 < p.index

/-- Forgets the elements that can no longer be keys, none of which must be required. -/
def dropStaleKeys (s : Lexer) : Option Lexer :=
  let stale (k : Option KeyCandidate) : Bool :=
    match k with
    | some k => KeyCandidate.isStale k s.cursor
    | none => false
  let lost (k : Option KeyCandidate) : Bool :=
    match k with
    | some k => k.required && KeyCandidate.isStale k s.cursor
    | none => false
  if s.keys.any lost then none
  else some { s with keys := s.keys.map fun k => if stale k then none else k }

/-! ### Blocks -/

/-- Opens a block at a column, before the tokens after the first `n`. -/
def openBlock (s : Lexer) (column : Nat) (n : Nat) (t : Token) : Lexer :=
  if s.inFlow || (column : Int) ≤ s.indent then s
  else ({ s with outer := s.indent :: s.outer, indent := (column : Int) }).insertAt n t

/-- Closes the blocks that lie further right than a column. -/
def closeBlocks (column : Int) : List Int → Lexer → Lexer
  | [], s => s
  | o :: os, s =>
    if s.indent ≤ column then s
    else closeBlocks column os { s.push .blockEnd with indent := o, outer := os }

/-- Closes the blocks that lie further right than a column, outside of brackets. -/
def unindent (s : Lexer) (column : Int) : Lexer :=
  if s.inFlow then s else closeBlocks column s.outer s

/-! ### Elements -/

/-- Passes spaces, comments and line ends before an element, and a byte order mark at the start
of a line, which keeps its column. -/
def skipToElement : Nat → Lexer → Lexer
  | 0, s => s
  | fuel + 1, s =>
    let p := s.cursor
    let mark := p.column == 0 && p.isAt (Char.ofNat 0xFEFF)
    if mark || p.isAt ' ' || (p.isAt '\t' && (s.inFlow || !s.keyAllowed)) then
      skipToElement fuel (s.moveTo p.skip)
    else
      let p := skipComment p
      if p.lineEndAt 0 then
        skipToElement fuel { s with cursor := p.skipLine, keyAllowed := s.keyAllowed || !s.inFlow }
      else s.moveTo p

/-- A directive or a document marker, which closes every block. -/
def outermost (s : Lexer) : Option Lexer :=
  (s.unindent (-1)).dropKey.map fun s => s.allowKey false

/-- An opening bracket. -/
def openBracket (s : Lexer) (t : Token) : Option Lexer :=
  s.saveKey.map fun s =>
    ({ s with keys := none :: s.keys, depth := s.depth + 1, keyAllowed := true }).skip 1 |>.push t

/-- A closing bracket. -/
def closeBracket (s : Lexer) (t : Token) : Option Lexer :=
  s.dropKey.map fun s =>
    let s := if s.inFlow then { s with keys := s.keys.drop 1, depth := s.depth - 1 } else s
    (s.allowKey false).skip 1 |>.push t

/-- A comma. -/
def comma (s : Lexer) : Option Lexer :=
  s.dropKey.map fun s => ((s.allowKey true).skip 1).push .comma

/-- A mark that opens a block of its own when it stands outside of brackets. -/
def openMarked (s : Lexer) (block : Token) : Option Lexer :=
  if s.inFlow then some s
  else if !s.keyAllowed then none
  else some (s.openBlock s.cursor.column s.tokens.size block)

/-- A dash before an item. -/
def item (s : Lexer) : Option Lexer := do
  let s ← s.openMarked .blockSequence
  let s ← s.dropKey
  return ((s.allowKey true).skip 1).push .item

/-- A question mark before a key. -/
def explicitKey (s : Lexer) : Option Lexer := do
  let s ← s.openMarked .blockMapping
  let s ← s.dropKey
  return ((s.allowKey !s.inFlow).skip 1).push .key

/-- A colon before a value; the element before it may be its key. -/
def value (s : Lexer) : Option Lexer :=
  match s.keys with
  | some k :: ks =>
    let s := { s.insertAt k.tokens .key with keys := none :: ks, keyAllowed := false }
    some (((s.openBlock k.cursor.column k.tokens .blockMapping).skip 1).push .value)
  | _ =>
    (s.openMarked .blockMapping).map fun s => ((s.allowKey !s.inFlow).skip 1).push .value

/-- An anchor or an alias. -/
def named (s : Lexer) (token : String → Token) : Option Lexer := do
  let s ← s.saveKey
  let (name, p) ← readAnchor s.cursor.skip
  return ((s.allowKey false).moveTo p).push (token name)

/-- A tag. -/
def tagged (s : Lexer) : Option Lexer := do
  let s ← s.saveKey
  let (token, p) ← readTag s.inFlow s.cursor
  return ((s.allowKey false).moveTo p).push token

/-- A block scalar. -/
def block (s : Lexer) (literal : Bool) : Option Lexer := do
  let s ← s.dropKey
  let (text, p) ← readBlock literal s.indent s.cursor.skip
  return ((s.allowKey true).moveTo p).push (.scalar (String.ofList text) false)

/-- A quoted scalar. -/
def quoted (s : Lexer) (single : Bool) : Option Lexer := do
  let s ← s.saveKey
  let p := s.cursor.skip
  let (text, p) ← readQuoted single (p.rest.length + 1) [] p
  return ((s.allowKey false).moveTo p).push (.scalar (String.ofList text) false)

/-- A plain scalar. -/
def plain (s : Lexer) : Option Lexer := do
  let s ← s.saveKey
  let p := s.cursor
  let t ← readPlain s.inFlow (s.indent + 1) (p.rest.length + 1) [] {} p
  let token := Token.scalar (String.ofList t.text.reverse) true
  return ((s.allowKey t.brokeLine).moveTo t.cursor).push token

/-- Whether a plain scalar may begin with a character. -/
def beginsPlain (s : Lexer) (c : Char) : Bool :=
  let p := s.cursor
  let indicator := "-?:,[]\x7b\x7d#&*!|>'\"%@\x60".toList.contains c
  (!p.wordEndAt 0 && !indicator) || (c == '-' && !p.gapAt 1) ||
    (!s.inFlow && (c == '?' || c == ':') && !p.wordEndAt 1)

/-- Reads the element that begins with the character `c`. -/
def element (s : Lexer) (c : Char) : Option Lexer :=
  let p := s.cursor
  if p.column == 0 && c == '%' then do
    let s ← s.outermost
    let (token, p) ← readDirective p.skip
    return (s.moveTo p).push token
  else if p.atMarker then
    s.outermost.map fun s => (s.skip 3).push (if c == '-' then .documentStart else .documentEnd)
  else if c == '[' then s.openBracket .openSequence
  else if c == '{' then s.openBracket .openMapping
  else if c == ']' then s.closeBracket .closeSequence
  else if c == '}' then s.closeBracket .closeMapping
  else if c == ',' then s.comma
  else if c == '-' && p.wordEndAt 1 then s.item
  else if c == '?' && (s.inFlow || p.wordEndAt 1) then s.explicitKey
  else if c == ':' && (s.inFlow || p.wordEndAt 1) then s.value
  else if c == '*' then s.named .alias
  else if c == '&' then s.named .anchor
  else if c == '!' then s.tagged
  else if c == '|' && !s.inFlow then s.block true
  else if c == '>' && !s.inFlow then s.block false
  else if c == '\'' then s.quoted true
  else if c == '\"' then s.quoted false
  else if s.beginsPlain c then s.plain
  else none

/-- Reads all elements that are left. -/
def run : Nat → Lexer → Option (List Token)
  | 0, _ => none
  | fuel + 1, s =>
    match (skipToElement (s.cursor.rest.length + 1) s).dropStaleKeys with
    | none => none
    | some s =>
      let s := s.unindent (s.cursor.column : Int)
      match s.cursor.next? with
      | none => (s.unindent (-1)).dropKey.map fun s => s.tokens.toList
      | some c =>
        match s.element c with
        | none => none
        | some s => run fuel s

end Lexer

/-- Whether a character may stand in a document at all. -/
def isDocumentChar (c : Char) : Bool :=
  let n := c.toNat
  n == 0x09 || n == 0x0A || n == 0x0D || (0x20 ≤ n && n ≤ 0x7E) || n == 0x85 ||
    (0xA0 ≤ n && n ≤ 0xFFFD) || 0x10000 ≤ n

/-- The tokens of a text, unless it is no document. -/
def tokens? (s : String) : Option (List Token) :=
  let cs := s.toList
  if cs.all isDocumentChar then
    Lexer.run (2 * cs.length + 2) { cursor := { rest := cs } }
  else none

end AgentFleet.Document
