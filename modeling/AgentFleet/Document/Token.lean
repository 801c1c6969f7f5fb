import AgentFleet.Document.Cursor
import AgentFleet.Number.Decimal
import AgentFleet.Text.Utf8

/-!
# Tokens of a document

The lexical elements of a document and the readers of the elements that have a
text of their own: directives, anchors, tags and the five forms of a scalar.
Every reader answers `none` on a malformed element.
-/

namespace AgentFleet.Document

/-- A lexical element of a document. -/
inductive Token where
  /-- The version that a document claims. -/
  | version (major minor : Nat)
  /-- A short name for the beginning of tags. -/
  | tagName (handle start : String)
  /-- Three dashes. -/
  | documentStart
  /-- Three dots. -/
  | documentEnd
  /-- The start of a block sequence. -/
  | blockSequence
  /-- The start of a block mapping. -/
  | blockMapping
  /-- The end of a block. -/
  | blockEnd
  /-- An opening square bracket. -/
  | openSequence
  /-- A closing square bracket. -/
  | closeSequence
  /-- An opening brace. -/
  | openMapping
  /-- A closing brace. -/
  | closeMapping
  /-- A dash before an item. -/
  | item
  /-- A comma. -/
  | comma
  /-- The start of a key. -/
  | key
  /-- The start of a value. -/
  | value
  /-- A reference to an anchored node. -/
  | alias (name : String)
  /-- A name for the node that follows. -/
  | anchor (name : String)
  /-- A tag of the node that follows, in two parts. -/
  | tag (handle name : String)
  /-- A scalar; `plain` when it is written without quotes. -/
  | scalar (text : String) (plain : Bool)
  deriving DecidableEq, Repr

/-! ### Names -/

/-- Whether a character may stand in an anchor or a handle. -/
def isNameChar (c : Char) : Bool :=
  c.isAlphanum || c == '_' || c == '-'

/-- Reads characters while they are wanted. -/
def readWhile (wanted : Char → Bool) (p : Cursor) : List Char × Cursor :=
  let cs := p.rest.takeWhile wanted
  (cs, p.skipMany cs.length)

/-- Passes spaces and tabs. -/
def skipGap (p : Cursor) : Cursor :=
  (readWhile isGapChar p).2

/-- Passes a comment, if one begins here. -/
def skipComment (p : Cursor) : Cursor :=
  if p.isAt '#' then (readWhile (fun c => !isLineEnd c) p).2 else p

/-- Reads an anchor or an alias after its mark. -/
def readAnchor (p : Cursor) : Option (String × Cursor) :=
  let (name, p) := readWhile isNameChar p
  let ends := p.wordEndAt 0 || match p.next? with
    | some c => "?:,]\x7d%@\x60".toList.contains c
    | none => true
  if name.isEmpty || !ends then none else some (String.ofList name, p)

/-! ### Tags -/

/-- Whether a character may stand in a tag; some only between angle brackets. -/
def isTagChar (bracketed : Bool) (c : Char) : Bool :=
  isNameChar c || ";/?:@&=+$.!~*'()".toList.contains c || (bracketed && ",[]".toList.contains c)

/-- The value of a byte written as a percent sign and two digits. -/
def escapedByte? (cs : List Char) : Option UInt8 :=
  match cs with
  | '%' :: a :: b :: _ => (Number.natural? 16 [a, b]).map UInt8.ofNat
  | _ => none

/-- How many bytes a character takes whose first byte is `b`. -/
def encodedWidth (b : UInt8) : Nat :=
  if b.toNat < 0x80 then 1
  else if 0xC0 ≤ b.toNat && b.toNat < 0xE0 then 2
  else if 0xE0 ≤ b.toNat && b.toNat < 0xF0 then 3
  else if 0xF0 ≤ b.toNat && b.toNat < 0xF8 then 4
  else 0

/-- Reads `n` escaped bytes. -/
def escapedBytes? : Nat → List Char → Option (List UInt8)
  | 0, _ => some []
  | n + 1, cs =>
    match escapedByte? cs, escapedBytes? n (cs.drop 3) with
    | some b, some bs => some (b :: bs)
    | _, _ => none

/-- Reads a character of a tag that is written in escaped bytes. -/
def readEscapedChar (p : Cursor) : Option (List Char × Cursor) :=
  match escapedByte? p.rest with
  | none => none
  | some b =>
    let width := encodedWidth b
    if width == 0 then none
    else
      match (escapedBytes? width p.rest).bind Text.decode? with
      | some s => some (s.toList, p.skipMany (3 * width))
      | none => none

/-- Reads the characters of a tag. -/
def readTagChars (bracketed : Bool) : Nat → Cursor → Option (List Char × Cursor)
  | 0, p => some ([], p)
  | fuel + 1, p =>
    match p.next? with
    | none => some ([], p)
    | some c =>
      if c == '%' then
        match readEscapedChar p with
        | none => none
        | some (cs, p) => (readTagChars bracketed fuel p).map fun (ds, p) => (cs ++ ds, p)
      else if isTagChar bracketed c then
        (readTagChars bracketed fuel p.skip).map fun (ds, p) => (c :: ds, p)
      else some ([], p)

/-- Reads the characters of a tag after what was read of it as a handle. -/
def readTagRest (bracketed : Bool) (start : List Char) (p : Cursor) : Option (List Char × Cursor) :=
  match readTagChars bracketed p.rest.length p with
  | none => none
  | some (cs, p) => if start.isEmpty && cs.isEmpty then none else some (start.drop 1 ++ cs, p)

/-- Reads a handle: a mark, name characters and perhaps a second mark. -/
def readHandle (p : Cursor) : Option (List Char × Cursor) :=
  if !p.isAt '!' then none
  else
    let (name, p) := readWhile isNameChar p.skip
    if p.isAt '!' then some ('!' :: name ++ ['!'], p.skip) else some ('!' :: name, p)

/-- Whether a handle has both its marks. -/
def isClosedHandle (handle : List Char) : Bool :=
  1 < handle.length && handle.getLast? == some '!'

/-- Reads the two parts of a tag. -/
def readTagParts (p : Cursor) : Option (String × String × Cursor) :=
  if p.ahead 1 == some '<' then
    match readTagRest true [] (p.skipMany 2) with
    | none => none
    | some (name, p) => if p.isAt '>' then some ("", String.ofList name, p.skip) else none
  else
    match readHandle p with
    | none => none
    | some (handle, p) =>
      if isClosedHandle handle then
        (readTagRest false [] p).map fun (name, p) => (String.ofList handle, String.ofList name, p)
      else
        (readTagRest false handle p).map fun (name, p) =>
          if name.isEmpty then ("", "!", p) else ("!", String.ofList name, p)

/-- Reads a tag. -/
def readTag (inFlow : Bool) (p : Cursor) : Option (Token × Cursor) :=
  match readTagParts p with
  | none => none
  | some (handle, name, p) =>
    if p.wordEndAt 0 || (inFlow && p.isAt ',') then some (.tag handle name, p) else none

/-! ### Directives -/

/-- Reads a number of at most nine digits. -/
def readVersionNumber (p : Cursor) : Option (Nat × Cursor) :=
  let (digits, p) := readWhile Number.isDigit p
  if 9 < digits.length then none else (Number.natural? 10 digits).map fun n => (n, p)

/-- Reads the version of a version directive. -/
def readVersion (p : Cursor) : Option (Token × Cursor) :=
  match readVersionNumber (skipGap p) with
  | none => none
  | some (major, p) =>
    if !p.isAt '.' then none
    else (readVersionNumber p.skip).map fun (minor, p) => (.version major minor, p)

/-- Reads the handle and the tag of a tag directive. -/
def readTagName (p : Cursor) : Option (Token × Cursor) :=
  match readHandle (skipGap p) with
  | none => none
  | some (handle, p) =>
    if (handle != ['!'] && !isClosedHandle handle) || !p.gapAt 0 then none
    else
      match readTagRest true [] (skipGap p) with
      | none => none
      | some (start, p) =>
        if p.wordEndAt 0 then some (.tagName (String.ofList handle) (String.ofList start), p)
        else none

/-- Reads a directive after its percent sign. -/
def readDirective (p : Cursor) : Option (Token × Cursor) :=
  let (name, p) := readWhile isNameChar p
  if name.isEmpty || !p.wordEndAt 0 then none
  else
    let read := if name == "YAML".toList then readVersion p
      else if name == "TAG".toList then readTagName p
      else none
    match read with
    | none => none
    | some (token, p) =>
      let p := skipComment (skipGap p)
      if p.atEnd then some (token, p)
      else if p.lineEndAt 0 then some (token, p.skipLine)
      else none

/-! ### Folded text -/

/-- The gap between two parts of a scalar: spaces on a line, or line ends. -/
structure Gap where
  /-- The spaces and tabs, backwards. -/
  spaces : List Char := []
  /-- The first line end, when there is one. -/
  first : Option (List Char) := none
  /-- The further line ends. -/
  others : List Char := []

/-- What a gap stands for: one line end becomes a space, further ones stay. -/
def Gap.text (g : Gap) : List Char :=
  match g.first with
  | none => g.spaces.reverse
  | some first =>
    if first == ['\n'] then if g.others.isEmpty then [' '] else g.others else first ++ g.others

/-- Reads a gap. A tab before the column `least` of a later line is refused. -/
def readGap (least : Option Int) : Nat → Gap → Cursor → Option (Gap × Cursor)
  | 0, g, p => some (g, p)
  | fuel + 1, g, p =>
    if p.gapAt 0 then
      match g.first with
      | none => readGap least fuel { g with spaces := p.rest.take 1 ++ g.spaces } p.skip
      | some _ =>
        if p.isAt '\t' && (least.map fun n => decide ((p.column : Int) < n)).getD false then none
        else readGap least fuel g p.skip
    else if p.lineEndAt 0 then
      match g.first with
      | none => readGap least fuel { first := some p.lineEndText } p.skipLine
      | some _ => readGap least fuel { g with others := g.others ++ p.lineEndText } p.skipLine
    else some (g, p)

/-! ### Quoted scalars -/

/-- The character that a letter after a backslash stands for. -/
def escapeChar? (c : Char) : Option Char :=
  match c with
  | '0' => some (Char.ofNat 0)
  | 'a' => some (Char.ofNat 7)
  | 'b' => some (Char.ofNat 8)
  | 't' => some '\t'
  | '\t' => some '\t'
  | 'n' => some '\n'
  | 'v' => some (Char.ofNat 11)
  | 'f' => some (Char.ofNat 12)
  | 'r' => some '\r'
  | 'e' => some (Char.ofNat 27)
  | ' ' => some ' '
  | '\"' => some '\"'
  | '/' => some '/'
  | '\\' => some '\\'
  | 'N' => some (Char.ofNat 0x85)
  | '_' => some (Char.ofNat 0xA0)
  | 'L' => some (Char.ofNat 0x2028)
  | 'P' => some (Char.ofNat 0x2029)
  | _ => none

/-- How many digits follow a letter after a backslash that announces a code. -/
def escapeWidth? (c : Char) : Option Nat :=
  match c with
  | 'x' => some 2
  | 'u' => some 4
  | 'U' => some 8
  | _ => none

/-- Whether a number is the code of a character. -/
def isCharCode (n : Nat) : Bool :=
  n ≤ 0x10FFFF && !(0xD800 ≤ n && n ≤ 0xDFFF)

/-- Reads an escape after its backslash. -/
def readEscape (p : Cursor) : Option (Char × Cursor) :=
  match p.next? with
  | none => none
  | some c =>
    match escapeChar? c with
    | some d => some (d, p.skip)
    | none =>
      match escapeWidth? c with
      | none => none
      | some width =>
        let digits := p.skip.rest.take width
        if digits.length < width then none
        else
          match Number.natural? 16 digits with
          | some n => if isCharCode n then some (Char.ofNat n, p.skipMany (width + 1)) else none
          | none => none

/-- Reads the rest of a quoted scalar, whose characters so far stand backwards in `text`. -/
def readQuoted (single : Bool) : Nat → List Char → Cursor → Option (List Char × Cursor)
  | 0, _, _ => none
  | fuel + 1, text, p =>
    let quote := if single then '\'' else '\"'
    match p.next? with
    | none => none
    | some c =>
      if p.atMarker then none
      else if single && c == '\'' && p.ahead 1 == some '\'' then
        readQuoted single fuel ('\'' :: text) (p.skipMany 2)
      else if c == quote then some (text.reverse, p.skip)
      else if !single && c == '\\' && p.lineEndAt 1 then
        match readGap none p.rest.length { first := some [] } p.skip.skipLine with
        | none => none
        | some (g, p) => readQuoted single fuel (g.text.reverse ++ text) p
      else if !single && c == '\\' then
        match readEscape p.skip with
        | none => none
        | some (d, p) => readQuoted single fuel (d :: text) p
      else if isGapChar c || isLineEnd c then
        match readGap none p.rest.length {} p with
        | none => none
        | some (g, p) => readQuoted single fuel (g.text.reverse ++ text) p
      else readQuoted single fuel (c :: text) p.skip

/-! ### Plain scalars -/

/-- A plain scalar ends before this character. -/
def endsPlain (inFlow : Bool) (p : Cursor) : Bool :=
  match p.next? with
  | none => true
  | some c => (c == ':' && p.wordEndAt 1) || (inFlow && ",[]\x7b\x7d".toList.contains c)

/-- A colon that is no part of a plain scalar inside brackets. -/
def strayColon (inFlow : Bool) (p : Cursor) : Bool :=
  inFlow && p.isAt ':' && match p.ahead 1 with
    | some c => ",?[]\x7b\x7d".toList.contains c
    | none => false

/-- Reads the characters of a plain scalar up to the next gap. -/
def readPlainPart (inFlow : Bool) : Nat → List Char → Cursor → Option (List Char × Cursor)
  | 0, text, p => some (text, p)
  | fuel + 1, text, p =>
    if p.wordEndAt 0 then some (text, p)
    else if strayColon inFlow p then none
    else if endsPlain inFlow p then some (text, p)
    else readPlainPart inFlow fuel (p.rest.take 1 ++ text) p.skip

/-- A plain scalar as far as it was read. -/
structure PlainText where
  /-- The characters, backwards. -/
  text : List Char
  /-- The position after the last gap. -/
  cursor : Cursor
  /-- The last gap holds a line end. -/
  brokeLine : Bool

/-- Reads a plain scalar that stands at the column `least` or further on later lines. -/
def readPlain (inFlow : Bool) (least : Int) : Nat → List Char → Gap → Cursor → Option PlainText
  | 0, text, g, p => some ⟨text, p, g.first.isSome⟩
  | fuel + 1, text, g, p =>
    if p.atMarker || p.isAt '#' then some ⟨text, p, g.first.isSome⟩
    else
      match readPlainPart inFlow p.rest.length [] p with
      | none => none
      | some (part, q) =>
        let joined := if part.isEmpty then text else part ++ g.text.reverse ++ text
        let g := if part.isEmpty then g else {}
        if !(q.gapAt 0 || q.lineEndAt 0) then some ⟨joined, q, g.first.isSome⟩
        else
          match readGap (some least) q.rest.length g q with
          | none => none
          | some (g, q) =>
            if !inFlow && (q.column : Int) < least then some ⟨joined, q, g.first.isSome⟩
            else readPlain inFlow least fuel joined g q

/-! ### Block scalars -/

/-- What becomes of the line ends at the end of a block scalar. -/
inductive Chomping where
  /-- One stays. -/
  | clip
  /-- None stays. -/
  | strip
  /-- All stay. -/
  | keep
  deriving DecidableEq

/-- Reads a mark of chomping. -/
def readChomping (p : Cursor) : Chomping × Cursor :=
  if p.isAt '+' then (.keep, p.skip) else if p.isAt '-' then (.strip, p.skip) else (.clip, p)

/-- Reads a digit of indentation, which is not zero. -/
def readIncrement (p : Cursor) : Option (Nat × Cursor) :=
  match p.next? with
  | some c =>
    if c == '0' then none
    else if Number.isDigit c then some (c.toNat - 48, p.skip)
    else some (0, p)
  | none => some (0, p)

/-- Reads the marks of chomping and indentation in either order. -/
def readBlockMarks (p : Cursor) : Option (Chomping × Nat × Cursor) :=
  if p.isAt '+' || p.isAt '-' then
    let (chomping, p) := readChomping p
    (readIncrement p).map fun (n, p) => (chomping, n, p)
  else
    match readIncrement p with
    | none => none
    | some (n, p) =>
      if n == 0 then some (.clip, 0, p)
      else
        let (chomping, p) := readChomping p
        some (chomping, n, p)

/-- Reads the empty lines before a line of a block scalar; the indentation 0 is still unknown. -/
def readBlankLines (indent : Nat) :
    Nat → Nat → List Char → Cursor → Option (Nat × List Char × Cursor)
  | 0, widest, breaks, p => some (widest, breaks, p)
  | fuel + 1, widest, breaks, p =>
    let room := if indent == 0 then p.rest.length else indent - p.column
    let spaces := ((p.rest.take room).takeWhile (· == ' ')).length
    let p := p.skipMany spaces
    let widest := max widest p.column
    if (indent == 0 || p.column < indent) && p.isAt '\t' then none
    else if !p.lineEndAt 0 then some (widest, breaks, p)
    else readBlankLines indent fuel widest (breaks ++ p.lineEndText) p.skipLine

/-- A block scalar as far as it was read. -/
structure BlockText where
  /-- The characters, backwards. -/
  text : List Char := []
  /-- The line end of the last line. -/
  ending : List Char := []
  /-- The line ends of the empty lines after it. -/
  blanks : List Char := []
  /-- The last line begins with a space or a tab. -/
  indented : Bool := false

/-- Appends a line to a block scalar. -/
def BlockText.append (b : BlockText) (literal : Bool) (line : List Char) : BlockText :=
  let indented := match line.head? with
    | some c => isGapChar c
    | none => false
  let folds := !literal && b.ending.head? == some '\n' && !b.indented && !indented
  let between :=
    if folds then if b.blanks.isEmpty then [' '] else b.blanks else b.ending ++ b.blanks
  { text := line.reverse ++ between.reverse ++ b.text, indented := indented }

/-- Reads the lines of a block scalar. -/
def readBlockLines (literal : Bool) (indent : Nat) :
    Nat → BlockText → Cursor → Option (BlockText × Cursor)
  | 0, b, p => some (b, p)
  | fuel + 1, b, p =>
    if p.column != indent || p.atEnd then some (b, p)
    else
      let (line, p) := readWhile (fun c => !isLineEnd c) p
      let b := b.append literal line
      let ending := p.lineEndText
      match readBlankLines indent p.rest.length 0 [] p.skipLineEnd with
      | none => none
      | some (_, blanks, p) =>
        readBlockLines literal indent fuel { b with ending := ending, blanks := blanks } p

/-- Reads a block scalar after its mark, in a block of the indentation `outer`. -/
def readBlock (literal : Bool) (outer : Int) (p : Cursor) : Option (List Char × Cursor) :=
  match readBlockMarks p with
  | none => none
  | some (chomping, increment, p) =>
    let p := skipComment (skipGap p)
    if !(p.atEnd || p.lineEndAt 0) then none
    else
      let p := p.skipLineEnd
      let given := if increment == 0 then 0 else (max outer 0).toNat + increment
      match readBlankLines given (p.rest.length + 1) 0 [] p with
      | none => none
      | some (widest, blanks, p) =>
        let indent := if given == 0 then max (max widest (outer + 1).toNat) 1 else given
        match readBlockLines literal indent (p.rest.length + 1) { blanks := blanks } p with
        | none => none
        | some (b, p) =>
          let text := b.text.reverse
          some (match chomping with
            | .strip => (text, p)
            | .clip => (text ++ b.ending, p)
            | .keep => (text ++ b.ending ++ b.blanks, p))

end AgentFleet.Document
