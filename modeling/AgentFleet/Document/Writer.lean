import AgentFleet.Document.Scalar

/-!
# Writing documents

The block style of a document. Entries of a nested mapping are indented by two
columns, a sequence inside a mapping is not indented, empty collections are
written in brackets, and no line is ever folded. A text is written plainly when
it reads back as itself, in single quotes when it would read as something else,
as a literal block when it has several lines, and with escapes when nothing else
can hold it. A key that is not short and on one line stands after a question
mark. Some values have no written form: a tag directly inside another tag, and a
mapping without a tag whose only key has a tag or is itself a mapping of one
entry.
-/

namespace AgentFleet.Writer

/-! ### The forms of a text -/

/-- Whether a character ends a line. -/
def isBreak (c : Char) : Bool :=
  c == '\n' || c == '\r' || c.toNat == 0x85 || c.toNat == 0x2028 || c.toNat == 0x2029

/-- Whether a character is written as itself. -/
def isPrintable (c : Char) : Bool :=
  let n := c.toNat
  n == 0x0A || (0x20 ≤ n && n ≤ 0x7E) || (0xA0 ≤ n && n ≤ 0xD7FF) ||
    (0xE000 ≤ n && n ≤ 0xFFFD && n != 0xFEFF) || 0x10000 ≤ n

/-- Whether a character is a space, a tab or a line break; so is the end of a text. -/
def isGap : Option Char → Bool
  | none => true
  | some c => c == ' ' || c == '\t' || isBreak c

/-- What matters about a text for the choice of its form. -/
structure Traits where
  /-- An indicator stands where a plain text in block style has none. -/
  indicator : Bool := false
  /-- Some character ends a line. -/
  multiline : Bool := false
  /-- Some character must be escaped. -/
  special : Bool := false
  /-- The first or the last character is a space or a line break. -/
  edges : Bool := false
  /-- The last character is a space. -/
  trailingSpace : Bool := false
  /-- A space follows a line break. -/
  breakSpace : Bool := false
  /-- A line break follows a space. -/
  spaceBreak : Bool := false

/-- Whether a character may not begin a plain text. -/
def isLeadIndicator (c : Char) (next : Option Char) : Bool :=
  "#,[]\x7b\x7d&*!|>'\"%@\x60".toList.contains c ||
    ((c == '?' || c == ':' || c == '-') && isGap next)

/-- Whether a character may not stand inside a plain text. -/
def isInnerIndicator (before c : Char) (next : Option Char) : Bool :=
  (c == ':' && isGap next) || (c == '#' && isGap (some before))

/-- The traits of the characters after `before`. -/
def traitsAfter (before : Char) : List Char → Traits
  | [] => {}
  | c :: cs =>
    let t := traitsAfter c cs
    let last := cs.isEmpty
    { indicator := t.indicator || isInnerIndicator before c cs.head?
      multiline := t.multiline || isBreak c
      special := t.special || !isPrintable c
      edges := t.edges || (last && (c == ' ' || isBreak c))
      trailingSpace := t.trailingSpace || (last && c == ' ')
      breakSpace := t.breakSpace || (c == ' ' && isBreak before)
      spaceBreak := t.spaceBreak || (isBreak c && before == ' ') }

/-- The traits of a text. -/
def traits : List Char → Traits
  | [] => {}
  | c :: cs =>
    let t := traitsAfter c cs
    let marker := "---".toList.isPrefixOf (c :: cs) || "...".toList.isPrefixOf (c :: cs)
    { t with
      indicator := t.indicator || marker || isLeadIndicator c cs.head?
      multiline := t.multiline || isBreak c
      special := t.special || !isPrintable c
      edges := t.edges || c == ' ' || isBreak c
      trailingSpace := t.trailingSpace || (cs.isEmpty && c == ' ') }

/-- A text may be written without quotes. -/
def Traits.plain (t : Traits) : Bool :=
  !(t.edges || t.breakSpace || t.spaceBreak || t.special || t.multiline || t.indicator)

/-- A text may be written in single quotes. -/
def Traits.singleQuoted (t : Traits) : Bool :=
  !(t.breakSpace || t.spaceBreak || t.special)

/-- A text may be written as a literal block. -/
def Traits.literal (t : Traits) : Bool :=
  !(t.trailingSpace || t.spaceBreak || t.special)

/-- The form of a text. -/
inductive Form where
  /-- Without quotes. -/
  | plain
  /-- In single quotes. -/
  | singleQuoted
  /-- In double quotes, with escapes. -/
  | doubleQuoted
  /-- As a literal block. -/
  | literal
  deriving DecidableEq

/-- The form of a text that is not a short key. -/
def formOf (s : String) : Form :=
  let t := traits s.toList
  if s.toList.contains '\n' then
    if t.literal then .literal else .doubleQuoted
  else if t.plain && !Scalar.needsQuotes s then .plain
  else if t.singleQuoted then .singleQuoted
  else .doubleQuoted

/-- `n` in hexadecimal capitals, at least `width` digits. -/
def hex (width n : Nat) : List Char :=
  let digits := (Nat.toDigits 16 n).map Char.toUpper
  List.replicate (width - digits.length) '0' ++ digits

/-- A character between double quotes. -/
def escaped (c : Char) : List Char :=
  let n := c.toNat
  if isPrintable c && !isBreak c && c != '\"' && c != '\\' then [c]
  else if n == 0 then ['\\', '0']
  else if n == 7 then ['\\', 'a']
  else if n == 8 then ['\\', 'b']
  else if n == 9 then ['\\', 't']
  else if n == 10 then ['\\', 'n']
  else if n == 11 then ['\\', 'v']
  else if n == 12 then ['\\', 'f']
  else if n == 13 then ['\\', 'r']
  else if n == 27 then ['\\', 'e']
  else if n == 0x22 then ['\\', '\"']
  else if n == 0x5C then ['\\', '\\']
  else if n == 0x85 then ['\\', 'N']
  else if n == 0xA0 then ['\\', '_']
  else if n == 0x2028 then ['\\', 'L']
  else if n == 0x2029 then ['\\', 'P']
  else if n ≤ 0xFF then '\\' :: 'x' :: hex 2 n
  else if n ≤ 0xFFFF then '\\' :: 'u' :: hex 4 n
  else '\\' :: 'U' :: hex 8 n

/-- The lines of `cs` after `line`; other line ends than a newline stay on their line. -/
def breakLines (line : List Char) : List Char → List String
  | [] => [String.ofList line.reverse]
  | c :: cs =>
    if c == '\n' then String.ofList line.reverse :: breakLines [] cs
    else if isBreak c then String.ofList (c :: line).reverse :: breakLines [] cs
    else breakLines (c :: line) cs

/-- The marks after the bar of a literal block: its indentation and what ends it. -/
def literalMarks (cs : List Char) : String :=
  let indentation := match cs.head? with
    | some c => if c == ' ' || isBreak c then "2" else ""
    | none => ""
  let ending := match cs.reverse with
    | [] => "-"
    | c :: before =>
      if !isBreak c then "-"
      else
        match before with
        | [] => "+"
        | d :: _ => if isBreak d then "+" else ""
  indentation ++ ending

/-- The lines of a text in its form: the first one, and those that follow it. -/
def textLines (s : String) : String × List String :=
  match formOf s with
  | .plain => (s, [])
  | .singleQuoted =>
    let quoted := s.toList.flatMap fun c => if c == '\'' then ['\'', '\''] else [c]
    match breakLines [] ('\'' :: quoted ++ ['\'']) with
    | [] => ("''", [])
    | l :: ls => (l, ls)
  | .doubleQuoted => (String.ofList ('\"' :: s.toList.flatMap escaped ++ ['\"']), [])
  | .literal =>
    let ls := breakLines [] s.toList
    let ls := if ls.getLast? == some "" then ls.dropLast else ls
    ("|" ++ literalMarks s.toList, ls)

/-- The name of a tag after its mark; a mark at its beginning is the tag's own. -/
def tagName (tag : String) : List Char :=
  match tag.toList with
  | '!' :: name => name
  | name => name

/-- A tag as it is written before its value; a tag that is only a mark stands in brackets. -/
def tagText (tag : String) : String :=
  let allowed (c : Char) : Bool :=
    c.isAlphanum || "-_;/?:@&=+$,.~*'()[]".toList.contains c
  let byte (b : UInt8) : List Char := '%' :: hex 2 b.toNat
  let chars := (tagName tag).flatMap fun c =>
    if allowed c then [c] else (String.singleton c).toUTF8.toList.flatMap byte
  if chars.isEmpty then "!<%21>" else "!" ++ String.ofList chars

/-! ### Blocks -/

/-- The two kinds of block. -/
inductive BlockKind where
  /-- A sequence that is not empty. -/
  | sequence
  /-- A mapping that is not empty. -/
  | mapping
  deriving DecidableEq

/-- The written form of a value before it is put into its context. -/
inductive Rendering where
  /-- A value that begins on the line of its context and may go on below. -/
  | inline (first : String) (rest : List String)
  /-- A block of lines, below its tag when it has one. -/
  | block (tag : Option String) (kind : BlockKind) (lines : List String)

/-- A line indented by two columns, unless there is nothing on it. -/
def indentLine (line : String) : String :=
  match line.toList with
  | [] => line
  | [c] => if isBreak c then line else "  " ++ line
  | _ => "  " ++ line

/-- Lines indented by two columns. -/
def indent (lines : List String) : List String :=
  lines.map indentLine

/-- A value after a mark of its own column, such as the dash of an item. -/
def Rendering.after (mark : String) (inMapping : Bool) : Rendering → List String
  | .inline first rest => (mark ++ " " ++ first) :: indent rest
  | .block none _ lines =>
    match lines with
    | [] => [mark]
    | l :: ls => (mark ++ " " ++ l) :: indent ls
  | .block (some tag) kind lines =>
    (mark ++ " " ++ tag) :: if inMapping && kind == .sequence then lines else indent lines

/-- A value after its key. -/
def Rendering.afterKey (key : String) : Rendering → List String
  | .inline first rest => (key ++ ": " ++ first) :: indent rest
  | .block tag kind lines =>
    let head := match tag with
      | none => key ++ ":"
      | some t => key ++ ": " ++ t
    head :: match kind with
      | .sequence => lines
      | .mapping => indent lines

/-- A value under a tag. -/
def Rendering.withTag (tag : String) : Rendering → Rendering
  | .inline first rest => .inline (tag ++ " " ++ first) rest
  | .block _ kind lines => .block (some tag) kind lines

/-- A whole document. -/
def Rendering.root : Rendering → List String
  | .inline first rest => first :: indent rest
  | .block none _ lines => lines
  | .block (some tag) _ lines => tag :: lines

/-- How many bytes a key has, the marks of an empty collection aside. -/
def keySize : Value → Nat
  | .str s => s.utf8ByteSize
  | .tagged tag v => 1 + (String.ofList (tagName tag)).utf8ByteSize + keySize v
  | .seq _ | .map _ => 0
  | v => (v.scalarText.map String.utf8ByteSize).getD 4

/-- Whether a text, perhaps under a tag, has several lines. -/
def isMultiline (v : Value) : Bool :=
  match v.asString? with
  | some s => (traits s.toList).multiline
  | none => false

/-- The text of a key that fits before a colon: on one line and of at most 128 bytes. -/
def keyText? (key : Value) : Rendering → Option String
  | .inline first rest =>
    if rest.isEmpty && keySize key ≤ 128 && !isMultiline key then some first else none
  | .block _ _ _ => none

/-- An entry of a mapping. -/
def entryLines (key : Value) (k v : Rendering) : List String :=
  match keyText? key k with
  | some text => v.afterKey text
  | none => k.after "?" true ++ v.after ":" true

/-- Whether the only key of a mapping hides where the mapping begins. -/
def hasHidingKey : List (Value × Value) → Bool
  | [(.tagged _ _, _)] => true
  | [(.map [_], _)] => true
  | _ => false

mutual

/-- The written form of a value that has one. -/
def render? : Value → Option Rendering
  | .null => some (.inline "null" [])
  | .bool b => some (.inline (if b then "true" else "false") [])
  | .int n => some (.inline (toString n) [])
  | .float x => some (.inline x.text [])
  | .str s => some (.inline (textLines s).1 (textLines s).2)
  | .seq [] => some (.inline "[]" [])
  | .seq items => (itemLines? items).map fun lines => .block none .sequence lines
  | .map [] => some (.inline "\x7b\x7d" [])
  | .map entries =>
    if hasHidingKey entries then none
    else (mappingLines? entries).map fun lines => .block none .mapping lines
  | .tagged _ (.tagged _ _) => none
  | .tagged tag (.map (e :: es)) =>
    (mappingLines? (e :: es)).map fun lines => .block (some (tagText tag)) .mapping lines
  | .tagged tag v => (render? v).map fun r => r.withTag (tagText tag)

/-- The lines of the items of a sequence. -/
def itemLines? : List Value → Option (List String)
  | [] => some []
  | v :: vs =>
    match render? v, itemLines? vs with
    | some r, some ls => some (r.after "-" false ++ ls)
    | _, _ => none

/-- The lines of the entries of a mapping. -/
def mappingLines? : List (Value × Value) → Option (List String)
  | [] => some []
  | (k, v) :: es =>
    match render? k, render? v, mappingLines? es with
    | some rk, some rv, some ls => some (entryLines k rk rv ++ ls)
    | _, _, _ => none

end

/-- A line with its end; some lines end themselves. -/
def finishLine (line : String) : String :=
  match line.toList.getLast? with
  | some c => if isBreak c then line else line ++ "\n"
  | none => "\n"

/-- The text of a document that has one. -/
def write? (v : Value) : Option String :=
  (render? v).map fun r => String.join (r.root.map finishLine)

end AgentFleet.Writer
