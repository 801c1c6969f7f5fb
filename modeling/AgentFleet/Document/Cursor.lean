/-!
# Reading positions

A position in the text of a document: the characters that are left, and the
line and column of the next one. Documents know five line ends; a carriage
return followed by a newline is one of them.
-/

namespace AgentFleet.Document

/-- A position in the text of a document. -/
structure Cursor where
  /-- The characters that are left. -/
  rest : List Char
  /-- How many bytes were read. -/
  index : Nat := 0
  /-- How many lines were read. -/
  line : Nat := 0
  /-- How many characters of the line were read. -/
  column : Nat := 0

/-- Whether a character ends a line. -/
def isLineEnd (c : Char) : Bool :=
  c == '\n' || c == '\r' || c.toNat == 0x85 || c.toNat == 0x2028 || c.toNat == 0x2029

/-- Whether a character is a space or a tab. -/
def isGapChar (c : Char) : Bool :=
  c == ' ' || c == '\t'

namespace Cursor

/-- The `n`-th character ahead. -/
def ahead (p : Cursor) (n : Nat) : Option Char :=
  (p.rest.drop n).head?

/-- The next character. -/
def next? (p : Cursor) : Option Char :=
  p.rest.head?

/-- Whether nothing is left. -/
def atEnd (p : Cursor) : Bool :=
  p.rest.isEmpty

/-- Whether the next character is `c`. -/
def isAt (p : Cursor) (c : Char) : Bool :=
  p.rest.head? == some c

/-- Whether the `n`-th character ahead is a space or a tab. -/
def gapAt (p : Cursor) (n : Nat) : Bool :=
  match p.ahead n with
  | some c => isGapChar c
  | none => false

/-- Whether the `n`-th character ahead ends a line. -/
def lineEndAt (p : Cursor) (n : Nat) : Bool :=
  match p.ahead n with
  | some c => isLineEnd c
  | none => false

/-- Whether a word ends `n` characters ahead: at a space, a tab, a line end or the end. -/
def wordEndAt (p : Cursor) (n : Nat) : Bool :=
  match p.ahead n with
  | some c => isGapChar c || isLineEnd c
  | none => true

/-- Passes one character of a line. -/
def skip (p : Cursor) : Cursor :=
  let width := (p.next?.map Char.utf8Size).getD 0
  { p with rest := p.rest.drop 1, index := p.index + width, column := p.column + 1 }

/-- Passes `n` characters of a line. -/
def skipMany (p : Cursor) : Nat → Cursor
  | 0 => p
  | n + 1 => p.skip.skipMany n

/-- Passes a line end. -/
def skipLine (p : Cursor) : Cursor :=
  match p.rest with
  | '\r' :: '\n' :: rest => { rest := rest, index := p.index + 2, line := p.line + 1 }
  | c :: rest => { rest := rest, index := p.index + c.utf8Size, line := p.line + 1 }
  | [] => p

/-- The text that the next line end stands for: a newline, except for two that stand for
themselves. -/
def lineEndText (p : Cursor) : List Char :=
  match p.rest with
  | c :: _ =>
    if !isLineEnd c then []
    else if c.toNat == 0x2028 || c.toNat == 0x2029 then [c] else ['\n']
  | [] => []

/-- Passes a line end, if there is one. -/
def skipLineEnd (p : Cursor) : Cursor :=
  if p.lineEndAt 0 then p.skipLine else p

/-- Whether a document marker stands here: three dashes or dots alone at the start of a line. -/
def atMarker (p : Cursor) : Bool :=
  p.column == 0 && p.wordEndAt 3 &&
    (p.rest.take 3 == ['-', '-', '-'] || p.rest.take 3 == ['.', '.', '.'])

end Cursor

end AgentFleet.Document
