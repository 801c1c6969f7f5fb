/-!
# Blanks

White space in the sense of Unicode's `White_Space` property, and the three
things this library does with it: trimming a text, cutting it into words, and
cutting it into lines.
-/

namespace AgentFleet.Text

/-- The characters with the `White_Space` property. -/
def isBlank (c : Char) : Bool :=
  let n := c.toNat
  (9 ≤ n && n ≤ 13) || n == 0x20 || n == 0x85 || n == 0xA0 || n == 0x1680 ||
    (0x2000 ≤ n && n ≤ 0x200A) || n == 0x2028 || n == 0x2029 || n == 0x202F ||
    n == 0x205F || n == 0x3000

/-- A text without its leading blanks. -/
def trimStart (s : String) : String :=
  String.ofList (s.toList.dropWhile isBlank)

/-- A text without its trailing blanks. -/
def trimEnd (s : String) : String :=
  String.ofList (s.toList.reverse.dropWhile isBlank).reverse

/-- A text without the blanks at either end. -/
def trim (s : String) : String :=
  trimEnd (trimStart s)

/-- The words of `cs`, of which `word` is the part already read, backwards. -/
def wordsFrom (word : List Char) : List Char → List (List Char)
  | [] => if word.isEmpty then [] else [word.reverse]
  | c :: cs =>
    if isBlank c then
      if word.isEmpty then wordsFrom [] cs else word.reverse :: wordsFrom [] cs
    else wordsFrom (c :: word) cs

/-- The maximal runs of characters that are not blank. -/
def words (s : String) : List String :=
  (wordsFrom [] s.toList).map String.ofList

/-- The pieces of `cs` between separators, of which `piece` is already read, backwards. -/
def splitFrom (sep : Char) (piece : List Char) : List Char → List (List Char)
  | [] => [piece.reverse]
  | c :: cs =>
    if c == sep then piece.reverse :: splitFrom sep [] cs else splitFrom sep (c :: piece) cs

/-- The pieces of a text between occurrences of `sep`, one more than there are separators. -/
def split (sep : Char) (s : String) : List String :=
  (splitFrom sep [] s.toList).map String.ofList

/-- The lines of a text; a final line break ends the last line and starts none. -/
def lines (s : String) : List String :=
  let pieces := split '\n' s
  if pieces.getLast? == some "" then pieces.dropLast else pieces

/-- Whether `s` begins with `start`. -/
def startsWith (start s : String) : Bool :=
  start.toList.isPrefixOf s.toList

/-- What follows `start` at the beginning of `s`. -/
def strip? (start s : String) : Option String :=
  if startsWith start s then some (String.ofList (s.toList.drop start.toList.length)) else none

/-- `s` with every occurrence of the character `c` written as `t`. -/
def replace (c : Char) (t : String) (s : String) : String :=
  String.ofList (s.toList.flatMap fun d => if d == c then t.toList else [d])

/-- The texts one after the other with `sep` between neighbours. -/
def join (sep : String) : List String → String
  | [] => ""
  | [s] => s
  | s :: rest => s ++ sep ++ join sep rest

end AgentFleet.Text
