import AgentFleet.Number.Decimal
import AgentFleet.Shell.Syntax

/-!
# The text of a script

What is left of the text of a script while it is read, the tokens that it is cut into, and the
faults that reading meets. A backslash at the end of a line joins the line to the next one. The
text of a here-document is cut out of the script as soon as its mark is read, so that the reader
finds the line after it next.
-/

namespace AgentFleet.Shell

/-- A fault in the syntax of a script. -/
structure SyntaxFault where
  /-- The line that reading had come to. -/
  line : Nat
  /-- What is wrong. -/
  text : String
  deriving DecidableEq, Repr

/-- A token of a script. -/
inductive ScriptToken where
  /-- A word. -/
  | word (w : Word)
  /-- A reserved word or an operator. -/
  | mark (s : String)
  /-- The beginning of a redirection: its descriptor and its operator. -/
  | redirection (descriptor : Nat) (operator : String)
  /-- The end of a line. -/
  | lineEnd
  /-- The end of the script. -/
  | scriptEnd

namespace ScriptToken

/-- How a fault names a token. -/
def text : ScriptToken → String
  | word _ => "word"
  | mark s => "\"" ++ s ++ "\""
  | redirection _ _ => "redirection"
  | lineEnd => "newline"
  | scriptEnd => "end of file"

/-- Whether a token is a certain reserved word or operator. -/
def isMark (s : String) : ScriptToken → Bool
  | mark t => s == t
  | _ => false

/-- Whether a token ends a list of commands inside another command. -/
def closesList : ScriptToken → Bool
  | mark s =>
    [")", ";;", "do", "done", "elif", "else", "esac", "fi", "then", "\x7d"].contains s
  | scriptEnd => true
  | _ => false

/-- The word of a token; other tokens have none. -/
def asWord : ScriptToken → Word
  | word w => w
  | _ => []

end ScriptToken

/-- The reserved words. -/
def reservedWords : List String :=
  ["!", "case", "do", "done", "elif", "else", "esac", "fi", "for", "if", "in", "then", "until",
    "while", "\x7b", "\x7d"]

/-- The commands of the shell itself whose failure ends a script. -/
def specialBuiltins : List String :=
  [":", ".", "break", "continue", "eval", "exec", "exit", "export", "readonly", "return", "set",
    "shift", "times", "trap", "unset"]

/-- What is left of a script. -/
structure Source where
  /-- The characters that are left. -/
  rest : List Char
  /-- The line of the next character. -/
  line : Nat := 1
  /-- A token that was read and not used. -/
  pushed : Option ScriptToken := none
  /-- How many lines were cut out after the current one. -/
  cut : Nat := 0
  /-- The words that stand for other text where a command begins, by name. -/
  aliases : List (String × String) := []

/-- A reader of a part of a script. -/
abbrev SourceReader (α : Type) := StateT Source (Except SyntaxFault) α

namespace SourceReader

/-- Fails with a fault at the current line. -/
def fail {α : Type} (text : String) : SourceReader α := do
  throw ⟨(← get).line, text⟩

/-- Fails because of a token that may not come here. -/
def unexpected {α : Type} (t : ScriptToken) : SourceReader α :=
  fail (t.text ++ " unexpected")

/-- Fails because of a token in the place of another one. -/
def expected {α : Type} (t : ScriptToken) (wanted : String) : SourceReader α :=
  fail (t.text ++ " unexpected (expecting " ++ wanted ++ ")")

/-- Passes one character. -/
def skip : SourceReader Unit :=
  modify fun s =>
    match s.rest with
    | '\n' :: rest => { s with rest := rest, line := s.line + 1 + s.cut, cut := 0 }
    | rest => { s with rest := rest.drop 1 }

/-- Passes characters of one line. -/
def skipMany (n : Nat) : SourceReader Unit :=
  modify fun s => { s with rest := s.rest.drop n }

/-- Passes characters that may hold line ends. -/
def skipText : Nat → SourceReader Unit
  | 0 => return ()
  | n + 1 => do
    skip
    skipText n

/-- Joins the lines that end in a backslash here. -/
def joinLines : Nat → SourceReader Unit
  | 0 => return ()
  | fuel + 1 => do
    match (← get).rest with
    | '\\' :: '\n' :: _ =>
      skip
      skip
      joinLines fuel
    | _ => return ()

/-- The characters that are left, after joined lines. -/
def upcoming : SourceReader (List Char) := do
  joinLines (← get).rest.length
  return (← get).rest

/-- Passes a character if it comes next, and says whether it did. -/
def accept (c : Char) : SourceReader Bool := do
  if (← upcoming).head? == some c then
    skip
    return true
  else return false

/-- Reads characters while they are wanted, across joined lines. -/
def takeWhile (wanted : Char → Bool) : Nat → SourceReader (List Char)
  | 0 => return []
  | fuel + 1 => do
    match ← upcoming with
    | c :: _ =>
      if wanted c then
        skip
        return c :: (← takeWhile wanted fuel)
      else return []
    | [] => return []

/-- Gives back a token. -/
def pushBack (t : ScriptToken) : SourceReader Unit :=
  modify fun s => { s with pushed := some t }

end SourceReader

/-! ### Characters -/

/-- Whether a character ends a word. -/
def isMeta (c : Char) : Bool :=
  " \t\n;&|<>()".toList.contains c

/-- Whether a character may begin a name. -/
def isNameStart (c : Char) : Bool :=
  c.isAlpha || c == '_'

/-- Whether a character may stand in a name. -/
def isNameChar (c : Char) : Bool :=
  c.isAlphanum || c == '_'

/-- Whether a text is a name. -/
def isName (s : String) : Bool :=
  match s.toList with
  | [] => false
  | c :: cs => isNameStart c && cs.all isNameChar

/-- Whether a character names a parameter on its own. -/
def isSpecial (c : Char) : Bool :=
  "@*#?$!-".toList.contains c || Number.isDigit c

/-! ### Here-documents -/

/-- Where the scan for the end of a line stands. -/
inductive LineScan where
  /-- Outside of quotes. -/
  | bare
  /-- Between single quotes. -/
  | single
  /-- Between double quotes. -/
  | double
  /-- In a comment. -/
  | comment
  deriving DecidableEq

/-- How many characters precede the line end after which a here-document begins: the first that
is neither quoted nor inside parentheses. `none` when there is no such line end. -/
def lineLength (scan : LineScan) (opened : Nat) (before : Char) : List Char → Option Nat
  | [] => none
  | c :: cs =>
    let next (scan : LineScan) (opened : Nat) : Option Nat :=
      (lineLength scan opened c cs).map (· + 1)
    match scan with
    | .single => next (if c == '\'' then .bare else .single) opened
    | .double =>
      if before == '\\' then (lineLength .double opened ' ' cs).map (· + 1)
      else next (if c == '\"' then .bare else .double) opened
    | .comment => if c == '\n' && opened == 0 then some 0
      else next (if c == '\n' then .bare else .comment) opened
    | .bare =>
      if before == '\\' then (lineLength .bare opened ' ' cs).map (· + 1)
      else if c == '\n' && opened == 0 then some 0
      else if c == '\'' then next .single opened
      else if c == '\"' then next .double opened
      else if c == '#' && (before == ' ' || before == '\t') then next .comment opened
      else if c == '(' then next .bare (opened + 1)
      else if c == ')' then next .bare (opened - 1)
      else next .bare opened

/-- A line and what follows it, its end included in neither. -/
def splitLine (cs : List Char) : List Char × List Char :=
  let line := cs.takeWhile (· != '\n')
  (line, cs.drop (line.length + 1))

/-- Whether a line ends in a backslash that joins it to the next one. -/
def joinsNext (line : List Char) : Bool :=
  (line.reverse.takeWhile (· == '\\')).length % 2 == 1

/-- The lines of a here-document up to its mark, how many lines it takes with its mark, and what
follows. `strip` drops leading tabs; with `joins` a backslash hides the mark on the next line. -/
def splitDocument (strip joins : Bool) (mark : List Char) (hidden : Bool) :
    Nat → List Char → List Char × Nat × List Char
  | 0, cs => ([], 0, cs)
  | fuel + 1, cs =>
    if cs.isEmpty then ([], 0, [])
    else
      let (whole, rest) := splitLine cs
      let line := if strip then whole.dropWhile (· == '\t') else whole
      if line == mark && !hidden then ([], 1, rest)
      else
        let hides := joins && joinsNext line
        let (text, lines, after) := splitDocument strip joins mark hides fuel rest
        let ends := whole.length < cs.length
        (line ++ (if ends then '\n' :: text else text), lines + 1, after)

/-- Cuts the text of a here-document out of the script. -/
def cutDocument (strip joins : Bool) (mark : String) : SourceReader (List Char) := do
  let s ← get
  match lineLength .bare 0 ' ' s.rest with
  | none => return []
  | some n =>
    let rest := s.rest.drop (n + 1)
    let (text, lines, after) :=
      splitDocument strip joins mark.toList false (rest.length + 1) rest
    set { s with rest := s.rest.take n ++ '\n' :: after, cut := s.cut + lines }
    return text

end AgentFleet.Shell
