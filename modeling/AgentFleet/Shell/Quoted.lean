import AgentFleet.Text.Utf8

/-!
# Quoted names

How programs write the names of files and other arguments in their complaints: between quotes that
a shell would read back, or between curly quotes.
-/

namespace AgentFleet.Shell

/-- The letter that stands for a control character after a backslash. -/
def controlLetter? (c : Char) : Option Char :=
  [(7, 'a'), (8, 'b'), (9, 't'), (10, 'n'), (11, 'v'), (12, 'f'), (13, 'r')].lookup c.toNat

/-- Whether a character is a control character. -/
def isControl (c : Char) : Bool :=
  c.toNat < 32 || (127 ≤ c.toNat && c.toNat < 160)

/-- A number below 512 in three octal digits. -/
def octalText (n : Nat) : List Char :=
  [n / 64, n / 8 % 8, n % 8].map fun d => Char.ofNat (48 + d)

/-- A control character after backslashes. -/
def controlText (c : Char) : List Char :=
  match controlLetter? c with
  | some l => ['\\', l]
  | none =>
    (Text.encode (String.singleton c)).flatMap fun b => '\\' :: octalText b.toNat

/-- Whether a character forbids double quotes around a text. -/
def forbidsDoubleQuotes (c : Char) : Bool :=
  "!\"$&()*;<=>?[^\x60|\\".toList.contains c || isControl c

/-- Whether a name is written without quotes when they may be missing. -/
def isPlainName (s : String) : Bool :=
  match s.toList with
  | [] => false
  | c :: cs =>
    c != '#' && c != '~' &&
      !(c :: cs).any fun c => forbidsDoubleQuotes c || c == ' ' || c == '\'' || c == ':'

/-- The characters of a name after an opening single quote, with the quotes around what single
quotes cannot hold; `control` says that a control character came before. -/
def singleQuoted (control : Bool) : List Char → List Char
  | [] => ['\'']
  | c :: cs =>
    if isControl c then
      (if control then [] else "'$'".toList) ++ controlText c ++ singleQuoted true cs
    else if c == '\'' then "'\\''".toList ++ singleQuoted false cs
    else (if control then "''".toList else []) ++ c :: singleQuoted false cs

/-- A name between quotes that a shell would read back. -/
def shellQuoted (s : String) : String :=
  let cs := s.toList
  let forbidden := cs.any forbidsDoubleQuotes || (cs.drop 1).any fun c => c == '#' || c == '~'
  if cs.contains '\'' && !forbidden then "\"" ++ s ++ "\""
  else String.ofList ('\'' :: singleQuoted false cs)

/-- A name as it stands, or between quotes when a shell would not read it back. -/
def nameQuoted (s : String) : String :=
  if isPlainName s then s else shellQuoted s

/-- A text between curly quotes. -/
def curlyQuoted (s : String) : String :=
  let text := s.toList.flatMap fun c =>
    if isControl c then controlText c else if c == '\\' || c == '’' then ['\\', c] else [c]
  "‘" ++ String.ofList text ++ "’"

end AgentFleet.Shell
