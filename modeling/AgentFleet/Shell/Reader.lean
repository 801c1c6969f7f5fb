import AgentFleet.Shell.Source
import AgentFleet.Text.Blank

/-!
# Reading scripts

A script is read from its text by recursive descent, one line after the other: what stands on
earlier lines can be run before a later line is found to be faulty. Words are cut at blanks and
operators that are not quoted; a reserved word counts only where a command may begin or go on.
-/

namespace AgentFleet.Shell

open SourceReader

/-! ### Places -/

/-- Where a part of a word stands. -/
inductive Place where
  /-- Outside of quotes. -/
  | bare
  /-- In the mark of a here-document, where nothing is expanded. -/
  | mark
  /-- Between double quotes. -/
  | quotes
  /-- Between braces, in double quotes or not. -/
  | braces (quoted : Bool)
  /-- Between double parentheses. -/
  | parentheses
  /-- In the text of a here-document. -/
  | document
  deriving DecidableEq

namespace Place

/-- Whether text at a place is taken as it stands. -/
def isQuoted : Place → Bool
  | bare | mark | braces false => false
  | quotes | braces true | parentheses | document => true

/-- Whether a backslash before a character takes away its meaning at a quoted place. -/
def escapes (p : Place) (c : Char) : Bool :=
  c == '\\' || c == '\x60' || c == '$' || (c == '\"' && p != document) ||
    (c == '}' && p == braces true)

end Place

/-- A word with a further part before it; unquoted and quoted texts each grow together. -/
def consPiece (p : Piece) (w : Word) : Word :=
  match p, w with
  | .text a s, .text b t :: rest => if a == b then .text a (s ++ t) :: rest else p :: w
  | _, _ => p :: w

/-! ### Tildes -/

/-- A text with the home directory for a tilde that a slash or the end follows. -/
def withHome (ends : Bool) (s : String) : Word :=
  match s.toList with
  | ['~'] => if ends then [.home] else [.text false s]
  | '~' :: '/' :: rest => [.home, .text false (String.ofList ('/' :: rest))]
  | _ => [.text false s]

/-- A word in which a leading tilde stands for the home directory. -/
def expandTilde : Word → Word
  | .text false s :: rest => withHome rest.isEmpty s ++ rest
  | word => word

/-- The texts between the colons of a text, each with the home directory for its tilde. -/
def expandTildes (ends : Bool) : List String → Word
  | [] => []
  | [s] => withHome ends s
  | s :: rest => withHome true s ++ .text false ":" :: expandTildes ends rest

/-- The value of an assignment, in which a tilde may also follow a colon. -/
def expandValue : Word → Word
  | [] => []
  | .text false s :: rest =>
    match Text.split ':' s with
    | [] => expandValue rest
    | first :: others =>
      withHome (rest.isEmpty || !others.isEmpty) first ++
        (if others.isEmpty then [] else .text false ":" :: expandTildes rest.isEmpty others) ++ rest
  | word => word

/-- The name and the value of a word that is an assignment. -/
def assignment? : Word → Option (String × Word)
  | .text false s :: rest =>
    let name := s.toList.takeWhile (· != '=')
    if name.length < s.length && isName (String.ofList name) then
      let value := s.toList.drop (name.length + 1)
      let value := if value.isEmpty then rest else .text false (String.ofList value) :: rest
      some (String.ofList name, expandValue value)
    else none
  | _ => none

/-! ### Operators of parameters -/

/-- Reads the operator of a parameter between braces; one that is unknown is empty. -/
def readEditOperator : SourceReader String := do
  let colon ← accept ':'
  match ← upcoming with
  | c :: _ =>
    if "-+?=".toList.contains c then
      skip
      return (if colon then ":" else "") ++ String.singleton c
    else if !colon && (c == '%' || c == '#') then
      skip
      if ← accept c then return String.ofList [c, c] else return String.singleton c
    else if colon && c == '}' then
      skip
      return ""
    else return ""
  | [] => return ""

/-- Whether an operator takes a pattern; its word is read as if it stood outside of quotes. -/
def takesPattern (operator : String) : Bool :=
  operator.startsWith "%" || operator.startsWith "#"

/-- The name of a parameter between braces; a malformed one is empty. -/
def readParameterName : SourceReader String := do
  let cs ← upcoming
  match cs with
  | c :: _ =>
    if isNameStart c then return String.ofList (← takeWhile isNameChar cs.length)
    else if Number.isDigit c then return String.ofList (← takeWhile Number.isDigit cs.length)
    else if isSpecial c then
      skip
      return String.singleton c
    else return ""
  | [] => return ""

/-- Whether the length of a parameter is asked for, after the opening brace. -/
def asksLength (cs : List Char) : Bool :=
  match cs with
  | '#' :: c :: d :: _ => c.isAlphanum || c == '_' || (c != '}' && d == '}')
  | '#' :: c :: [] => c.isAlphanum || c == '_'
  | _ => false

/-! ### Redirections -/

/-- Reads the rest of the operator of a redirection that begins with a character. -/
def readRedirectionOperator (c : Char) : SourceReader String := do
  if c == '>' then
    if ← accept '>' then return ">>"
    else if ← accept '|' then return ">|"
    else if ← accept '&' then return ">&"
    else return ">"
  else if ← accept '<' then
    if ← accept '-' then return "<<-" else return "<<"
  else if ← accept '&' then return "<&"
  else if ← accept '>' then return "<>"
  else return "<"

/-- The descriptor that a word before an operator names. -/
def descriptorOf? (w : Word) : Option (Option Nat) :=
  match w with
  | [] => some none
  | [.text false s] =>
    match s.toList with
    | [c] => if Number.isDigit c then some (some (c.toNat - 48)) else none
    | _ => none
  | _ => none

/-- The text between backquotes, in which a backslash hides some characters. -/
def readBackquotedText (quoted : Bool) : Nat → SourceReader (List Char)
  | 0 => return []
  | fuel + 1 => do
    match ← upcoming with
    | [] => fail "EOF in backquote substitution"
    | '\x60' :: _ =>
      skip
      return []
    | '\\' :: c :: _ =>
      skip
      skip
      let hidden := c == '\\' || c == '\x60' || c == '$' || (quoted && c == '\"')
      let more ← readBackquotedText quoted fuel
      return if hidden then c :: more else '\\' :: c :: more
    | c :: _ =>
      skip
      return c :: (← readBackquotedText quoted fuel)

mutual

/-- Reads the parts of a word up to the end of its place. Inside braces `inner` quotes hide the
closing one; inside parentheses `opened` ones are still to be closed. -/
def readPieces (place : Place) (inner : Bool) (opened : Nat) : Nat → SourceReader Word
  | 0 => return []
  | fuel + 1 => do
    let quoted := place.isQuoted
    let goOn (p : Piece) : SourceReader Word := do
      return consPiece p (← readPieces place inner opened fuel)
    match ← upcoming with
    | [] => return []
    | '\\' :: rest =>
      skip
      match rest with
      | [] => goOn (.text true "\\")
      | c :: _ =>
        skip
        if quoted && !place.escapes c then goOn (.text true (String.ofList ['\\', c]))
        else goOn (.text true (String.singleton c))
    | c :: rest =>
      if (place == .bare || place == .mark) && isMeta c then return []
      else if place == .quotes && c == '\"' then return []
      else if (place == .braces true || place == .braces false) && c == '}' && !inner then return []
      else if place == .parentheses && c == ')' && opened == 0 then
        skip
        if (← upcoming).head? == some ')' then return []
        else goOn (.text true ")")
      else if c == '\'' && !quoted then
        skip
        let text := rest.takeWhile (· != '\'')
        skipText text.length
        if (← get).rest.isEmpty then fail "Unterminated quoted string"
        skip
        goOn (.text true (String.ofList text))
      else if c == '\"' && !quoted then
        skip
        let text ← readPieces .quotes false 0 fuel
        if !(← accept '\"') then fail "Unterminated quoted string"
        let more ← readPieces place inner opened fuel
        return (if text.isEmpty then [.text true ""] else text) ++ more
      else if c == '\"' && place == .braces true then
        skip
        return consPiece (.text true "") (← readPieces place (!inner) opened fuel)
      else if c == '$' && place != .mark then
        skip
        goOn (← readExpansion place fuel)
      else if c == '\x60' && place != .mark then
        skip
        goOn (← readBackquoted quoted fuel)
      else
        skip
        let opened :=
          if place == .parentheses then
            if c == '(' then opened + 1 else if c == ')' then opened - 1 else opened
          else opened
        return consPiece (.text quoted (String.singleton c)) (← readPieces place inner opened fuel)
termination_by structural fuel => fuel

/-- Reads an expansion after its dollar sign, which may stand for itself. -/
def readExpansion (place : Place) : Nat → SourceReader Piece
  | 0 => return .malformed
  | fuel + 1 => do
    let quoted := place.isQuoted
    match ← upcoming with
    | '(' :: _ =>
      skip
      if ← accept '(' then
        let expression ← readPieces .parentheses false 0 fuel
        if !(← accept ')') then fail "Missing '))'"
        return .arithmetic quoted expression
      else
        let script ← readList false true [] fuel
        match ← readToken false false fuel with
        | .mark ")" => return .command quoted script
        | t => expected t "\")\""
    | '{' :: _ =>
      skip
      readBraced quoted fuel
    | c :: rest =>
      if isNameStart c then
        return .parameter quoted (String.ofList (← takeWhile isNameChar (rest.length + 1)))
      else if isSpecial c then
        skip
        return .parameter quoted (String.singleton c)
      else return .text quoted "$"
    | [] => return .text quoted "$"
termination_by structural fuel => fuel

/-- Reads a parameter between braces after the opening one. -/
def readBraced (quoted : Bool) : Nat → SourceReader Piece
  | 0 => return .malformed
  | fuel + 1 => do
    let close (place : Place) (found : Word → Piece) : SourceReader Piece := do
      let word ← readPieces place false 0 fuel
      if ← accept '}' then return found word
      else fail (if place.isQuoted then "Unterminated quoted string" else "Missing '\x7d'")
    if asksLength (← upcoming) then
      skip
      let name ← readParameterName
      close (.braces quoted) fun w =>
        if name.isEmpty || !w.isEmpty then .malformed else .length quoted name
    else
      let name ← readParameterName
      if name.isEmpty then close (.braces quoted) fun _ => .malformed
      else if ← accept '}' then return .parameter quoted name
      else
        let operator ← readEditOperator
        if operator.isEmpty then close (.braces quoted) fun _ => .malformed
        else
          close (.braces (quoted && !takesPattern operator)) fun w => .edited quoted name operator w
termination_by structural fuel => fuel

/-- Reads a script up to a closing backquote. What its list of commands leaves is passed over. -/
def readBackquoted (quoted : Bool) : Nat → SourceReader Piece
  | 0 => return .malformed
  | fuel + 1 => do
    let text ← readBackquotedText quoted (← get).rest.length.succ
    let outside ← get
    set ({ rest := text } : Source)
    let script ← readList false true [] fuel
    set outside
    return .command quoted script
termination_by structural fuel => fuel

/-- Reads a word or a redirection. -/
def readWordToken (place : Place) : Nat → SourceReader ScriptToken
  | 0 => return .scriptEnd
  | fuel + 1 => do
    let w ← readPieces place false 0 fuel
    let next := (← get).rest.head?
    match next, descriptorOf? w with
    | some c, some descriptor =>
      if c == '<' || c == '>' then
        skip
        let operator ← readRedirectionOperator c
        return .redirection (descriptor.getD (if c == '<' then 0 else 1)) operator
      else return .word w
    | _, _ => return .word w
termination_by structural fuel => fuel

/-- Reads the next token; reserved words are still words. -/
def readRaw (place : Place) : Nat → SourceReader ScriptToken
  | 0 => return .scriptEnd
  | fuel + 1 => do
    let either (c : Char) (one two : String) : SourceReader ScriptToken := do
      skip
      if ← accept c then return .mark two else return .mark one
    match ← upcoming with
    | [] => return .scriptEnd
    | ' ' :: _ | '\t' :: _ =>
      skip
      readRaw place fuel
    | '#' :: rest =>
      skipMany ((rest.takeWhile (· != '\n')).length + 1)
      readRaw place fuel
    | '\n' :: _ =>
      skip
      return .lineEnd
    | '&' :: _ => either '&' "&" "&&"
    | '|' :: _ => either '|' "|" "||"
    | ';' :: _ => either ';' ";" ";;"
    | '(' :: _ =>
      skip
      return .mark "("
    | ')' :: _ =>
      skip
      return .mark ")"
    | _ => readWordToken place fuel
termination_by structural fuel => fuel

/-- Reads the next token past line ends. -/
def readPastLines : Nat → SourceReader ScriptToken
  | 0 => return .scriptEnd
  | fuel + 1 => do
    match ← readRaw .bare fuel with
    | .lineEnd => readPastLines fuel
    | t => return t
termination_by structural fuel => fuel

/-- Reads the next token, past line ends and with reserved words when they are asked for. -/
def readToken (lines reserved : Bool) : Nat → SourceReader ScriptToken
  | 0 => return .scriptEnd
  | fuel + 1 => do
    let s ← get
    let t ← match s.pushed with
      | some t =>
        set { s with pushed := none }
        match t with
        | .lineEnd => if lines then readPastLines fuel else pure t
        | _ => pure t
      | none => if lines then readPastLines fuel else readRaw .bare fuel
    match t with
    | .word w =>
      match literal? w with
      | some s => return if reserved && reservedWords.contains s then .mark s else t
      | none => return t
    | _ => return t
termination_by structural fuel => fuel

/-- Reads the rest of a redirection. -/
def readRedirection (descriptor : Nat) (operator : String) : Nat → SourceReader Redirection
  | 0 => return .redirect descriptor operator []
  | fuel + 1 => do
    let isDocument := operator == "<<" || operator == "<<-"
    match ← readRaw (if isDocument then .mark else .bare) fuel with
    | .word w =>
      if isDocument then
        let quoted := hasQuote w
        let text ← cutDocument (operator == "<<-") (!quoted) (plainText w)
        if quoted then return .document descriptor [.text true (String.ofList text)]
        else
          let outside ← get
          set ({ rest := text, line := outside.line } : Source)
          let pieces ← readPieces .document false 0 fuel
          set outside
          return .document descriptor pieces
      else return .redirect descriptor operator (expandTilde w)
    | t => unexpected t
termination_by structural fuel => fuel

/-- Reads the redirections after a compound command. -/
def readRedirections : Nat → SourceReader (List Redirection)
  | 0 => return []
  | fuel + 1 => do
    match ← readToken false true fuel with
    | .redirection descriptor operator =>
      let r ← readRedirection descriptor operator fuel
      return r :: (← readRedirections fuel)
    | t =>
      pushBack t
      return []
termination_by structural fuel => fuel

/-- Reads commands after some others. At the `top` they end at the end of a line; elsewhere they
end at a token that closes a list, the first one only when the list is `closable`. -/
def readList (top closable : Bool) (before : List Command) : Nat → SourceReader (List Command)
  | 0 => return before
  | fuel + 1 => do
    match ← readToken (!top) true fuel with
    | .lineEnd => return before
    | .scriptEnd =>
      pushBack .scriptEnd
      return before
    | t =>
      pushBack t
      if !top && closable && t.closesList then return before
      else
        let line := (← get).line
        let c ← readJoined fuel
        let t ← readToken false false fuel
        let c := if t.isMark "&" then .background line c else c
        let commands := before ++ [c]
        match t with
        | .scriptEnd =>
          pushBack t
          return commands
        | .lineEnd =>
          pushBack t
          readList top true commands fuel
        | _ =>
          if t.isMark "&" || t.isMark ";" then readList top true commands fuel
          else if top then unexpected t
          else
            pushBack t
            return commands
termination_by structural fuel => fuel

/-- Reads pipelines that follow each other's success or failure. -/
def readJoined : Nat → SourceReader Command
  | 0 => return default
  | fuel + 1 => do
    let first ← readPipeline false fuel
    readJoinedRest first fuel
termination_by structural fuel => fuel

/-- Reads the pipelines that are joined to one before. -/
def readJoinedRest (first : Command) : Nat → SourceReader Command
  | 0 => return first
  | fuel + 1 => do
    match ← readToken false false fuel with
    | .mark "&&" =>
      let second ← readPipeline true fuel
      readJoinedRest (.joined true first second) fuel
    | .mark "||" =>
      let second ← readPipeline true fuel
      readJoinedRest (.joined false first second) fuel
    | t =>
      pushBack t
      return first
termination_by structural fuel => fuel

/-- Reads a pipeline. -/
def readPipeline (lines : Bool) : Nat → SourceReader Command
  | 0 => return default
  | fuel + 1 => do
    match ← readToken lines true fuel with
    | .mark "!" =>
      let c ← readCommand false fuel
      return .negated (← readPipe [c] fuel)
    | t =>
      pushBack t
      let c ← readCommand false fuel
      readPipe [c] fuel
termination_by structural fuel => fuel

/-- Reads the commands that read what others before them write. -/
def readPipe (before : List Command) : Nat → SourceReader Command
  | 0 => return default
  | fuel + 1 => do
    match ← readToken false false fuel with
    | .mark "|" =>
      let c ← readCommand true fuel
      readPipe (before ++ [c]) fuel
    | t =>
      pushBack t
      return match before with
        | [c] => c
        | _ => .pipe before
termination_by structural fuel => fuel

/-- Reads a token that must be a certain reserved word or operator. -/
def expectMark (lines : Bool) (s : String) : Nat → SourceReader Unit
  | 0 => return ()
  | fuel + 1 => do
    let t ← readToken lines true fuel
    if t.isMark s then return () else expected t ("\"" ++ s ++ "\"")
termination_by structural fuel => fuel

/-- Reads a command. -/
def readCommand (lines : Bool) : Nat → SourceReader Command
  | 0 => return default
  | fuel + 1 => do
    let line := (← get).line
    match ← readToken lines true fuel with
    | .mark "if" =>
      let c ← readConditional fuel
      expectMark false "fi" fuel
      withRedirections line c fuel
    | .mark "while" => readLoop line false fuel
    | .mark "until" => readLoop line true fuel
    | .mark "for" =>
      let c ← readForEach line fuel
      withRedirections line c fuel
    | .mark "case" =>
      let c ← readChoice line fuel
      withRedirections line c fuel
    | .mark "(" =>
      let body ← readList false false [] fuel
      expectMark false ")" fuel
      return .isolated line body (← readRedirections fuel)
    | .mark "\x7b" =>
      let body ← readList false false [] fuel
      expectMark false "\x7d" fuel
      withRedirections line (.sequence body) fuel
    | .mark s => unexpected (.mark s)
    | .lineEnd => unexpected .lineEnd
    | .scriptEnd => unexpected .scriptEnd
    | t =>
      pushBack t
      readSimple (← get).line [] [] [] fuel
termination_by structural fuel => fuel

/-- A command with the redirections that follow it. -/
def withRedirections (line : Nat) (c : Command) : Nat → SourceReader Command
  | 0 => return c
  | fuel + 1 => do
    let redirections ← readRedirections fuel
    return if redirections.isEmpty then c else .redirected line c redirections
termination_by structural fuel => fuel

/-- Reads the rest of a simple command. -/
def readSimple (line : Nat) (assignments : List (String × Word)) (words : List Word)
    (redirections : List Redirection) : Nat → SourceReader Command
  | 0 => return default
  | fuel + 1 => do
    match ← readToken false false fuel with
    | .word w =>
      match if words.isEmpty then assignment? w else none with
      | some a => readSimple line (assignments ++ [a]) words redirections fuel
      | none => readSimple line assignments (words ++ [w]) redirections fuel
    | .redirection descriptor operator =>
      let r ← readRedirection descriptor operator fuel
      readSimple line assignments words (redirections ++ [r]) fuel
    | t =>
      match t.isMark "(" && assignments.isEmpty && redirections.isEmpty, words with
      | true, [w] => readFunction w fuel
      | _, _ =>
        pushBack t
        return .simple line assignments (words.map expandTilde) redirections
termination_by structural fuel => fuel

/-- Reads a function after its name and the opening parenthesis. -/
def readFunction (w : Word) : Nat → SourceReader Command
  | 0 => return default
  | fuel + 1 => do
    expectMark false ")" fuel
    let name := (literal? w).getD ""
    if !isName name || specialBuiltins.contains name then fail "Bad function name"
    return .define name (← readCommand true fuel)
termination_by structural fuel => fuel

/-- Reads a condition, its consequence, and what follows them. -/
def readConditional : Nat → SourceReader Command
  | 0 => return default
  | fuel + 1 => do
    let condition ← readList false false [] fuel
    expectMark false "then" fuel
    let consequence ← readList false false [] fuel
    match ← readToken false true fuel with
    | .mark "elif" => return .conditional condition consequence [← readConditional fuel]
    | .mark "else" => return .conditional condition consequence (← readList false false [] fuel)
    | t =>
      pushBack t
      return .conditional condition consequence []
termination_by structural fuel => fuel

/-- Reads a loop after its first word. -/
def readLoop (line : Nat) (negated : Bool) : Nat → SourceReader Command
  | 0 => return default
  | fuel + 1 => do
    let condition ← readList false false [] fuel
    expectMark false "do" fuel
    let body ← readList false false [] fuel
    expectMark false "done" fuel
    withRedirections line (.loop negated condition body) fuel
termination_by structural fuel => fuel

/-- Reads words up to a token that is none. -/
def readItems : Nat → SourceReader (List Word × ScriptToken)
  | 0 => return ([], .scriptEnd)
  | fuel + 1 => do
    match ← readToken false false fuel with
    | .word w =>
      let (words, t) ← readItems fuel
      return (expandTilde w :: words, t)
    | t => return ([], t)
termination_by structural fuel => fuel

/-- Reads a loop over words after its first word. -/
def readForEach (line : Nat) : Nat → SourceReader Command
  | 0 => return default
  | fuel + 1 => do
    let name := (literal? (← readToken false false fuel).asWord).getD ""
    if !isName name then fail "Bad for loop variable"
    let items ← match ← readToken true true fuel with
      | .mark "in" => do
        let (items, t) ← readItems fuel
        match t with
        | .lineEnd | .mark ";" => pure items
        | t => unexpected t
      | t => do
        if !t.isMark ";" then pushBack t
        pure [[.parameter true "@"]]
    expectMark true "do" fuel
    let body ← readList false false [] fuel
    expectMark false "done" fuel
    return .forEach line name items body
termination_by structural fuel => fuel

/-- Reads the patterns of a case after its first word up to the closing parenthesis. -/
def readPatterns (w : Word) : Nat → SourceReader (List Word)
  | 0 => return []
  | fuel + 1 => do
    match ← readToken false false fuel with
    | .mark "|" =>
      let next := (← readToken false false fuel).asWord
      return expandTilde w :: (← readPatterns next fuel)
    | .mark ")" => return [expandTilde w]
    | t => expected t "\")\""
termination_by structural fuel => fuel

/-- Reads the cases of a choice. -/
def readCases : Nat → SourceReader (List (List Word × Script))
  | 0 => return []
  | fuel + 1 => do
    match ← readToken true true fuel with
    | .mark "esac" => return []
    | t =>
      let first ← if t.isMark "(" then readToken false false fuel else pure t
      let w := match first with
        | .mark s => [.text false s]
        | t => t.asWord
      let patterns ← readPatterns w fuel
      let body ← readList false true [] fuel
      match ← readToken true true fuel with
      | .mark "esac" => return [(patterns, body)]
      | .mark ";;" => return (patterns, body) :: (← readCases fuel)
      | t => expected t "\";;\""
termination_by structural fuel => fuel

/-- Reads a choice after its first word. -/
def readChoice (line : Nat) : Nat → SourceReader Command
  | 0 => return default
  | fuel + 1 => do
    match ← readToken false false fuel with
    | .word subject =>
      let t ← readToken true true fuel
      if !t.isMark "in" then expected t "\"in\""
      return .choice line (expandTilde subject) (← readCases fuel)
    | t => expected t "word"
termination_by structural fuel => fuel

end

/-! ### Scripts -/

/-- What the next lines of a script come to. -/
inductive NextCommand where
  /-- Nothing is left. -/
  | nothing
  /-- Commands to run before reading on, and whether they are the last ones. -/
  | commands (script : Script) (final : Bool) (rest : Source)
  /-- A fault. -/
  | fault (f : SyntaxFault)

/-- Reads the commands that a script begins with, up to the end of a line. -/
def nextCommand (s : Source) : NextCommand :=
  match (readList true true [] (8 * s.rest.length + 64)).run s with
  | .error f => .fault f
  | .ok (commands, rest) =>
    let final := match rest.pushed with
      | some .scriptEnd => true
      | _ => false
    if final && commands.isEmpty then .nothing
    else .commands commands final { rest with pushed := none }

end AgentFleet.Shell
