import AgentFleet.Number.Decimal
import AgentFleet.Table.Moment
import AgentFleet.Table.Value

/-!
# Reading settings files

A settings file is a sequence of lines: headers of tables and keys with values.
Texts have four forms, numbers several spellings, and lists and inline tables
may spread over lines.
-/

namespace AgentFleet.Table

open Number

/-- A reader of a part of a settings file; it fails on a malformed part. -/
abbrev PartReader (α : Type) := StateT (List Char) Option α

namespace PartReader

/-- Passes a text if it comes next, and says whether it did. -/
def accept (text : String) : PartReader Bool := do
  let rest ← get
  if text.toList.isPrefixOf rest then
    set (rest.drop text.length)
    return true
  else return false

/-- Passes a text that must come next. -/
def expect (text : String) : PartReader Unit := do
  if ← accept text then return () else failure

/-- Reads characters while they are wanted. -/
def takeWhile (wanted : Char → Bool) : PartReader (List Char) := do
  let rest ← get
  let cs := rest.takeWhile wanted
  set (rest.drop cs.length)
  return cs

/-- Reads exactly `n` characters. -/
def take (n : Nat) : PartReader (List Char) := do
  let rest ← get
  if rest.length < n then failure
  set (rest.drop n)
  return rest.take n

end PartReader

open PartReader

/-! ### Blanks -/

/-- Whether a character is a space or a tab. -/
def isGap (c : Char) : Bool :=
  c == ' ' || c == '\t'

/-- Whether a character may stand in a comment or between single quotes. -/
def isPrintable (c : Char) : Bool :=
  c == '\t' || (32 ≤ c.toNat && c.toNat != 127)

/-- Passes spaces and tabs. -/
def skipGap : PartReader Unit := do
  discard <| takeWhile isGap

/-- Passes a line end, if one comes next, and says whether it did. -/
def acceptLineEnd : PartReader Bool := do
  if ← accept "\n" then return true else accept "\r\n"

/-- Passes a comment, if one comes next. -/
def skipComment : PartReader Unit := do
  if ← accept "#" then discard <| takeWhile isPrintable

/-- Passes spaces, comments and line ends. -/
def skipLines : Nat → PartReader Unit
  | 0 => return ()
  | fuel + 1 => do
    skipGap
    skipComment
    if ← acceptLineEnd then skipLines fuel else return ()

/-- Passes the rest of a line, which must hold nothing but a comment. -/
def endLine : PartReader Unit := do
  skipGap
  skipComment
  if (← get).isEmpty then return ()
  else if ← acceptLineEnd then return ()
  else failure

/-! ### Texts -/

/-- The character with a code. -/
def charOf? (n : Nat) : Option Char :=
  if n ≤ 0x10FFFF && !(0xD800 ≤ n && n ≤ 0xDFFF) then some (Char.ofNat n) else none

/-- Reads a code of `n` digits. -/
def readCode (n : Nat) : PartReader Char := do
  match (natural? 16 (← take n)).bind charOf? with
  | some c => return c
  | none => failure

/-- Reads an escape after its backslash. -/
def readEscape : PartReader Char := do
  match ← take 1 with
  | ['b'] => return Char.ofNat 8
  | ['t'] => return '\t'
  | ['n'] => return '\n'
  | ['f'] => return Char.ofNat 12
  | ['r'] => return '\r'
  | ['e'] => return Char.ofNat 27
  | ['\"'] => return '\"'
  | ['\\'] => return '\\'
  | ['x'] => readCode 2
  | ['u'] => readCode 4
  | ['U'] => readCode 8
  | _ => failure

/-- Passes the blanks after a backslash at the end of a line, with a line end among them. -/
def skipContinuation : Nat → PartReader Unit
  | 0 => return ()
  | fuel + 1 => do
    skipGap
    if ← acceptLineEnd then skipContinuation fuel else return ()

/-- Whether a backslash ends its line. -/
def endsInBackslash (rest : List Char) : Bool :=
  match rest.dropWhile isGap with
  | '\n' :: _ => true
  | '\r' :: '\n' :: _ => true
  | _ => false

/-- Reads the rest of a text of one line. -/
def readLineText (escapes : Bool) (quote : Char) : Nat → PartReader (List Char)
  | 0 => failure
  | fuel + 1 => do
    match ← take 1 with
    | [c] =>
      if c == quote then return []
      else if escapes && c == '\\' then
        let d ← readEscape
        return d :: (← readLineText escapes quote fuel)
      else if isPrintable c then return c :: (← readLineText escapes quote fuel)
      else failure
    | _ => failure

/-- Reads the rest of a text of several lines, whose line ends stay as they are; up to two quotes
may stand before the last three. -/
def readLinesText (escapes : Bool) (quote : Char) : Nat → PartReader (List Char)
  | 0 => failure
  | fuel + 1 => do
    let rest ← get
    let quotes := rest.takeWhile (· == quote)
    if 3 ≤ quotes.length then
      if 5 < quotes.length then failure
      set (rest.drop quotes.length)
      return quotes.drop 3
    else if ← accept "\r\n" then return '\r' :: '\n' :: (← readLinesText escapes quote fuel)
    else if ← accept "\n" then return '\n' :: (← readLinesText escapes quote fuel)
    else
      match ← take 1 with
      | [c] =>
        if escapes && c == '\\' then
          if endsInBackslash (← get) then
            skipContinuation fuel
            readLinesText escapes quote fuel
          else
            let d ← readEscape
            return d :: (← readLinesText escapes quote fuel)
        else if isPrintable c then return c :: (← readLinesText escapes quote fuel)
        else failure
      | _ => failure

/-- Reads a text, if one comes next; a key lies on one line. -/
def readText (isKey : Bool) (fuel : Nat) : PartReader (Option String) := do
  if !isKey then
    if ← accept "\"\"\"" then
      discard acceptLineEnd
      return some (String.ofList (← readLinesText true '\"' fuel))
    if ← accept "'''" then
      discard acceptLineEnd
      return some (String.ofList (← readLinesText false '\'' fuel))
  if ← accept "\"" then return some (String.ofList (← readLineText true '\"' fuel))
  else if ← accept "'" then return some (String.ofList (← readLineText false '\'' fuel))
  else return none

/-! ### Keys -/

/-- Whether a character may stand in a key without quotes. -/
def isKeyChar (c : Char) : Bool :=
  c.isAlphanum || c == '_' || c == '-'

/-- Reads one part of a key. -/
def readKeyPart (fuel : Nat) : PartReader String := do
  match ← readText true fuel with
  | some s => return s
  | none =>
    let cs ← takeWhile isKeyChar
    if cs.isEmpty then failure else return String.ofList cs

/-- Reads a key with its dots. -/
def readKey : Nat → PartReader (List String)
  | 0 => failure
  | fuel + 1 => do
    skipGap
    let part ← readKeyPart fuel
    skipGap
    if ← accept "." then return part :: (← readKey fuel) else return [part]

/-! ### Numbers and moments -/

/-- Digits without the underscores between them. -/
def plainDigits? (cs : List Char) : Option (List Char) :=
  let isApart (c d : Char) : Bool := !(c == '_' && d == '_')
  let ends := cs.head? != some '_' && cs.getLast? != some '_'
  if !cs.isEmpty && ends && (cs.zip (cs.drop 1)).all fun e => isApart e.1 e.2 then
    some (cs.filter (· != '_'))
  else none

/-- The number that decimal digits without a leading zero spell. -/
def decimalNumber? (cs : List Char) : Option Nat :=
  match plainDigits? cs with
  | some ds => if 1 < ds.length && ds.head? == some '0' then none else natural? 10 ds
  | none => none

/-- The integer that a word spells. -/
def integer? (cs : List Char) : Option Int :=
  match cs with
  | '0' :: 'x' :: ds => ((plainDigits? ds).bind (natural? 16)).map fun n => (n : Int)
  | '0' :: 'o' :: ds => ((plainDigits? ds).bind (natural? 8)).map fun n => (n : Int)
  | '0' :: 'b' :: ds => ((plainDigits? ds).bind (natural? 2)).map fun n => (n : Int)
  | '-' :: ds => (decimalNumber? ds).map fun n => -(n : Int)
  | '+' :: ds => (decimalNumber? ds).map fun n => (n : Int)
  | ds => (decimalNumber? ds).map fun n => (n : Int)

/-- A word without its sign. -/
def unsigned (cs : List Char) : List Char :=
  if cs.head? == some '+' || cs.head? == some '-' then cs.drop 1 else cs

/-- Whether characters are digits with underscores between them. -/
def areDigits (cs : List Char) : Bool :=
  match plainDigits? cs with
  | some ds => ds.all isDigit
  | none => false

/-- Whether a word spells a number that is no integer; a decimal must not be too large. -/
def isReal (word : List Char) : Bool :=
  let cs := unsigned word
  if cs == "inf".toList || cs == "nan".toList then true
  else
    let isExponent (c : Char) : Bool := c == 'e' || c == 'E'
    let mantissa := cs.takeWhile fun c => !isExponent c
    let exponent := cs.drop mantissa.length
    let whole := mantissa.takeWhile (· != '.')
    let fraction := mantissa.drop whole.length
    (decimalNumber? whole).isSome && (fraction.isEmpty || areDigits (fraction.drop 1)) &&
      (exponent.isEmpty || areDigits (unsigned (exponent.drop 1))) &&
      !(fraction.isEmpty && exponent.isEmpty) &&
      ((decimal? false (cs.filter (· != '_'))).map Binary64.isFinite).getD false

/-- Reads a word of a value; a date and a time may be a space apart. -/
def readValueWord : PartReader (List Char) := do
  let isWordChar (c : Char) : Bool := c.isAlphanum || "+-_.:".toList.contains c
  let word ← takeWhile isWordChar
  match ← get with
  | ' ' :: d :: _ =>
    if isDate word && isDigit d then
      discard <| take 1
      return word ++ ' ' :: (← takeWhile isWordChar)
    else return word
  | _ => return word

/-- The value that a word spells; an integer must fit 128 bits. -/
def wordValue? (cs : List Char) : Option TableValue :=
  if cs == "true".toList then some (.truth true)
  else if cs == "false".toList then some (.truth false)
  else
    match integer? cs with
    | some n => if -Int.pow 2 127 ≤ n && n < Int.pow 2 128 then some (.integer n) else none
    | none => if isReal cs then some .real else if isMoment cs then some .moment else none

/-! ### Values -/

mutual

/-- Reads a value. -/
def readValue : Nat → PartReader TableValue
  | 0 => failure
  | fuel + 1 => do
    match ← readText false fuel with
    | some s => return .text s
    | none =>
      if ← accept "[" then return .list false (← readItems fuel)
      else if ← accept "\x7b" then return .table .inline (← readInline [] fuel)
      else
        match wordValue? (← readValueWord) with
        | some v => return v
        | none => failure

/-- Reads the items of a list. -/
def readItems : Nat → PartReader (List TableValue)
  | 0 => failure
  | fuel + 1 => do
    skipLines fuel
    if ← accept "]" then return []
    else
      let item ← readValue fuel
      skipLines fuel
      if ← accept "," then return item :: (← readItems fuel)
      else
        expect "]"
        return [item]

/-- Reads the entries of an inline table. -/
def readInline (t : Table) : Nat → PartReader Table
  | 0 => failure
  | fuel + 1 => do
    skipLines fuel
    if ← accept "\x7d" then return t
    else
      let keys ← readKey fuel
      skipLines fuel
      expect "="
      skipLines fuel
      let value ← readValue fuel
      match t.add value keys with
      | none => failure
      | some t =>
        skipLines fuel
        if ← accept "," then readInline t fuel
        else
          expect "\x7d"
          return t

end

/-! ### Files -/

/-- Reads the lines of a file; `header` names the table that keys belong to. -/
def readFileLines (header : List String) (t : Table) : Nat → PartReader Table
  | 0 => failure
  | fuel + 1 => do
    skipLines fuel
    if (← get).isEmpty then return t
    else if ← accept "[[" then
      let keys ← readKey fuel
      expect "]]"
      endLine
      match t.openItem keys with
      | some t => readFileLines keys t fuel
      | none => failure
    else if ← accept "[" then
      let keys ← readKey fuel
      expect "]"
      endLine
      match t.openTable keys with
      | some t => readFileLines keys t fuel
      | none => failure
    else
      let keys ← readKey fuel
      expect "="
      skipGap
      let value ← readValue fuel
      endLine
      match t.change (fun inner => inner.add value keys) header with
      | some t => readFileLines header t fuel
      | none => failure

/-- The table of the text of a settings file, `none` when it is malformed. -/
def read? (text : String) : Option Table :=
  let cs := match text.toList with
    | c :: cs => if c.toNat == 0xFEFF then cs else c :: cs
    | [] => []
  match (readFileLines [] [] (4 * cs.length + 8)).run cs with
  | some (t, _) => some t
  | none => none

end AgentFleet.Table
