import AgentFleet.Document.Writer

/-!
# Documents as JSON

The indented JSON text of a document value. A tag becomes an object with one
member; keys are texts, numbers or truth values, and any other key has no JSON
form. Numbers that JSON lacks become null.
-/

namespace AgentFleet.Json

/-- A character of a JSON string. -/
def escaped (c : Char) : List Char :=
  let n := c.toNat
  if c == '\"' then ['\\', '\"']
  else if c == '\\' then ['\\', '\\']
  else if n == 8 then ['\\', 'b']
  else if n == 9 then ['\\', 't']
  else if n == 10 then ['\\', 'n']
  else if n == 12 then ['\\', 'f']
  else if n == 13 then ['\\', 'r']
  else if n < 32 then
    let digits := Nat.toDigits 16 n
    ['\\', 'u', '0', '0'] ++ List.replicate (2 - digits.length) '0' ++ digits
  else [c]

/-- A JSON string. -/
def quoted (s : String) : String :=
  String.ofList ('\"' :: s.toList.flatMap escaped ++ ['\"'])

/-- The text of a number that JSON has; its exponents show their sign. -/
def number? (x : Binary64) : Option String :=
  if x.isFinite then some (x.textWith "+") else none

/-- The member name of a mapping key, if JSON has one. -/
def key? : Value → Option String
  | .str s => some s
  | .int n => some (toString n)
  | .float x => number? x
  | .bool b => some (if b then "true" else "false")
  | _ => none

/-- The start of a line at a nesting depth. -/
def newline (depth : Nat) : String :=
  "\n" ++ String.ofList (List.replicate (2 * depth) ' ')

/-- Parts between brackets, each on its own line one level deeper. -/
def bracketed (opening closing : String) (depth : Nat) : List String → String
  | [] => opening ++ closing
  | parts =>
    opening ++ newline (depth + 1) ++ String.intercalate ("," ++ newline (depth + 1)) parts ++
      newline depth ++ closing

mutual

/-- The JSON text of a value nested `depth` levels deep. -/
def write? (depth : Nat) : Value → Option String
  | .null => some "null"
  | .bool b => some (if b then "true" else "false")
  | .int n => some (toString n)
  | .float x => some ((number? x).getD "null")
  | .str s => some (quoted s)
  | .seq items => (items? (depth + 1) items).map (bracketed "[" "]" depth)
  | .map entries => (members? (depth + 1) entries).map (bracketed "\x7b" "\x7d" depth)
  | .tagged tag v =>
    (write? (depth + 1) v).map fun t =>
      bracketed "\x7b" "\x7d" depth [quoted ("!" ++ tag) ++ ": " ++ t]

/-- The JSON texts of the items of a sequence. -/
def items? (depth : Nat) : List Value → Option (List String)
  | [] => some []
  | v :: vs =>
    match write? depth v, items? depth vs with
    | some t, some ts => some (t :: ts)
    | _, _ => none

/-- The JSON members of the entries of a mapping. -/
def members? (depth : Nat) : List (Value × Value) → Option (List String)
  | [] => some []
  | (k, v) :: es =>
    match key? k, write? depth v, members? depth es with
    | some k, some t, some ts => some ((quoted k ++ ": " ++ t) :: ts)
    | _, _, _ => none

end

end AgentFleet.Json
