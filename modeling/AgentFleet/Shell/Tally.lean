import AgentFleet.Shell.Lines

/-!
# Counting

The program that counts lines, words, characters and bytes, and that measures the longest line.
-/

namespace AgentFleet.Shell.Tally

/-- What bytes were counted to hold. -/
structure Counts where
  /-- The ends of lines. -/
  lines : Nat := 0
  /-- The words. -/
  words : Nat := 0
  /-- The characters. -/
  characters : Nat := 0
  /-- The bytes. -/
  bytes : Nat := 0
  /-- The width of the longest line. -/
  longest : Nat := 0
  deriving DecidableEq, Repr

/-- The counts of two texts together. -/
def Counts.add (a b : Counts) : Counts :=
  ⟨a.lines + b.lines, a.words + b.words, a.characters + b.characters, a.bytes + b.bytes,
    max a.longest b.longest⟩

/-- Whether a character divides words. -/
def dividesWords (c : Char) : Bool :=
  Text.isBlank c && c.toNat != 133

/-- Whether a character is a mark that can be seen. -/
def isSeen (c : Char) : Bool :=
  !isControl c

/-- Counts characters, of which those are missing that could not be decoded; `column` is the width
of the line so far. -/
def count (inWord : Bool) (column : Nat) (n : Counts) : List (Option Char) → Counts
  | [] => { n with longest := max n.longest column }
  | none :: rest => count inWord column n rest
  | some c :: rest =>
    let n := { n with characters := n.characters + 1 }
    if c == '\n' then
      count false 0 { n with lines := n.lines + 1, longest := max n.longest column } rest
    else if c == '\t' then count false (column + (8 - column % 8)) n rest
    else if c.toNat == 13 || c.toNat == 12 then
      count false 0 { n with longest := max n.longest column } rest
    else if dividesWords c then count false (if c.toNat == 11 then column else column + 1) n rest
    else if isSeen c then
      count true (column + 1) { n with words := n.words + if inWord then 0 else 1 } rest
    else count inWord column n rest

/-- Counts bytes. -/
def countBytes (bytes : List UInt8) : Counts :=
  { count false 0 {} (Text.characters bytes) with bytes := bytes.length }

/-- The options of the program that counts. -/
def options : OptionTable where
  flags := ['c', 'l', 'L', 'm', 'w']
  valued := ['T']
  names := [("bytes", 'c'), ("chars", 'm'), ("lines", 'l'), ("words", 'w'),
    ("max-line-length", 'L'), ("total", 'T')]

/-- The counts that options ask for. -/
def chosen (c : Chosen) (n : Counts) : List Nat :=
  if "clLmw".toList.any c.has then
    [('l', n.lines), ('w', n.words), ('m', n.characters), ('c', n.bytes), ('L', n.longest)].filterMap
      fun (letter, k) => if c.has letter then some k else none
  else [n.lines, n.words, n.bytes]

/-- Counts in columns of a width, with a name. -/
def line (width : Nat) (name : Option String) (counts : List Nat) : String :=
  Text.join " " (counts.map (inColumn width)) ++ (name.map fun n => " " ++ n).getD "" ++ "\n"

/-- How many bytes a file that is counted has, or else the least width of its columns. -/
def sizeOf (p : Process) (path : String) : Except Nat Nat :=
  if path == "-" then
    match p.open? 0 with
    | some (_, ⟨.file location _ _, _, _⟩) =>
      match p.files.node? location with
      | some (.file content) => .ok content.length
      | _ => .error 7
    | _ => .error 7
  else
    match p.kindAt path with
    | .ok (.file n) => .ok n
    | .ok _ => .error 7
    | .error _ => .ok 0

/-- The width of the columns for some operands. -/
def width (c : Chosen) (p : Process) (operands : List String) : Nat :=
  if (chosen c {}).length == 1 && operands.length == 1 then 1
  else
    let sizes := operands.map (sizeOf p)
    let least := sizes.foldl (fun n s => match s with
      | .error m => max n m
      | .ok _ => n) 1
    let total := sizes.foldl (fun n s => match s with
      | .error _ => n
      | .ok m => n + m) 0
    max least (toString total).length

/-- Counts what is in files or in the input. -/
def run (arguments : List String) (p : Process) : Process :=
  p.withOptions options 1 arguments fun c =>
    let operands := if c.operands.isEmpty then ["-"] else c.operands
    let totals := (c.value? 'T').getD "auto"
    let width := if totals == "only" then 1 else width c p operands
    let name (path : String) : Option String := if c.operands.isEmpty then none else some path
    let show_ (p : Process) (name : Option String) (n : Counts) : Process :=
      p.say (line width name (chosen c n))
    let showOne (p : Process) (path : String) (n : Counts) : Process :=
      if totals == "only" then p else show_ p (name path) n
    let step (s : Process × Counts) (path : String) : Process × Counts :=
      match FileTools.readOperand s.1 path with
      | (.ok bytes, p) => (showOne p path (countBytes bytes), s.2.add (countBytes bytes))
      | (.error e, p) =>
        let p := p.reject 1 (nameAndReason path e)
        (if p.isDirectoryAt path then showOne p path {} else p, s.2)
    let (p, total) := operands.foldl step (p.answer 0, {})
    if totals == "only" then show_ p none total
    else if totals == "always" || (totals != "never" && 1 < operands.length) then
      show_ p (some "total") total
    else p

end AgentFleet.Shell.Tally
