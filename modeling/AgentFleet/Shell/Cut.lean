import AgentFleet.Shell.Lines

/-!
# Cutting lines

The program that cuts bytes or fields out of lines. A list names their positions, single ones and
ranges of them; what is cut out keeps its order.
-/

namespace AgentFleet.Shell.Cut

/-- A range of positions; without an end it goes on. -/
structure PositionRange where
  /-- The first position. -/
  first : Nat
  /-- The last position. -/
  last : Option Nat
  deriving DecidableEq, Repr

/-- What is cut out of lines. -/
inductive CutKind where
  /-- Bytes. -/
  | bytes
  /-- Fields. -/
  | fields
  deriving DecidableEq, Repr

/-! ### Lists of positions -/

/-- The wording for a position that is zero or missing. -/
def CutKind.fromOne : CutKind → String
  | bytes => "byte/character positions are numbered from 1"
  | fields => "fields are numbered from 1"

/-- The wording for a position that is no number. -/
def CutKind.invalid (s : String) : CutKind → String
  | bytes => "invalid byte/character position " ++ curlyQuoted s
  | fields => "invalid field value " ++ curlyQuoted s

/-- The wording for a position that is too large. -/
def CutKind.tooLarge (s : String) : CutKind → String
  | bytes => "byte/character offset " ++ curlyQuoted s ++ " is too large"
  | fields => "field number " ++ curlyQuoted s ++ " is too large"

/-- The wording for a malformed range. -/
def CutKind.invalidRange : CutKind → String
  | bytes => "invalid byte or character range"
  | fields => "invalid field range"

/-- The position that digits spell. -/
def position (kind : CutKind) (digits : List Char) : Except String Nat :=
  match Number.natural? 10 digits with
  | some n => if n < Nat.pow 2 64 - 1 then .ok n else .error (kind.tooLarge (String.ofList digits))
  | none => .error kind.fromOne

/-- The range that a part of a list spells. -/
def range (kind : CutKind) (part : List Char) : Except String PositionRange := do
  let first := part.takeWhile Number.isDigit
  match part.drop first.length with
  | [] =>
    let n ← position kind first
    if n == 0 then throw kind.fromOne else return ⟨n, some n⟩
  | '-' :: rest =>
    let last := rest.takeWhile Number.isDigit
    match rest.drop last.length with
    | [] =>
      if first.isEmpty && last.isEmpty then throw "invalid range with no endpoint: -"
      else
        let m ← if first.isEmpty then pure 1 else position kind first
        if m == 0 then throw kind.fromOne
        else if last.isEmpty then return ⟨m, none⟩
        else
          let n ← position kind last
          if n < m then throw "invalid decreasing range" else return ⟨m, some n⟩
    | '-' :: _ => throw kind.invalidRange
    | more => throw (kind.invalid (String.ofList more))
  | more => throw (kind.invalid (String.ofList more))

/-- The ranges that a list spells. -/
def ranges (kind : CutKind) (s : String) : Except String (List PositionRange) :=
  let blank (c : Char) : Char := if c == ' ' || c == '\t' then ',' else c
  (Text.split ',' (String.ofList (s.toList.map blank))).mapM fun part => range kind part.toList

/-- Whether a range has a position. -/
def PositionRange.has (r : PositionRange) (n : Nat) : Bool :=
  r.first ≤ n && r.last.all fun last => n ≤ last

/-- Whether one of some ranges has a position. -/
def selects (ranges : List PositionRange) (n : Nat) : Bool :=
  ranges.any fun r => r.has n

/-! ### Requests -/

/-- What is asked to be cut. -/
structure CutRequest where
  /-- What positions count. -/
  kind : CutKind
  /-- The positions. -/
  ranges : List PositionRange
  /-- The other positions are meant. -/
  complement : Bool
  /-- The byte between fields. -/
  delimiter : UInt8
  /-- What is written between what is cut out, if that was said. -/
  between : Option (List UInt8)
  /-- Lines without the delimiter are left out. -/
  onlyDelimited : Bool

/-- The letters of the options that take a list. -/
def listLetters : List Char := ['b', 'c', 'f']

/-- The options of the program that cuts lines. -/
def cutOptions : OptionTable where
  flags := ['n', 's', 'z', 'C']
  valued := ['b', 'c', 'd', 'f', 'O']
  names := [("bytes", 'b'), ("characters", 'c'), ("delimiter", 'd'), ("fields", 'f'),
    ("only-delimited", 's'), ("complement", 'C'), ("output-delimiter", 'O'),
    ("zero-terminated", 'z')]
  refusal c letter value :=
    if listLetters.contains letter && listLetters.any c.has then
      some (.refused true "only one list may be specified")
    else if letter == 'd' && 1 < value.utf8ByteSize then
      some (.refused true "the delimiter must be a single character")
    else none

/-- The bytes of an option's value; an empty value stands for the zero byte. -/
def delimiterBytes (s : String) : List UInt8 :=
  if s.isEmpty then [0] else Text.encode s

/-- The request of options, or why they do not fit together. -/
def request (c : Chosen) : Except String CutRequest := do
  match c.last? listLetters with
  | none => throw "you must specify a list of bytes, characters, or fields"
  | some letter =>
    let kind := if letter == 'f' then CutKind.fields else .bytes
    if kind == .bytes && (c.value? 'd').isSome then
      throw "an input delimiter may be specified only when operating on fields"
    if kind == .bytes && c.has 's' then
      throw "suppressing non-delimited lines makes sense\n\tonly when operating on fields"
    return {
      kind := kind
      ranges := ← ranges kind ((c.value? letter).getD "")
      complement := c.has 'C'
      delimiter := ((delimiterBytes ((c.value? 'd').getD "\t")).head?).getD 0
      between := (c.value? 'O').map delimiterBytes
      onlyDelimited := c.has 's' }

/-! ### Cutting -/

/-- The positions of what is cut out of `count` items. -/
def CutRequest.positions (r : CutRequest) (count : Nat) : List Nat :=
  ((List.range count).map (· + 1)).filter fun n => selects r.ranges n != r.complement

/-- Whether a range begins at a position that follows one that is cut out too. -/
def CutRequest.beginsAt (r : CutRequest) (n : Nat) : Bool :=
  !r.complement && !r.ranges.any fun s => s.first < n && s.has n

/-- The bytes at positions; `before` is the position of the one before. -/
def cutBytes (r : CutRequest) (line : List UInt8) (before : Option Nat) :
    List Nat → List UInt8
  | [] => []
  | n :: rest =>
    let starts := match before with
      | some m => m + 1 != n || r.beginsAt n
      | none => false
    (if starts then r.between.getD [] else []) ++ (line.drop (n - 1)).take 1 ++
      cutBytes r line (some n) rest

/-- Cuts one line; a line without the delimiter stays whole or is left out. -/
def cutLine (r : CutRequest) (line : List UInt8) : Option (List UInt8) :=
  match r.kind with
  | .bytes => some (cutBytes r line none (r.positions line.length))
  | .fields =>
    let fields := splitBytes r.delimiter [] line
    if fields.length == 1 then if r.onlyDelimited then none else some line
    else
      let kept := (r.positions fields.length).filterMap fun n => fields[n - 1]?
      some (joinBytes (r.between.getD [r.delimiter]) kept)

/-- Cuts bytes or fields out of lines. -/
def run (arguments : List String) (p : Process) : Process :=
  p.withOptions cutOptions 1 arguments fun c =>
    match request c with
    | .error e => p.rejectUsage 1 e
    | .ok r =>
      let step (p : Process) (_ : Unit) (_ : String) (bytes : List UInt8) : Process × Unit :=
        let kept := (splitLines c.lineEnd bytes).1.filterMap (cutLine r)
        (p.write (joinLines c.lineEnd kept), ())
      (foldOperands nameAndReason c.operands step (p.answer 0) ()).1

end AgentFleet.Shell.Cut
