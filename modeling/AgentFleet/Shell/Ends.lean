import AgentFleet.Shell.Lines
import AgentFleet.Shell.Quantity

/-!
# Beginnings and ends

The programs that show how files begin and how they end, and those that turn files and lines
around.
-/

namespace AgentFleet.Shell.Ends

/-! ### Extents -/

/-- How much of a file is shown. -/
structure Extent where
  /-- Lines count, or else bytes. -/
  lines : Bool := true
  /-- The count. -/
  count : Nat := 10
  /-- The count is what is left out, or where the end begins. -/
  inverted : Bool := false

/-- The units that an extent counts. -/
def Extent.units (e : Extent) (ending : UInt8) (bytes : List UInt8) : List (List UInt8) :=
  if e.lines then endedLines ending bytes else bytes.map fun b => [b]

/-- The beginning of bytes. -/
def Extent.beginning (e : Extent) (ending : UInt8) (bytes : List UInt8) : List UInt8 :=
  let units := e.units ending bytes
  (if e.inverted then units.take (units.length - e.count) else units.take e.count).flatten

/-- The end of bytes. -/
def Extent.ending (e : Extent) (ending : UInt8) (bytes : List UInt8) : List UInt8 :=
  let units := e.units ending bytes
  (if e.inverted then units.drop (e.count - 1) else units.drop (units.length - e.count)).flatten

/-- The extent that an option asks for. After the sign of inversion its value is a quantity; the
sign stays in sight for the end of a file. -/
def extent (ofEnd : Bool) (letter : Char) (value : String) : Except OptionFault Extent :=
  let inverted := value.toList.head? == some (if ofEnd then '+' else '-')
  let text := if value.startsWith "-" then (value.drop 1).toString else value
  match quantity true text with
  | .ok n => .ok ⟨letter == 'n', n, inverted⟩
  | .error e =>
    .error (.refused false ("invalid number of " ++ (if letter == 'n' then "lines" else "bytes") ++
      ": " ++ e.words text))

/-- The last extent that options ask for. -/
def extentOf (ofEnd : Bool) (c : Chosen) : Option Extent :=
  match c.last? ['n', 'c'] with
  | some letter => (extent ofEnd letter ((c.value? letter).getD "")).toOption
  | none => none

/-! ### Options -/

/-- The digits, which are no options of their own. -/
def digitLetters : List Char := "0123456789".toList

/-- The options of the programs that show beginnings and ends. -/
def extentOptions (ofEnd : Bool) : OptionTable where
  flags := ['q', 'v', 'z'] ++ (if ofEnd then ['f', 'F'] else []) ++ digitLetters
  valued := ['n', 'c'] ++ if ofEnd then ['s'] else []
  names := [("lines", 'n'), ("bytes", 'c'), ("quiet", 'q'), ("silent", 'q'), ("verbose", 'v'),
    ("zero-terminated", 'z')]
  refusal _ letter value :=
    if digitLetters.contains letter then
      if ofEnd then
        some (.refused false ("option used in invalid context -- " ++ String.singleton letter))
      else some (.refused true ("invalid trailing option -- " ++ String.singleton letter))
    else if letter == 'n' || letter == 'c' then
      match extent ofEnd letter value with
      | .ok _ => none
      | .error e => some e
    else none

/-- The options that a beginning's old form spells: a count and letters after it. -/
def oldBeginning (digits : List Char) (options : List (Char × String)) :
    List Char → Except String (List (Char × String))
  | [] => .ok options
  | l :: ls =>
    let count (letter : Char) (unit : List Char) : List (Char × String) :=
      options.filter (fun o => o.1 != 'n' && o.1 != 'c') ++ [(letter, String.ofList (digits ++ unit))]
    match l with
    | 'c' => oldBeginning digits (count 'c' []) ls
    | 'b' | 'k' | 'm' => oldBeginning digits (count 'c' [l]) ls
    | 'l' => oldBeginning digits (count 'n' []) ls
    | 'q' | 'v' | 'z' => oldBeginning digits (options ++ [(l, "")]) ls
    | _ => .error ("invalid trailing option -- " ++ String.singleton l)

/-- Whether arguments leave room for an end's old form, which has at most one operand. -/
def roomForOldEnd : List String → Bool
  | [] => true
  | [a] => !(a.startsWith "-" && a != "-")
  | a :: rest => a == "--" && rest.length ≤ 1

/-- The options that an end's old form spells: a sign, a count and a letter. -/
def oldEnd? (argument : String) : Option (List (Char × String)) :=
  match argument.toList with
  | sign :: cs =>
    let digits := cs.takeWhile Number.isDigit
    let rest := cs.drop digits.length
    let (letter, factor, rest) := match rest with
      | 'b' :: more => ('c', 512, more)
      | 'c' :: more => ('c', 1, more)
      | 'l' :: more => ('n', 1, more)
      | _ => ('n', 1, rest)
    let count := if digits.isEmpty then toString (10 * factor)
      else String.ofList digits ++ if factor == 512 then "b" else ""
    let value := (if sign == '+' then "+" else "") ++ count
    let named := sign == '+' || (sign == '-' && !cs.isEmpty && cs != ['c'])
    if named && (rest.isEmpty || rest == ['f']) then some [(letter, value)] else none
  | [] => none

/-! ### Showing -/

/-- The title above a part of a file. -/
def title (first : Bool) (path : String) : String :=
  let name := if path == "-" then "standard input" else path
  (if first then "" else "\n") ++ "==> " ++ name ++ " <==\n"

/-- Reads an operand of which the beginning is shown. Of a file that is the input, and of bytes
that are counted, no more is taken than is shown. -/
def readBeginning (e : Extent) (ending : UInt8) (p : Process) (path : String) :
    Except String (List UInt8) × Process :=
  if path != "-" then
    match p.readPath path with
    | (.error s, p) =>
      if e.count == 0 && !e.inverted && p.isDirectoryAt path then (.ok [], p) else (.error s, p)
    | read => read
  else
    match p.readable 0 with
    | .error s => (.error s, p)
    | .ok bytes =>
      let isFile := match p.open? 0 with
        | some (_, ⟨.file _ _ _, _, _⟩) => true
        | _ => false
      let taken := if isFile || (!e.lines && !e.inverted) then (e.beginning ending bytes).length
        else bytes.length
      (.ok bytes, p.consume 0 taken)

/-- Shows a part of files or of the input, with a title for each of several. -/
def showParts (ofEnd : Bool) (e : Extent) (c : Chosen) (p : Process) : Process :=
  let titled := match c.last? ['q', 'v'] with
    | some letter => letter == 'v'
    | none => 1 < c.operands.length
  let step (s : Process × Bool) (path : String) : Process × Bool :=
    let (p, first) := s
    let show_ (p : Process) : Process := if titled then p.say (title first path) else p
    let (result, q) := if ofEnd then FileTools.readOperand p path
      else readBeginning e c.lineEnd p path
    match result with
    | .ok bytes =>
      ((show_ q).write (if ofEnd then e.ending c.lineEnd bytes else e.beginning c.lineEnd bytes),
        false)
    | .error reason =>
      if reason == "Is a directory" then
        ((show_ q).reject 1 ("error reading " ++ shellQuoted path ++ ": " ++ reason), false)
      else
        (q.reject 1 ("cannot open " ++ shellQuoted path ++ " for reading: " ++ reason), first)
  ((if c.operands.isEmpty then ["-"] else c.operands).foldl step (p.answer 0, true)).1

/-- Shows beginnings. -/
def head (arguments : List String) (p : Process) : Process :=
  let old := match arguments with
    | a :: rest =>
      match a.toList with
      | '-' :: d :: cs =>
        if Number.isDigit d then
          let digits := (d :: cs).takeWhile Number.isDigit
          some (digits, (d :: cs).drop digits.length, rest)
        else none
      | _ => none
    | [] => none
  let go (options : List (Char × String)) (arguments : List String) : Process :=
    match (extentOptions false).read false { options := options } arguments with
    | .ok c => showParts false ((extentOf false c).getD {}) c p
    | .error e =>
      if e.pointsToUsage then p.rejectUsage 1 e.message else p.reject 1 e.message
  match old with
  | none => go [] arguments
  | some (digits, letters, rest) =>
    match oldBeginning digits [('n', String.ofList digits)] letters with
    | .ok options =>
      let refused := options.findSome? fun o =>
        match extent false o.1 o.2 with
        | .ok _ => none
        | .error e => if o.1 == 'n' || o.1 == 'c' then some e else none
      match refused with
      | some e => p.reject 1 e.message
      | none => go options rest
    | .error e => p.rejectUsage 1 e

/-- Shows ends. -/
def tail (arguments : List String) (p : Process) : Process :=
  let old := match arguments with
    | a :: rest => if roomForOldEnd rest then (oldEnd? a).map fun o => (o, rest) else none
    | [] => none
  let (options, rest) := old.getD ([], arguments)
  if options.any fun o => (extent true o.1 o.2).toOption.isNone then
    p.reject 1 ("invalid number: " ++ curlyQuoted (arguments.headD "") ++
      ": Numerical result out of range")
  else
    match (extentOptions true).read false { options := options } rest with
    | .ok c =>
      let e := (extentOf true c).getD {}
      if e.count == 0 && !e.inverted then p.answer 0 else showParts true e c p
    | .error e =>
      if e.pointsToUsage then p.rejectUsage 1 e.message else p.reject 1 e.message

/-! ### Turning around -/

/-- Cuts bytes behind, or before, each place of a separator. -/
def recordsAt (separator : List UInt8) (before : Bool) (record : List UInt8) :
    Nat → List UInt8 → List (List UInt8)
  | 0, _ => []
  | _, [] => [record]
  | fuel + 1, b :: rest =>
    if separator.isPrefixOf (b :: rest) then
      let more := (b :: rest).drop separator.length
      if before then record :: recordsAt separator before separator fuel more
      else (record ++ separator) :: recordsAt separator before [] fuel more
    else recordsAt separator before (record ++ [b]) fuel rest

/-- The options of the program that turns files around. -/
def tacOptions : OptionTable where
  flags := ['b', 'r']
  valued := ['s']
  names := [("before", 'b'), ("regex", 'r'), ("separator", 's')]

/-- Shows records from the last to the first. -/
def tac (arguments : List String) (p : Process) : Process :=
  p.withOptions tacOptions 1 arguments fun c =>
    let separator := match c.value? 's' with
      | some s => if s.isEmpty then [0] else Text.encode s
      | none => [10]
    let complaint (path reason : String) : String :=
      if reason == "Is a directory" then nameQuoted path ++ ": read error: Invalid argument"
      else "failed to open " ++ shellQuoted path ++ " for reading: " ++ reason
    let step (p : Process) (_ : Unit) (_ : String) (bytes : List UInt8) : Process × Unit :=
      let records := recordsAt separator (c.has 'b') [] (bytes.length + 1) bytes
      (p.write records.reverse.flatten, ())
    (foldOperands complaint c.operands step (p.answer 0) ()).1

/-- Shows lines with their characters in the other order. -/
def rev (arguments : List String) (p : Process) : Process :=
  p.withOptions {} 1 arguments fun c =>
    let complaint (path reason : String) : String := "cannot open " ++ path ++ ": " ++ reason
    let step (p : Process) (_ : Unit) (_ : String) (bytes : List UInt8) : Process × Unit :=
      let turned := (endedLines 10 bytes).map fun l =>
        let (line, mark) := if l.getLast? == some 10 then (l.dropLast, [10]) else (l, [])
        Text.encode (String.ofList (Text.decodeLossy line).toList.reverse) ++ mark
      (p.write turned.flatten, ())
    (foldOperands complaint c.operands step (p.answer 0) ()).1

end AgentFleet.Shell.Ends
