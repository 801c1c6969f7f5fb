import AgentFleet.Shell.Lines
import AgentFleet.Shell.Quantity

/-!
# Ordering lines

The program that sorts lines by keys, and the one that drops the repetitions of lines. Keys are
compared in turn; lines that no key tells apart are compared as a whole.
-/

namespace AgentFleet.Shell.Sort

/-- Whether a byte parts fields. -/
def isGap (b : UInt8) : Bool :=
  b == 32 || b == 9 || b == 10

/-! ### Numbers in lines -/

/-- A decimal number: its sign, and its digits with a count of those after the point. -/
structure Amount where
  /-- The number times a power of ten. -/
  digits : Int
  /-- The power. -/
  places : Nat
  deriving DecidableEq, Repr

/-- How two amounts compare. -/
def Amount.compare (a b : Amount) : Ordering :=
  Ord.compare (a.digits * Int.pow 10 b.places) (b.digits * Int.pow 10 a.places)

/-- The amount that characters begin with after blanks, and what follows it. -/
def leadingAmount (cs : List Char) : Amount × List Char :=
  let cs := cs.dropWhile fun c => c == ' ' || c == '\t' || c == '\n'
  let negative := cs.head? == some '-'
  let cs := if negative then cs.drop 1 else cs
  let whole := cs.takeWhile Number.isDigit
  let rest := cs.drop whole.length
  let fraction := match rest with
    | '.' :: more => more.takeWhile Number.isDigit
    | _ => []
  let rest := if rest.head? == some '.' then rest.drop (1 + fraction.length) else rest
  let n : Int := (Number.natural? 10 (whole ++ fraction)).getD 0
  (⟨if negative then -n else n, fraction.length⟩, rest)

/-- A number of any kind, or a text that is none. -/
inductive General where
  /-- No number. -/
  | nothing
  /-- The number that differs from itself. -/
  | nan
  /-- Less than all numbers, or greater. -/
  | infinite (negative : Bool)
  /-- A number. -/
  | amount (a : Amount)

/-- The place of the kinds of numbers among each other. -/
def General.rank : General → Nat
  | nothing => 0
  | nan => 1
  | infinite true => 2
  | amount _ => 3
  | infinite false => 4

/-- How two numbers of any kind compare. -/
def General.compare (a b : General) : Ordering :=
  match a, b with
  | amount x, amount y => x.compare y
  | _, _ => Ord.compare a.rank b.rank

/-- The number of any kind that characters begin with. -/
def leadingGeneral (cs : List Char) : General :=
  let cs := cs.dropWhile isAsciiBlank
  let signed := cs.head? == some '-' || cs.head? == some '+'
  let negative := cs.head? == some '-'
  let body := if signed then cs.drop 1 else cs
  let word := (body.take 3).map Char.toLower
  if word == ['i', 'n', 'f'] then .infinite negative
  else if word == ['n', 'a', 'n'] then .nan
  else
    let digit (c : Char) : Bool := Number.isDigit c
    if !(body.headD ' ' |> digit) && !(body.head? == some '.' && digit (body.getD 1 ' ')) then .nothing
    else
      let (a, rest) := leadingAmount body
      let power : Int := match rest with
        | e :: more =>
          if e == 'e' || e == 'E' then
            let minus := more.head? == some '-'
            let digits := (if minus || more.head? == some '+' then more.drop 1 else more).takeWhile digit
            let n : Int := min ((Number.natural? 10 digits).getD 0) 5000
            if minus then -n else n
          else 0
        | [] => 0
      let n := if negative then -a.digits else a.digits
      if 0 ≤ power then .amount ⟨n * Int.pow 10 power.toNat, a.places⟩
      else .amount ⟨n, a.places + (-power).toNat⟩

/-- The order of the unit after a number, negative for a negative number. -/
def unitOrder (cs : List Char) : Int :=
  let (a, rest) := leadingAmount cs
  let order : Int := match rest with
    | c :: _ => if c == 'm' then 0 else (unitPowers.lookup c).getD 0
    | [] => 0
  if a.digits == 0 then 0 else if a.digits < 0 then -order else order

/-- The number of a month by the first three letters of its name, or zero. -/
def month (cs : List Char) : Nat :=
  let name := String.ofList (((cs.dropWhile fun c => c == ' ' || c == '\t').take 3).map Char.toUpper)
  let names := ["JAN", "FEB", "MAR", "APR", "MAY", "JUN", "JUL", "AUG", "SEP", "OCT", "NOV", "DEC"]
  match names.findIdx? (· == name) with
  | some n => n + 1
  | none => 0

/-! ### Versions -/

/-- The place of a character outside numbers in the order of versions. -/
def versionOrder : List Char → Int
  | [] => -1
  | c :: _ =>
    if Number.isDigit c then 0
    else if c.isAlpha then c.toNat
    else if c == '~' then -2
    else c.toNat + 256

/-- Compares two versions: texts without digits and numbers take turns. -/
def compareVersions : Nat → List Char → List Char → Ordering
  | 0, _, _ => .eq
  | fuel + 1, a, b =>
    if a.isEmpty && b.isEmpty then .eq
    else
      let atText (cs : List Char) : Bool := !cs.isEmpty && !Number.isDigit (cs.headD '0')
      if atText a || atText b then
        match Ord.compare (versionOrder a) (versionOrder b) with
        | .eq => compareVersions fuel (a.drop 1) (b.drop 1)
        | o => o
      else
        let m := (a.dropWhile (· == '0')).takeWhile Number.isDigit
        let n := (b.dropWhile (· == '0')).takeWhile Number.isDigit
        match Ord.compare ((Number.natural? 10 m).getD 0) ((Number.natural? 10 n).getD 0) with
        | .eq => compareVersions fuel (a.dropWhile Number.isDigit) (b.dropWhile Number.isDigit)
        | o => o

/-- A name without its endings, which are a point, a letter, and letters and digits. -/
def withoutEndings (cs : List Char) : List Char :=
  let isEnding (part : List Char) : Bool :=
    match part with
    | c :: more => (c.isAlpha || c == '~') && more.all fun d => d.isAlphanum || d == '~'
    | [] => false
  match cs with
  | [] => []
  | first :: rest =>
    let parts := Text.split '.' (String.ofList rest)
    let endings := (parts.drop 1).reverse.takeWhile fun part => isEnding part.toList
    first :: (Text.join "." (parts.take (parts.length - endings.length))).toList

/-- How two names compare by the versions in them. -/
def compareNames (a b : List Char) : Ordering :=
  if a.isEmpty || b.isEmpty then Ord.compare a.length b.length
  else
    let rank (cs : List Char) : Nat :=
      if cs == ['.'] then 0 else if cs == ['.', '.'] then 1
      else if cs.head? == some '.' then 2 else 3
    match Ord.compare (rank a) (rank b) with
    | .eq =>
      let fuel := a.length + b.length + 1
      match compareVersions fuel (withoutEndings a) (withoutEndings b) with
      | .eq => compareVersions fuel a b
      | o => o
    | o => o

/-! ### Keys -/

/-- A place in a line: a field, and a character in it. -/
structure KeyPlace where
  /-- How many fields come before. -/
  fields : Nat
  /-- How many characters of the field come before. -/
  characters : Nat
  deriving DecidableEq, Repr

/-- A key of lines. -/
structure SortKey where
  /-- Where it begins; without a place at the beginning of the line. -/
  start : Option KeyPlace := none
  /-- Where it ends; without a place at the end of the line. -/
  stop : Option KeyPlace := none
  /-- Blanks at its start are passed over. -/
  skipsStart : Bool := false
  /-- Blanks before the place of its end are passed over. -/
  skipsStop : Bool := false
  /-- The letters of the ways in which it is compared. -/
  letters : List Char := []
  /-- The order is turned around. -/
  reverse : Bool := false

namespace SortKey

/-- Whether a key says nothing of how it is compared. -/
def isPlain (k : SortKey) : Bool :=
  k.letters.isEmpty && !k.skipsStart && !k.skipsStop

/-- The key with the way of comparing that a letter stands for. -/
def withLetter (k : SortKey) (atStart atStop : Bool) (letter : Char) : SortKey :=
  match letter with
  | 'b' => { k with skipsStart := k.skipsStart || atStart, skipsStop := k.skipsStop || atStop }
  | 'r' => { k with reverse := true }
  | 'i' => if k.letters.contains 'd' then k else { k with letters := k.letters ++ ['i'] }
  | 'd' => { k with letters := k.letters.filter (· != 'i') ++ ['d'] }
  | _ => { k with letters := k.letters ++ [letter] }

/-- The letters of ways of comparing. -/
def ways : List Char := "bdfghiMnRrV".toList

/-- A field or a character count at the beginning of a text, and what follows. -/
def number (what : String) (cs : List Char) : Except String (Nat × List Char) :=
  let digits := (cs.dropWhile isAsciiBlank).takeWhile Number.isDigit
  match Number.natural? 10 digits with
  | some n => .ok (n, (cs.dropWhile isAsciiBlank).drop digits.length)
  | none => .error (what ++ ": invalid count at start of " ++ curlyQuoted (String.ofList cs))

/-- The key that a text spells. -/
def ofText (s : String) : Except String SortKey := do
  let bad (what : String) : String := what ++ ": invalid field specification " ++ curlyQuoted s
  let (field, rest) ← number "invalid number at field start" s.toList
  if field == 0 then throw (bad "field number is zero")
  let (character, rest) ← match rest with
    | '.' :: more => do
      let (n, rest) ← number "invalid number after '.'" more
      if n == 0 then throw (bad "character offset is zero")
      pure (n, rest)
    | _ => pure (1, rest)
  let start := if field == 1 && character == 1 then none else some ⟨field - 1, character - 1⟩
  let letters := rest.takeWhile ways.contains
  let key := letters.foldl (fun k l => k.withLetter true false l) { start := start : SortKey }
  match rest.drop letters.length with
  | ',' :: more =>
    let (field, rest) ← number "invalid number after ','" more
    if field == 0 then throw (bad "field number is zero")
    let (character, rest) ← match rest with
      | '.' :: more => number "invalid number after '.'" more
      | _ => pure (0, rest)
    let letters := rest.takeWhile ways.contains
    let key := { key with stop := some ⟨field - 1, character⟩ }
    if (rest.drop letters.length).isEmpty then
      return letters.foldl (fun k l => k.withLetter false true l) key
    else throw (bad "stray character in field spec")
  | [] => return key
  | _ => throw (bad "stray character in field spec")

/-- The letters of ways that cannot go together, if a key has such. -/
def clash? (k : SortKey) : Option String :=
  let kinds := "nghM".toList.filter k.letters.contains
  let other := "RVdi".toList.any k.letters.contains
  if 1 < kinds.length + (if other then 1 else 0) then
    some (String.ofList ("dfghiMnRV".toList.filter k.letters.contains))
  else none

/-! ### The text of a key -/

/-- What follows one field. -/
def afterField (tab : Option UInt8) (passes : Bool) (line : List UInt8) : List UInt8 :=
  match tab with
  | some t =>
    let rest := line.dropWhile (· != t)
    if passes then rest.drop 1 else rest
  | none => (line.dropWhile isGap).dropWhile fun b => !isGap b

/-- What follows several fields; the separator after the last of them is passed when `passes`. -/
def afterFields (tab : Option UInt8) (passes : Bool) : Nat → List UInt8 → List UInt8
  | 0, line => line
  | n + 1, line => afterFields tab passes n (afterField tab (passes || 0 < n) line)

/-- The rest of a line from the start of a key. -/
def fromStart (k : SortKey) (tab : Option UInt8) (line : List UInt8) : List UInt8 :=
  let place := k.start.getD ⟨0, 0⟩
  let rest := afterFields tab true place.fields line
  let rest := if k.skipsStart then rest.dropWhile isGap else rest
  rest.drop place.characters

/-- The rest of a line after the end of a key. -/
def afterStop (k : SortKey) (tab : Option UInt8) (line : List UInt8) : List UInt8 :=
  match k.stop with
  | none => []
  | some place =>
    if place.characters == 0 then afterFields tab false (place.fields + 1) line
    else
      let rest := afterFields tab true place.fields line
      let rest := if k.skipsStop then rest.dropWhile isGap else rest
      rest.drop place.characters

/-- The bytes of a key. -/
def text (k : SortKey) (tab : Option UInt8) (line : List UInt8) : List UInt8 :=
  let rest := k.fromStart tab line
  let key := rest.take (rest.length - (k.afterStop tab line).length)
  let key := if k.letters.contains 'd' then
      key.filter fun b => isGap b || (Char.ofNat b.toNat).isAlphanum
    else if k.letters.contains 'i' then key.filter fun b => 32 ≤ b.toNat && b.toNat < 127
    else key
  if k.letters.contains 'f' then capitals key else key

/-! ### Comparing -/

/-- How bytes compare. -/
def compareBytes : List UInt8 → List UInt8 → Ordering
  | [], [] => .eq
  | [], _ => .lt
  | _, [] => .gt
  | a :: as, b :: bs =>
    match Ord.compare a.toNat b.toNat with
    | .eq => compareBytes as bs
    | o => o

/-- How two lines compare by a key. -/
def compare (k : SortKey) (tab : Option UInt8) (a b : List UInt8) : Ordering :=
  let a := k.text tab a
  let b := k.text tab b
  let as := a.map fun b => Char.ofNat b.toNat
  let bs := b.map fun b => Char.ofNat b.toNat
  let amounts := (leadingAmount as).1.compare (leadingAmount bs).1
  let o :=
    if k.letters.contains 'n' then amounts
    else if k.letters.contains 'g' then (leadingGeneral as).compare (leadingGeneral bs)
    else if k.letters.contains 'h' then (Ord.compare (unitOrder as) (unitOrder bs)).then amounts
    else if k.letters.contains 'M' then Ord.compare (month as) (month bs)
    else if k.letters.contains 'V' then compareNames as bs
    else compareBytes a b
  if k.reverse then o.swap else o

end SortKey

/-! ### Sorting -/

/-- The order in which lines are put. -/
structure LineOrder where
  /-- The keys. -/
  keys : List SortKey
  /-- The byte between fields. -/
  tab : Option UInt8
  /-- The order of whole lines is turned around. -/
  reverse : Bool
  /-- Lines that no key tells apart count as the same. -/
  keysOnly : Bool

/-- How two lines compare. -/
def LineOrder.compare (o : LineOrder) (a b : List UInt8) : Ordering :=
  let byKeys := o.keys.foldl (fun r k => r.then (k.compare o.tab a b)) .eq
  if byKeys != .eq || (o.keysOnly && !o.keys.isEmpty) then byKeys
  else
    let whole := SortKey.compareBytes a b
    if o.reverse then whole.swap else whole

/-- The words for options that cannot go together. -/
def incompatible (letters : String) : OptionFault :=
  .refused false ("options '-" ++ letters ++ "' are incompatible")

/-- The options of the program that sorts. -/
def sortOptions : OptionTable where
  flags := "bcCdfghiMmnRrsuVz".toList
  valued := ['k', 't', 'o', 'S', 'T']
  names := [("ignore-leading-blanks", 'b'), ("dictionary-order", 'd'), ("ignore-case", 'f'),
    ("general-numeric-sort", 'g'), ("human-numeric-sort", 'h'), ("ignore-nonprinting", 'i'),
    ("month-sort", 'M'), ("merge", 'm'), ("numeric-sort", 'n'), ("random-sort", 'R'),
    ("reverse", 'r'), ("stable", 's'), ("unique", 'u'), ("version-sort", 'V'),
    ("zero-terminated", 'z'), ("key", 'k'), ("field-separator", 't'), ("output", 'o'),
    ("buffer-size", 'S'), ("temporary-directory", 'T'), ("check", 'c')]
  refusal c letter value :=
    match letter with
    | 'k' =>
      match SortKey.ofText value with
      | .ok _ => none
      | .error e => some (.refused false e)
    | 't' =>
      if value.isEmpty then some (.refused false "empty tab")
      else if 1 < value.utf8ByteSize && value != "\\0" then
        some (.refused false ("multi-character tab " ++ curlyQuoted value))
      else if (c.value? 't').any (· != value) then some (.refused false "incompatible tabs")
      else none
    | 'o' =>
      if (c.value? 'o').any (· != value) then
        some (.refused false "multiple output files specified")
      else none
    | 'c' => if c.has 'C' then some (incompatible "cC") else none
    | 'C' => if c.has 'c' then some (incompatible "cC") else none
    | _ => none

/-- The order that options ask for. -/
def orderOf (c : Chosen) : LineOrder :=
  let overall := c.options.foldl
    (fun (k : SortKey) o => if SortKey.ways.contains o.1 then k.withLetter true true o.1 else k) {}
  let given := c.options.filterMap fun o =>
    if o.1 == 'k' then (SortKey.ofText o.2).toOption else none
  let keys := given.map fun k =>
    if k.isPlain && !k.reverse then { overall with start := k.start, stop := k.stop } else k
  let keys := if given.isEmpty && !overall.isPlain then [overall] else keys
  let tab := (c.value? 't').map fun t => if t == "\\0" then 0 else ((Text.encode t).head?).getD 0
  ⟨keys, tab, overall.reverse, c.has 'u' || c.has 's'⟩

/-- Lines of which neighbours that a relation holds for are dropped. -/
def dropRepeated (same : List UInt8 → List UInt8 → Bool) :
    List (List UInt8) → List (List UInt8)
  | a :: b :: rest =>
    if same a b then dropRepeated same (a :: rest) else a :: dropRepeated same (b :: rest)
  | lines => lines
termination_by lines => lines.length

/-- The first line that stands in the wrong place, with its number. -/
def disorder? (o : LineOrder) (unique : Bool) (n : Nat) :
    List (List UInt8) → Option (Nat × List UInt8)
  | a :: b :: rest =>
    let wrong := match o.compare a b with
      | .gt => true
      | .eq => unique
      | .lt => false
    if wrong then some (n + 1, b) else disorder? o unique (n + 1) (b :: rest)
  | _ => none

/-- Merges lines into others; of two that are the same those come first. -/
def merge (o : LineOrder) : List (List UInt8) → List (List UInt8) → List (List UInt8)
  | [], bs => bs
  | as, [] => as
  | a :: as, b :: bs =>
    if o.compare a b == .gt then b :: merge o (a :: as) bs else a :: merge o as (b :: bs)
termination_by as bs => as.length + bs.length

/-- Checks whether the lines of a file are in order. -/
def check (c : Chosen) (p : Process) (path : String) : Process :=
  match FileTools.readOperand p path with
  | (.error e, p) =>
    let what := if e == "Is a directory" then "read failed: " else "open failed: "
    p.reject 2 (what ++ nameAndReason path e)
  | (.ok bytes, p) =>
    match disorder? (orderOf c) (c.has 'u') 1 (splitLines c.lineEnd bytes).1 with
    | none => p.answer 0
    | some (n, line) =>
      if c.has 'C' then p.answer 1
      else
        p.reject 1 (nameQuoted path ++ ":" ++ toString n ++ ": disorder: " ++ Text.decodeLossy line)

/-- Sorts lines. -/
def sort (arguments : List String) (p : Process) : Process :=
  p.withOptions sortOptions 2 arguments fun c =>
    let order := orderOf c
    match order.keys.findSome? SortKey.clash? with
    | some letters => p.reject 2 (incompatible letters).message
    | none =>
      let operands := if c.operands.isEmpty then ["-"] else c.operands
      if c.has 'c' || c.has 'C' then
        match operands with
        | [path] => check c p path
        | _ =>
          p.reject 2 ("extra operand " ++ shellQuoted (operands.getD 1 "") ++
            " not allowed with -" ++ (if c.has 'c' then "c" else "C"))
      else
        let unreadable := operands.find? fun path =>
          path != "-" && (match p.kindAt path with | .ok _ => false | .error _ => true)
        match unreadable with
        | some path =>
          let (result, p) := p.readPath path
          match result with
          | .error e => p.reject 2 ("cannot read: " ++ nameAndReason path e)
          | .ok _ => p.answer 2
        | none => write c order operands p
where
  /-- Writes the sorted lines of operands. -/
  write (c : Chosen) (order : LineOrder) (operands : List String) (p : Process) : Process :=
    let opened : Except String Process := match c.value? 'o' with
      | none => .ok p
      | some path =>
        match p.openPath 9999 path .append with
        | .ok p => .ok (p.close 9999)
        | .error e => .error ("open failed: " ++ nameAndReason path (Process.plainMessage e))
    match opened with
    | .error e => p.reject 2 e
    | .ok p =>
      let complaint (path reason : String) : String := "read failed: " ++ nameAndReason path reason
      let (p, files) := foldOperands complaint operands
        (fun p all _ bytes => (p, all ++ [(splitLines c.lineEnd bytes).1])) (p.answer 0) []
      if p.status != 0 then p.answer 2
      else
        let sorted := if c.has 'm' then files.foldl (merge order) []
          else files.flatten.mergeSort fun a b => order.compare a b != .gt
        let kept := if c.has 'u' then dropRepeated (fun a b => order.compare a b == .eq) sorted
          else sorted
        let bytes := joinLines c.lineEnd kept
        match c.value? 'o' with
        | none => p.write bytes
        | some path =>
          match p.openPath 9999 path .write with
          | .ok p =>
            match p.writeTo 9999 bytes with
            | .ok p => p.close 9999
            | .error e => p.reject 2 ("write failed: " ++ nameAndReason path e)
          | .error e => p.reject 2 ("open failed: " ++ nameAndReason path (Process.plainMessage e))

/-! ### Dropping repetitions -/

/-- The letters of the options of repetitions that take a number, with what it counts. -/
def countWords : List (Char × String) :=
  [('f', "fields to skip"), ('s', "bytes to skip"), ('w', "bytes to compare")]

/-- The options of the program that drops repeated lines. -/
def uniqOptions : OptionTable where
  flags := "cdDiuz0123456789".toList
  valued := ['f', 's', 'w']
  names := [("count", 'c'), ("repeated", 'd'), ("all-repeated", 'D'), ("skip-fields", 'f'),
    ("ignore-case", 'i'), ("skip-chars", 's'), ("unique", 'u'), ("check-chars", 'w'),
    ("zero-terminated", 'z')]
  refusal _ letter value :=
    match countWords.lookup letter, quantity false value with
    | some what, .error .strange => some (.refused false (value ++ ": invalid number of " ++ what))
    | _, _ => none

/-- Runs of lines that are the same; each line of a run is compared with its first one. -/
def runsOf (same : List UInt8 → List UInt8 → Bool) :
    List (List UInt8) → List (List (List UInt8))
  | [] => []
  | line :: rest => go [] line rest
where
  /-- Runs of which the first one has begun with a line, after some others of it. -/
  go (run : List (List UInt8)) (first : List UInt8) :
      List (List UInt8) → List (List (List UInt8))
    | [] => [first :: run.reverse]
    | line :: rest =>
      if same first line then go (line :: run) first rest
      else (first :: run.reverse) :: go [] line rest

/-- The part of a line that is compared. -/
def comparedPart (c : Chosen) (line : List UInt8) : List UInt8 :=
  let amount (letter : Char) : Option Nat := (c.value? letter).bind fun s =>
    match quantity false s with
    | .ok n => some n
    | .error .tooLarge => some (Nat.pow 2 64)
    | .error .strange => none
  let digits := (c.options.map Prod.fst).filter Number.isDigit
  let fields := (amount 'f').getD ((Number.natural? 10 digits).getD 0)
  let rest := SortKey.afterFields none true (min fields line.length) line
  let rest := rest.drop ((amount 's').getD 0)
  let part := match amount 'w' with
    | some n => rest.take n
    | none => rest
  if c.has 'i' then capitals part else part

/-- The lines that are shown of a run. -/
def shownOf (c : Chosen) (run : List (List UInt8)) : List (List UInt8) :=
  let repeated := 1 < run.length
  if !repeated then if c.has 'd' || c.has 'D' then [] else run
  else if c.has 'D' then if c.has 'u' then run.dropLast else run
  else if c.has 'u' then []
  else run.take 1

/-- Drops repeated lines. -/
def uniq (arguments : List String) (p : Process) : Process :=
  p.withOptions uniqOptions 1 arguments fun c =>
    let input := c.operands.headD "-"
    match c.operands.drop 1 with
    | _ :: extra :: _ => p.rejectUsage 1 ("extra operand " ++ curlyQuoted extra)
    | outputs =>
      if c.has 'c' && c.has 'D' then
        p.rejectUsage 1 "printing all duplicated lines and repeat counts is meaningless"
      else
        let target := (outputs.head?).filter (· != "-")
        let known : Except String Unit := if input == "-" then .ok ()
          else match p.kindAt input with
            | .ok _ => .ok ()
            | .error e => .error (nameAndReason input (Process.plainMessage e))
        match known with
        | .error e => p.reject 1 e
        | .ok () =>
          let opened := match target with
            | some path => p.openPath 9999 path .write
            | none => .ok (p.connect 9999 (((p.open? 1).map Prod.fst).getD 0))
          match opened with
          | .error e => p.reject 1 (nameAndReason (target.getD "") (Process.plainMessage e))
          | .ok q =>
            match FileTools.readOperand q input with
            | (.error e, q) =>
              (q.reject 1 ("error reading " ++ shellQuoted input ++ ": " ++ e)).close 9999
            | (.ok bytes, q) =>
              let same (a b : List UInt8) : Bool := comparedPart c a == comparedPart c b
              let runs := runsOf same (splitLines c.lineEnd bytes).1
              let lines := runs.flatMap fun run =>
                (shownOf c run).map fun l =>
                  if c.has 'c' then Text.encode (inColumn 7 run.length ++ " ") ++ l else l
              match q.writeTo 9999 (joinLines c.lineEnd lines) with
              | .ok q => (q.close 9999).answer 0
              | .error e => { q.close 9999 with lost := some e, status := 0 }

end AgentFleet.Shell.Sort
