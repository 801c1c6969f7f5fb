import AgentFleet.Shell.Lines
import AgentFleet.Shell.Pattern

/-!
# Changing bytes

The program that changes, drops and squeezes bytes of its input. Sets of bytes are spelled by
characters, escapes, ranges, classes, and repetitions that fill a second set up to the length of
the first.
-/

namespace AgentFleet.Shell.Translate

/-! ### Sets -/

/-- A byte of a spelled set, and whether it was escaped. -/
structure Letter where
  /-- The byte. -/
  byte : UInt8
  /-- It was escaped, so that it has no meaning of its own. -/
  escaped : Bool
  deriving DecidableEq, Repr

/-- Whether a letter is a character with its meaning. -/
def Letter.is (l : Letter) (c : Char) : Bool :=
  !l.escaped && l.byte.toNat == c.toNat

/-- The bytes that single letters stand for after a backslash. -/
def escapedByte (b : UInt8) : UInt8 :=
  ([(97, 7), (98, 8), (102, 12), (110, 10), (114, 13), (116, 9), (118, 11)].lookup b).getD b

/-- Whether a byte is an octal digit. -/
def isOctal (b : UInt8) : Bool :=
  48 ≤ b.toNat && b.toNat ≤ 55

/-- The longest octal digits at the beginning of bytes that spell a byte. -/
def octalDigits (bytes : List UInt8) : List UInt8 :=
  let digits := (bytes.take 3).takeWhile isOctal
  let value (ds : List UInt8) : Nat := ds.foldl (fun n d => 8 * n + (d.toNat - 48)) 0
  if value digits < 256 then digits else digits.take 2

/-- The letters that bytes spell. -/
def letters : Nat → List UInt8 → List Letter
  | 0, _ | _, [] => []
  | fuel + 1, 92 :: b :: rest =>
    if isOctal b then
      let digits := octalDigits (b :: rest)
      let value := digits.foldl (fun n d => 8 * n + (d.toNat - 48)) 0
      ⟨UInt8.ofNat value, true⟩ :: letters fuel ((b :: rest).drop digits.length)
    else ⟨escapedByte b, true⟩ :: letters fuel rest
  | fuel + 1, b :: rest => ⟨b, false⟩ :: letters fuel rest

/-- A part of a set. -/
inductive Part where
  /-- A byte. -/
  | byte (b : UInt8)
  /-- The bytes from one to another. -/
  | range (first last : UInt8)
  /-- The bytes of a class. -/
  | ofClass (name : String)
  /-- The bytes that count as the same as one. -/
  | same (b : UInt8)
  /-- A byte several times; without a count as often as is needed. -/
  | repeated (b : UInt8) (count : Option Nat)
  deriving DecidableEq, Repr

/-- The bytes of a class of characters. -/
def classBytes (name : String) : List UInt8 :=
  match characterClasses.lookup name with
  | some test =>
    (List.range 128).filterMap fun n => if test (Char.ofNat n) then some (UInt8.ofNat n) else none
  | none => []

/-- Whether a part is a class of capitals or of small letters. -/
def Part.isCase : Part → Bool
  | ofClass name => name == "upper" || name == "lower"
  | _ => false

/-- Whether a part is a class. -/
def Part.isClass : Part → Bool
  | ofClass _ => true
  | _ => false

/-- Whether a part is repeated as often as is needed. -/
def Part.fills : Part → Bool
  | repeated _ none => true
  | _ => false

/-- The bytes of a part. -/
def Part.bytes : Part → List UInt8
  | byte b | same b => [b]
  | range first last =>
    (List.range (last.toNat + 1 - first.toNat)).map fun n => UInt8.ofNat (first.toNat + n)
  | ofClass name => classBytes name
  | repeated b count => List.replicate (count.getD 0) b

/-- A byte so that it can be seen in a complaint. -/
def shown (b : UInt8) : String :=
  let n := b.toNat
  if 32 ≤ n && n < 127 then String.singleton (Char.ofNat n)
  else String.ofList ('\\' :: octalText n)

/-- Letters as a text. -/
def textOf (ls : List Letter) : String :=
  String.join (ls.map fun l => shown l.byte)

/-- What stands before the first place of two characters, and what follows them. -/
def before? (c d : Char) (found : List Letter) :
    List Letter → Option (List Letter × List Letter)
  | a :: b :: rest =>
    if a.is c && b.is d then some (found.reverse, rest) else before? c d (a :: found) (b :: rest)
  | _ => none

/-- The count of a repetition: nothing, an octal number after a zero, or a decimal number. -/
def repetition? (digits : List Letter) : Option (Option Nat) :=
  let cs := digits.map fun l => Char.ofNat l.byte.toNat
  if cs.isEmpty then some none
  else (Number.natural? (if cs.head? == some '0' then 8 else 10) cs).map fun n =>
    if n == 0 then none else some n

/-- The part in brackets that letters begin with, after the first bracket, and what follows. -/
def bracketed (ls : List Letter) : Except String (Option (Part × List Letter)) :=
  match ls with
  | a :: b :: rest =>
    let isRepetition (inner : List Letter) : Bool :=
      (inner.headD ⟨0, true⟩).is '*' && (inner.drop 1).all fun l => Number.isDigit (Char.ofNat l.byte.toNat)
    let named := if a.is ':' then before? ':' ']' [] (b :: rest)
      else if a.is '=' then before? '=' ']' [] (b :: rest) else none
    let repetition : Except String (Option (Part × List Letter)) :=
      if b.is '*' then
        let digits := rest.takeWhile fun l => !l.is ']' && !l.escaped
        match rest.drop digits.length with
        | close :: more =>
          if !close.is ']' then .ok none
          else
            match repetition? digits with
            | some count => .ok (some (.repeated a.byte count, more))
            | none => .error ("invalid repeat count " ++ curlyQuoted (textOf digits) ++
                " in [c*n] construct")
        | [] => .ok none
      else .ok none
    match named with
    | none => repetition
    | some (name, more) =>
      if a.is ':' then
        if name.isEmpty then .error "missing character class name '[::]'"
        else if (characterClasses.lookup (textOf name)).isSome then
          .ok (some (.ofClass (textOf name), more))
        else if isRepetition name then repetition
        else .error ("invalid character class " ++ curlyQuoted (textOf name))
      else
        match name with
        | [] => .error "missing equivalence class character '[==]'"
        | [l] => .ok (some (.same l.byte, more))
        | _ =>
          if isRepetition name then repetition
          else .error (textOf name ++ ": equivalence class operand must be a single character")
  | _ => .ok none

/-- The parts that letters spell. -/
def parts : Nat → List Letter → Except String (List Part)
  | 0, _ => .ok []
  | _, [] => .ok []
  | _, [a] => .ok [.byte a.byte]
  | _, [a, b] => .ok [.byte a.byte, .byte b.byte]
  | fuel + 1, a :: b :: c :: rest => do
    let inner ← if a.is '[' then bracketed (b :: c :: rest) else pure none
    match inner with
    | some (part, more) => return part :: (← parts fuel more)
    | none =>
      if b.is '-' then
        if c.byte < a.byte then
          throw ("range-endpoints of '" ++ shown a.byte ++ "-" ++ shown c.byte ++
            "' are in reverse collating sequence order")
        else return .range a.byte c.byte :: (← parts fuel rest)
      else return .byte a.byte :: (← parts fuel (b :: c :: rest))

/-- The parts that a text spells. -/
def partsOf (s : String) : Except String (List Part) :=
  let bytes := Text.encode s
  parts (bytes.length + 1) (letters (bytes.length + 1) bytes)

/-- The bytes of parts. -/
def bytesOf (parts : List Part) : List UInt8 :=
  parts.flatMap Part.bytes

/-- The bytes that are not among some. -/
def others (bytes : List UInt8) : List UInt8 :=
  ((List.range 256).map UInt8.ofNat).filter fun b => !bytes.contains b

/-! ### Requests -/

/-- The options of the program that changes bytes. -/
def options : OptionTable where
  flags := ['c', 'C', 'd', 's', 't']
  names := [("complement", 'c'), ("delete", 'd'), ("squeeze-repeats", 's'), ("truncate-set1", 't')]
  anywhere := false

/-- Whether the first set is complemented. -/
def complements (c : Chosen) : Bool := c.has 'c' || c.has 'C'

/-- The first set. -/
def firstSet (c : Chosen) (first : List Part) : List UInt8 :=
  if complements c then others (bytesOf first) else bytesOf first

/-- Whether a set's cases stand opposite cases in the other set, which must hold where cases are
exchanged; the lists are what is left of parts. -/
def casesAligned : Nat → List Part → List Part → Bool
  | 0, _, _ => true
  | _, [], second => !(second.headD (.byte 0)).isCase
  | _, _, [] => true
  | fuel + 1, a :: first, b :: second =>
    if b.isCase then a.isCase && casesAligned fuel first second
    else
      let m := a.bytes.length
      let n := b.bytes.length
      let rest (p : Part) (k : Nat) (more : List Part) : List Part :=
        if p.bytes.length ≤ k then more else ((p.bytes.drop k).map Part.byte) ++ more
      if n == 0 then casesAligned fuel (a :: first) second
      else if m == 0 then casesAligned fuel first (b :: second)
      else if a.isClass && n < m && (second.headD (.byte 0)).isCase then false
      else casesAligned fuel (rest a (min m n) first) (rest b (min m n) second)

/-- The second set with its repetition as long as the first set needs. -/
def filled (length : Nat) (second : List Part) : List Part :=
  let missing := length - (bytesOf second).length
  second.map fun p =>
    match p with
    | .repeated b none => .repeated b (some missing)
    | _ => p

/-- A last byte that fills up the second set, unless a class does not let it. -/
def extended (length : Nat) (second : List Part) : Except String (List Part) :=
  let missing := length - (bytesOf second).length
  match second.getLast? with
  | some (.ofClass _) =>
    .error ("when translating with string1 longer than string2,\n" ++
      "the latter string must not end with a character class")
  | some p => .ok (second ++ (p.bytes.getLast?.toList.map fun b => .repeated b (some missing)))
  | none => .error "when not truncating set1, string2 must be non-empty"

/-- The parts of two sets with every case as a single byte, so that lengths compare as the program
compares them. -/
def significant (parts : List Part) : List Part :=
  parts.map fun p => if p.isCase then .byte 0 else p

/-- The second set of a translation, made as long as the first, or why the two do not fit. -/
def secondSet (c : Chosen) (first second : List Part) : Except String (List Part) := do
  if second.any fun p => match p with | .same _ => true | _ => false then
    throw "[=c=] expressions may not appear in string2 when translating"
  if second.any fun p => p.isClass && !p.isCase then
    throw ("when translating, the only character classes that may appear in\n" ++
      "string2 are 'upper' and 'lower'")
  let length := (firstSet c first).length
  let second := filled length second
  let exchanges := !complements c && second.any Part.isClass
  let fuel := (bytesOf first).length + (bytesOf second).length + first.length + second.length + 1
  if exchanges && !casesAligned fuel first second then
    throw "misaligned [:upper:] and/or [:lower:] construct"
  let (m, n) := if exchanges then
      ((bytesOf (significant first)).length, (bytesOf (significant second)).length)
    else (length, (bytesOf second).length)
  let second ← if n < m && !c.has 't' then
      (do
        let longer ← extended m (if exchanges then significant second else second)
        return second ++ longer.drop second.length)
    else pure second
  let homogeneous := match bytesOf second with
    | [] => true
    | b :: rest => rest.all (· == b)
  if complements c && first.any Part.isClass &&
      !((bytesOf second).length == length && homogeneous) then
    throw ("when translating with complemented character classes,\n" ++
      "string2 must map all characters in the domain to one")
  return second

/-! ### Changing -/

/-- What bytes of two sets become: a byte of the first the one at its place in the second. Cases
that stand opposite cases are exchanged letter by letter. -/
def pairs : Nat → List Part → List Part → List (UInt8 × UInt8)
  | 0, _, _ => []
  | fuel + 1, a :: first, b :: second =>
    let rest (p : Part) (k : Nat) (more : List Part) : List Part :=
      if p.bytes.length ≤ k then more else ((p.bytes.drop k).map Part.byte) ++ more
    if a.isCase && b.isCase then a.bytes.zip b.bytes ++ pairs fuel first second
    else
      let m := a.bytes.length
      let n := b.bytes.length
      if n == 0 then pairs fuel (a :: first) second
      else if m == 0 then pairs fuel first (b :: second)
      else
        a.bytes.zip b.bytes ++ pairs fuel (rest a (min m n) first) (rest b (min m n) second)
  | _, _, _ => []

/-- Bytes without repetitions of those in a set. -/
def squeeze (set : List UInt8) (last : Option UInt8) : List UInt8 → List UInt8
  | [] => []
  | b :: rest =>
    if last == some b && set.contains b then squeeze set last rest
    else b :: squeeze set (some b) rest

/-- What becomes of bytes. -/
def changed (c : Chosen) (first : List Part) (second : Option (List Part)) (bytes : List UInt8) :
    List UInt8 :=
  let set := firstSet c first
  let kept := if c.has 'd' then bytes.filter fun b => !set.contains b else bytes
  let translated := match second with
    | some second =>
      if c.has 'd' then kept
      else
        let fuel := (bytesOf first).length + (bytesOf second).length + first.length +
          second.length + 1
        let table := if complements c then set.zip (bytesOf second) else pairs fuel first second
        let last := table.reverse
        kept.map fun b => (last.lookup b).getD b
    | none => kept
  if c.has 's' then squeeze (second.elim set bytesOf) none translated else translated

/-- Points to the usage after a complaint of several lines. -/
def refuse (p : Process) (complaint : String) (more : List String) : Process :=
  let p := more.foldl Process.complain (p.report complaint)
  p.refuse 1 ("Try '" ++ p.name ++ " --help' for more information.")

/-- The sets of operands and what the input becomes by them. -/
def change (c : Chosen) (one : String) (two : Option String) :
    Except String (List UInt8 → List UInt8) := do
  let first ← partsOf one
  let second ← two.mapM partsOf
  if first.any Part.fills then throw "the [c*] repeat construct may not appear in string1"
  match second with
  | none => return changed c first none
  | some second =>
    if 1 < (second.filter Part.fills).length then
      throw "only one [c*] repeat construct may appear in string2"
    if c.has 'd' then
      if second.any Part.fills then
        throw "the [c*] construct may appear in string2 only when translating"
      return changed c first (some second)
    return changed c first (some (← secondSet c first second))

/-- Changes, drops or squeezes bytes of the input. -/
def run (arguments : List String) (p : Process) : Process :=
  p.withOptions options 1 arguments fun c =>
    let least := if c.has 'd' == c.has 's' then 2 else 1
    let most := if c.has 'd' && !c.has 's' then 1 else 2
    let go (one : String) (two : Option String) : Process :=
      match change c one two with
      | .error e => p.reject 1 e
      | .ok f =>
        match p.readAll 0 with
        | (.error e, p) => p.reject 1 ("read error: " ++ e)
        | (.ok bytes, p) => (p.answer 0).write (f bytes)
    match c.operands with
    | [] => FileTools.missing p "operand"
    | [one] =>
      if least == 1 then go one none
      else
        refuse p ("missing operand after " ++ curlyQuoted one)
          [if c.has 's' then "Two strings must be given when both deleting and squeezing repeats."
            else "Two strings must be given when translating."]
    | one :: two :: more =>
      if most < 2 + more.length then
        refuse p ("extra operand " ++ curlyQuoted ((two :: more).getD (most - 1) ""))
          (if more.isEmpty then
              ["Only one string may be given when deleting without squeezing repeats."]
            else [])
      else go one (some two)

end AgentFleet.Shell.Translate
