import AgentFleet.Number.Places
import AgentFleet.Shell.Arithmetic
import AgentFleet.Shell.Options

/-!
# Printing

What scripts print their arguments with: as they stand, with backslashes read, or in a format whose
directives take one argument each. Widths and precisions count bytes.
-/

namespace AgentFleet.Shell.Print

/-- The characters of a text as bytes. -/
def bytesOf (cs : List Char) : List UInt8 :=
  Text.encode (String.ofList cs)

/-! ### Backslashes -/

/-- Whether a character is an octal digit. -/
def isOctal (c : Char) : Bool :=
  '0' ≤ c && c ≤ '7'

/-- The byte that digits of a radix spell. -/
def byteOf (radix : Nat) (digits : List Char) : UInt8 :=
  UInt8.ofNat ((Number.natural? radix digits).getD 0)

/-- The byte that a letter after a backslash stands for. -/
def escapedByte? (c : Char) : Option UInt8 :=
  [('a', 7), ('b', 8), ('e', 27), ('f', 12), ('n', 10), ('r', 13), ('t', 9), ('v', 11),
    ('\\', (92 : UInt8))].lookup c

/-- The byte that a backslash and the characters after it stand for, and what follows; a backslash
without a meaning stands for itself. -/
def escape (cs : List Char) : UInt8 × List Char :=
  let digits := (cs.take 3).takeWhile isOctal
  if !digits.isEmpty then (byteOf 8 digits, cs.drop digits.length)
  else
    match cs with
    | [] => (92, [])
    | c :: rest =>
      match escapedByte? c with
      | some b => (b, rest)
      | none => (92, cs)

/-- The bytes of a text of at most `fuel` characters with its backslashes read, and whether it goes
on: `\c` ends all output. Octal digits may follow a further zero. -/
def unescape : Nat → List Char → List UInt8 × Bool
  | 0, _ => ([], true)
  | _ + 1, [] => ([], true)
  | fuel + 1, '\\' :: cs =>
    match cs with
    | 'c' :: _ => ([], false)
    | _ =>
      let afterZero := match cs with
        | '0' :: d :: rest => if isOctal d then d :: rest else cs
        | _ => cs
      let (b, rest) := escape afterZero
      let (bytes, goesOn) := unescape fuel rest
      (b :: bytes, goesOn)
  | fuel + 1, c :: cs =>
    let (bytes, goesOn) := unescape fuel cs
    (bytesOf [c] ++ bytes, goesOn)

/-- A text with its backslashes read. -/
def unescaped (s : String) : List UInt8 × Bool :=
  unescape (s.length + 1) s.toList

/-- Prints arguments on a line, with their backslashes read. -/
def echo (arguments : List String) (p : Process) : Process :=
  let silent := arguments.head? == some "-n"
  let words := if silent then arguments.drop 1 else arguments
  let (bytes, goesOn) := unescaped (Text.join " " words)
  (p.write (if goesOn && !silent then bytes ++ [10] else bytes)).answer 0

/-! ### The program that prints its arguments -/

/-- The bytes of a text of at most `fuel` characters with backslashes read as the program reads
them, and whether it goes on. -/
def unescapeMore : Nat → List Char → List UInt8 × Bool
  | 0, _ => ([], true)
  | _ + 1, [] => ([], true)
  | fuel + 1, '\\' :: cs =>
    let continued (b : UInt8) (rest : List Char) : List UInt8 × Bool :=
      let (bytes, goesOn) := unescapeMore fuel rest
      (b :: bytes, goesOn)
    match cs with
    | 'c' :: _ => ([], false)
    | 'x' :: rest =>
      let digits := (rest.take 2).takeWhile (isDigitOf 16)
      if digits.isEmpty then continued 92 cs
      else continued (byteOf 16 digits) (rest.drop digits.length)
    | '0' :: rest =>
      let digits := (rest.take 3).takeWhile isOctal
      continued (byteOf 8 ('0' :: digits)) (rest.drop digits.length)
    | _ =>
      let (b, rest) := escape cs
      continued b rest
  | fuel + 1, c :: cs =>
    let (bytes, goesOn) := unescapeMore fuel cs
    (bytesOf [c] ++ bytes, goesOn)

/-- Whether an argument holds options of the program that prints its arguments. -/
def isEchoOption (a : String) : Bool :=
  match a.toList with
  | '-' :: c :: cs => (c :: cs).all fun c => c == 'n' || c == 'e' || c == 'E'
  | _ => false

/-- Prints arguments on a line; options ask for backslashes to be read or for no line end. -/
def echoProgram (arguments : List String) (p : Process) : Process :=
  let options := (arguments.takeWhile isEchoOption).flatMap fun a => a.toList.drop 1
  let text := Text.join " " (arguments.dropWhile isEchoOption)
  let reads := (options.reverse.find? fun c => c != 'n') == some 'e'
  let (bytes, goesOn) :=
    if reads then unescapeMore (text.length + 1) text.toList else (Text.encode text, true)
  (p.write (if goesOn && !options.contains 'n' then bytes ++ [10] else bytes)).answer 0

/-! ### Directives -/

/-- How a directive lays out its argument. -/
structure Directive where
  /-- The text that it was written as. -/
  text : String
  /-- The signs before its width. -/
  signs : List Char
  /-- The least count of bytes. -/
  width : Nat
  /-- The count of digits or the greatest count of bytes. -/
  precision : Option Nat
  /-- The letter of the conversion. -/
  letter : Char

/-- Pads bytes to a width on one side. -/
def pad (d : Directive) (bytes : List UInt8) : List UInt8 :=
  let blanks := List.replicate (d.width - bytes.length) 32
  if d.signs.contains '-' then bytes ++ blanks else blanks ++ bytes

/-- A number's sign or mark and its digits, padded with zeros where zeros are asked for. -/
def padNumber (d : Directive) (zeros : Bool) (mark digits : List Char) : List UInt8 :=
  if zeros && d.signs.contains '0' && !d.signs.contains '-' then
    let missing := d.width - (mark.length + digits.length)
    bytesOf (mark ++ List.replicate missing '0' ++ digits)
  else pad d (bytesOf (mark ++ digits))

/-- The sign of a number. -/
def signText (d : Directive) (negative : Bool) : List Char :=
  if negative then ['-']
  else if d.signs.contains '+' then ['+']
  else if d.signs.contains ' ' then [' ']
  else []

/-- Digits with zeros in front up to a precision; a zero of precision zero has no digits. -/
def digitsText (d : Directive) (radix n : Nat) : List Char :=
  let digits := if n == 0 && d.precision == some 0 then [] else Nat.toDigits radix n
  List.replicate (d.precision.getD 1 - digits.length) '0' ++ digits

/-- A whole number with a sign. -/
def signedBytes (d : Directive) (n : Int) : List UInt8 :=
  padNumber d d.precision.isNone (signText d (n < 0)) (digitsText d 10 n.natAbs)

/-- A whole number without a sign in the radix of a conversion. -/
def unsignedBytes (d : Directive) (n : Nat) : List UInt8 :=
  let radix := if d.letter == 'o' then 8 else if d.letter == 'u' then 10 else 16
  let digits := digitsText d radix n
  let alternate := d.signs.contains '#'
  let digits :=
    if alternate && d.letter == 'o' && digits.head? != some '0' then '0' :: digits else digits
  let mark := if alternate && radix == 16 && n != 0 then ['0', 'x'] else []
  let upper (cs : List Char) := if d.letter == 'X' then cs.map Char.toUpper else cs
  padNumber d d.precision.isNone (upper mark) (upper digits)

/-- The ratio `a / b` in the way of a conversion. -/
def ratioText (d : Directive) (a b : Nat) : List Char :=
  let places := d.precision.getD 6
  let point := d.signs.contains '#'
  match d.letter.toLower with
  | 'f' => Number.fixedText point places a b
  | 'e' => Number.scientificText point places a b
  | _ => Number.shorterText point places a b

/-- A number with a fraction. -/
def floatBytes (d : Directive) (x : Binary64) : List UInt8 :=
  let upper (cs : List Char) := if d.letter.isUpper then cs.map Char.toUpper else cs
  match x with
  | .finite negative m q =>
    let (a, b) := if 0 ≤ q then (m * Nat.pow 2 q.toNat, 1) else (m, Nat.pow 2 (-q).toNat)
    padNumber d true (signText d negative) (upper (ratioText d a b))
  | .infinite negative => padNumber d false (signText d negative) (upper ['i', 'n', 'f'])
  | .nan => padNumber d false (signText d false) (upper ['n', 'a', 'n'])

/-- The bytes of a text up to a precision. -/
def cutBytes (d : Directive) (bytes : List UInt8) : List UInt8 :=
  match d.precision with
  | some n => bytes.take n
  | none => bytes

/-! ### Arguments -/

/-- What is wrong with an argument that should be a number. -/
inductive ArgumentFault where
  /-- It begins with no number. -/
  | notNumeric (argument : String)
  /-- Something follows the number. -/
  | incomplete (argument : String)
  /-- The number is too large. -/
  | outOfRange (argument : String)
  deriving DecidableEq, Repr

/-- The wording of the shell for a fault of an argument. -/
def ArgumentFault.message : ArgumentFault → String
  | notNumeric a => a ++ ": expected numeric value"
  | incomplete a => a ++ ": not completely converted"
  | outOfRange a => a ++ ": Numerical result out of range"

/-- The wording of the program for a fault of an argument. -/
def ArgumentFault.programMessage : ArgumentFault → String
  | notNumeric a => curlyQuoted a ++ ": expected a numeric value"
  | incomplete a => curlyQuoted a ++ ": value not completely converted"
  | outOfRange a => curlyQuoted a ++ ": Numerical result out of range"

/-- What is left of the arguments, what was printed, and the complaints about arguments. -/
structure Printing where
  /-- The arguments that are left. -/
  arguments : List String
  /-- Whether an argument was asked for. -/
  used : Bool := false
  /-- What was printed. -/
  bytes : List UInt8 := []
  /-- The complaints. -/
  complaints : List ArgumentFault := []
  deriving Inhabited

namespace Printing

/-- Prints bytes. -/
def add (s : Printing) (bytes : List UInt8) : Printing :=
  { s with bytes := s.bytes ++ bytes }

/-- Takes the next argument. -/
def next (s : Printing) : Option String × Printing :=
  (s.arguments.head?, { s with arguments := s.arguments.drop 1, used := true })

/-- Complains. -/
def complain (s : Printing) (fault : ArgumentFault) : Printing :=
  { s with complaints := s.complaints ++ [fault] }

/-- Complains about an argument that is no number as a whole. -/
def check (s : Printing) (argument : String) (found fits : Bool) (rest : List Char) : Printing :=
  if !found then
    if argument.isEmpty then s else s.complain (.notNumeric argument)
  else if !rest.isEmpty then s.complain (.incomplete argument)
  else if !fits then s.complain (.outOfRange argument)
  else s

/-- The code of the byte after a quote at the beginning of an argument. -/
def quotedCode? (argument : String) : Option Nat :=
  match argument.toList with
  | c :: cs =>
    if c == '\"' || c == '\'' then some (((bytesOf cs).head?.map UInt8.toNat).getD 0) else none
  | [] => none

/-- Takes an argument that is a number with a sign. -/
def signed (s : Printing) : Int × Printing :=
  match s.next with
  | (none, s) => (0, s)
  | (some a, s) =>
    match quotedCode? a with
    | some n => (n, s)
    | none =>
      match leadingNumber? true a.toList with
      | some n => (n.value, s.check a true n.fits n.rest)
      | none => (0, s.check a false true [])

/-- Takes an argument that is a number without a sign; a negative one counts from the end. -/
def unsigned (s : Printing) : Nat × Printing :=
  match s.next with
  | (none, s) => (0, s)
  | (some a, s) =>
    match quotedCode? a with
    | some n => (n, s)
    | none =>
      match leadingNumber? true a.toList with
      | some n =>
        let fits := n.exact.natAbs < Nat.pow 2 64
        let value := if fits then (n.exact % Int.pow 2 64).toNat else Nat.pow 2 64 - 1
        (value, s.check a true fits n.rest)
      | none => (0, s.check a false true [])

/-- The number with a fraction that a text begins with, and how many characters spell it. -/
def leadingFloat? (cs : List Char) : Option (Binary64 × Nat) :=
  let lengths := (List.range (cs.length + 1)).reverse
  lengths.findSome? fun n =>
    let part := cs.take n
    let (negative, body) := match part with
      | '-' :: rest => (true, rest)
      | '+' :: rest => (false, rest)
      | rest => (false, rest)
    let word := String.ofList (body.map Char.toLower)
    if word == "inf" || word == "infinity" then some (.infinite negative, n)
    else if word == "nan" then some (.nan, n)
    else
      match body with
      | '0' :: x :: digits =>
        if x == 'x' || x == 'X' then
          (Number.natural? 16 digits).map fun m => (Binary64.ofRatio negative m 1, n)
        else (Number.decimal? negative body).map fun f => (f, n)
      | _ => (Number.decimal? negative body).map fun f => (f, n)

/-- Takes an argument that is a number with a fraction. -/
def float (s : Printing) : Binary64 × Printing :=
  match s.next with
  | (none, s) => (.finite false 0 0, s)
  | (some a, s) =>
    match quotedCode? a with
    | some n => (Binary64.ofRatio false n 1, s)
    | none =>
      let cs := a.toList.dropWhile isAsciiBlank
      match leadingFloat? cs with
      | some (x, n) =>
        let spelled := (cs.take n).any fun c => Number.isDigit c
        (x, s.check a true (x.isFinite || !spelled) (cs.drop n))
      | none => (.finite false 0 0, s.check a false true [])

end Printing

/-! ### Formats -/

/-- Reads the width or the precision of a directive, which may be an argument. -/
def readSize (s : Printing) (cs : List Char) : Int × List Char × Printing :=
  match cs with
  | '*' :: rest =>
    let (n, s) := s.signed
    (n, rest, s)
  | _ =>
    let digits := cs.takeWhile Number.isDigit
    ((Number.natural? 10 digits).getD 0, cs.drop digits.length, s)

/-- Reads a directive after its percent sign; without a letter there is none. -/
def readDirective (s : Printing) (cs : List Char) : Option (Directive × List Char) × Printing :=
  let signs := cs.takeWhile fun c => "#-+ 0".toList.contains c
  let (width, rest, s) := readSize s (cs.drop signs.length)
  let (precision, rest, s) : Option Nat × List Char × Printing := match rest with
    | '.' :: rest =>
      let (n, rest, s) := readSize s rest
      (if 0 ≤ n then some n.toNat else none, rest, s)
    | _ => (none, rest, s)
  match rest with
  | [] => (none, s)
  | letter :: after =>
    let text := String.ofList ('%' :: cs.take (cs.length - after.length))
    let signs := if width < 0 then '-' :: signs else signs
    (some (⟨text, signs, width.natAbs, precision, letter⟩, after), s)

/-- Why printing stops. -/
inductive PrintStop where
  /-- An argument asked for it. -/
  | asked
  /-- The format is at fault. -/
  | fault (text : String)

/-- Prints the next argument by a directive. -/
def printOne (d : Directive) (s : Printing) : Printing × Option PrintStop :=
  match d.letter with
  | 'b' =>
    let (a, s) := s.next
    let (bytes, goesOn) := unescaped (a.getD "")
    (s.add (pad d (cutBytes d bytes)), if goesOn then none else some .asked)
  | 'c' =>
    let (a, s) := s.next
    (s.add (pad d [((Text.encode (a.getD "")).head?).getD 0]), none)
  | 's' =>
    let (a, s) := s.next
    (s.add (pad d (cutBytes d (Text.encode (a.getD "")))), none)
  | letter =>
    if letter == 'd' || letter == 'i' then
      let (n, s) := s.signed
      (s.add (signedBytes d n), none)
    else if "ouxX".toList.contains letter then
      let (n, s) := s.unsigned
      (s.add (unsignedBytes d n), none)
    else if "eEfFgG".toList.contains letter then
      let (x, s) := s.float
      (s.add (floatBytes d x), none)
    else (s, some (.fault (d.text ++ ": invalid directive")))

/-- Goes once through a format of at most `fuel` characters. -/
def printOnce : Nat → List Char → Printing → Printing × Option PrintStop
  | 0, _, s => (s, none)
  | _ + 1, [], s => (s, none)
  | fuel + 1, '%' :: '%' :: cs, s => printOnce fuel cs (s.add [37])
  | fuel + 1, '%' :: cs, s =>
    match readDirective s cs with
    | (none, s) => (s, some (.fault "missing format character"))
    | (some (d, rest), s) =>
      match printOne d s with
      | (s, none) => printOnce fuel rest s
      | stopped => stopped
  | fuel + 1, '\\' :: cs, s =>
    let (b, rest) := escape cs
    printOnce fuel rest (s.add [b])
  | fuel + 1, c :: cs, s => printOnce fuel cs (s.add (bytesOf [c]))

/-- Goes through a format until no argument is left. -/
def printAll (format : List Char) : Nat → Printing → Printing × Option PrintStop
  | 0, s => (s, none)
  | fuel + 1, s =>
    match printOnce (format.length + 1) format { s with used := false } with
    | (s, none) => if s.used && !s.arguments.isEmpty then printAll format fuel s else (s, none)
    | stopped => stopped

/-- Prints arguments in a format. Complaints come before what is printed. -/
def printf (arguments : List String) (p : Process) : Process :=
  let option? : Option Char := match arguments.head?.map String.toList with
    | some ('-' :: c :: cs) => if c == '-' && cs.isEmpty then none else some c
    | _ => none
  let arguments := if arguments.head? == some "--" then arguments.drop 1 else arguments
  match option?, arguments with
  | some c, _ => p.fail ("Illegal option -" ++ String.singleton c)
  | none, [] => p.fail "usage: printf format [arg ...]"
  | none, format :: rest =>
    let (s, stop) := printAll format.toList (rest.length + 1) { arguments := rest }
    let p := s.complaints.foldl (fun p e => p.warn e.message) p
    match stop with
    | some (.fault text) => ((p.warn text).write s.bytes).answer 2
    | _ => (p.write s.bytes).answer (if s.complaints.isEmpty then 0 else 1)

/-- Prints arguments in a format as the program does. -/
def printfProgram (arguments : List String) (p : Process) : Process :=
  match if arguments.head? == some "--" then arguments.drop 1 else arguments with
  | [] => p.rejectUsage 1 "missing operand"
  | format :: rest =>
    let (s, stop) := printAll format.toList (rest.length + 1) { arguments := rest }
    let p := s.complaints.foldl (fun p e => p.report e.programMessage) p
    match stop with
    | some (.fault _) => (p.write s.bytes).reject 1 (format ++ ": invalid conversion specification")
    | _ => (p.write s.bytes).answer (if s.complaints.isEmpty then 0 else 1)

end AgentFleet.Shell.Print
