import AgentFleet.Shell.Lines
import AgentFleet.Shell.Print

/-!
# Sequences of numbers

The program that prints the numbers of a range. Numbers are decimals and are added exactly; they
are printed with as many places as their first number and their step have.
-/

namespace AgentFleet.Shell.Sequence

/-- A number that an argument spells. -/
structure Spelled where
  /-- The number times a power of ten. -/
  digits : Int
  /-- The power. -/
  places : Nat
  /-- How many places it was written with. -/
  precision : Nat
  /-- How many characters it was written with. -/
  width : Int
  deriving DecidableEq, Repr

/-- The number that a text spells: a decimal with an exponent, or a whole number of radix 16. -/
def spelled? (s : String) : Option Spelled :=
  let cs := s.toList.dropWhile isAsciiBlank
  let cs := if cs.head? == some '+' then cs.drop 1 else cs
  let negative := cs.head? == some '-'
  let body := if negative then cs.drop 1 else cs
  let sign (n : Nat) : Int := if negative then -(n : Int) else n
  match body with
  | '0' :: x :: digits =>
    if x == 'x' || x == 'X' then
      (Number.natural? 16 digits).map fun n => ⟨sign n, 0, 0, 0⟩
    else decimal cs.length sign body
  | _ => decimal cs.length sign body
where
  /-- A decimal, written with `length` characters. -/
  decimal (length : Nat) (sign : Nat → Int) (body : List Char) : Option Spelled := do
    let whole := body.takeWhile Number.isDigit
    let rest := body.drop whole.length
    let point := rest.head? == some '.'
    let fraction := if point then (rest.drop 1).takeWhile Number.isDigit else []
    let rest := if point then rest.drop (1 + fraction.length) else rest
    let n ← Number.natural? 10 (whole ++ fraction)
    let width : Int := if !point then length
      else if fraction.isEmpty then (length : Int) - 1
      else if whole.isEmpty then length + 1 else length
    match rest with
    | [] => return ⟨sign n, fraction.length, fraction.length, width⟩
    | e :: more =>
      if e != 'e' && e != 'E' then none
      else
        let power ← Number.exponent? more
        let width := width - rest.length
        if 400 < power.natAbs then none
        else if power < 0 then
          let extra := if !point || fraction.isEmpty then 1 else 0
          return ⟨sign n, fraction.length + power.natAbs, fraction.length + power.natAbs,
            width + extra + power.natAbs⟩
        else
          let precision := fraction.length - power.toNat
          let point := if point && precision == 0 && !fraction.isEmpty then 1 else 0
          return ⟨sign n * Int.pow 10 power.toNat, fraction.length, precision,
            width - point + (power.toNat - fraction.length : Nat)⟩

/-- How numbers are laid out. -/
structure Layout where
  /-- What comes before a number. -/
  before : String := ""
  /-- How the number is printed. -/
  directive : Print.Directive
  /-- What comes after it. -/
  after : String := ""

/-- A number times a power of ten in a layout. -/
def Layout.text (l : Layout) (places : Nat) (n : Int) : List UInt8 :=
  let d := l.directive
  let digits := Print.ratioText d n.natAbs (Nat.pow 10 places)
  let digits := if d.letter.isUpper then digits.map Char.toUpper else digits
  Text.encode l.before ++ Print.padNumber d true (Print.signText d (n < 0)) digits ++
    Text.encode l.after

/-- The characters of a format with its doubled percent signs, up to a single one. -/
def literal : List Char → List Char × List Char
  | '%' :: '%' :: cs => let (t, rest) := literal cs; ('%' :: t, rest)
  | '%' :: cs => ([], '%' :: cs)
  | c :: cs => let (t, rest) := literal cs; (c :: t, rest)
  | [] => ([], [])

/-- The layout that a format asks for, with one directive for the number. -/
def layoutOf (format : String) : Except String Layout := do
  let (before, rest) := literal format.toList
  let fault (what : String) : String := "format " ++ curlyQuoted format ++ " " ++ what
  match rest with
  | [] => throw (fault "has no % directive")
  | _ :: cs =>
    let signs := cs.takeWhile fun c => "-+#0 '".toList.contains c
    let cs := cs.drop signs.length
    let width := cs.takeWhile Number.isDigit
    let cs := cs.drop width.length
    let hasPrecision := cs.head? == some '.'
    let precision := if hasPrecision then (cs.drop 1).takeWhile Number.isDigit else []
    let cs := if hasPrecision then cs.drop (1 + precision.length) else cs
    let cs := if cs.head? == some 'L' then cs.drop 1 else cs
    match cs with
    | [] => throw (fault "ends in %")
    | letter :: more =>
      if !"aAeEfFgG".toList.contains letter then
        throw (fault ("has unknown %" ++ String.singleton letter ++ " directive"))
      let (after, rest) := literal more
      if !rest.isEmpty then throw (fault "has too many % directives")
      let number (ds : List Char) : Nat := (Number.natural? 10 ds).getD 0
      return ⟨String.ofList before,
        ⟨format, signs, number width, if hasPrecision then some (number precision) else none, letter⟩,
        String.ofList after⟩

/-- The layout for numbers without a format; with `equal` all numbers are equally wide. -/
def defaultLayout (equal : Bool) (first step last : Spelled) : Layout :=
  let precision := max first.precision step.precision
  let point (s : Spelled) : Int :=
    if s.precision == 0 && precision != 0 then 1 else 0
  let widthOf (s : Spelled) : Int := s.width + ((precision : Int) - s.precision) + point s
  let lastWidth := widthOf last - if last.precision != 0 && precision == 0 then 1 else 0
  let width := if equal then (max (widthOf first) lastWidth).toNat else 0
  { directive := ⟨"", if equal then ['0'] else [], width, some precision, 'f'⟩ }

/-- The options of the program that prints ranges. -/
def options : OptionTable where
  flags := ['w']
  valued := ['s', 'f']
  names := [("separator", 's'), ("equal-width", 'w'), ("format", 'f')]
  anywhere := false

/-- Whether an argument is a negative number, and so no option. -/
def isNegative (a : String) : Bool :=
  match a.toList with
  | '-' :: c :: _ => Number.isDigit c || c == '.'
  | _ => false

/-- Prints the numbers of a range. -/
def print (c : Chosen) (first step last : Spelled) (p : Process) : Process :=
  let format : Except String Layout := match c.value? 'f' with
    | some f => layoutOf f
    | none => .ok (defaultLayout (c.has 'w') first step last)
  match format with
  | .error e => p.reject 1 e
  | .ok layout =>
    let places := max first.places (max step.places last.places)
    let scaled (s : Spelled) : Int := s.digits * Int.pow 10 (places - s.places)
    let (a, d, b) := (scaled first, scaled step, scaled last)
    let count := if 0 < d then (b - a) / d + 1 else (a - b) / (-d) + 1
    let values := (List.range count.toNat).map fun (n : Nat) => a + d * n
    let texts := values.map (layout.text places)
    let separator := Text.encode ((c.value? 's').getD "\n")
    (p.answer 0).write (if texts.isEmpty then [] else joinBytes separator texts ++ [10])

/-- Prints ranges of numbers. -/
def run (arguments : List String) (p : Process) : Process :=
  let before := arguments.takeWhile fun a => !isNegative a
  let rest := arguments.dropWhile fun a => !isNegative a
  p.withOptions options 1 before fun c =>
    let operands := c.operands ++ rest
    let one : Spelled := ⟨1, 0, 0, 1⟩
    let number (s : String) : Except String Spelled :=
      match spelled? s with
      | some n => .ok n
      | none =>
        if (s.toList.filter fun c => c != '-' && c != '+').map Char.toLower == ['n', 'a', 'n'] then
          .error ("invalid ‘not-a-number’ argument: " ++ curlyQuoted s)
        else .error ("invalid floating point argument: " ++ curlyQuoted s)
    if operands.isEmpty then FileTools.missing p "operand"
    else if 3 < operands.length then
      p.rejectUsage 1 ("extra operand " ++ curlyQuoted (operands.getD 3 ""))
    else
      let format := (c.value? 'f').map layoutOf
      match format with
      | some (.error e) => p.reject 1 e
      | _ =>
        if (c.value? 'f').isSome && c.has 'w' then
          p.rejectUsage 1 "format string may not be specified when printing equal width strings"
        else
          match operands.mapM number with
          | .error e => p.rejectUsage 1 e
          | .ok [last] => print c one one last p
          | .ok [first, last] => print c first one last p
          | .ok [first, step, last] =>
            if step.digits == 0 then
              p.rejectUsage 1 ("invalid Zero increment value: " ++
                curlyQuoted (operands.getD 1 ""))
            else print c first step last p
          | .ok _ => p

end AgentFleet.Shell.Sequence
