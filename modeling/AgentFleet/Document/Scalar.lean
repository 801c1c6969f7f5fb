import AgentFleet.Document.Value
import AgentFleet.Number.Decimal

/-!
# Plain scalars

What a text without quotes stands for: null, a truth value, an integer, a
floating-point number, or else itself. Integers need no leading zeros and fit
64 bits; a float literal that overflows stays a text.
-/

namespace AgentFleet.Scalar

open Number

/-- The spellings of null. -/
def isNull (s : String) : Bool :=
  s == "null" || s == "Null" || s == "NULL" || s == "~"

/-- The spellings of the truth values. -/
def bool? (s : String) : Option Bool :=
  if s == "true" || s == "True" || s == "TRUE" then some true
  else if s == "false" || s == "False" || s == "FALSE" then some false
  else none

/-- Digits that are no number: several of them, the first a zero, after an optional sign. -/
def isPaddedDigits (cs : List Char) : Bool :=
  let digits := match cs with
    | '-' :: ds => ds
    | '+' :: ds => ds
    | ds => ds
  match digits with
  | '0' :: d :: ds => (d :: ds).all isDigit
  | _ => false

/-- The value of digits after a radix mark, `none` without such a mark or such digits. -/
def marked? (cs : List Char) : Option Nat :=
  match cs with
  | '0' :: 'x' :: ds => natural? 16 ds
  | '0' :: 'o' :: ds => natural? 8 ds
  | '0' :: 'b' :: ds => natural? 2 ds
  | _ => none

/-- The value of digits with or without a radix mark. -/
def magnitude? (cs : List Char) : Option Nat :=
  match marked? cs with
  | some n => some n
  | none => if isPaddedDigits cs then none else natural? 10 cs

/-- The integer that a text spells, of any size. -/
def integer? (s : String) : Option Int :=
  match s.toList with
  | '+' :: cs => (magnitude? cs).map fun n => (n : Int)
  | '-' :: cs => (magnitude? cs).map fun n => -(n : Int)
  | cs => (magnitude? cs).map fun n => (n : Int)

/-- The floating-point number that a text spells; the number that is none takes no sign. -/
def float? (s : String) : Option Binary64 :=
  let unsigned := match s.toList with
    | '+' :: cs => if cs.head? == some '+' || cs.head? == some '-' then none else some cs
    | cs => some cs
  match unsigned with
  | none => none
  | some cs =>
    let t := String.ofList cs
    if t == ".inf" || t == ".Inf" || t == ".INF" then some (.infinite false)
    else if t == "-.inf" || t == "-.Inf" || t == "-.INF" then some (.infinite true)
    else if s == ".nan" || s == ".NaN" || s == ".NAN" then some .nan
    else
      match signedDecimal? cs with
      | some x => if x.isFinite then some x else none
      | none => none

/-- Whether an integer fits the unsigned or the signed range of 64 bits. -/
def fitsWord (n : Int) : Bool :=
  -Int.pow 2 63 ≤ n && n < Int.pow 2 64

/-- Whether an integer fits the unsigned or the signed range of 128 bits. -/
def fitsDoubleWord (n : Int) : Bool :=
  -Int.pow 2 127 ≤ n && n < Int.pow 2 128

/-- The value of a text without quotes; an integer beyond 64 bits but not 128 has none. -/
def resolve? (s : String) : Option Value :=
  if s.isEmpty || isNull s then some .null
  else
    match bool? s with
    | some b => some (.bool b)
    | none =>
      match (integer? s).filter fitsDoubleWord with
      | some n => if fitsWord n then some (.int n) else none
      | none =>
        match if isPaddedDigits s.toList then none else float? s with
        | some x => some (.float x)
        | none => some (.str s)

/-- Whether a text without quotes would be read as something else than itself. -/
def needsQuotes (s : String) : Bool :=
  isPaddedDigits s.toList ||
    match resolve? s with
    | some (.str _) => false
    | _ => true

end AgentFleet.Scalar
