import AgentFleet.Number.Binary64

/-!
# Reading numbers

Digits of a radix, and decimal numbers with a fraction and an exponent, read as
exact integers or as the nearest binary64 number.
-/

namespace AgentFleet.Number

/-- The value of a digit or letter as a digit of some radix up to 36. -/
def digitValue? (c : Char) : Option Nat :=
  if '0' ≤ c && c ≤ '9' then some (c.toNat - 48)
  else if 'a' ≤ c && c ≤ 'z' then some (c.toNat - 87)
  else if 'A' ≤ c && c ≤ 'Z' then some (c.toNat - 55)
  else none

/-- The value of a run of digits after `value`, refused when a character is no digit. -/
def digitsFrom (radix value : Nat) : List Char → Option Nat
  | [] => some value
  | c :: cs =>
    match digitValue? c with
    | some d => if d < radix then digitsFrom radix (value * radix + d) cs else none
    | none => none

/-- The value of a non-empty run of digits. -/
def natural? (radix : Nat) (cs : List Char) : Option Nat :=
  if cs.isEmpty then none else digitsFrom radix 0 cs

/-- Whether a character is a decimal digit. -/
def isDigit (c : Char) : Bool :=
  '0' ≤ c && c ≤ '9'

/-- A decimal exponent: an optional sign and digits. -/
def exponent? (cs : List Char) : Option Int :=
  match cs with
  | '-' :: ds => (natural? 10 ds).map fun n => -(n : Int)
  | '+' :: ds => (natural? 10 ds).map fun n => (n : Int)
  | ds => (natural? 10 ds).map fun n => (n : Int)

/-- An unsigned decimal with a digit before or after the point and an optional exponent. -/
def decimal? (negative : Bool) (cs : List Char) : Option Binary64 :=
  let whole := cs.takeWhile isDigit
  let rest := cs.dropWhile isDigit
  let (fraction, rest) :=
    match rest with
    | '.' :: ds => (ds.takeWhile isDigit, ds.dropWhile isDigit)
    | _ => ([], rest)
  match natural? 10 (whole ++ fraction) with
  | none => none
  | some digits =>
    let power : Int := -(fraction.length : Int)
    match rest with
    | [] => some (Binary64.ofDecimal negative digits power)
    | e :: ds =>
      if e == 'e' || e == 'E' then
        (exponent? ds).map fun n => Binary64.ofDecimal negative digits (power + n)
      else none

/-- A decimal number with an optional sign. -/
def signedDecimal? (cs : List Char) : Option Binary64 :=
  match cs with
  | '-' :: ds => decimal? true ds
  | '+' :: ds => decimal? false ds
  | ds => decimal? false ds

end AgentFleet.Number
