import AgentFleet.Number.Binary64

/-!
# Numbers with a given count of places

A ratio of natural numbers written with a fixed count of places after the point, with a leading
digit and an exponent, or in the shorter of the two ways. A half goes to the even neighbour.
-/

namespace AgentFleet.Number

/-- The digits of a number, with zeros in front up to a count. -/
def paddedDigits (count n : Nat) : List Char :=
  let digits := Nat.toDigits 10 n
  List.replicate (count - digits.length) '0' ++ digits

/-- Digits of which the last `places` follow a point; `point` keeps one that nothing follows. -/
def withPoint (point : Bool) (places : Nat) (digits : List Char) : List Char :=
  let whole := digits.take (digits.length - places)
  let fraction := digits.drop (digits.length - places)
  if fraction.isEmpty && !point then whole else whole ++ '.' :: fraction

/-- `a / b` with a count of places after the point. -/
def fixedText (point : Bool) (places a b : Nat) : List Char :=
  withPoint point places
    (paddedDigits (places + 1) (Binary64.divideToEven (a * Nat.pow 10 places) b))

/-- The power of ten at which `a / b` has one digit before the point. -/
def decimalExponent (a b : Nat) : Int :=
  let guess : Int := (Binary64.digitCount a : Int) - (Binary64.digitCount b : Int)
  let (n, d) :=
    if 0 ≤ guess then (a, b * Nat.pow 10 guess.toNat) else (a * Nat.pow 10 (-guess).toNat, b)
  if n < d then guess - 1 else guess

/-- The digits of `a / b` with one before the point and `places` after it, and the power of ten. -/
def leadingDigits (places a b : Nat) : Nat × Int :=
  if a == 0 then (0, 0)
  else
    let e := decimalExponent a b
    let power := (places : Int) - e
    let digits :=
      if 0 ≤ power then Binary64.divideToEven (a * Nat.pow 10 power.toNat) b
      else Binary64.divideToEven a (b * Nat.pow 10 (-power).toNat)
    if Nat.pow 10 (places + 1) ≤ digits then (digits / 10, e + 1) else (digits, e)

/-- A power of ten as an exponent of at least two digits. -/
def exponentText (e : Int) : List Char :=
  'e' :: (if e < 0 then '-' else '+') :: paddedDigits 2 e.natAbs

/-- `a / b` with one digit before the point, `places` after it, and an exponent. -/
def scientificText (point : Bool) (places a b : Nat) : List Char :=
  let (digits, e) := leadingDigits places a b
  withPoint point places (paddedDigits (places + 1) digits) ++ exponentText e

/-- A text without the zeros at the end of its fraction, and without a point that nothing
follows. -/
def dropZeros (cs : List Char) : List Char :=
  if cs.contains '.' then
    let kept := cs.reverse.dropWhile (· == '0')
    (if kept.head? == some '.' then kept.drop 1 else kept).reverse
  else cs

/-- `a / b` with a count of digits in the shorter of the two ways; `whole` keeps its zeros. -/
def shorterText (whole : Bool) (count a b : Nat) : List Char :=
  let count := max count 1
  let (digits, e) := leadingDigits (count - 1) a b
  if -4 ≤ e && e < count then
    let text := fixedText whole ((count : Int) - 1 - e).toNat a b
    if whole then text else dropZeros text
  else
    let text := withPoint whole (count - 1) (paddedDigits count digits)
    (if whole then text else dropZeros text) ++ exponentText e

end AgentFleet.Number
