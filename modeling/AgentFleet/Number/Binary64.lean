/-!
# Binary floating-point numbers

Numbers of the IEEE 754 format binary64 as exact values: a significand times a
power of two. They arise by rounding a decimal to the nearest number of the
format, and are written with the fewest decimal digits that read back.
-/

namespace AgentFleet

/-- A binary64 number; `finite negative m q` is `m * 2 ^ q`, negated when `negative`. -/
inductive Binary64 where
  /-- Not a number. -/
  | nan
  /-- An infinity. -/
  | infinite (negative : Bool)
  /-- A finite number, a signed zero included. -/
  | finite (negative : Bool) (significand : Nat) (exponent : Int)
  deriving DecidableEq, Repr, Inhabited

namespace Binary64

/-- The least exponent of the format. -/
def leastExponent : Int := -1074

/-- The greatest exponent of the format. -/
def greatestExponent : Int := 971

/-- The quotient nearest to `a / b`, an exact half going to the even neighbour. -/
def divideToEven (a b : Nat) : Nat :=
  let q := a / b
  let twice := 2 * (a % b)
  if twice < b then q
  else if b < twice then q + 1
  else if q % 2 == 0 then q else q + 1

/-- `a / (b * 2 ^ e)` as a pair of natural numbers. -/
def scaled (a b : Nat) (e : Int) : Nat × Nat :=
  if 0 ≤ e then (a, b * Nat.pow 2 e.toNat) else (a * Nat.pow 2 (-e).toNat, b)

/-- The exponent at which `a / b` has a significand of 53 bits, or the least exponent. -/
def exponentOf (a b : Nat) : Int :=
  let guess : Int := (Nat.log2 a : Int) - (Nat.log2 b : Int) - 52
  let (n, d) := scaled a b guess
  let e :=
    if n < d * Nat.pow 2 52 then guess - 1
    else if d * Nat.pow 2 53 ≤ n then guess + 1
    else guess
  max e leastExponent

/-- The number nearest to `a / b`, negated when `negative`; too large ones are infinite. -/
def ofRatio (negative : Bool) (a b : Nat) : Binary64 :=
  if a == 0 then finite negative 0 leastExponent
  else
    let e := exponentOf a b
    let (n, d) := scaled a b e
    let m := divideToEven n d
    let (m, e) := if m == Nat.pow 2 53 then (Nat.pow 2 52, e + 1) else (m, e)
    if greatestExponent < e then infinite negative else finite negative m e

/-- How many decimal digits a natural number has. -/
def digitCount (n : Nat) : Nat :=
  (Nat.toDigits 10 n).length

/-- The number nearest to `digits * 10 ^ power`, negated when `negative`. -/
def ofDecimal (negative : Bool) (digits : Nat) (power : Int) : Binary64 :=
  if digits == 0 then finite negative 0 leastExponent
  else if 310 < (digitCount digits : Int) + power then infinite negative
  else if (digitCount digits : Int) + power < -400 then finite negative 0 leastExponent
  else if 0 ≤ power then ofRatio negative (digits * Nat.pow 10 power.toNat) 1
  else ofRatio negative digits (Nat.pow 10 (-power).toNat)

/-- Whether two numbers have the same value; all that is not a number counts as one value. -/
def same : Binary64 → Binary64 → Bool
  | nan, nan => true
  | infinite a, infinite b => a == b
  | finite a m q, finite b n r => (m == 0 && n == 0) || (a == b && m == n && q == r)
  | _, _ => false

/-- Whether the number is neither infinite nor undefined. -/
def isFinite : Binary64 → Bool
  | finite _ _ _ => true
  | _ => false

end Binary64

end AgentFleet
