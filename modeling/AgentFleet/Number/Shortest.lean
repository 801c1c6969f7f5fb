import AgentFleet.Number.Binary64

/-!
# Shortest decimals

The decimal text of a binary64 number: the fewest digits that read back as the
number, of two such decimals the nearer one, of two equally near the even one.
Positional notation covers the exponents from -5 to 15; beyond them the digits
are followed by a power of ten.
-/

namespace AgentFleet.Binary64

/-- The rational numbers that round to `m * 2 ^ q`, over a common denominator. -/
structure Interval where
  /-- The lower end. -/
  low : Nat
  /-- The number itself. -/
  middle : Nat
  /-- The upper end. -/
  high : Nat
  /-- The denominator of all three. -/
  denominator : Nat
  /-- Whether the ends round to the number too. -/
  closed : Bool

/-- The interval of a positive number; below a power of two the neighbour is half as far. -/
def interval (m : Nat) (q : Int) : Interval :=
  let narrow := m == Nat.pow 2 52 && leastExponent < q
  let up (n : Nat) : Nat := if 0 ≤ q - 2 then n * Nat.pow 2 (q - 2).toNat else n
  { low := up (if narrow then 4 * m - 1 else 4 * m - 2)
    middle := up (4 * m)
    high := up (4 * m + 2)
    denominator := if 0 ≤ q - 2 then 1 else Nat.pow 2 (2 - q).toNat
    closed := m % 2 == 0 }

/-- Whether `n / d` lies in the interval. -/
def Interval.contains (i : Interval) (n d : Nat) : Bool :=
  let x := n * i.denominator
  if i.closed then i.low * d ≤ x && x ≤ i.high * d else i.low * d < x && x < i.high * d

/-- The power of ten of the leading digit of `a / b`, found from the estimate `guess`. -/
def leadingPower (a b : Nat) : Int :=
  let reaches (k : Int) : Bool :=
    if 0 ≤ k then b * Nat.pow 10 k.toNat ≤ a else b ≤ a * Nat.pow 10 (-k).toNat
  let guess : Int := (digitCount a : Int) - (digitCount b : Int)
  if reaches guess then guess else guess - 1

/-- The decimal of the grid `10 ^ power` in the interval that is nearest to the middle. -/
def onGrid (i : Interval) (power : Int) : Option Nat :=
  let unit := if 0 ≤ power then Nat.pow 10 power.toNat else 1
  let d := if 0 ≤ power then 1 else Nat.pow 10 (-power).toNat
  let scaledMiddle := i.middle * d
  let step := i.denominator * unit
  let below := scaledMiddle / step
  let rest := scaledMiddle % step
  let inside (n : Nat) : Bool := i.contains (n * unit) d
  match inside below && 0 < below, inside (below + 1) with
  | true, true =>
    if 2 * rest < step then some below
    else if step < 2 * rest then some (below + 1)
    else if below % 2 == 0 then some below else some (below + 1)
  | true, false => some below
  | false, true => some (below + 1)
  | false, false => none

/-- The first grid with a decimal in the interval, coarse grids first. -/
def firstGrid (i : Interval) (lead : Int) : List Nat → Option (Nat × Int)
  | [] => none
  | n :: more =>
    let power := lead - n
    match onGrid i power with
    | some digits => some (digits, power)
    | none => firstGrid i lead more

/-- `digits * 10 ^ power` without trailing zeros among the digits. -/
def withoutTrailingZeros (fuel digits : Nat) (power : Int) : Nat × Int :=
  match fuel with
  | 0 => (digits, power)
  | fuel + 1 =>
    if digits % 10 == 0 && digits != 0 then withoutTrailingZeros fuel (digits / 10) (power + 1)
    else (digits, power)

/-- The digits and the power of ten of the shortest decimal of a positive number. -/
def shortest (m : Nat) (q : Int) : Nat × Int :=
  let i := interval m q
  let lead := leadingPower i.middle i.denominator
  match firstGrid i lead (List.range 18) with
  | some (digits, power) => withoutTrailingZeros 20 digits power
  | none => (m, q)

/-- The decimal text of `digits * 10 ^ power`; `plus` stands before an exponent without a sign. -/
def layout (plus : String) (digits : Nat) (power : Int) : String :=
  let text := Nat.toDigits 10 digits
  let count : Int := text.length
  let point := count + power
  let string := String.ofList text
  let zeros (n : Int) : String := String.ofList (List.replicate n.toNat '0')
  if 0 ≤ power && point ≤ 16 then string ++ zeros power ++ ".0"
  else if 0 < point && point ≤ 16 then
    String.ofList (text.take point.toNat) ++ "." ++ String.ofList (text.drop point.toNat)
  else if -5 < point && point ≤ 0 then "0." ++ zeros (-point) ++ string
  else
    let fraction := text.drop 1
    let mantissa :=
      if fraction.isEmpty then string
      else String.ofList (text.take 1) ++ "." ++ String.ofList fraction
    mantissa ++ "e" ++ (if 0 < point then plus else "") ++ toString (point - 1)

/-- The shortest text that reads back as the number; `plus` stands before an exponent without a
sign. -/
def textWith (plus : String) : Binary64 → String
  | nan => ".nan"
  | infinite negative => if negative then "-.inf" else ".inf"
  | finite negative m q =>
    let sign := if negative then "-" else ""
    if m == 0 then sign ++ "0.0"
    else
      let (digits, power) := shortest m q
      sign ++ layout plus digits power

/-- The text of the number in a document. -/
def text (x : Binary64) : String :=
  x.textWith ""

end AgentFleet.Binary64
