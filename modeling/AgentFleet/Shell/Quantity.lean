import AgentFleet.Shell.Arithmetic
import AgentFleet.Shell.Quoted

/-!
# Quantities

How many lines, bytes or fields an argument asks for: decimal digits, and for some programs a
letter that multiplies them. A letter alone stands for one of its units. Quantities have 64 bits.
-/

namespace AgentFleet.Shell

/-- Why a text is no quantity. -/
inductive QuantityFault where
  /-- It is no number, or something strange follows. -/
  | strange
  /-- It is too large. -/
  | tooLarge
  deriving DecidableEq, Repr

/-- What a program says of a text that is no quantity. -/
def QuantityFault.words (s : String) : QuantityFault → String
  | strange => curlyQuoted s
  | tooLarge => curlyQuoted s ++ ": Value too large for defined data type"

/-- The powers that letters stand for. -/
def unitPowers : List (Char × Nat) :=
  [('k', 1), ('K', 1), ('M', 2), ('m', 2), ('G', 3), ('T', 4), ('P', 5), ('E', 6), ('Z', 7),
    ('Y', 8), ('R', 9), ('Q', 10)]

/-- What a unit multiplies by. Powers are those of 1024, or with a further letter those of 1000. -/
def unit? (cs : List Char) : Option Nat :=
  match cs with
  | [] => some 1
  | ['b'] => some 512
  | [c] => (unitPowers.lookup c).map fun n => Nat.pow 1024 n
  | [c, 'i', 'B'] => (unitPowers.lookup c).map fun n => Nat.pow 1024 n
  | [c, 'B'] | [c, 'D'] => (unitPowers.lookup c).map fun n => Nat.pow 1000 n
  | _ => none

/-- The quantity that a text spells; with `units` a letter may multiply it. -/
def quantity (units : Bool) (s : String) : Except QuantityFault Nat :=
  let cs := s.toList.dropWhile isAsciiBlank
  let signless := if cs.head? == some '+' then cs.drop 1 else cs
  let digits := signless.takeWhile Number.isDigit
  let rest := signless.drop digits.length
  match Number.natural? 10 digits, if units then unit? rest else if rest.isEmpty then some 1 else none with
  | some n, some u => if n * u < Nat.pow 2 64 then .ok (n * u) else .error .tooLarge
  | none, some u =>
    if units && !s.isEmpty && signless == s.toList && u < Nat.pow 2 64 then .ok u
    else .error .strange
  | _, none => .error .strange

end AgentFleet.Shell
