import AgentFleet.Number.Decimal

/-!
# Dates and times

The words of a settings file that spell a date, a time of day, or both, perhaps with the
distance from the prime meridian. A date must occur in the calendar.
-/

namespace AgentFleet.Table

open Number

/-- Whether a word has the form of a pattern in which `d` stands for a digit. -/
def hasForm (form : String) (cs : List Char) : Bool :=
  let same (c d : Char) : Bool := if c == 'd' then isDigit d else c == d
  form.length == cs.length && (form.toList.zip cs).all fun e => same e.1 e.2

/-- The number at some digits of a word. -/
def numberAt (cs : List Char) (start count : Nat) : Nat :=
  (natural? 10 ((cs.drop start).take count)).getD 0

/-- Whether a year has a twenty-ninth of February. -/
def isLeapYear (year : Nat) : Bool :=
  year % 4 == 0 && (year % 100 != 0 || year % 400 == 0)

/-- How many days a month has. -/
def daysInMonth (year month : Nat) : Nat :=
  if month == 2 then if isLeapYear year then 29 else 28
  else if [4, 6, 9, 11].contains month then 30
  else 31

/-- Whether a word spells a date. -/
def isDate (cs : List Char) : Bool :=
  let month := numberAt cs 5 2
  let day := numberAt cs 8 2
  hasForm "dddd-dd-dd" cs && 1 ≤ month && month ≤ 12 && 1 ≤ day &&
    day ≤ daysInMonth (numberAt cs 0 4) month

/-- Whether a word spells parts of a second, a point before them. -/
def isSecondFraction (cs : List Char) : Bool :=
  cs.head? == some '.' && 1 < cs.length && (cs.drop 1).all isDigit

/-- Whether a word spells a time of day. -/
def isTime (cs : List Char) : Bool :=
  let fraction := cs.drop 8
  hasForm "dd:dd" (cs.take 5) && numberAt cs 0 2 ≤ 23 && numberAt cs 3 2 ≤ 59 &&
    (cs.length == 5 || (hasForm ":dd" ((cs.drop 5).take 3) && numberAt cs 6 2 ≤ 60 &&
      (fraction.isEmpty || isSecondFraction fraction)))

/-- Whether a word spells a distance from the prime meridian, of a day at most. -/
def isZone (cs : List Char) : Bool :=
  let hours := numberAt cs 1 2
  let minutes := numberAt cs 4 2
  cs == ['Z'] || cs == ['z'] ||
    ((hasForm "+dd:dd" cs || hasForm "-dd:dd" cs) && minutes ≤ 59 &&
      hours * 60 + minutes ≤ 24 * 60)

/-- Whether a word spells a time of day, perhaps with its distance from the prime meridian. -/
def isZonedTime (cs : List Char) : Bool :=
  let time := cs.takeWhile fun c => isDigit c || c == ':' || c == '.'
  let zone := cs.drop time.length
  isTime time && (zone.isEmpty || isZone zone)

/-- Whether a word spells a date, a time, or both. -/
def isMoment (cs : List Char) : Bool :=
  let separator := (cs.drop 10).head?
  isTime cs || (isDate (cs.take 10) && (cs.length == 10 ||
    ((separator == some 'T' || separator == some 't' || separator == some ' ') &&
      isZonedTime (cs.drop 11))))

end AgentFleet.Table
