import AgentFleet.Number.Decimal
import AgentFleet.Shell.Process

/-!
# Arithmetic in scripts

The numbers that scripts read, and the expressions between double parentheses. Numbers have 64
bits, and what leaves their range comes back at its other end. An operand whose value is not needed
is read but not evaluated.
-/

namespace AgentFleet.Shell

/-! ### Numbers -/

/-- Whether a character is white space among the characters of ASCII. -/
def isAsciiBlank (c : Char) : Bool :=
  c == ' ' || (9 ≤ c.toNat && c.toNat ≤ 13)

/-- The least number of 64 bits. -/
def leastNumber : Int := -Int.pow 2 63

/-- The greatest number of 64 bits. -/
def greatestNumber : Int := Int.pow 2 63 - 1

/-- The number of 64 bits that a number comes back to. -/
def wrapped (n : Int) : Int :=
  n.bmod (Nat.pow 2 64)

/-- A number that a text begins with. -/
structure LeadingNumber where
  /-- The number. -/
  exact : Int
  /-- What follows it. -/
  rest : List Char

/-- Whether a number has 64 bits. -/
def LeadingNumber.fits (n : LeadingNumber) : Bool :=
  decide (leastNumber ≤ n.exact) && decide (n.exact ≤ greatestNumber)

/-- The number, or the nearest one of 64 bits. -/
def LeadingNumber.value (n : LeadingNumber) : Int :=
  max leastNumber (min greatestNumber n.exact)

/-- Whether a character is a digit of a radix. -/
def isDigitOf (radix : Nat) (c : Char) : Bool :=
  match Number.digitValue? c with
  | some d => d < radix
  | none => false

/-- The radix that a text announces, and what follows the announcement. -/
def announcedRadix (cs : List Char) : Nat × List Char :=
  match cs with
  | '0' :: x :: d :: rest =>
    if (x == 'x' || x == 'X') && isDigitOf 16 d then (16, d :: rest)
    else if (x == 'b' || x == 'B') && isDigitOf 2 d then (2, d :: rest)
    else (8, cs)
  | '0' :: _ => (8, cs)
  | _ => (10, cs)

/-- The number that a text begins with after blanks and a sign; with `announced` it may be binary,
octal or hexadecimal. -/
def leadingNumber? (announced : Bool) (cs : List Char) : Option LeadingNumber :=
  let cs := cs.dropWhile isAsciiBlank
  let negative := cs.head? == some '-'
  let cs := if negative || cs.head? == some '+' then cs.drop 1 else cs
  let (radix, cs) := if announced then announcedRadix cs else (10, cs)
  let digits := cs.takeWhile (isDigitOf radix)
  (Number.natural? radix digits).map fun n =>
    { exact := if negative then -(n : Int) else n, rest := cs.drop digits.length }

/-- The number that a whole text spells, with blanks around it. -/
def wholeNumber? (announced : Bool) (s : String) : Option Int :=
  match leadingNumber? announced s.toList with
  | some n => if n.fits && n.rest.all isAsciiBlank then some n.value else none
  | none => none

/-- The wording for a text that is no number. -/
def illegalNumber (s : String) : String := "Illegal number: " ++ s

/-- The number of an argument that must be one from zero to the greatest of 32 bits. -/
def argumentNumber? (s : String) : Option Nat :=
  match wholeNumber? false s with
  | some n => if 0 ≤ n && n < Int.pow 2 31 then some n.toNat else none
  | none => none

/-! ### Tokens -/

/-- A token of an expression. -/
inductive ArithmeticToken where
  /-- A number. -/
  | number (n : Int)
  /-- The name of a variable. -/
  | name (s : String)
  /-- An operator or a parenthesis. -/
  | operator (s : String)
  /-- A character that has no place in an expression. -/
  | strange
  deriving DecidableEq, Repr

/-- The operators of expressions; of two with a common beginning the longer comes first. -/
def arithmeticOperators : List String :=
  ["<<=", ">>=", "==", "!=", "<=", ">=", "<<", ">>", "&&", "||", "*=", "/=", "%=", "+=", "-=", "&=",
    "^=", "|=", "=", "<", ">", "+", "-", "*", "/", "%", "&", "|", "^", "!", "~", "?", ":", "(", ")"]

/-- The operator that a text begins with. -/
def leadingOperator? (cs : List Char) : Option String :=
  arithmeticOperators.find? fun o => o.toList.isPrefixOf cs

/-- The tokens of an expression, of at most `fuel` tokens. -/
def arithmeticTokens : Nat → List Char → List ArithmeticToken
  | 0, _ => []
  | fuel + 1, cs =>
    match cs.dropWhile fun c => c == ' ' || c == '\t' || c == '\n' with
    | [] => []
    | c :: rest =>
      if Number.isDigit c then
        match leadingNumber? true (c :: rest) with
        | some n => .number n.value :: arithmeticTokens fuel n.rest
        | none => [.strange]
      else if c.isAlpha || c == '_' then
        let word := (c :: rest).takeWhile fun c => c.isAlphanum || c == '_'
        .name (String.ofList word) :: arithmeticTokens fuel ((c :: rest).drop word.length)
      else
        match leadingOperator? (c :: rest) with
        | some o => .operator o :: arithmeticTokens fuel ((c :: rest).drop o.length)
        | none => [.strange]

/-! ### Evaluation -/

/-- Why an expression has no value. -/
inductive ArithmeticFault where
  /-- Something else was expected. -/
  | expecting (what : String)
  /-- Zero is no divisor. -/
  | divisionByZero
  /-- The value of a variable is no number. -/
  | notNumber (value : String)
  /-- A variable must not change. -/
  | fixed (name : String)
  deriving DecidableEq, Repr

/-- The wording of a fault in an expression. -/
def ArithmeticFault.message (source : String) : ArithmeticFault → String
  | expecting what => "arithmetic expression: expecting " ++ what ++ ": \"" ++ source ++ "\""
  | divisionByZero => "arithmetic expression: division by zero: \"" ++ source ++ "\""
  | notNumber value => illegalNumber value
  | fixed name => Process.fixedMessage name

/-- The tokens that are left and the process whose variables an expression uses. -/
structure ArithmeticState where
  /-- The tokens that are left. -/
  tokens : List ArithmeticToken
  /-- The process. -/
  process : Process

/-- A step of the evaluation of an expression. -/
abbrev Evaluation := StateT ArithmeticState (Except ArithmeticFault)

namespace Evaluation

/-- How closely a binary operator binds; the closest have the least number. -/
def level? (o : String) : Option Nat :=
  match o with
  | "*" | "/" | "%" => some 0
  | "+" | "-" => some 1
  | "<<" | ">>" => some 2
  | "<" | "<=" | ">" | ">=" => some 3
  | "==" | "!=" => some 4
  | "&" => some 5
  | "^" => some 6
  | "|" => some 7
  | _ => none

/-- The level above all operators. -/
def outerLevel : Nat := 8

/-- One for what is true, and zero for what is false. -/
def truth (b : Bool) : Int := if b then 1 else 0

/-- Applies a function of bits to two numbers. -/
def bitwise (f : BitVec 64 → BitVec 64 → BitVec 64) (a b : Int) : Int :=
  (f (BitVec.ofInt 64 a) (BitVec.ofInt 64 b)).toInt

/-- How far a number shifts another one. -/
def shift (n : Int) : Nat := (n % 64).toNat

/-- Applies a binary operator. -/
def apply (o : String) (a b : Int) : Except ArithmeticFault Int :=
  match o with
  | "*" => .ok (wrapped (a * b))
  | "/" => if b == 0 then .error .divisionByZero else .ok (wrapped (Int.tdiv a b))
  | "%" => if b == 0 then .error .divisionByZero else .ok (wrapped (Int.tmod a b))
  | "+" => .ok (wrapped (a + b))
  | "-" => .ok (wrapped (a - b))
  | "<<" => .ok (wrapped (a * Int.pow 2 (shift b)))
  | ">>" => .ok (Int.fdiv a (Int.pow 2 (shift b)))
  | "<" => .ok (truth (a < b))
  | "<=" => .ok (truth (a ≤ b))
  | ">" => .ok (truth (b < a))
  | ">=" => .ok (truth (b ≤ a))
  | "==" => .ok (truth (a == b))
  | "!=" => .ok (truth (a != b))
  | "&" => .ok (bitwise (· &&& ·) a b)
  | "^" => .ok (bitwise (· ^^^ ·) a b)
  | _ => .ok (bitwise (· ||| ·) a b)

/-- The binary operator of an operator that assigns; plain assignment has the empty one. -/
def assigning? (o : String) : Option String :=
  if ["=", "*=", "/=", "%=", "+=", "-=", "<<=", ">>=", "&=", "^=", "|="].contains o then
    some (o.dropEnd 1).toString
  else none

/-- The value of a variable; one without a value counts as zero. -/
def valueOf (name : String) : Evaluation Int := do
  let value := ((← get).process.lookup? name).getD ""
  if value.toList.all isAsciiBlank then return 0
  else
    match wholeNumber? true value with
    | some n => return n
    | none => throw (.notNumber value)

/-- Gives a variable a value. -/
def store (name : String) (n : Int) : Evaluation Unit := do
  let s ← get
  let p := s.process.assign name (toString n)
  if p.isOver then throw (.fixed name) else set { s with process := p }

/-- The operator that comes next, if there is one. -/
def upcoming? : Evaluation (Option String) := do
  match (← get).tokens with
  | .operator o :: _ => return some o
  | _ => return none

/-- Passes a token. -/
def skip : Evaluation Unit :=
  modify fun s => { s with tokens := s.tokens.drop 1 }

/-- Passes an operator that must come next. -/
def expect (o : String) : Evaluation Unit := do
  if (← upcoming?) == some o then skip else throw (.expecting ("'" ++ o ++ "'"))

mutual

/-- Evaluates an assignment or a choice; when `quiet`, nothing is assigned. -/
def assignment (quiet : Bool) : Nat → Evaluation Int
  | 0 => return 0
  | fuel + 1 => do
    match (← get).tokens with
    | .name name :: .operator o :: _ =>
      match assigning? o with
      | none => choice quiet fuel
      | some o =>
        skip
        skip
        let n ← assignment quiet fuel
        if quiet then return n
        else
          let n ← if o.isEmpty then pure n else apply o (← valueOf name) n
          store name n
          return n
    | _ => choice quiet fuel
termination_by structural fuel => fuel

/-- Evaluates a condition with what it chooses from. -/
def choice (quiet : Bool) : Nat → Evaluation Int
  | 0 => return 0
  | fuel + 1 => do
    let a ← disjunction quiet fuel
    if (← upcoming?) != some "?" then return a
    else
      skip
      let b ← assignment (quiet || a == 0) fuel
      expect ":"
      let c ← choice (quiet || a != 0) fuel
      return if a != 0 then b else c
termination_by structural fuel => fuel

/-- Evaluates alternatives, up to the first that is true. -/
def disjunction (quiet : Bool) : Nat → Evaluation Int
  | 0 => return 0
  | fuel + 1 => do
    let a ← conjunction quiet fuel
    if (← upcoming?) != some "||" then return a
    else
      skip
      let b ← disjunction (quiet || a != 0) fuel
      return truth (a != 0 || b != 0)
termination_by structural fuel => fuel

/-- Evaluates conditions, up to the first that is false. -/
def conjunction (quiet : Bool) : Nat → Evaluation Int
  | 0 => return 0
  | fuel + 1 => do
    let a ← operand quiet fuel
    let a ← operations quiet a outerLevel fuel
    if (← upcoming?) != some "&&" then return a
    else
      skip
      let b ← conjunction (quiet || a == 0) fuel
      return truth (a != 0 && b != 0)
termination_by structural fuel => fuel

/-- Evaluates the operations below a level on a first operand. -/
def operations (quiet : Bool) (a : Int) (level : Nat) : Nat → Evaluation Int
  | 0 => return a
  | fuel + 1 => do
    match ← upcoming? with
    | none => return a
    | some o =>
      match level? o with
      | none => return a
      | some n =>
        if level ≤ n then return a
        else
          skip
          let b ← operand quiet fuel
          let b ← operations quiet b n fuel
          let a ← if quiet then pure b else apply o a b
          operations quiet a level fuel
termination_by structural fuel => fuel

/-- Evaluates an operand. -/
def operand (quiet : Bool) : Nat → Evaluation Int
  | 0 => return 0
  | fuel + 1 => do
    match (← get).tokens with
    | .number n :: _ =>
      skip
      return n
    | .name name :: _ =>
      skip
      if quiet then return 0 else valueOf name
    | .operator o :: _ =>
      if o == "(" then
        skip
        let n ← assignment quiet fuel
        expect ")"
        return n
      else if o == "+" then
        skip
        operand quiet fuel
      else if o == "-" then
        skip
        return wrapped (-(← operand quiet fuel))
      else if o == "!" then
        skip
        return truth ((← operand quiet fuel) == 0)
      else if o == "~" then
        skip
        return -1 - (← operand quiet fuel)
      else throw (.expecting "primary")
    | _ => throw (.expecting "primary")
termination_by structural fuel => fuel

end

end Evaluation

/-- The value of an expression, with the process after its assignments. -/
def evaluate (p : Process) (source : String) : Except ArithmeticFault (Int × Process) :=
  let tokens := arithmeticTokens (source.length + 1) source.toList
  match (Evaluation.assignment false (8 * tokens.length + 16)).run ⟨tokens, p⟩ with
  | .error e => .error e
  | .ok (n, s) => if s.tokens.isEmpty then .ok (n, s.process) else .error (.expecting "EOF")

end AgentFleet.Shell
