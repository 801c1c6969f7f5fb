import AgentFleet.Shell.Arithmetic
import AgentFleet.Shell.System

/-!
# Tests

The expressions that scripts test: properties of files and texts, comparisons, and their
combinations. A word is an operator only where its neighbours leave it no other role.
-/

namespace AgentFleet.Shell.Test

/-- The roles of operators. -/
inductive Role where
  /-- Before one operand. -/
  | unary
  /-- Between two operands. -/
  | binary
  /-- Between two expressions, or before one. -/
  | joint
  deriving DecidableEq, Repr

/-- The role of a word that is an operator. -/
def role? (s : String) : Option Role :=
  if ["-r", "-w", "-x", "-e", "-f", "-d", "-c", "-b", "-p", "-u", "-g", "-k", "-s", "-t", "-z",
      "-n", "-h", "-L", "-O", "-G", "-S"].contains s then some .unary
  else if ["=", "!=", "<", ">", "-eq", "-ne", "-ge", "-gt", "-le", "-lt", "-nt", "-ot",
      "-ef"].contains s then some .binary
  else if ["!", "-a", "-o", "(", ")"].contains s then some .joint
  else none

/-- Whether a word before others is an operand although it could be a unary operator. -/
def isOperand (rest : List String) : Bool :=
  match rest with
  | [] => true
  | [_] => false
  | s :: _ => role? s == some .binary

/-- The operator that words begin with, in its place. -/
def operator? : List String → Option (String × Role)
  | [] => none
  | s :: rest =>
    match role? s with
    | none => none
    | some r =>
      if r == .unary && isOperand rest then none
      else if s == "(" && rest.isEmpty then none
      else some (s, r)

/-- Whether words begin with a certain operator. -/
def beginsWith (s : String) (words : List String) : Bool :=
  (operator? words).map Prod.fst == some s

/-- Why a test cannot be decided. -/
inductive Fault where
  /-- A word stands where an operator should. -/
  | unexpected (word : String)
  /-- An operator lacks an operand. -/
  | lacksOperand (operator : String)
  /-- A parenthesis is not closed. -/
  | unclosed
  /-- A word is no number. -/
  | notNumber (word : String)
  deriving DecidableEq, Repr

/-- A complaint about a word, which is left out when it is empty. -/
def about (word text : String) : String :=
  if word.isEmpty then text else word ++ ": " ++ text

/-- The wording of a fault. -/
def Fault.message : Fault → String
  | unexpected word => about word "unexpected operator"
  | lacksOperand operator => about operator "argument expected"
  | unclosed => "closing paren expected"
  | notNumber word => illegalNumber word

/-- The number that a word spells. -/
def number (s : String) : Except Fault Int :=
  match wholeNumber? false s with
  | some n => .ok n
  | none => .error (.notNumber s)

/-- Compares two numbers. -/
def compareNumbers (a b : String) (holds : Int → Int → Bool) : Except Fault Bool := do
  let m ← number a
  let n ← number b
  return holds m n

/-- Whether two paths lead to the same place. -/
def sameFile (p : Process) (a b : String) : Bool :=
  match p.files.find a, p.files.find b with
  | .ok (l, _), .ok (m, _) => l == m
  | _, _ => false

/-- Decides a binary operator. -/
def decideBinary (p : Process) (a operator b : String) : Except Fault Bool :=
  match operator with
  | "=" => .ok (a == b)
  | "!=" => .ok (a != b)
  | "<" => .ok (decide (a < b))
  | ">" => .ok (decide (b < a))
  | "-eq" => compareNumbers a b fun m n => m == n
  | "-ne" => compareNumbers a b fun m n => m != n
  | "-ge" => compareNumbers a b fun m n => n ≤ m
  | "-gt" => compareNumbers a b fun m n => n < m
  | "-le" => compareNumbers a b fun m n => m ≤ n
  | "-lt" => compareNumbers a b fun m n => m < n
  | "-ef" => .ok (sameFile p a b)
  | _ => .ok false

/-- Decides a property of what is behind a path. -/
def decideFile (operator : String) (kind : PathKind) : Bool :=
  match operator with
  | "-f" => match kind with
    | .file _ | .program => true
    | _ => false
  | "-d" => kind == .directory
  | "-c" => kind == .device
  | "-s" => match kind with
    | .file size => 0 < size
    | .device => false
    | _ => true
  | "-x" => match kind with
    | .directory | .program => true
    | _ => false
  | "-b" | "-p" | "-u" | "-g" | "-k" | "-h" | "-L" | "-S" => false
  | _ => true

/-- Decides a unary operator. -/
def decideUnary (p : Process) (operator s : String) : Except Fault Bool :=
  match operator with
  | "-z" => .ok s.isEmpty
  | "-n" => .ok (!s.isEmpty)
  | "-t" => (number s).map fun _ => false
  | _ =>
    match p.kindAt s with
    | .ok kind => .ok (decideFile operator kind || (operator == "-x" && (p.runnable? s).isSome))
    | .error _ => .ok false

/-- The value of a part of a test, and the words from the last one that it took. -/
abbrev Decision := Except Fault (Bool × List String)

mutual

/-- Decides alternatives. -/
def alternatives (p : Process) : Nat → List String → Decision
  | 0, words => .ok (false, words)
  | fuel + 1, words => do
    let (a, rest) ← conditions p fuel words
    if beginsWith "-o" (rest.drop 1) then
      let (b, rest) ← alternatives p fuel (rest.drop 2)
      return (a || b, rest)
    else return (a, rest)
termination_by structural fuel => fuel

/-- Decides conditions that must all hold. -/
def conditions (p : Process) : Nat → List String → Decision
  | 0, words => .ok (false, words)
  | fuel + 1, words => do
    let (a, rest) ← negation p fuel words
    if beginsWith "-a" (rest.drop 1) then
      let (b, rest) ← conditions p fuel (rest.drop 2)
      return (a && b, rest)
    else return (a, rest)
termination_by structural fuel => fuel

/-- Decides a condition that may be negated. -/
def negation (p : Process) : Nat → List String → Decision
  | 0, words => .ok (false, words)
  | fuel + 1, words =>
    if !beginsWith "!" words then primary p (operator? words) fuel words
    else
      match words.drop 1 with
      | [] => .ok (true, words)
      | rest => do
        let (a, rest) ← negation p fuel rest
        return (!a, rest)
termination_by structural fuel => fuel

/-- Decides a single condition, whose first word may be an operator. -/
def primary (p : Process) (operator : Option (String × Role)) : Nat → List String → Decision
  | 0, words => .ok (false, words)
  | _ + 1, [] => .ok (false, [])
  | fuel + 1, word :: rest =>
    match operator with
    | some ("(", _) =>
      if beginsWith ")" rest then .ok (false, rest)
      else do
        let (a, rest) ← alternatives p fuel rest
        if beginsWith ")" (rest.drop 1) then return (a, rest.drop 1) else throw .unclosed
    | some (o, .unary) =>
      match rest with
      | [] => .error (.lacksOperand o)
      | s :: _ => (decideUnary p o s).map fun a => (a, rest)
    | _ =>
      match operator? rest with
      | some (o, .binary) =>
        match rest.drop 1 with
        | [] => .error (.lacksOperand o)
        | s :: more => (decideBinary p word o s).map fun a => (a, s :: more)
      | _ => .ok (!word.isEmpty, word :: rest)
termination_by structural fuel => fuel

end

/-- Decides words without a rule for their number. -/
def decideWords (p : Process) (words : List String) : Except Fault Bool := do
  let (a, rest) ← alternatives p (4 * words.length + 8) words
  match rest with
  | word :: _ :: _ => throw (.unexpected word)
  | _ => return a

/-- Decides the words of a test; three and four words have rules of their own. -/
def decideTest (p : Process) : List String → Except Fault Bool
  | [] => .ok false
  | [a, o, b] =>
    if role? o == some .binary then decideBinary p a o b
    else if a == "(" && b == ")" then decideWords p [o]
    else if a == "!" then (decideTest p [o, b]).map not
    else decideWords p [a, o, b]
  | [a, b, c, d] =>
    if a == "(" && d == ")" then decideWords p [b, c]
    else if a == "!" then (decideTest p [b, c, d]).map not
    else decideWords p [a, b, c, d]
  | words => decideWords p words

/-- Decides a test. -/
def run (arguments : List String) (p : Process) : Process :=
  match decideTest p arguments with
  | .ok b => p.answer (if b then 0 else 1)
  | .error e => (p.warn e.message).answer 2

/-- Decides a test whose last word closes a bracket. -/
def runBracket (arguments : List String) (p : Process) : Process :=
  if arguments.getLast? == some "]" then run arguments.dropLast p
  else (p.warn "missing ]").answer 2

end AgentFleet.Shell.Test
