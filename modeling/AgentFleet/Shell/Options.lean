import AgentFleet.Shell.Process
import AgentFleet.Shell.Quoted

/-!
# Options of programs

Arguments that begin with a dash choose options, by letters or by long names. Some options take a
value: what follows the letter in its argument, or else the next argument. Options may also stand
after operands, unless the program takes all that follows its first operand as it stands. A program
may refuse an option as soon as it is read, so that of two faults the first one is told.
-/

namespace AgentFleet.Shell

/-- Why arguments are refused. -/
inductive OptionFault where
  /-- There is no option of the letter. -/
  | invalid (letter : Char)
  /-- An option lacks its value. -/
  | lacksValue (letter : Char)
  /-- There is no option of the name. -/
  | unrecognized (argument : String)
  /-- Several options have names that begin so. -/
  | ambiguous (argument : String) (names : List String)
  /-- An option of a name has no value. -/
  | allowsNoValue (name : String)
  /-- An option of a name lacks its value. -/
  | nameLacksValue (name : String)
  /-- The program refuses an option in some words; `points` says that it points to its usage. -/
  | refused (points : Bool) (words : String)
  deriving DecidableEq, Repr

/-- The options and the operands that arguments spell. -/
structure Chosen where
  /-- The letters in their order, with their values. -/
  options : List (Char × String) := []
  /-- The operands. -/
  operands : List String := []

/-- The options that a program knows. -/
structure OptionTable where
  /-- The letters of options without a value. -/
  flags : List Char := []
  /-- The letters of options with a value. -/
  valued : List Char := []
  /-- Long names with the letters that they stand for. -/
  names : List (String × Char) := []
  /-- Whether options may follow operands. -/
  anywhere : Bool := true
  /-- Why an option with its value is refused after those that were read before it. -/
  refusal : Chosen → Char → String → Option OptionFault := fun _ _ _ => none

/-- No options, before operands that are taken as they stand. -/
def OptionTable.leading : OptionTable where
  anywhere := false

namespace Chosen

/-- Whether an option was chosen. -/
def has (c : Chosen) (letter : Char) : Bool :=
  c.options.any fun o => o.1 == letter

/-- The last value of an option. -/
def value? (c : Chosen) (letter : Char) : Option String :=
  (c.options.reverse.find? fun o => o.1 == letter).map Prod.snd

/-- The last of some options that was chosen. -/
def last? (c : Chosen) (letters : List Char) : Option Char :=
  (c.options.reverse.find? fun o => letters.contains o.1).map Prod.fst

/-- The choice with a further operand. -/
def withOperand (c : Chosen) (operand : String) : Chosen :=
  { c with operands := c.operands ++ [operand] }

end Chosen

/-- The wording for refused arguments. -/
def OptionFault.message : OptionFault → String
  | invalid c => "invalid option -- '" ++ String.singleton c ++ "'"
  | lacksValue c => "option requires an argument -- '" ++ String.singleton c ++ "'"
  | unrecognized s => "unrecognized option '" ++ s ++ "'"
  | ambiguous s names =>
    "option '" ++ s ++ "' is ambiguous; possibilities:" ++
      String.join (names.map fun n => " '--" ++ n ++ "'")
  | allowsNoValue n => "option '--" ++ n ++ "' doesn't allow an argument"
  | nameLacksValue n => "option '--" ++ n ++ "' requires an argument"
  | refused _ s => s

/-- Whether the program points to its usage after a fault. -/
def OptionFault.pointsToUsage : OptionFault → Bool
  | refused points _ => points
  | _ => true

namespace OptionTable

/-- The choice with a further option, unless the program refuses it. -/
def choose (t : OptionTable) (c : Chosen) (letter : Char) (value : String) :
    Except OptionFault Chosen :=
  match t.refusal c letter value with
  | some fault => .error fault
  | none => .ok { c with options := c.options ++ [(letter, value)] }

/-- Reads the letters of one argument; the answer also says whether the next one is a value. -/
def letters (t : OptionTable) (next : Option String) (c : Chosen) :
    List Char → Except OptionFault (Chosen × Bool)
  | [] => .ok (c, false)
  | l :: ls =>
    if t.flags.contains l then do t.letters next (← t.choose c l "") ls
    else if t.valued.contains l then
      if !ls.isEmpty then do return (← t.choose c l (String.ofList ls), false)
      else
        match next with
        | some value => do return (← t.choose c l value, true)
        | none => .error (.lacksValue l)
    else .error (.invalid l)

/-- Finds the option of a long name or of its beginning. -/
def named? (t : OptionTable) (argument name : String) : Except OptionFault (String × Char) :=
  match t.names.find? fun n => n.1 == name with
  | some n => .ok n
  | none =>
    let found := t.names.filter fun n => n.1.startsWith name
    match found with
    | [] => .error (.unrecognized argument)
    | n :: others =>
      if others.all fun o => o.2 == n.2 then .ok n
      else .error (.ambiguous argument (found.map Prod.fst))

/-- Reads an argument that begins with two dashes; the answer also says whether the next one is a
value. -/
def long (t : OptionTable) (next : Option String) (argument : String) :
    Except OptionFault ((Char × String) × Bool) :=
  let text := (argument.toList.drop 2)
  let name := text.takeWhile (· != '=')
  let given := if name.length < text.length then some (text.drop (name.length + 1)) else none
  match t.named? argument (String.ofList name) with
  | .error e => .error e
  | .ok (full, letter) =>
    if t.valued.contains letter then
      match given, next with
      | some value, _ => .ok ((letter, String.ofList value), false)
      | none, some value => .ok ((letter, value), true)
      | none, none => .error (.nameLacksValue full)
    else if given.isSome then .error (.allowsNoValue full)
    else .ok ((letter, ""), false)

/-- Reads arguments, of which the first is left out as a value when `skip` is set. -/
def read (t : OptionTable) (skip : Bool) (c : Chosen) : List String → Except OptionFault Chosen
  | [] => .ok c
  | a :: rest =>
    if skip then t.read false c rest
    else if a == "--" then .ok { c with operands := c.operands ++ rest }
    else if a.startsWith "--" then do
      let ((letter, value), takes) ← t.long rest.head? a
      t.read takes (← t.choose c letter value) rest
    else if a.startsWith "-" && a != "-" then do
      let (c, takes) ← t.letters rest.head? c (a.toList.drop 1)
      t.read takes c rest
    else if t.anywhere then t.read false (c.withOperand a) rest
    else .ok { c with operands := c.operands ++ a :: rest }

end OptionTable

namespace Process

/-- Complains in the name of a program. -/
def report (p : Process) (s : String) : Process :=
  p.complain (p.name ++ ": " ++ s)

/-- The process after a program that failed with a complaint. -/
def reject (p : Process) (status : Nat) (s : String) : Process :=
  (p.report s).answer status

/-- The process after a program that points to its usage. -/
def rejectUsage (p : Process) (status : Nat) (s : String) : Process :=
  (p.report s).refuse status ("Try '" ++ p.name ++ " --help' for more information.")

/-- Runs a program on the options and operands of its arguments. -/
def withOptions (p : Process) (t : OptionTable) (status : Nat) (arguments : List String)
    (run : Chosen → Process) : Process :=
  match t.read false {} arguments with
  | .ok c => run c
  | .error e =>
    if e.pointsToUsage then p.rejectUsage status e.message else p.reject status e.message

end Process

end AgentFleet.Shell
