import AgentFleet.Shell.Archive
import AgentFleet.Shell.Cut
import AgentFleet.Shell.Ends
import AgentFleet.Shell.PathTools
import AgentFleet.Shell.Sequence
import AgentFleet.Shell.Sort
import AgentFleet.Shell.Tally
import AgentFleet.Shell.Test
import AgentFleet.Shell.Translate

/-!
# Utilities

The programs of the system by name. Each takes its arguments and the state of its process, whose
name is the one it was called by, and leaves a status.
-/

namespace AgentFleet.Shell.Utility

/-- Decides a test as the program does. -/
def testProgram (bracket : Bool) (arguments : List String) (p : Process) : Process :=
  if bracket && arguments.getLast? != some "]" then
    p.reject 2 ("missing " ++ curlyQuoted "]")
  else
    match Test.decideTest p (if bracket then arguments.dropLast else arguments) with
    | .ok b => p.answer (if b then 0 else 1)
    | .error (.notNumber s) => p.reject 2 ("invalid integer " ++ curlyQuoted s)
    | .error (.lacksOperand s) => p.reject 2 ("missing argument after " ++ curlyQuoted s)
    | .error (.unexpected s) => p.reject 2 ("extra argument " ++ curlyQuoted s)
    | .error .unclosed => p.reject 2 (curlyQuoted ")" ++ " expected")

/-- The time that a text spells, in whole parts of its unit. -/
def isInterval (s : String) : Bool :=
  let digits := match s.toList.getLast? with
    | some c => if "smhd".toList.contains c then s.toList.dropLast else s.toList
    | none => []
  match Number.decimal? false digits with
  | some _ => true
  | none => s == "inf" || s == "infinity"

/-- Rests. -/
def sleep (arguments : List String) (p : Process) : Process :=
  p.withOptions {} 1 arguments fun c =>
    if c.operands.isEmpty then FileTools.missing p "operand"
    else
      match c.operands.filter fun s => !isInterval s with
      | [] =>
        let rests := c.operands.any fun s => s.toList.any fun d => '1' ≤ d && d ≤ '9'
        { p with rested := p.rested || rests, status := 0 }
      | bad =>
        let p := bad.foldl (fun p s => p.report ("invalid time interval " ++ curlyQuoted s)) p
        p.refuse 1 ("Try '" ++ p.name ++ " --help' for more information.")

/-- What a program does. -/
abbrev Program := List String → Process → Process

/-- The programs that run no further program. -/
def programs : List (String × Program) :=
  [("[", testProgram true), ("basename", PathTools.basename), ("cat", FileTools.cat),
    ("chmod", FileTools.chmod),
    ("cp", FileTools.cp), ("cut", Cut.run), ("dirname", PathTools.dirname),
    ("echo", Print.echoProgram), ("false", fun _ p => p.answer 1), ("head", Ends.head),
    ("ls", FileTools.ls), ("mkdir", FileTools.mkdir), ("mv", FileTools.mv),
    ("printenv", PathTools.printenv), ("printf", Print.printfProgram), ("pwd", PathTools.pwd),
    ("rev", Ends.rev), ("rm", FileTools.rm), ("rmdir", FileTools.rmdir),
    ("seq", Sequence.run), ("sleep", sleep), ("sort", Sort.sort), ("tac", Ends.tac),
    ("tail", Ends.tail), ("tar", Archive.run), ("tee", PathTools.tee),
    ("test", testProgram false), ("touch", FileTools.touch), ("tr", Translate.run),
    ("true", fun _ p => p.answer 0), ("uniq", Sort.uniq), ("wc", Tally.run),
    ("which", PathTools.which)]

/-- Runs a program, which complains when its output was not taken. -/
def run (program : Program) (arguments : List String) (p : Process) : Process :=
  let p := program arguments { p with lost := none }
  match p.lost with
  | some reason => { p.reject 1 ("write error: " ++ reason) with lost := none }
  | none => p

end AgentFleet.Shell.Utility
