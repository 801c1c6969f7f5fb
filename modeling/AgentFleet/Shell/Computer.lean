import AgentFleet.Shell.Run

/-!
# A computer with a shell

A machine whose programs are a shell and the utilities that scripts use. Its
state is a tree of files and an environment. Files are never executable.
-/

namespace AgentFleet

/-- The state of a computer with a shell. -/
structure Computer where
  /-- The files and the current directory. -/
  files : FileTree := {}
  /-- The environment variables by name. -/
  environment : List (String × String) := []
  deriving Inhabited

namespace Computer

open Shell

/-- The path of the program that an invocation starts, or why it cannot be started. -/
def programFor (i : Invocation) (p : Process) : Except OsError String :=
  let words := i.program :: i.arguments
  if words.any hasNul then .error .nulInArgument
  else
    match p.findProgram i.program with
    | .ok path =>
      let isText := (p.runnable? path).any fun bytes => (interpreter? bytes).isNone
      if words.any fun s => Process.longestArgument < s.utf8ByteSize then .error .argumentTooLong
      else if isText then .error .noProgram
      else .ok path
    | .error e => .error e

/-- Runs a program to its end. -/
def run (i : Invocation) (c : Computer) : Except OsError Outcome × Computer :=
  let p := Process.started c.files c.environment i.input
  match programFor i p with
  | .ok path =>
    let p := runProgram path i.program i.arguments p runFuel
    (.ok p.outcome, { c with files := { p.files with current := c.files.current } })
  | .error e => (.error e, c)

/-- The computer as a machine. -/
def machine : Machine Computer where
  run := run
  readFile path c := c.files.read path
  pathExists path c := c.files.pathExists path
  createDirectories path c :=
    let (result, files) := c.files.createDirectories path
    (result, { c with files := files })
  environment? name c := c.environment.lookup name

end Computer

end AgentFleet
