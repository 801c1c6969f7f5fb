import AgentFleet.Text.Utf8

/-!
# Machines

The computer that the fleet is managed from, as far as this library uses it: it
runs programs, and it has files, directories and environment variables. A
machine is a record of operations on a state of any type, so that what holds of
every machine is a statement about every record.
-/

namespace AgentFleet

/-- Why the operating system refused an operation. -/
inductive OsError where
  /-- There is no such file. -/
  | notFound
  /-- The file may not be used in this way. -/
  | permissionDenied
  /-- Something else has the name already. -/
  | alreadyExists
  /-- Something above the file is no directory. -/
  | notADirectory
  /-- The file is a directory. -/
  | isADirectory
  /-- A name, or the path as a whole, is too long. -/
  | nameTooLong
  /-- The path holds a NUL character. -/
  | nulInPath
  /-- The name or an argument of a program holds a NUL character. -/
  | nulInArgument
  /-- An argument of a program is too long. -/
  | argumentTooLong
  /-- The file is no program. -/
  | noProgram
  deriving DecidableEq, Repr, Inhabited

/-- The wording of a refusal. -/
def OsError.message : OsError → String
  | notFound => "No such file or directory (os error 2)"
  | permissionDenied => "Permission denied (os error 13)"
  | alreadyExists => "File exists (os error 17)"
  | notADirectory => "Not a directory (os error 20)"
  | isADirectory => "Is a directory (os error 21)"
  | nameTooLong => "File name too long (os error 36)"
  | nulInPath => "file name contained an unexpected NUL byte"
  | nulInArgument => "nul byte found in provided data"
  | argumentTooLong => "Argument list too long (os error 7)"
  | noProgram => "Exec format error (os error 8)"

/-- Whether a text holds a NUL character, which no name in the system can hold. -/
def hasNul (s : String) : Bool :=
  s.contains (Char.ofNat 0)

/-! ### Processes -/

/-- A program to run. -/
structure Invocation where
  /-- The name or path of the program. -/
  program : String
  /-- The arguments. -/
  arguments : List String
  /-- What the process reads from its standard input. -/
  input : List UInt8 := []
  deriving Repr, Inhabited

/-- How a process ended. -/
inductive Ending where
  /-- It exited with a code. -/
  | exited (code : Nat)
  /-- It was killed by a signal. -/
  | signaled
  deriving DecidableEq, Repr, Inhabited

/-- The exit status of an ending; a signal counts as -1. -/
def Ending.status : Ending → Int
  | exited code => code
  | signaled => -1

/-- Everything that a process left behind. -/
structure Outcome where
  /-- How it ended. -/
  ending : Ending
  /-- What it wrote to its standard output. -/
  stdout : List UInt8 := []
  /-- What it wrote to its standard error. -/
  stderr : List UInt8 := []
  deriving DecidableEq, Repr, Inhabited

namespace Outcome

/-- The exit status of a process. -/
def status (o : Outcome) : Int :=
  o.ending.status

/-- Both outputs as text, the standard output first; each is decoded on its own. -/
def text (o : Outcome) : String :=
  Text.decodeLossy o.stdout ++ Text.decodeLossy o.stderr

end Outcome

/-! ### Machines -/

/-- A machine with states `σ`. -/
structure Machine (σ : Type) where
  /-- Runs a program to its end, unless it cannot be started. -/
  run : Invocation → σ → Except OsError Outcome × σ
  /-- The bytes of a file. -/
  readFile : String → σ → Except OsError (List UInt8)
  /-- Whether something has a path. -/
  pathExists : String → σ → Bool
  /-- Creates a directory and those above it. -/
  createDirectories : String → σ → Except OsError Unit × σ
  /-- The value of an environment variable. -/
  environment? : String → σ → Option String
  /-- The home directory of the user's account, if there is one. -/
  accountHome? : σ → Option String := fun _ => none

namespace Machine

variable {σ : Type}

/-- The wording for bytes that are no text. -/
def notTextMessage : String := "stream did not contain valid UTF-8"

/-- The text of a file, or the wording of why it cannot be read. -/
def readText (m : Machine σ) (path : String) (s : σ) : Except String String :=
  match m.readFile path s with
  | .error e => .error e.message
  | .ok bytes =>
    match Text.decode? bytes with
    | some text => .ok text
    | none => .error notTextMessage

/-- The home directory of the user: the one that a variable names, or else that of the account. -/
def home? (m : Machine σ) (s : σ) : Option String :=
  ((m.environment? "HOME" s).filter fun home => !home.isEmpty).or (m.accountHome? s)

end Machine

end AgentFleet
