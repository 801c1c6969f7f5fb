import AgentFleet.Machine.FileTree
import AgentFleet.Shell.Syntax

/-!
# Processes

The state of a running script or program: the files and the open channels it shares with all
others, the descriptors through which it reaches the channels, and the variables, functions,
options and traps of a script. A child is a copy of its parent; when it has ended, the parent takes
over what the two share.
-/

namespace AgentFleet.Shell

/-! ### Channels -/

/-- What is behind an open channel. -/
inductive Channel where
  /-- Bytes in order: what is written at the end is read from the beginning. -/
  | stream (bytes : List UInt8)
  /-- The device that takes everything and holds nothing. -/
  | nowhere
  /-- The device that takes nothing. -/
  | full
  /-- A file at a position, or at its end for all that is written. -/
  | file (location : List String) (position : Nat) (appends : Bool)
  /-- A directory, which has no bytes. -/
  | directory
  deriving Repr, Inhabited

/-- A channel and what it was opened for. -/
structure OpenChannel where
  /-- The channel. -/
  channel : Channel
  /-- Whether it may be read. -/
  reads : Bool
  /-- Whether it may be written. -/
  writes : Bool
  deriving Repr, Inhabited

/-! ### Scripts -/

/-- A variable of a script. -/
structure Variable where
  /-- The value, which a variable may lack. -/
  value : Option String := none
  /-- Whether programs see it. -/
  exported : Bool := false
  /-- Whether it must not change any more. -/
  fixed : Bool := false
  deriving Repr, Inhabited

/-- Where a running script goes on. -/
inductive Flow where
  /-- With the next command. -/
  | onward
  /-- After some loops, or with the next turn of the last of them. -/
  | leaving (loops : Nat) (again : Bool)
  /-- After the function. -/
  | returning
  /-- Nowhere, because of an error of the script. -/
  | failed
  /-- Nowhere, because the process has ended. -/
  | ended (ending : Ending)
  deriving DecidableEq, Repr, Inhabited

/-- A process that was not awaited. -/
structure Job where
  /-- Its number. -/
  number : Nat
  /-- The status that it ended with. -/
  status : Nat
  /-- Whether it rested on its way, so that a signal would have found it alive. -/
  rested : Bool := false
  deriving Repr, Inhabited

/-- The state of a running script or program. -/
structure Process where
  /-- The files of the machine. -/
  files : FileTree
  /-- The open channels by number. -/
  channels : List (Nat × OpenChannel) := []
  /-- The channels that descriptors stand for. -/
  descriptors : List (Nat × Nat) := []
  /-- The variables by name. -/
  bindings : List (String × Variable) := []
  /-- The functions by name. -/
  functions : List (String × Command) := []
  /-- The name of the script. -/
  name : String := "sh"
  /-- The command of the shell that complaints name. -/
  speaker : Option String := none
  /-- The line that complaints name. -/
  line : Nat := 0
  /-- The positional parameters. -/
  arguments : List String := []
  /-- The letters of the options that are set. -/
  options : List Char := []
  /-- The status of the last command. -/
  status : Nat := 0
  /-- The status of the last script whose output became part of the command. -/
  innerStatus : Nat := 0
  /-- Where the script goes on. -/
  flow : Flow := .onward
  /-- The words that stand for other text, by name. -/
  aliases : List (String × String) := []
  /-- The programs that the script has met. -/
  met : List String := []
  /-- How many loops are running. -/
  loops : Nat := 0
  /-- How many functions and files are running. -/
  calls : Nat := 0
  /-- The variables that the running functions hide, by name. -/
  hidden : List (String × Option Variable) := []
  /-- The actions for signals, by their names. -/
  traps : List (String × String) := []
  /-- The signals that wait for their actions. -/
  caught : List String := []
  /-- The processes that were not awaited, the last one first. -/
  jobs : List Job := []
  /-- The number of the last process that was not awaited. -/
  lastJob : Option Nat := none
  /-- The number that the script knows itself by. -/
  number : Nat := 4711
  /-- The number of the process. -/
  self : Nat := 4711
  /-- The numbers of the processes that wait for this one. -/
  waiting : List Nat := []
  /-- The signals for processes that wait. -/
  signals : List (Nat × Nat) := []
  /-- The last number that a process was given. -/
  created : Nat := 4711
  /-- Whether the process rested. -/
  rested : Bool := false
  /-- Why the first output did not take what was written last. -/
  lost : Option String := none
  /-- Which permissions new files lack. -/
  mask : Nat := 0o22
  /-- How far the options among the letters of one argument were read. -/
  optionOffset : Nat := 0
  deriving Inhabited

namespace Process

/-! ### Descriptors -/

/-- The channel behind a descriptor. -/
def open? (p : Process) (descriptor : Nat) : Option (Nat × OpenChannel) := do
  let n ← p.descriptors.lookup descriptor
  let c ← p.channels.lookup n
  return (n, c)

/-- Changes an open channel. -/
def setChannel (p : Process) (n : Nat) (c : Channel) : Process :=
  { p with channels := p.channels.map fun e => if e.1 == n then (n, { e.2 with channel := c }) else e }

/-- Closes a descriptor. -/
def close (p : Process) (descriptor : Nat) : Process :=
  { p with descriptors := p.descriptors.filter fun e => e.1 != descriptor }

/-- Lets a descriptor stand for a channel. -/
def connect (p : Process) (descriptor n : Nat) : Process :=
  { p with descriptors := (descriptor, n) :: (p.close descriptor).descriptors }

/-- A number that no open channel has. -/
def freeChannel (p : Process) : Nat :=
  p.channels.foldl (fun n e => max n (e.1 + 1)) 0

/-- Opens a channel behind a descriptor. -/
def openAt (p : Process) (descriptor : Nat) (c : OpenChannel) : Process :=
  let n := p.freeChannel
  { p with channels := (n, c) :: p.channels }.connect descriptor n

/-- Forgets the channels that are newer than a number of them. -/
def forgetChannels (p : Process) (n : Nat) : Process :=
  { p with channels := p.channels.filter fun e => e.1 < n }

/-- Why a descriptor cannot be used. -/
def badDescriptor : String := "Bad file descriptor"

/-- Why the full device takes nothing. -/
def noSpace : String := "No space left on device"

/-- A file's content with bytes at a position. -/
def overwrite (content : List UInt8) (position : Nat) (bytes : List UInt8) : List UInt8 :=
  let before := content.take position
  before ++ List.replicate (position - before.length) 0 ++ bytes ++
    content.drop (position + bytes.length)

/-- Writes bytes to a descriptor. -/
def writeTo (p : Process) (descriptor : Nat) (bytes : List UInt8) : Except String Process :=
  if bytes.isEmpty then .ok p
  else
    match p.open? descriptor with
    | none => .error badDescriptor
    | some (n, c) =>
      if !c.writes then .error badDescriptor
      else
        match c.channel with
        | .stream before => .ok (p.setChannel n (.stream (before ++ bytes)))
        | .nowhere => .ok p
        | .full => .error noSpace
        | .directory => .error badDescriptor
        | .file location position appends =>
          match p.files.node? location with
          | some (.file content) =>
            let position := if appends then content.length else position
            let files := p.files.put location (.file (overwrite content position bytes))
            .ok ({ p with files := files }.setChannel n
              (.file location (position + bytes.length) appends))
          | _ => .ok p

/-- Writes bytes to the first output. -/
def write (p : Process) (bytes : List UInt8) : Process :=
  match p.writeTo 1 bytes with
  | .ok p => p
  | .error s => { p with lost := some s }

/-- Writes a text to the first output. -/
def say (p : Process) (s : String) : Process :=
  p.write (Text.encode s)

/-- Writes a line to the second output. -/
def complain (p : Process) (s : String) : Process :=
  match p.writeTo 2 (Text.encode (s ++ "\n")) with
  | .ok p => p
  | .error _ => p

/-- The bytes that a descriptor has to read, or why it has none. -/
def readable (p : Process) (descriptor : Nat) : Except String (List UInt8) :=
  match p.open? descriptor with
  | none => .error badDescriptor
  | some (_, c) =>
    if !c.reads then .error badDescriptor
    else
      match c.channel with
      | .stream bytes => .ok bytes
      | .nowhere | .full => .ok []
      | .directory => .error "Is a directory"
      | .file location position _ =>
        match p.files.node? location with
        | some (.file content) => .ok (content.drop position)
        | _ => .ok []

/-- Passes bytes that were read from a descriptor. -/
def consume (p : Process) (descriptor count : Nat) : Process :=
  match p.open? descriptor with
  | none => p
  | some (n, c) =>
    match c.channel with
    | .stream bytes => p.setChannel n (.stream (bytes.drop count))
    | .file location position appends => p.setChannel n (.file location (position + count) appends)
    | _ => p

/-- Reads all that a descriptor has. -/
def readAll (p : Process) (descriptor : Nat) : Except String (List UInt8) × Process :=
  match p.readable descriptor with
  | .ok bytes => (.ok bytes, p.consume descriptor bytes.length)
  | .error s => (.error s, p)

/-! ### Statuses -/

/-- The process after a command with a status. -/
def answer (p : Process) (status : Nat) : Process :=
  { p with status := status }

/-- The process after a command that failed with a complaint. -/
def refuse (p : Process) (status : Nat) (s : String) : Process :=
  (p.complain s).answer status

/-- Complains in the name of the script. -/
def warn (p : Process) (s : String) : Process :=
  let speaker := (p.speaker.map (· ++ ": ")).getD ""
  p.complain (p.name ++ ": " ++ toString p.line ++ ": " ++ speaker ++ s)

/-- Complains about an error that ends the script, unless it is an error of a command that may
fail. -/
def fail (p : Process) (s : String) : Process :=
  { p.warn s with status := 2, flow := .failed }

/-- Whether the next command is to be run. -/
def goesOn (p : Process) : Bool :=
  p.flow == .onward

/-- Whether the process has come to its end. -/
def isOver (p : Process) : Bool :=
  match p.flow with
  | .failed | .ended _ => true
  | _ => false

/-- Ends the process with a status. -/
def exit (p : Process) (status : Nat) : Process :=
  { p with status := status, flow := .ended (.exited status) }

/-- Whether an option is set. -/
def has (p : Process) (option : Char) : Bool :=
  p.options.contains option

/-- How the process ended. -/
def ending (p : Process) : Ending :=
  match p.flow with
  | .ended e => e
  | _ => .exited p.status

/-! ### Variables -/

/-- A variable. -/
def named? (p : Process) (name : String) : Option Variable :=
  p.bindings.lookup name

/-- Puts a variable. -/
def setVariable (p : Process) (name : String) (v : Variable) : Process :=
  { p with bindings := (name, v) :: p.bindings.filter fun e => e.1 != name }

/-- Removes a variable. -/
def dropVariable (p : Process) (name : String) : Process :=
  { p with bindings := p.bindings.filter fun e => e.1 != name }

/-- The wording for a variable that must not change. -/
def fixedMessage (name : String) : String := name ++ ": is read only"

/-- Gives a variable a value, unless it must not change. -/
def assign (p : Process) (name value : String) : Process :=
  let old := (p.named? name).getD {}
  if old.fixed then p.fail (fixedMessage name)
  else
    let p := if name == "OPTIND" then { p with optionOffset := 0 } else p
    p.setVariable name { old with value := some value, exported := old.exported || p.has 'a' }

/-- The value of a variable. -/
def lookup? (p : Process) (name : String) : Option String :=
  (p.named? name).bind Variable.value

/-- The characters that fields are split at. -/
def separators (p : Process) : String :=
  (p.lookup? "IFS").getD " \t\n"

/-- The variables that programs see. -/
def environment (p : Process) : List (String × String) :=
  p.bindings.filterMap fun (name, v) =>
    if v.exported then v.value.map fun value => (name, value) else none

/-- The order in which the letters of options are listed. -/
def optionOrder : List Char := "ubaCEVvxsnmiIfe".toList

/-- The value of a parameter. -/
def value? (p : Process) (name : String) : Option String :=
  if name == "#" then some (toString p.arguments.length)
  else if name == "?" then some (toString p.status)
  else if name == "$" then some (toString p.number)
  else if name == "!" then p.lastJob.map toString
  else if name == "-" then some (String.ofList (optionOrder.filter p.has))
  else if name == "0" then some p.name
  else if name == "@" || name == "*" then some (Text.join " " p.arguments)
  else
    match name.toNat? with
    | some n => if n == 0 then some p.name else p.arguments[n - 1]?
    | none => p.lookup? name

/-! ### Signals -/

/-- The signals that have names, by their numbers. -/
def signalNames : List (Nat × String) :=
  [(1, "HUP"), (2, "INT"), (3, "QUIT"), (4, "ILL"), (5, "TRAP"), (6, "ABRT"), (7, "BUS"),
    (8, "FPE"), (9, "KILL"), (10, "USR1"), (11, "SEGV"), (12, "USR2"), (13, "PIPE"), (14, "ALRM"),
    (15, "TERM"), (17, "CHLD"), (18, "CONT"), (19, "STOP"), (20, "TSTP"), (21, "TTIN"),
    (22, "TTOU"), (23, "URG"), (24, "XCPU"), (25, "XFSZ"), (26, "VTALRM"), (27, "PROF"),
    (28, "WINCH"), (29, "IO"), (30, "PWR"), (31, "SYS"), (34, "RTMIN"), (64, "RTMAX")]

/-- The name of a signal. -/
def signalName (n : Nat) : String :=
  match signalNames.lookup n with
  | some name => name
  | none =>
    if 34 < n && n < 50 then "RTMIN+" ++ toString (n - 34)
    else if 50 ≤ n && n < 64 then "RTMAX-" ++ toString (64 - n)
    else toString n

/-- The signals that a process does not end by. -/
def harmlessSignals : List Nat := [0, 17, 18, 23, 28]

/-- The process after a signal. -/
def receive (p : Process) (signal : Nat) : Process :=
  let die := { p with status := 128 + signal, flow := .ended .signaled }
  if signal == 9 then die
  else
    match p.traps.lookup (signalName signal) with
    | some action =>
      if action.isEmpty then p else { p with caught := p.caught ++ [signalName signal] }
    | none => if harmlessSignals.contains signal then p else die

/-! ### Children -/

/-- A child of a process, which begins as its copy; a script in it forgets its traps. -/
def child (p : Process) : Process :=
  { p with
    traps := p.traps.filter fun e => e.2.isEmpty
    caught := []
    jobs := []
    self := p.created + 1
    created := p.created + 1
    waiting := p.self :: p.waiting
    rested := false
    lost := none }

/-- The process after a child, whose status becomes its own. -/
def absorb (p c : Process) : Process :=
  let (mine, others) := c.signals.partition fun e => e.1 == p.self
  let p := { p with
    files := { c.files with current := p.files.current }
    channels := c.channels
    created := c.created
    signals := others
    rested := p.rested || c.rested
    status := match c.flow with
      | .ended (.exited n) => n
      | _ => c.status }
  let after := mine.foldl (fun p e => p.receive e.2) p
  if after.flow == p.flow then { after with status := p.status } else after

/-- How signals are announced, by their numbers. -/
def signalTexts : List (Nat × String) :=
  [(1, "Hangup"), (3, "Quit"), (4, "Illegal instruction"), (5, "Trace/breakpoint trap"),
    (6, "Aborted"), (7, "Bus error"), (8, "Floating point exception"), (9, "Killed"),
    (10, "User defined signal 1"), (11, "Segmentation fault"), (12, "User defined signal 2"),
    (14, "Alarm clock"), (15, "Terminated"), (16, "Stack fault"), (24, "CPU time limit exceeded"),
    (25, "File size limit exceeded"), (26, "Virtual timer expired"), (27, "Profiling timer expired"),
    (29, "I/O possible"), (30, "Power failure"), (31, "Bad system call")]

/-- The process after a child whose end it waited for; most signals are announced. -/
def reap (p c : Process) : Process :=
  let p := p.absorb c
  match c.flow, signalTexts.lookup (c.status - 128) with
  | .ended .signaled, some text => p.complain text
  | _, _ => p

/-- What a process left behind. -/
def outcome (p : Process) : Outcome :=
  let bytes (n : Nat) : List UInt8 := match (p.channels.lookup n).map OpenChannel.channel with
    | some (.stream bytes) => bytes
    | _ => []
  { ending := p.ending, stdout := bytes 1, stderr := bytes 2 }

/-- The channels and descriptors that a program is started with. -/
def started (files : FileTree) (environment : List (String × String)) (input : List UInt8) :
    Process :=
  { files := files
    channels := [(2, ⟨.stream [], false, true⟩), (1, ⟨.stream [], false, true⟩),
      (0, ⟨.stream input, true, false⟩)]
    descriptors := [(2, 2), (1, 1), (0, 0)]
    bindings := environment.map fun (name, value) =>
      (name, { value := some value, exported := true }) }

/-- The wording of a refusal among the complaints of programs. -/
def plainMessage : OsError → String
  | .notFound => "No such file or directory"
  | .permissionDenied => "Permission denied"
  | .alreadyExists => "File exists"
  | .notADirectory => "Not a directory"
  | .isADirectory => "Is a directory"
  | .nameTooLong => "File name too long"
  | .argumentTooLong => "Argument list too long"
  | .noProgram => "Exec format error"
  | .nulInPath | .nulInArgument => "Invalid argument"

end Process

end AgentFleet.Shell
