import AgentFleet.Shell.Builtin
import AgentFleet.Shell.Reader
import AgentFleet.Shell.Utility

/-!
# Running scripts

Scripts are run line by line on the state of their process, each line being read after the one
before it was run. A process that has ended runs nothing more. Calls and turns of loops use up
fuel, so that every run ends; a run without fuel leaves the process as it is.
-/

namespace AgentFleet.Shell

/-- A step of a run. -/
abbrev Running := StateM Process

namespace Running

/-- Whether the script goes on with the next command. -/
def goesOn : Running Bool := do
  return (← get).goesOn

/-- Fails with an error of the script. -/
def fail (s : String) : Running Unit :=
  modify fun p => p.fail s

/-- Leaves a status. -/
def answer (status : Nat) : Running Unit :=
  modify fun p => p.answer status

/-- Notes the line that complaints name. -/
def atLine (line : Nat) : Running Unit :=
  modify fun p => { p with line := line }

/-- Decides after a turn of a loop whether there is another one. -/
def afterTurn : Running Bool := do
  let p ← get
  match p.flow with
  | .onward => return true
  | .leaving n again =>
    if n ≤ 1 then
      set { p with flow := Flow.onward }
      return again
    else
      set { p with flow := Flow.leaving (n - 1) again }
      return false
  | _ => return false

end Running

open Running

namespace Process

/-! ### Parameters -/

/-- What stands between arguments that become one text. -/
def argumentSeparator (p : Process) : String :=
  (p.separators.take 1).toString

/-- The text of a parameter. -/
def parameterText? (p : Process) (name : String) : Option String :=
  if name == "@" || name == "*" then some (Text.join p.argumentSeparator p.arguments)
  else p.value? name

/-- The atoms of a parameter that is set; in the words of a command all arguments may be fields of
their own. -/
def parameterAtoms (p : Process) (fields quoted : Bool) (name : String) : List Atom :=
  if fields && name == "@" && quoted then Atom.ofArguments true .boundary p.arguments
  else if fields && (name == "@" || name == "*") && !quoted then
    Atom.ofArguments false .gap p.arguments
  else Atom.ofValue quoted ((p.parameterText? name).getD "")

/-- The length of a parameter that is set. -/
def parameterLength (p : Process) (name : String) : Nat :=
  if name == "@" || name == "*" then
    (Text.join " " p.arguments).utf8ByteSize
  else ((p.value? name).getD "").utf8ByteSize

/-- The wording for a parameter that must be set. -/
def notSet (name : String) : String := name ++ ": parameter not set"

/-! ### Redirections -/

/-- What a redirection does once its word is expanded. -/
inductive Opening where
  /-- Opens a path. -/
  | path (descriptor : Nat) (operator target : String)
  /-- Takes another descriptor. -/
  | copy (descriptor source : Nat)
  /-- Closes the descriptor. -/
  | close (descriptor : Nat)
  /-- Reads a text. -/
  | text (descriptor : Nat) (s : String)

/-- The descriptor that an opening changes. -/
def Opening.descriptor : Opening → Nat
  | path d _ _ | copy d _ | close d | text d _ => d

/-- The opening of a descriptor that a word names. -/
def copyOf? (descriptor : Nat) (word : String) : Option Opening :=
  match word.toList with
  | ['-'] => some (.close descriptor)
  | [c] => if Number.isDigit c then some (.copy descriptor (c.toNat - 48)) else none
  | _ => none

/-- The reason that the shell gives for a path that it cannot open. -/
def openReason (creates : Bool) (e : OsError) : String :=
  if e == .notFound || e == .notADirectory then
    if creates then "Directory nonexistent" else "No such file"
  else plainMessage e

/-- Opens a path for a redirection. -/
def openFor (p : Process) (descriptor : Nat) (operator target : String) : Except String Process :=
  let creates := operator != "<"
  let exists_ := match p.kindAt target with
    | .ok (.file _) => true
    | _ => false
  if operator == ">" && p.has 'C' && exists_ then
    .error ("cannot create " ++ target ++ ": File exists")
  else
    let purpose := if operator == "<" then Purpose.read else if operator == ">>" then .append
      else if operator == "<>" then .both else .write
    match p.openPath descriptor target purpose with
    | .ok p => .ok p
    | .error e =>
      .error ((if creates then "cannot create " else "cannot open ") ++ target ++ ": " ++
        openReason creates e)

/-- Does what a redirection asks for. -/
def perform (p : Process) : Opening → Except String Process
  | .path d operator target => p.openFor d operator target
  | .close d => .ok (p.close d)
  | .text d s => .ok (p.openAt d ⟨.stream (Text.encode s), true, false⟩)
  | .copy d source =>
    match p.descriptors.lookup source with
    | some n => .ok (p.connect d n)
    | none => .error (toString source ++ ": " ++ badDescriptor)

/-- Does what redirections ask for, up to the first that fails. -/
def performAll (p : Process) : List Opening → Except String Process × Process
  | [] => (.ok p, p)
  | o :: rest =>
    match p.perform o with
    | .ok q => q.performAll rest
    | .error e => (.error e, p)

/-- The process with some descriptors as they were before. -/
def withDescriptorsOf (p before : Process) (openings : List Opening) : Process :=
  openings.foldl
    (fun p o =>
      match before.descriptors.lookup o.descriptor with
      | some n => p.connect o.descriptor n
      | none => p.close o.descriptor)
    p

/-! ### Commands -/

/-- The directories in which programs are looked for. -/
def searchPath (p : Process) : List String :=
  match p.lookup? "PATH" with
  | some s => (Text.split ':' s).map fun d => if d.isEmpty then "." else d
  | none => programDirectories

/-- The path of a program, or why it cannot be started. -/
def findProgram (p : Process) (name : String) : Except OsError String :=
  let check (path : String) : Except OsError String :=
    if (programAt? path).isSome then .ok path
    else
      match p.runnable? path with
      | some bytes =>
        match interpreter? bytes with
        | some (program, _) =>
          if (programAt? program).isSome || (p.runnable? program).isSome then .ok path
          else
            match p.kindAt program with
            | .ok _ => .error .permissionDenied
            | .error e => .error e
        | none => .ok path
      | none =>
        match p.kindAt path with
        | .ok _ => .error .permissionDenied
        | .error e => .error e
  if name.contains '/' then check name
  else if name.isEmpty then .error .notFound
  else
    let rec go (found : OsError) : List String → Except OsError String
      | [] => .error found
      | d :: rest =>
        match check (d ++ "/" ++ name) with
        | .ok path => .ok path
        | .error e =>
          let isFile := match p.kindAt (d ++ "/" ++ name) with
            | .ok (.file _) => true
            | _ => false
          go (if isFile || (e != .notFound && e != .notADirectory && e != .permissionDenied) then e
            else found) rest
    go .notFound p.searchPath

/-- The reason that the shell gives for a program that it cannot start. -/
def startReason (e : OsError) : String :=
  if e == .notFound || e == .notADirectory then "not found" else plainMessage e

/-- The status after a program that could not be started. -/
def startStatus (e : OsError) : Nat :=
  if e == .notFound || e == .notADirectory || e == .nameTooLong then 127 else 126

/-- How many bytes an argument of a program has at most. -/
def longestArgument : Nat := 131071

/-- The process in which a program begins: of the shell's own state it has what programs see. -/
def begin (p : Process) (name : String) (arguments : List String) : Process :=
  { p with
    bindings := p.bindings.filterMap fun (n, v) =>
      if v.exported && v.value.isSome then some (n, { v with fixed := false }) else none
    functions := []
    name := name
    speaker := none
    line := 0
    arguments := arguments
    options := []
    status := 0
    flow := .onward
    loops := 0
    calls := 0
    hidden := []
    traps := p.traps.filter fun e => e.2.isEmpty
    caught := []
    jobs := []
    lastJob := none
    number := p.self
    rested := false
    lost := none
    optionOffset := 0 }

/-- Whether some signal has an action. -/
def hasTraps (p : Process) : Bool :=
  p.traps.any fun e => !e.2.isEmpty

/-- The process with variables as they were before. -/
def withVariablesOf (p : Process) (saved : List (String × Option Variable)) : Process :=
  saved.foldl
    (fun p (name, v) =>
      match v with
      | some v => p.setVariable name v
      | none => p.dropVariable name)
    p

/-- Shows a command that is about to run, where complaints went before its redirections. -/
def trace (p before : Process) (words : List String) : Process :=
  if p.has 'x' then
    let line := (p.lookup? "PS4").getD "+ " ++ Text.join " " words
    { { p with descriptors := before.descriptors }.complain line with
      descriptors := p.descriptors }
  else p

/-- What a name of a command stands for. -/
inductive CommandKind where
  /-- A reserved word. -/
  | reserved
  /-- An alias. -/
  | alias (value : String)
  /-- A function. -/
  | function
  /-- A command of the shell. -/
  | builtin (special : Bool)
  /-- A program. -/
  | program (path : String)
  deriving DecidableEq, Repr

/-- What a name of a command stands for, if anything. -/
def commandKind? (p : Process) (name : String) : Option CommandKind :=
  if reservedWords.contains name then some .reserved
  else
    match p.aliases.lookup name with
    | some value => some (.alias value)
    | none =>
      if name.contains '/' then
        if (p.kindAt name).toOption.isSome then some (.program name) else none
      else if specialBuiltins.contains name then some (.builtin true)
      else if (p.functions.lookup name).isSome then some .function
      else if Builtin.names.contains name then some (.builtin false)
      else (p.findProgram name).toOption.map .program

/-- Tells what a name of a command stands for, at length or by its name alone. -/
def describe (p : Process) (long : Bool) (name : String) : Process :=
  let tell (p : Process) (short more : String) : Process :=
    (p.say ((if long then name ++ more else short) ++ "\n"))
  match p.commandKind? name with
  | none => (if long then p.say (name ++ ": not found\n") else p).answer 127
  | some .reserved => tell p name " is a shell keyword"
  | some (.alias value) =>
    tell p ("alias " ++ name ++ "=" ++ Builtin.singleQuotes value) (" is an alias for " ++ value)
  | some .function => tell p name " is a shell function"
  | some (.builtin special) =>
    tell p name (if special then " is a special shell builtin" else " is a shell builtin")
  | some (.program path) =>
    let known := p.met.contains name
    let q := if name.contains '/' then p else { p with met := name :: p.met }
    tell q path ((if known then " is a tracked alias for " else " is ") ++ path)

end Process

/-! ### Words of commands -/

/-- Words without a leading `command` and its options; the answer also says whether there was
one. Words that ask what a name stands for stay as they are. -/
def withoutCommand (args : List String) : Bool × List String :=
  match args with
  | "command" :: rest =>
    let named := rest.dropWhile fun a =>
      match a.toList with
      | '-' :: c :: cs => (c :: cs).all (· == 'p')
      | _ => false
    match named with
    | [] => (false, args)
    | "--" :: name :: more => (true, name :: more)
    | "--" :: [] => (false, args)
    | name :: more =>
      if name.startsWith "-" && name != "-" then (false, args) else (true, name :: more)
  | _ => (false, args)

/-- The commands whose arguments may be assignments. -/
def assigningCommands : List String := ["alias", "export", "local", "readonly"]

/-- Whether words so far belong to a command whose arguments may be assignments. -/
def takesAssignments (args : List String) : Bool :=
  match (withoutCommand args).2 with
  | name :: _ => assigningCommands.contains name
  | [] => false

/-- A program of the system by its last name. -/
def programName (path : String) : String :=
  (programAt? path).getD path

/-- The programs that run other programs. -/
def isShell (name : String) : Bool :=
  name == "sh" || name == "dash" || name == "bash"

/-- The options of the program that changes variables. -/
def environmentOptions : OptionTable where
  flags := ['i', '0', 'v']
  valued := ['u', 'C', 'S']
  names := [("ignore-environment", 'i'), ("unset", 'u'), ("chdir", 'C')]
  anywhere := false

mutual

/-- Expands a word; `fields` says that it may become several arguments. -/
def expandWord (fields : Bool) : Nat → Word → Running (List Atom)
  | 0, _ => return []
  | _ + 1, [] => return []
  | fuel + 1, piece :: rest => do
    let atoms ← expandPiece fields fuel piece
    if ← goesOn then return atoms ++ (← expandWord fields fuel rest) else return atoms
termination_by structural fuel => fuel

/-- Expands a word into one text. -/
def expandText : Nat → Word → Running String
  | 0, _ => return ""
  | fuel + 1, word => do
    return Atom.joined (← expandWord false fuel word)
termination_by structural fuel => fuel

/-- Expands a part of a word. -/
def expandPiece (fields : Bool) : Nat → Piece → Running (List Atom)
  | 0, _ => return []
  | fuel + 1, piece => do
    let p ← get
    match piece with
    | .text quoted s => return Atom.ofText quoted s
    | .home =>
      match p.lookup? "HOME" with
      | some s => return s.toList.map fun c => Atom.char c false false
      | none => return Atom.ofText false "~"
    | .parameter quoted name =>
      if (p.parameterText? name).isNone && p.has 'u' then
        fail (Process.notSet name)
        return []
      else return p.parameterAtoms fields quoted name
    | .length quoted name =>
      if (p.parameterText? name).isNone && p.has 'u' then
        fail (Process.notSet name)
        return []
      else return Atom.ofValue quoted (toString (p.parameterLength name))
    | .malformed =>
      fail "Bad substitution"
      return []
    | .arithmetic quoted expression =>
      let source ← expandText fuel expression
      if ← goesOn then
        match evaluate (← get) source with
        | .ok (n, p) =>
          set p
          return Atom.ofValue quoted (toString n)
        | .error e =>
          fail (e.message source)
          return []
      else return []
    | .command quoted script => return Atom.ofValue quoted (← runSubstitution fuel script)
    | .edited quoted name operator word => expandEdited fields quoted name operator word fuel
termination_by structural fuel => fuel

/-- Expands a parameter under an operator. -/
def expandEdited (fields quoted : Bool) (name operator : String) (word : Word) :
    Nat → Running (List Atom)
  | 0 => return []
  | fuel + 1 => do
    let p ← get
    let value := p.parameterText? name
    let colon := operator.startsWith ":"
    let isSet := value.isSome && !(colon && value == some "")
    let word := if quoted then word else expandTilde word
    let instead : Running (List Atom) := do
      let atoms ← expandWord fields fuel word
      return if quoted then atoms else atoms.map Atom.inWord
    match operator.toList.getLast? with
    | some '-' => if isSet then return p.parameterAtoms fields quoted name else instead
    | some '+' => if isSet then instead else return []
    | some '=' =>
      if isSet then return p.parameterAtoms fields quoted name
      else
        let text ← expandText fuel word
        if ← goesOn then
          if isName name then modify fun p => p.assign name text
          else fail (Builtin.badName name)
        return Atom.ofValue quoted text
    | some '?' =>
      if isSet then return p.parameterAtoms fields quoted name
      else
        let text ← expandText fuel word
        if ← goesOn then
          if word.isEmpty then fail (Process.notSet name ++ (if colon then " or null" else ""))
          else fail (name ++ ": " ++ text)
        return []
    | _ =>
      if value.isNone && p.has 'u' then
        fail (Process.notSet name)
        return []
      else
        let pattern := Atom.pattern (← expandWord false fuel word)
        let longest := operator.length == 2
        let s := value.getD ""
        let s := if operator.startsWith "%" then pattern.dropTrailing longest s
          else pattern.dropLeading longest s
        return Atom.ofValue quoted s
termination_by structural fuel => fuel

/-- Expands words into the arguments of a command, after some others. -/
def expandArguments (before : List String) : Nat → List Word → Running (List String)
  | 0, _ => return before
  | _ + 1, [] => return before
  | fuel + 1, word :: rest => do
    let assignment := if takesAssignments before then assignment? word else none
    let here ← match assignment with
      | some (name, value) => do
        let text ← expandText fuel value
        pure [name ++ "=" ++ text]
      | none => do
        let atoms ← expandWord true fuel word
        pure (wordArguments (← get) atoms)
    if ← goesOn then expandArguments (before ++ here) fuel rest else return before
termination_by structural fuel => fuel

/-- Expands the words of redirections. -/
def expandRedirections : Nat → List Redirection → Running (List Process.Opening)
  | 0, _ => return []
  | _ + 1, [] => return []
  | fuel + 1, r :: rest => do
    let opening : Option Process.Opening ← match r with
      | .document descriptor text => do
        let s ← expandText fuel text
        pure (some (.text descriptor s))
      | .redirect descriptor operator target => do
        let s ← expandText fuel target
        if operator == ">&" || operator == "<&" then pure (Process.copyOf? descriptor s)
        else pure (some (.path descriptor operator s))
    if ← goesOn then
      match opening with
      | some o => return o :: (← expandRedirections fuel rest)
      | none =>
        fail "Syntax error: Bad fd number"
        return []
    else return []
termination_by structural fuel => fuel

/-- Ends a process, after the action for its end. -/
def finish : Nat → Running Unit
  | 0 => return ()
  | fuel + 1 => do
    let p ← get
    if p.flow == .ended .signaled then return ()
    else
      let status := match p.flow with
        | .ended (.exited n) => n
        | _ => p.status
      match p.traps.lookup "EXIT" with
      | some action =>
        set { p with
          traps := p.traps.filter fun e => e.1 != "EXIT"
          flow := Flow.onward
          status := status }
        runSource false true ({ rest := action.toList } : Source) fuel
        let q ← get
        if q.isOver then return () else set (q.exit status)
      | none => set (p.exit status)
termination_by structural fuel => fuel

/-- Runs commands in a child to their end; the answer is the child. -/
def runChild (tested : Bool) (c : Process) (script : Script) : Nat → Process
  | 0 => c
  | fuel + 1 =>
    (do
      runList tested true fuel script
      finish fuel : Running Unit).run c |>.2
termination_by structural fuel => fuel

/-- Runs a script whose output becomes text. -/
def runSubstitution : Nat → Script → Running String
  | 0, _ => return ""
  | fuel + 1, script => do
    let p ← get
    let n := p.freeChannel
    let c := runChild false (p.child.openAt 1 ⟨.stream [], false, true⟩) script fuel
    let bytes := match (c.channels.lookup n).map OpenChannel.channel with
      | some (.stream bytes) => bytes.filter fun b => b != 0
      | _ => []
    let q := p.reap { c with channels := c.channels.filter fun e => e.1 != n }
    set { q with
      status := if q.flow == p.flow then p.status else q.status
      innerStatus := if script.isEmpty then p.innerStatus else q.status }
    let text := (Text.decodeLossy bytes).toList.reverse.dropWhile (· == '\n')
    return String.ofList text.reverse
termination_by structural fuel => fuel

/-- Runs commands of which each reads what the one before it wrote. -/
def runPipe (tested : Bool) (input : Option Nat) : Nat → List Command → Running Unit
  | 0, _ => return ()
  | _ + 1, [] => return ()
  | fuel + 1, command :: rest => do
    let p ← get
    let c := p.child
    let c := match input with
      | some n => c.connect 0 n
      | none => c
    let n := c.freeChannel
    let c := if rest.isEmpty then c else c.openAt 1 ⟨.stream [], true, true⟩
    set (p.reap (runChild tested c [command] fuel))
    if ← goesOn then
      runPipe tested (if rest.isEmpty then none else some n) fuel rest
termination_by structural fuel => fuel

/-- Runs a command that is not awaited. -/
def runBackground (command : Command) : Nat → Running Unit
  | 0 => return ()
  | fuel + 1 => do
    let p ← get
    let c := p.child.openAt 0 ⟨.nowhere, true, false⟩
    let c := { c with traps := ("INT", "") :: ("QUIT", "") :: c.traps }
    let c := runChild false c [command] fuel
    let job : Job := { number := p.created + 1, status := (p.absorb c).status, rested := c.rested }
    let q := p.absorb c
    set { q with
      status := if q.flow == p.flow then 0 else q.status
      rested := p.rested
      jobs := job :: q.jobs
      lastJob := some job.number }
termination_by structural fuel => fuel

/-- Runs the actions for the signals that were caught. -/
def runTraps : Nat → Running Unit
  | 0 => return ()
  | fuel + 1 => do
    let p ← get
    match p.caught with
    | [] => return ()
    | name :: rest =>
      set { p with caught := rest }
      match p.traps.lookup name with
      | none => runTraps fuel
      | some action =>
        runSource false true ({ rest := action.toList } : Source) fuel
        if ← goesOn then
          answer p.status
          runTraps fuel
termination_by structural fuel => fuel

/-- Runs commands one after the other; `tested` says that a failure is looked at, and `final` that
nothing comes after them. -/
def runList (tested final : Bool) : Nat → Script → Running Unit
  | 0, _ => return ()
  | _ + 1, [] => return ()
  | fuel + 1, c :: rest => do
    runCommand tested (final && rest.isEmpty) fuel c
    if ← goesOn then runList tested final fuel rest
termination_by structural fuel => fuel

/-- Runs a command. -/
def runCommand (tested final : Bool) : Nat → Command → Running Unit
  | 0, _ => return ()
  | fuel + 1, command => do
    runTraps fuel
    let p ← get
    if !p.goesOn || p.has 'n' then return ()
    else
      let checked ← match command with
        | .simple line assignments words redirections => do
          runSimple tested final line assignments words redirections fuel
          pure true
        | .isolated line body redirections => do
          runIsolated tested final line body redirections fuel
          pure true
        | .background _ c => do
          runBackground c fuel
          pure true
        | .pipe commands => do
          runPipe tested none fuel commands
          pure true
        | .sequence commands => do
          runList tested final fuel commands
          pure false
        | .joined onSuccess first second => do
          runCommand true false fuel first
          let p ← get
          if p.goesOn && (p.status == 0) == onSuccess then runCommand tested final fuel second
          pure false
        | .negated c => do
          runCommand true false fuel c
          modify fun p => if p.isOver then p else p.answer (if p.status == 0 then 1 else 0)
          pure false
        | .redirected line c redirections => do
          runRedirected tested line c redirections fuel
          pure false
        | .conditional condition consequence otherwise => do
          runList true false fuel condition
          let p ← get
          if p.goesOn then
            if p.status == 0 then runList tested final fuel consequence
            else if otherwise.isEmpty then answer 0
            else runList tested final fuel otherwise
          pure false
        | .loop negated condition body => do
          modify fun p => { p with loops := p.loops + 1 }
          runLoop tested negated condition body 0 fuel
          modify fun p => { p with loops := p.loops - 1 }
          pure false
        | .forEach line name items body => do
          atLine line
          let values ← expandArguments [] fuel items
          if ← goesOn then
            modify fun p => { p with loops := p.loops + 1, status := 0 }
            runForEach tested name values body fuel
            modify fun p => { p with loops := p.loops - 1 }
          pure false
        | .choice line subject cases => do
          atLine line
          let s ← expandText fuel subject
          if ← goesOn then runCases tested final s cases fuel
          pure false
        | .define name body => do
          modify fun p =>
            { p with functions := (name, body) :: p.functions.filter fun e => e.1 != name, status := 0 }
          pure false
      let p ← get
      if p.goesOn && checked && !tested && p.status != 0 && p.has 'e' then set (p.exit p.status)
      else runTraps fuel
termination_by structural fuel => fuel

/-- Runs a compound command with redirections that last as long as it does. -/
def runRedirected (tested : Bool) (line : Nat) (command : Command)
    (redirections : List Redirection) : Nat → Running Unit
  | 0 => return ()
  | fuel + 1 => do
    atLine line
    let openings ← expandRedirections fuel redirections
    if ← goesOn then
      let before ← get
      match before.performAll openings with
      | (.ok p, _) =>
        set p
        runCommand tested false fuel command
      | (.error e, p) => set ((p.warn e).answer 2)
      modify fun p => p.withDescriptorsOf before openings
termination_by structural fuel => fuel

/-- Runs commands in a process of their own, unless nothing comes after them. -/
def runIsolated (tested final : Bool) (line : Nat) (body : Script)
    (redirections : List Redirection) : Nat → Running Unit
  | 0 => return ()
  | fuel + 1 => do
    atLine line
    let openings ← expandRedirections fuel redirections
    if ← goesOn then
      let p ← get
      let alone := final && !p.hasTraps
      let c := if alone then p else p.child
      let after := match c.performAll openings with
        | (.ok c, _) => runChild tested c body fuel
        | (.error e, c) => (c.warn e).exit 2
      if alone then set after else set (p.reap after)
termination_by structural fuel => fuel

/-- Runs a loop; `status` is that of the last run of its body. -/
def runLoop (tested negated : Bool) (condition body : Script) (status : Nat) :
    Nat → Running Unit
  | 0 => return ()
  | fuel + 1 => do
    runList true false fuel condition
    let p ← get
    if p.goesOn && (p.status == 0) == negated then answer status
    else
      let left := !p.goesOn
      if left then
        let again ← afterTurn
        modify fun p => if p.flow == .returning || p.isOver then p else p.answer status
        if again then runLoop tested negated condition body status fuel
      else
        runList tested false fuel body
        if ← afterTurn then
          runLoop tested negated condition body (← get).status fuel
termination_by structural fuel => fuel

/-- Runs a body for each of some values. -/
def runForEach (tested : Bool) (name : String) (values : List String) (body : Script) :
    Nat → Running Unit
  | 0 => return ()
  | fuel + 1 =>
    match values with
    | [] => return ()
    | value :: rest => do
      modify fun p => p.assign name value
      if ← goesOn then
        runList tested false fuel body
        if ← afterTurn then runForEach tested name rest body fuel
termination_by structural fuel => fuel

/-- Runs the first case with a pattern that stands for a text. -/
def runCases (tested final : Bool) (subject : String) (cases : List (List Word × Script)) :
    Nat → Running Unit
  | 0 => return ()
  | fuel + 1 =>
    match cases with
    | [] => answer 0
    | (patterns, body) :: rest => do
      if ← anyMatches subject patterns fuel then
        if body.isEmpty then answer 0 else runList tested final fuel body
      else if ← goesOn then runCases tested final subject rest fuel
termination_by structural fuel => fuel

/-- Whether one of some patterns stands for a text. -/
def anyMatches (subject : String) (patterns : List Word) : Nat → Running Bool
  | 0 => return false
  | fuel + 1 =>
    match patterns with
    | [] => return false
    | word :: rest => do
      let pattern := Atom.pattern (← expandWord false fuel word)
      if !(← goesOn) then return false
      else if pattern.matchesString subject then return true
      else anyMatches subject rest fuel
termination_by structural fuel => fuel

/-- Gives variables their values from left to right; the answer holds the assignments as they are
shown. -/
def runAssignments (exported : Bool) (assignments : List (String × Word)) :
    Nat → Running (List String)
  | 0 => return []
  | fuel + 1 =>
    match assignments with
    | [] => return []
    | (name, word) :: rest => do
      let s ← expandText fuel word
      if ← goesOn then
        modify fun p =>
          let p := p.assign name s
          if exported && !p.isOver then
            p.setVariable name { (p.named? name).getD {} with exported := true }
          else p
        if ← goesOn then
          return (name ++ "=" ++ s) :: (← runAssignments exported rest fuel)
        else return []
      else return []
termination_by structural fuel => fuel

/-- Runs a simple command. -/
def runSimple (tested final : Bool) (line : Nat) (assignments : List (String × Word))
    (words : List Word) (redirections : List Redirection) : Nat → Running Unit
  | 0 => return ()
  | fuel + 1 => do
    modify fun p => { p with line := line, innerStatus := 0 }
    let all ← expandArguments [] fuel words
    if !(← goesOn) then return ()
    let openings ← expandRedirections fuel redirections
    if !(← goesOn) then return ()
    let before ← get
    let (direct, args) := withoutCommand all
    let name := args.headD ""
    let special := !direct && !args.isEmpty && specialBuiltins.contains name
    match before.performAll openings with
    | (.error e, p) =>
      let p := (p.warn e).answer 2
      set ({ p with flow := if special then .failed else p.flow }.withDescriptorsOf before openings)
    | (.ok p, _) =>
      set p
      let lasting := args.isEmpty || special
      let saved := if lasting then [] else assignments.reverse.map fun a => (a.1, p.named? a.1)
      let exported := !lasting || (name == "exec" && 1 < args.length)
      let shown ← runAssignments exported assignments fuel
      if ← goesOn then
        if !(shown ++ all).isEmpty then modify fun p => p.trace before (shown ++ all)
        match args with
        | [] => answer (← get).innerStatus
        | name :: rest => runNamed tested final direct special name rest fuel
      let permanent := name == "exec" && special
      modify fun p => if permanent then p else p.withDescriptorsOf before openings
      modify fun p => p.withVariablesOf saved.reverse
termination_by structural fuel => fuel

/-- Runs what a name stands for: a function, a command of the shell or a program. -/
def runNamed (tested final direct special : Bool) (name : String) (args : List String) :
    Nat → Running Unit
  | 0 => return ()
  | fuel + 1 => do
    let p ← get
    let function := if direct || special then none else p.functions.lookup name
    match function with
    | some body => runFunction tested body args fuel
    | none =>
      if Builtin.names.contains name then
        let speaker := p.speaker
        set { p with speaker := some name, lost := none }
        runBuiltin tested name args fuel
        modify fun p =>
          let p := match p.lost with
            | some _ => { (p.warn (name ++ ": I/O error")).answer (p.status ||| 1) with lost := none }
            | none => p
          let p := if p.flow == .failed && !special then { p with flow := .onward } else p
          { p with speaker := speaker }
      else
        match p.findProgram name with
        | .error e =>
          set ((p.warn (name ++ ": " ++ Process.startReason e)).answer (Process.startStatus e))
        | .ok path =>
          let p := if name.contains '/' then p else { p with met := name :: p.met }
          if args.any fun a => Process.longestArgument < a.utf8ByteSize then
            set ((p.warn (name ++ ": " ++ Process.plainMessage .argumentTooLong)).answer 126)
          else if final && !p.hasTraps then set (runProgram path name args p fuel)
          else set (p.reap (runProgram path name args p.child fuel))
termination_by structural fuel => fuel

/-- Calls a function. -/
def runFunction (tested : Bool) (body : Command) (args : List String) : Nat → Running Unit
  | 0 => return ()
  | fuel + 1 => do
    let before ← get
    set { before with
      arguments := args
      loops := 0
      calls := before.calls + 1
      hidden := []
      optionOffset := 0 }
    runCommand tested false fuel body
    modify fun p =>
      let p := p.withVariablesOf p.hidden
      { p with
        arguments := before.arguments
        loops := before.loops
        calls := before.calls
        hidden := before.hidden
        optionOffset := before.optionOffset
        flow := if p.flow == .returning then .onward else p.flow }
termination_by structural fuel => fuel

/-- Runs a command of the shell. -/
def runBuiltin (tested : Bool) (name : String) (args : List String) : Nat → Running Unit
  | 0 => return ()
  | fuel + 1 => do
    let p ← get
    match Builtin.commands.lookup name with
    | some command => set (command args p)
    | none =>
      match name with
      | "eval" => runSource tested true ({ rest := (Text.join " " args).toList } : Source) fuel
      | "." => runFile args fuel
      | "exec" =>
        match args with
        | [] => answer 0
        | program :: rest =>
          match p.findProgram program with
          | .error e =>
            set ((p.warn (program ++ ": " ++ Process.startReason e)).exit (Process.startStatus e))
          | .ok path => set (runProgram path program rest p fuel)
      | "command" =>
        match Builtin.options "pvV" args with
        | .error e => fail e
        | .ok (found, rest) =>
          let long := Builtin.chose found 'V'
          match rest with
          | [] => answer 0
          | n :: _ => set ((p.answer 0).describe long n)
      | "type" => set (args.foldl (fun p n => p.describe true n) (p.answer 0))
      | "alias" =>
        match args with
        | [] =>
          let line (e : String × String) := e.1 ++ "=" ++ Builtin.singleQuotes e.2 ++ "\n"
          set ((p.say (String.join (p.aliases.map line))).answer 0)
        | _ =>
          set (args.foldl (fun p a =>
            match Builtin.splitAssignment a with
            | (n, some value) =>
              { p with aliases := (n, value) :: p.aliases.filter fun e => e.1 != n }
            | (n, none) =>
              match p.aliases.lookup n with
              | some value => p.say (n ++ "=" ++ Builtin.singleQuotes value ++ "\n")
              | none => (p.complain ("alias: " ++ n ++ " not found")).answer 1) (p.answer 0))
      | "unalias" =>
        set (args.foldl (fun p n =>
          if n == "-a" then { p with aliases := [] }
          else if (p.aliases.lookup n).isSome then
            { p with aliases := p.aliases.filter fun e => e.1 != n }
          else (p.complain ("unalias: " ++ n ++ " not found")).answer 1) (p.answer 0))
      | _ =>
        match Builtin.options "r" args with
        | .error e => fail e
        | .ok (_, rest) =>
          set (rest.foldl (fun p n =>
            match p.commandKind? n with
            | some (.program _) => { p with met := n :: p.met }
            | some _ => p
            | none => (p.warn (n ++ ": not found")).answer 1) (p.answer 0))
termination_by structural fuel => fuel

/-- Runs the script of a file in the running shell. -/
def runFile (args : List String) : Nat → Running Unit
  | 0 => return ()
  | fuel + 1 => do
    let p ← get
    match args with
    | [] => answer 0
    | path :: _ =>
      let found := if path.contains '/' then some path
        else (p.searchPath.map fun d => d ++ "/" ++ path).find? fun f =>
          match p.kindAt f with
          | .ok (.file _) => true
          | _ => false
      match found with
      | none => fail (path ++ ": not found")
      | some f =>
        match p.readPath f with
        | (.error _, _) => fail ("cannot open " ++ f ++ ": No such file")
        | (.ok bytes, _) =>
          set { p with speaker := some f, calls := p.calls + 1 }
          runSource false true ({ rest := (Text.decodeLossy bytes).toList } : Source) fuel
          modify fun q => { q with
            calls := p.calls
            flow := if q.flow == .returning then .onward else q.flow }
termination_by structural fuel => fuel

/-- Runs a text line by line. A text without commands succeeds; `fresh` says that none was there
before. -/
def runSource (tested fresh : Bool) (source : Source) : Nat → Running Unit
  | 0 => return ()
  | fuel + 1 => do
    let p ← get
    match nextCommand { source with aliases := p.aliases } with
    | .nothing => if fresh then answer 0
    | .fault f =>
      atLine f.line
      fail ("Syntax error: " ++ f.text)
    | .commands script last rest =>
      runList tested false fuel script
      if (← goesOn) && !last then runSource tested (fresh && script.isEmpty) rest fuel
termination_by structural fuel => fuel

/-- Runs a program to its end in the process it is given. -/
def runProgram (path name : String) (args : List String) (p : Process) : Nat → Process
  | 0 => p
  | fuel + 1 =>
    let p := p.begin name args
    let program := programName path
    let p :=
      if let some bytes := p.runnable? path then
        match interpreter? bytes with
        | some (program, more) => runProgram program program (more ++ path :: args) p fuel
        | none => runShell (path :: args) p fuel
      else if isShell program then runShell args p fuel
      else if program == "env" then runEnv args p fuel
      else if program == "nohup" then runNohup args p fuel
      else
        match Utility.programs.lookup program with
        | some run => Utility.run run args p
        | none => p.answer 127
    if p.flow == .ended .signaled then p else p.exit (p.status % 256)
termination_by structural fuel => fuel

/-- Runs a shell on the script that its arguments give: a text, a file or the input. -/
def runShell (args : List String) (p : Process) : Nat → Process
  | 0 => p
  | fuel + 1 =>
    let r := Builtin.readOptions true (args.length + 1) { process := p, rest := args }
    let p := { r.process with name := p.name }
    match r.fault with
    | some s => (p.warn s).answer 2
    | none =>
      let go (p : Process) (text : String) : Process :=
        (do
          runSource false true ({ rest := text.toList } : Source) fuel
          finish fuel : Running Unit).run p |>.2
      if r.script then
        match r.rest with
        | [] => (p.warn "-c requires an argument").answer 2
        | text :: rest => go { p with name := rest.headD p.name, arguments := rest.drop 1 } text
      else
        match if p.has 's' then [] else r.rest with
        | [] =>
          let (bytes, p) := match p.readAll 0 with
            | (.ok bytes, p) => (bytes, p)
            | (.error _, p) => ([], p)
          go { p with arguments := r.rest } (Text.decodeLossy bytes)
        | file :: rest =>
          match p.readPath file with
          | (.ok bytes, p) =>
            go { p with name := file, arguments := rest } (Text.decodeLossy bytes)
          | (.error _, p) =>
            if p.isDirectoryAt file then p.answer 0
            else (p.warn ("cannot open " ++ file ++ ": No such file")).answer 2
termination_by structural fuel => fuel

/-- Runs a program with changed variables. -/
def runEnv (args : List String) (p : Process) : Nat → Process
  | 0 => p
  | fuel + 1 =>
    p.withOptions environmentOptions 125 args fun c =>
      let clears := c.has 'i' || c.operands.head? == some "-"
      let operands := if c.operands.head? == some "-" then c.operands.drop 1 else c.operands
      let path := p.lookup? "PATH"
      let p := if clears then { p with bindings := [] } else p
      let p := c.options.foldl (fun p o => if o.1 == 'u' then p.dropVariable o.2 else p) p
      let assignments := operands.takeWhile fun s => s.contains '='
      let p := assignments.foldl (fun p s =>
        match Builtin.splitAssignment s with
        | (n, some value) => p.setVariable n { value := some value, exported := true }
        | _ => p) p
      match operands.drop assignments.length with
      | [] => PathTools.printenv (if c.has '0' then ["-0"] else []) p
      | name :: rest =>
        let q := match path with
          | some s => if clears then p.setVariable "PATH" { value := some s } else p
          | none => p
        match q.findProgram name with
        | .ok path => runProgram path name rest p fuel
        | .error e =>
          p.reject (if e == .notFound || e == .notADirectory then 127 else 126)
            (curlyQuoted name ++ ": " ++ Process.plainMessage e)
termination_by structural fuel => fuel

/-- Runs a program that a lost terminal does not end. -/
def runNohup (args : List String) (p : Process) : Nat → Process
  | 0 => p
  | fuel + 1 =>
    p.withOptions OptionTable.leading 125 args fun c =>
      match c.operands with
      | [] => p.rejectUsage 125 "missing operand"
      | name :: rest =>
        match p.findProgram name with
        | .ok path =>
          runProgram path name rest { p with traps := ("HUP", "") :: p.traps } fuel
        | .error e =>
          p.reject (if e == .notFound || e == .notADirectory then 127 else 126)
            ("failed to run command " ++ shellQuoted name ++ ": " ++ Process.plainMessage e)
termination_by structural fuel => fuel

end

/-- How much a script may run. -/
def runFuel : Nat := 100000

end AgentFleet.Shell
