import AgentFleet.Shell.Lines

/-!
# Tools for paths

The programs that take paths apart, that print where something is, and that copy their input to
files.
-/

namespace AgentFleet.Shell.PathTools

/-- A name without a suffix that is not all of it. -/
def withoutSuffix (suffix name : String) : String :=
  if name != suffix && name.endsWith suffix then (name.dropEnd suffix.length).toString else name

/-- The text of lines, which the zero character ends when an option asks for it. -/
def lines (c : Chosen) (texts : List String) : String :=
  String.join (texts.map fun t => t ++ if c.has 'z' then "\x00" else "\n")

/-- The options of the program that prints last components. -/
def basenameOptions : OptionTable where
  flags := ['a', 'z']
  valued := ['s']
  names := [("multiple", 'a'), ("suffix", 's'), ("zero", 'z')]
  anywhere := false

/-- Prints the last components of paths. -/
def basename (arguments : List String) (p : Process) : Process :=
  p.withOptions basenameOptions 1 arguments fun c =>
    let show_ (suffix : String) (paths : List String) : Process :=
      (p.answer 0).say
        (lines c (paths.map fun path => withoutSuffix suffix (FileTools.baseName path)))
    match c.operands with
    | [] => FileTools.missing p "operand"
    | path :: rest =>
      if c.has 'a' || c.has 's' then show_ ((c.value? 's').getD "") c.operands
      else
        match rest with
        | _ :: extra :: _ => p.rejectUsage 1 ("extra operand " ++ curlyQuoted extra)
        | _ => show_ (rest.headD "") [path]

/-- A path without its last component. -/
def directoryName (path : String) : String :=
  let trimmed := FileTools.withoutSlashes path
  let parts := (Text.split '/' trimmed).dropLast
  if trimmed == "/" then "/"
  else if parts.isEmpty then "."
  else
    let parent := Text.join "/" parts
    if parent.isEmpty then "/" else FileTools.withoutSlashes parent

/-- The options of the program that prints paths without their last components. -/
def dirnameOptions : OptionTable where
  flags := ['z']
  names := [("zero", 'z')]

/-- Prints paths without their last components. -/
def dirname (arguments : List String) (p : Process) : Process :=
  p.withOptions dirnameOptions 1 arguments fun c =>
    if c.operands.isEmpty then FileTools.missing p "operand"
    else (p.answer 0).say (lines c (c.operands.map directoryName))

/-- The options of the program that prints the current directory. -/
def pwdOptions : OptionTable where
  flags := ['L', 'P']
  names := [("logical", 'L'), ("physical", 'P')]

/-- Prints the current directory. -/
def pwd (arguments : List String) (p : Process) : Process :=
  p.withOptions pwdOptions 1 arguments fun c =>
    let p := if c.operands.isEmpty then p else p.report "ignoring non-option arguments"
    (p.answer 0).say ("/" ++ Text.join "/" p.files.current ++ "\n")

/-- Prints where programs are. -/
def which (arguments : List String) (p : Process) : Process :=
  let found := arguments.filterMap fun n =>
    if n.contains '/' then if (programAt? n).isSome then some n else none
    else if systemPrograms.contains n then some ("/usr/bin/" ++ n) else none
  (p.say (String.join (found.map fun s => s ++ "\n"))).answer
    (if found.length == arguments.length && !arguments.isEmpty then 0 else 1)

/-- The options of the program that prints variables. -/
def printenvOptions : OptionTable where
  flags := ['0']
  names := [("null", '0')]
  anywhere := false

/-- Prints the variables that programs see, or some of them. -/
def printenv (arguments : List String) (p : Process) : Process :=
  p.withOptions printenvOptions 2 arguments fun c =>
    let ending := if c.has '0' then "\x00" else "\n"
    let visible := p.environment
    match c.operands with
    | [] => (p.answer 0).say (String.join (visible.map fun (n, v) => n ++ "=" ++ v ++ ending))
    | names =>
      let found := names.filterMap fun n => visible.lookup n
      (p.say (String.join (found.map fun v => v ++ ending))).answer
        (if found.length == names.length then 0 else 1)

/-- The options of the program that copies its input. -/
def teeOptions : OptionTable where
  flags := ['a', 'i', 'p']
  names := [("append", 'a'), ("ignore-interrupts", 'i')]

/-- Copies the input to files and to the output. -/
def tee (arguments : List String) (p : Process) : Process :=
  p.withOptions teeOptions 1 arguments fun c =>
    match p.readAll 0 with
    | (.error e, p) => p.reject 1 ("read error: " ++ e)
    | (.ok bytes, p) =>
      let step (p : Process) (path : String) : Process :=
        match p.openPath 9999 path (if c.has 'a' then .append else .write) with
        | .error e => p.reject 1 (nameAndReason path (Process.plainMessage e))
        | .ok q =>
          match q.writeTo 9999 bytes with
          | .ok q => q.close 9999
          | .error e => q.reject 1 (nameAndReason path e)
      c.operands.foldl step ((p.answer 0).write bytes)

end AgentFleet.Shell.PathTools
