import AgentFleet.Inventory.Pattern

/-!
# Arguments

What the arguments of the program ask for. A command line has two levels: the
options before the name of a command, and the options and words of that command.
The shared options belong to both levels, and the command's own level wins.
Every mistake makes the whole command line unreadable.
-/

namespace AgentFleet.CommandLine

/-! ### Options -/

/-- What an option takes. -/
inductive OptionKind where
  /-- No value. -/
  | flag
  /-- A value of any text. -/
  | text
  /-- A value that is not empty. -/
  | path
  deriving DecidableEq, Repr

/-- An option of a command. -/
structure OptionRule where
  /-- The name behind two hyphens. -/
  name : String
  /-- What it takes. -/
  kind : OptionKind
  /-- The letter behind one hyphen, if there is one. -/
  letter : Option Char := none
  deriving DecidableEq, Repr

/-- The options of every level. -/
def sharedOptions : List OptionRule :=
  [{ name := "config", kind := .path },
    { name := "inventory", kind := .path, letter := some 'i' },
    { name := "log-level", kind := .text }]

/-- Whether an option takes a value. -/
def OptionRule.accepts (o : OptionRule) (value : String) : Bool :=
  match o.kind with
  | .flag => false
  | .text => true
  | .path => !value.isEmpty

/-! ### Arguments -/

/-- How an option is called. -/
inductive OptionName where
  /-- By its name. -/
  | long (name : String)
  /-- By its letter. -/
  | short (letter : Char)
  deriving DecidableEq, Repr

/-- How one argument is written. -/
inductive Argument where
  /-- Two hyphens: words only from here on. -/
  | wordsOnly
  /-- An option with the value that is attached to it. -/
  | option (name : OptionName) (attached : Option String)
  /-- A word. -/
  | word (s : String)
  deriving DecidableEq, Repr

namespace Argument

/-- The name of a long option and the value after its first equals sign. -/
def ofLong (cs : List Char) : Argument :=
  let name := cs.takeWhile fun c => c != '='
  match cs.drop name.length with
  | [] => option (.long (String.ofList name)) none
  | _ :: value => option (.long (String.ofList name)) (some (String.ofList value))

/-- The value behind the letter of a short option; one equals sign is left out. -/
def shortValue : List Char → Option String
  | [] => none
  | '=' :: value => some (String.ofList value)
  | value => some (String.ofList value)

/-- How an argument is written; a single hyphen is a word. -/
def ofString (s : String) : Argument :=
  match s.toList with
  | ['-', '-'] => wordsOnly
  | '-' :: '-' :: cs => ofLong cs
  | '-' :: c :: cs => option (.short c) (shortValue cs)
  | _ => word s

end Argument

/-! ### Levels -/

/-- What the arguments of a level give. -/
structure Given where
  /-- The values of the options by name; a flag has an empty value. -/
  options : List (String × String) := []
  /-- The words. -/
  words : List String := []
  deriving DecidableEq, Repr, Inhabited

namespace Given

/-- The value of an option. -/
def value? (g : Given) (name : String) : Option String :=
  g.options.lookup name

/-- Whether a flag is given. -/
def hasFlag (g : Given) (name : String) : Bool :=
  (g.value? name).isSome

/-- Gives an option a value; none may be given twice. -/
def give (g : Given) (name value : String) : Option Given :=
  if (g.value? name).isSome then none else some { g with options := g.options ++ [(name, value)] }

/-- Gives a word. -/
def giveWord (g : Given) (s : String) : Given :=
  { g with words := g.words ++ [s] }

/-- Gives an option of a rule with the value attached to it, or else with the next argument, which
must be a word; the rest is what is left to read. -/
def giveOption (g : Given) (o : OptionRule) (attached : Option String) (rest : List String) :
    Option (Given × List String) :=
  match o.kind, attached, rest with
  | .flag, none, _ => (g.give o.name "").map fun g => (g, rest)
  | .flag, some _, _ => none
  | _, some value, _ =>
    if o.accepts value then (g.give o.name value).map fun g => (g, rest) else none
  | _, none, value :: rest =>
    if Argument.ofString value == .word value && o.accepts value then
      (g.give o.name value).map fun g => (g, rest)
    else none
  | _, none, [] => none

theorem giveOption_length {g g' : Given} {o : OptionRule} {attached : Option String}
    {rest left : List String} (h : g.giveOption o attached rest = some (g', left)) :
    left.length ≤ rest.length := by
  unfold giveOption at h
  split at h
  · obtain ⟨_, _, h⟩ := Option.map_eq_some_iff.1 h
    cases h; exact Nat.le_refl _
  · cases h
  · split at h
    · obtain ⟨_, _, h⟩ := Option.map_eq_some_iff.1 h
      cases h; exact Nat.le_refl _
    · cases h
  · split at h
    · obtain ⟨_, _, h⟩ := Option.map_eq_some_iff.1 h
      cases h; simp
    · cases h
  · cases h

end Given

/-- The rule that an option goes by. -/
def findRule (rules : List OptionRule) : OptionName → Option OptionRule
  | .long name => rules.find? fun o => o.name == name
  | .short letter => rules.find? fun o => o.letter == some letter

/-- The options before the name of a command, that name, and the arguments behind it. -/
def readShared (g : Given) : List String → Option (Given × String × List String)
  | [] => none
  | a :: rest =>
    match Argument.ofString a with
    | .wordsOnly => none
    | .word name => some (g, name, rest)
    | .option name attached =>
      match findRule sharedOptions name with
      | none => none
      | some o =>
        match _h : g.giveOption o attached rest with
        | none => none
        | some (g, left) => readShared g left
termination_by arguments => arguments.length
decreasing_by
  have := Given.giveOption_length _h
  simp only [List.length_cons]
  omega

/-- The options and words of a command. -/
def readCommand (rules : List OptionRule) (g : Given) : List String → Option Given
  | [] => some g
  | a :: rest =>
    match Argument.ofString a with
    | .wordsOnly => some (rest.foldl Given.giveWord g)
    | .word s => readCommand rules (g.giveWord s) rest
    | .option name attached =>
      match findRule rules name with
      | none => none
      | some o =>
        match _h : g.giveOption o attached rest with
        | none => none
        | some (g, left) => readCommand rules g left
termination_by arguments => arguments.length
decreasing_by
  · simp only [List.length_cons]
    omega
  · have := Given.giveOption_length _h
    simp only [List.length_cons]
    omega

/-! ### Commands -/

/-- What the program is asked to do with the selected hosts. -/
inductive Command where
  /-- Print the hosts. -/
  | inventory (json : Bool)
  /-- Check that every host can be reached. -/
  | check
  /-- Run a command on every host. -/
  | exec (command : String)
  /-- Remove the output of the workers. -/
  | clean
  /-- Start the agents. -/
  | start
  /-- Fetch the output of the workers. -/
  | download (runPath runId : String)
  /-- Prepare a run. -/
  | prepareRun (uploadDirectory runId : String)
  deriving DecidableEq, Repr

/-- The options of a command besides the shared ones; `none` when there is no such command. -/
def ownOptions : String → Option (List OptionRule)
  | "inventory" => some [{ name := "json", kind := .flag }]
  | "check" | "exec" | "clean" | "start" => some []
  | "download" => some [{ name := "run-path", kind := .path }, { name := "run-id", kind := .text }]
  | "prepare-run" =>
    some [{ name := "upload-dir", kind := .path }, { name := "run-id", kind := .text }]
  | _ => none

/-- The pattern that stands when no word names one. -/
def patternOf : List String → Option HostPattern
  | [] => some (HostPattern.parse PatternToken.everyHost)
  | [pattern] => some (HostPattern.parse pattern)
  | _ => none

/-- The command of a name, and the pattern of its hosts. -/
def Command.ofGiven (name : String) (g : Given) : Option (Command × HostPattern) :=
  match name with
  | "inventory" => (patternOf g.words).map fun p => (.inventory (g.hasFlag "json"), p)
  | "check" => (patternOf g.words).map fun p => (.check, p)
  | "clean" => (patternOf g.words).map fun p => (.clean, p)
  | "start" => (patternOf g.words).map fun p => (.start, p)
  | "exec" =>
    match g.words with
    | [pattern, command] => some (.exec command, HostPattern.parse pattern)
    | _ => none
  | "download" => do
    let p ← patternOf g.words
    return (.download (← g.value? "run-path") (← g.value? "run-id"), p)
  | "prepare-run" => do
    let p ← patternOf g.words
    return (.prepareRun (← g.value? "upload-dir") (← g.value? "run-id"), p)
  | _ => none

/-- What a command line asks for. -/
structure Request where
  /-- The settings file. -/
  settingsPath : Option String
  /-- The inventory file. -/
  inventoryPath : Option String
  /-- The least level that is logged. -/
  logLevel : Option String
  /-- The hosts. -/
  pattern : HostPattern
  /-- What is done with them. -/
  command : Command
  deriving DecidableEq, Repr

/-- What the arguments of the program ask for; `none` when they cannot be read. -/
def Request.ofArguments? (arguments : List String) : Option Request := do
  let (outer, name, rest) ← readShared {} arguments
  let own ← ownOptions name
  let inner ← readCommand (own ++ sharedOptions) {} rest
  let (command, pattern) ← Command.ofGiven name inner
  let shared (option : String) : Option String := (inner.value? option).or (outer.value? option)
  return {
    settingsPath := shared "config"
    inventoryPath := shared "inventory"
    logLevel := shared "log-level"
    pattern := pattern
    command := command }

end AgentFleet.CommandLine
