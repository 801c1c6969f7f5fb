import AgentFleet.Shell.Expansion
import AgentFleet.Shell.Print
import AgentFleet.Shell.Source
import AgentFleet.Shell.Test

/-!
# Commands of the shell

The commands that a script finds in the shell itself and that run no further script: they change
the state of the shell, or print and compare as programs do. An error ends the script if the
command is a special one.
-/

namespace AgentFleet.Shell.Builtin

/-! ### Options -/

/-- Reads the letters of options; one that a colon follows in `known` takes a value. The words from
the first operand on are left. -/
def options (known : String) : List String → Except String (List (Char × String) × List String)
  | [] => .ok ([], [])
  | a :: rest =>
    match a.toList with
    | '-' :: c :: cs =>
      if c == '-' && cs.isEmpty then .ok ([], rest)
      else
        match letters (c :: cs) with
        | .error e => .error e
        | .ok (found, none) => (options known rest).map fun (more, left) => (found ++ more, left)
        | .ok (found, some l) =>
          match rest with
          | [] => .error ("No arg for -" ++ String.singleton l ++ " option")
          | value :: rest =>
            (options known rest).map fun (more, left) => (found ++ (l, value) :: more, left)
    | _ => .ok ([], a :: rest)
where
  /-- Reads the letters of one argument; the last one may ask for the next argument. -/
  letters : List Char → Except String (List (Char × String) × Option Char)
    | [] => .ok ([], none)
    | c :: cs =>
      if c == ':' || !known.toList.contains c then
        .error ("Illegal option -" ++ String.singleton c)
      else if (known.splitOn (String.ofList [c, ':'])).length == 1 then
        (letters cs).map fun (more, asks) => ((c, "") :: more, asks)
      else if cs.isEmpty then .ok ([], some c)
      else .ok ([(c, String.ofList cs)], none)

/-- Runs a command on its options and operands. -/
def withOptions (known : String) (arguments : List String) (p : Process)
    (run : List (Char × String) → List String → Process) : Process :=
  match options known arguments with
  | .ok (found, rest) => run found rest
  | .error e => p.fail e

/-- Whether options hold a letter. -/
def chose (found : List (Char × String)) (letter : Char) : Bool :=
  found.any fun o => o.1 == letter

/-! ### Directories -/

/-- The location that a path names by its text alone. -/
def namedLocation (from_ : List String) (path : String) : List String :=
  (Text.split '/' path).foldl
    (fun l c => if c.isEmpty || c == "." then l else if c == ".." then l.dropLast else l ++ [c])
    (if path.startsWith "/" then [] else from_)

/-- The path of a location. -/
def pathOf (location : List String) : String :=
  "/" ++ Text.join "/" location

/-- Whether a location can be gone to. -/
def canGoTo (p : Process) (location : List String) : Bool :=
  p.isDirectoryAt (pathOf location)

/-- The paths among which a directory is looked for, and whether its path is printed then. -/
def searched (p : Process) (target : String) : List (String × Bool) :=
  let first := (Text.split '/' target).headD ""
  if target.startsWith "/" || first == "." || first == ".." then [(target, false)]
  else
    let above := (p.lookup? "CDPATH").toList.flatMap fun s => Text.split ':' s
    let paths := above.map fun d => if d.isEmpty then (target, false) else (d ++ "/" ++ target, true)
    paths.filter (fun e => p.isDirectoryAt e.1) ++ [(target, false)]

/-- Goes to another directory. -/
def cd (arguments : List String) (p : Process) : Process :=
  withOptions "LP" arguments p fun _ rest =>
    let back := rest.head? == some "-"
    let target := match rest with
      | [] => (p.lookup? "HOME").getD ""
      | path :: _ => if back then (p.lookup? "OLDPWD").getD "" else path
    let (path, found) := (searched p target).headD (target, false)
    let location := namedLocation p.files.current path
    if location.isEmpty || location == p.files.current || canGoTo p location then
      let old := pathOf p.files.current
      let p := { p with files := { p.files with current := location } }
      let p := p.setVariable "OLDPWD" { value := some old, exported := true }
      let p := p.setVariable "PWD" { value := some (pathOf location), exported := true }
      (if back || found then p.say (pathOf location ++ "\n") else p).answer 0
    else p.fail ("can't cd to " ++ target)

/-- Prints the current directory. -/
def pwd (arguments : List String) (p : Process) : Process :=
  withOptions "LP" arguments p fun _ _ => (p.say (pathOf p.files.current ++ "\n")).answer 0

/-! ### Variables -/

/-- Cuts an assignment that is given as an argument. -/
def splitAssignment (s : String) : String × Option String :=
  let name := s.toList.takeWhile (· != '=')
  match s.toList.drop name.length with
  | _ :: value => (String.ofList name, some (String.ofList value))
  | [] => (String.ofList name, none)

/-- The wording for what is no name of a variable. -/
def badName (name : String) : String := name ++ ": bad variable name"

/-- A value between single quotes. -/
def singleQuotes (s : String) : String :=
  let parts := Text.split '\'' s
  let quoted := parts.map fun t => "'" ++ t ++ "'"
  Text.join "\"'\"" quoted

/-- The lines that list variables after a word. -/
def listing (p : Process) (word : String) (wanted : Variable → Bool) : String :=
  let chosen := p.bindings.filter fun e => wanted e.2
  let sorted := chosen.mergeSort fun a b => !(b.1 < a.1)
  String.join (sorted.map fun (name, v) =>
    word ++ name ++ (v.value.map fun s => "=" ++ singleQuotes s).getD "" ++ "\n")

/-- Marks variables, which may get values at once. -/
def mark (known : String) (word : String) (wanted : Variable → Bool) (change : Variable → Variable)
    (arguments : List String) (p : Process) : Process :=
  withOptions known arguments p fun found rest =>
    if rest.isEmpty || chose found 'p' then (p.say (listing p word wanted)).answer 0
    else
      let step (p : Process) (a : String) : Process :=
        if p.isOver then p
        else
          let (name, value) := splitAssignment a
          if !isName name then p.fail (badName name)
          else
            let p := match value with
              | some s => p.assign name s
              | none => p
            if p.isOver then p else p.setVariable name (change ((p.named? name).getD {}))
      rest.foldl step (p.answer 0)

/-- Lets programs see variables. -/
def exportVariables : List String → Process → Process :=
  mark "p" "export " Variable.exported fun v => { v with exported := true }

/-- Keeps variables from changing. -/
def fixVariables : List String → Process → Process :=
  mark "p" "readonly " Variable.fixed fun v => { v with fixed := true }

/-- Gives the running function variables of its own. -/
def localVariables (arguments : List String) (p : Process) : Process :=
  if p.calls == 0 then p.fail "not in a function"
  else
    let step (p : Process) (a : String) : Process :=
      if p.isOver then p
      else
        let (name, value) := splitAssignment a
        if name == "-" then p
        else if !isName name then p.fail (badName name)
        else
          let q := { p with hidden := (name, p.named? name) :: p.hidden }
          match value with
          | some s => q.assign name s
          | none => q
    arguments.foldl step (p.answer 0)

/-- Removes variables or functions. -/
def unset (arguments : List String) (p : Process) : Process :=
  withOptions "vf" arguments p fun found rest =>
    let functions := (found.getLast?.map Prod.fst) == some 'f'
    let step (p : Process) (name : String) : Process :=
      if p.isOver then p
      else if functions then { p with functions := p.functions.filter fun e => e.1 != name }
      else if !isName name then p.fail (badName name)
      else if (p.named? name).any Variable.fixed then p.fail (Process.fixedMessage name)
      else p.dropVariable name
    rest.foldl step (p.answer 0)

/-! ### Options of the shell -/

/-- The options of the shell by name. -/
def optionNames : List (String × Char) :=
  [("errexit", 'e'), ("noglob", 'f'), ("ignoreeof", 'I'), ("interactive", 'i'), ("monitor", 'm'),
    ("noexec", 'n'), ("stdin", 's'), ("xtrace", 'x'), ("verbose", 'v'), ("vi", 'V'), ("emacs", 'E'),
    ("noclobber", 'C'), ("allexport", 'a'), ("notify", 'b'), ("nounset", 'u'), ("privileged", 'p'),
    ("nolog", '1'), ("debug", '2')]

/-- Sets or clears an option. -/
def setOption (p : Process) (on : Bool) (letter : Char) : Process :=
  let others := p.options.filter (· != letter)
  { p with options := if on then letter :: others else others }

/-- The lines that list the options. -/
def optionListing (p : Process) : String :=
  "Current option settings\n" ++ String.join (optionNames.map fun (name, letter) =>
    name ++ String.ofList (List.replicate (16 - name.length) ' ') ++
      (if p.has letter then "on" else "off") ++ "\n")

/-- The commands that would set the options as they are. -/
def optionCommands (p : Process) : String :=
  String.join (optionNames.map fun (name, letter) =>
    "set " ++ (if p.has letter then "-" else "+") ++ "o " ++ name ++ "\n")

/-- The sign of an option. -/
def optionSign (on : Bool) : String := if on then "-" else "+"

/-- Reads the options of the shell among arguments; the answer holds the arguments that are left,
whether they replace the parameters even if there are none, and the letters that are no options of
a running shell. -/
structure OptionReading where
  /-- The process. -/
  process : Process
  /-- The arguments that are left. -/
  rest : List String
  /-- Whether two dashes were read. -/
  ended : Bool := false
  /-- Whether the script is an argument. -/
  script : Bool := false
  /-- What is wrong. -/
  fault : Option String := none

/-- Reads the letters of one argument of options. -/
def readLetters (starting on : Bool) : List Char → OptionReading → OptionReading
  | [], r => r
  | c :: cs, r =>
    if c == 'c' && starting then readLetters starting on cs { r with script := on }
    else if c == 'l' && starting then readLetters starting on cs r
    else if c == 'o' then
      match r.rest with
      | [] =>
        let text := if on then optionListing r.process else optionCommands r.process
        readLetters starting on cs { r with process := r.process.say text }
      | name :: rest =>
        match optionNames.lookup name with
        | some letter =>
          readLetters starting on cs
            { r with process := setOption r.process on letter, rest := rest }
        | none => { r with fault := some ("Illegal option " ++ optionSign on ++ "o " ++ name) }
    else if optionNames.any fun e => e.2 == c then
      readLetters starting on cs { r with process := setOption r.process on c }
    else { r with fault := some ("Illegal option " ++ optionSign on ++ String.singleton c) }

/-- Reads the options at the beginning of at most `fuel` arguments. -/
def readOptions (starting : Bool) : Nat → OptionReading → OptionReading
  | 0, r => r
  | fuel + 1, r =>
    match r.rest with
    | [] => r
    | a :: rest =>
      match a.toList with
      | sign :: cs =>
        if sign != '-' && sign != '+' then r
        else if sign == '-' && cs.isEmpty then
          let p := if starting then r.process
            else setOption (setOption r.process false 'x') false 'v'
          { r with process := p, rest := rest }
        else if a == "--" then { r with rest := rest, ended := true }
        else
          let next := readLetters starting (sign == '-') cs { r with rest := rest }
          if next.fault.isSome then next else readOptions starting fuel next
      | [] => r

/-- Sets options and parameters, or lists the variables. -/
def set (arguments : List String) (p : Process) : Process :=
  if arguments.isEmpty then (p.say (listing p "" fun v => v.value.isSome)).answer 0
  else
    let r := readOptions false (arguments.length + 1) { process := p, rest := arguments }
    match r.fault with
    | some s => r.process.fail s
    | none =>
      let p := r.process.answer 0
      if r.ended || !r.rest.isEmpty then { p with arguments := r.rest, optionOffset := 0 } else p

/-- Drops the first parameters. -/
def shift (arguments : List String) (p : Process) : Process :=
  match arguments with
  | [] => go 1
  | a :: _ =>
    match argumentNumber? a with
    | some n => go n
    | none => p.fail (illegalNumber a)
where
  /-- Drops a number of parameters. -/
  go (n : Nat) : Process :=
    if p.arguments.length < n then p.fail "can't shift that many"
    else { p with arguments := p.arguments.drop n, status := 0, optionOffset := 0 }

/-! ### Where to go on -/

/-- Leaves loops, or begins their next turn. -/
def leave (again : Bool) (arguments : List String) (p : Process) : Process :=
  match arguments with
  | [] => go 1
  | a :: _ =>
    match argumentNumber? a with
    | some n => if n == 0 then p.fail (illegalNumber a) else go n
    | none => p.fail (illegalNumber a)
where
  /-- Leaves at most a number of loops. -/
  go (n : Nat) : Process :=
    let n := min n p.loops
    if n == 0 then p.answer 0 else { p with flow := .leaving n again, status := 0 }

/-- Goes on after the function, or after the script. -/
def returnFrom (arguments : List String) (p : Process) : Process :=
  match arguments with
  | [] => { p with flow := .returning }
  | a :: _ =>
    match argumentNumber? a with
    | some n => { p with flow := .returning, status := n }
    | none => p.fail (illegalNumber a)

/-- Ends the script. -/
def exit (arguments : List String) (p : Process) : Process :=
  match arguments with
  | [] => p.exit p.status
  | a :: _ =>
    match argumentNumber? a with
    | some n => p.exit n
    | none => p.fail (illegalNumber a)

/-! ### Signals -/

/-- The number of the signal that a text names; zero is one only when it ends the script. -/
def signalNumber? (least : Nat) (s : String) : Option Nat :=
  if !s.isEmpty && s.toList.all Number.isDigit then
    (Number.natural? 10 s.toList).bind fun n => if least ≤ n && n < 65 then some n else none
  else
    let name := s.toUpper
    if least == 0 && name == "EXIT" then some 0
    else (List.range 65).find? fun n => 0 < n && Process.signalName n == name && n != 32 && n != 33

/-- The name of a condition for an action. -/
def conditionName (n : Nat) : String :=
  if n == 0 then "EXIT" else Process.signalName n

/-- Sets actions for signals, or lists them. -/
def trap (arguments : List String) (p : Process) : Process :=
  withOptions "" arguments p fun _ rest =>
    match rest with
    | [] =>
      let lines := (List.range 65).filterMap fun n =>
        (p.traps.lookup (conditionName n)).map fun action =>
          "trap -- " ++ singleQuotes action ++ " " ++ conditionName n ++ "\n"
      (p.say (String.join lines)).answer 0
    | first :: others =>
      let resets := others.isEmpty || (signalNumber? 0 first).isSome &&
        first.toList.all Number.isDigit
      let conditions := if resets then rest else others
      let action := if resets || first == "-" then none else some first
      let step (p : Process) (s : String) : Process :=
        if p.status != 0 then p
        else
          match signalNumber? 0 s with
          | none => p.refuse 1 ("trap: " ++ s ++ ": bad trap")
          | some n =>
            let name := conditionName n
            let kept := p.traps.filter fun e => e.1 != name
            { p with traps := match action with
              | some a => (name, a) :: kept
              | none => kept }
      conditions.foldl step (p.answer 0)

/-- How signals are sent. -/
def killUsage : String :=
  "Usage: kill [-s sigspec | -signum | -sigspec] [pid | job]... or\nkill -l [exitstatus]"

/-- The job that a text names. -/
def job? (p : Process) (s : String) : Option Job :=
  match s.toList with
  | '%' :: digits =>
    let inOrder := p.jobs.reverse
    match String.ofList digits with
    | "" | "%" | "+" => p.jobs.head?
    | "-" => p.jobs[1]?
    | n => n.toNat?.bind fun n => if n == 0 then none else inOrder[n - 1]?
  | _ => s.toNat?.bind fun n => p.jobs.find? fun j => j.number == n

/-- Sends a signal to a process by its number, or says that there is none. -/
def signal (p : Process) (n target : Nat) : Process :=
  if target == p.self then p.receive n
  else if p.waiting.contains target || target == p.number then
    { p with signals := p.signals ++ [(target, n)] }
  else if target ≤ 1 then p
  else
    match p.jobs.find? fun j => j.number == target with
    | some j =>
      let hit := { j with status := 128 + n, rested := false }
      if j.rested && n != 0 then
        { p with jobs := p.jobs.map fun k => if k.number == j.number then hit else k }
      else p
    | none => (p.warn "No such process\n").answer 1

/-- Sends signals, or lists them. -/
def kill (arguments : List String) (p : Process) : Process :=
  let send (n : Nat) (targets : List String) : Process :=
    if targets.isEmpty then p.fail killUsage
    else
      let step (p : Process) (s : String) : Process :=
        if p.isOver then p
        else if s.startsWith "%" then
          match job? p s with
          | some j => signal p n j.number
          | none => p.fail ("No such job: " ++ s)
        else
          let digits := if s.startsWith "-" then (s.drop 1).toString else s
          match argumentNumber? digits with
          | some t => signal p n t
          | none => p.fail (illegalNumber s)
      targets.foldl step (p.answer 0)
  match arguments with
  | [] => p.fail killUsage
  | a :: rest =>
    match a.toList with
    | '-' :: name@(c :: _) =>
      let name := String.ofList name
      if name == "-" then send 15 rest
      else if (signalNumber? 0 name).isSome && name != "EXIT" && name != "l" then
        send ((signalNumber? 0 name).getD 0) (if rest.head? == some "--" then rest.drop 1 else rest)
      else
        withOptions "ls:" arguments p fun found rest =>
          if chose found 'l' then
            match rest with
            | [] =>
              let names := (List.range 65).map Process.signalName
              (p.say (String.join (names.map fun n => n ++ "\n"))).answer 0
            | s :: _ =>
              match argumentNumber? s with
              | none => p.fail (illegalNumber s)
              | some n =>
                let n := if 128 < n then n - 128 else n
                if 0 < n && n < 65 then (p.say (Process.signalName n ++ "\n")).answer 0
                else p.fail ("invalid signal number or exit status: " ++ s)
          else
            match found.find? fun o => o.1 == 's' with
            | some (_, s) =>
              match signalNumber? 0 s with
              | some n => send n rest
              | none => p.fail ("invalid signal number or name: " ++ s)
            | none => p.fail ("Illegal option -" ++ String.singleton c)
    | _ => send 15 arguments

/-- Waits for processes. -/
def wait (arguments : List String) (p : Process) : Process :=
  withOptions "" arguments p fun _ rest =>
    let step (p : Process) (s : String) : Process :=
      if p.isOver then p
      else if s.startsWith "%" then
        match job? p s with
        | some j => p.answer j.status
        | none => p.fail ("No such job: " ++ s)
      else
        match argumentNumber? s with
        | none => p.fail (illegalNumber s)
        | some _ =>
          match job? p s with
          | none => p.answer 127
          | some j =>
            let p := match Process.signalTexts.lookup (j.status - 128) with
              | some text => if 128 < j.status then p.complain text else p
              | none => p
            p.answer j.status
    rest.foldl step (p.answer 0)

/-! ### Input -/

/-- Reads the characters of a line, of at most `fuel` bytes: whether each was hidden by a backslash,
how many bytes were taken, and whether the line had an end. -/
def readLine (raw : Bool) : Nat → List UInt8 → List (UInt8 × Bool) × Nat × Bool
  | 0, _ => ([], 0, false)
  | _ + 1, [] => ([], 0, false)
  | _ + 1, 10 :: _ => ([], 1, true)
  | fuel + 1, b :: rest =>
    let goOn (item : List (UInt8 × Bool)) (n : Nat) (rest : List UInt8) :
        List (UInt8 × Bool) × Nat × Bool :=
      let (items, taken, ended) := readLine raw fuel rest
      (item ++ items, taken + n, ended)
    if b == 92 && !raw then
      match rest with
      | [] => ([], 1, false)
      | 10 :: more => goOn [] 2 more
      | c :: more => goOn [(c, true)] 2 more
    else if b == 0 then goOn [] 1 rest
    else goOn [(b, false)] 1 rest

/-- A line without the separators around it. -/
def trimmedField (separators : List UInt8) (line : List (UInt8 × Bool)) : List (UInt8 × Bool) :=
  let blank (e : UInt8 × Bool) : Bool :=
    !e.2 && separators.contains e.1 && (e.1 == 32 || e.1 == 9 || e.1 == 10)
  (line.dropWhile blank).reverse.dropWhile blank |>.reverse

/-- The fields of a line for some variables; the last one takes all that is left. -/
def lineFields (separators : List UInt8) : Nat → List (UInt8 × Bool) → List (List UInt8)
  | 0, _ => []
  | n + 1, line =>
    let separates (e : UInt8 × Bool) : Bool := !e.2 && separators.contains e.1
    let blank (e : UInt8 × Bool) : Bool :=
      separates e && (e.1 == 32 || e.1 == 9 || e.1 == 10)
    let line := line.dropWhile blank
    let field := line.takeWhile fun e => !separates e
    let after := (line.drop field.length).dropWhile blank
    let after := match after with
      | e :: rest => if separates e then rest.dropWhile blank else after
      | [] => []
    if n == 0 then
      let whole := if after.isEmpty then field else trimmedField separators line
      [whole.map Prod.fst]
    else field.map Prod.fst :: lineFields separators n after

/-- Reads a line into variables. -/
def read (arguments : List String) (p : Process) : Process :=
  withOptions "p:r" arguments p fun found names =>
    if names.isEmpty then p.fail "arg count"
    else
      let bytes := match p.readable 0 with
        | .ok bytes => bytes
        | .error _ => []
      let (line, taken, ended) := readLine (chose found 'r') (bytes.length + 1) bytes
      let p := p.consume 0 taken
      let separators := Text.encode p.separators
      let fields := lineFields separators names.length line
      let step (p : Process) (e : String × Nat) : Process :=
        if p.isOver then p
        else if !isName e.1 then p.fail (badName e.1)
        else p.assign e.1 (Text.decodeLossy (fields.getD e.2 []))
      let p := names.zipIdx.foldl step p
      if p.isOver then p else p.answer (if ended then 0 else 1)

/-- Takes the next option from arguments. -/
def getopts (arguments : List String) (p : Process) : Process :=
  match arguments with
  | known :: name :: given =>
    let words := if given.isEmpty then p.arguments else given
    let index := ((p.lookup? "OPTIND").bind String.toNat?).getD 1
    let finish (p : Process) (letter : String) (index offset status : Nat) : Process :=
      let p := (p.assign "OPTIND" (toString index)).assign name letter
      { p with optionOffset := offset, status := status }
    let current := if index ≤ 1 || p.optionOffset == 0 then []
      else ((words[index - 2]?).getD "").toList.drop p.optionOffset
    let next : Option (List Char × Nat × Nat) :=
      if !current.isEmpty then some (current, index, p.optionOffset)
      else
        match (words[index - 1]?).map String.toList with
        | some ('-' :: c :: cs) =>
          if c == '-' && cs.isEmpty then none else some (c :: cs, index + 1, 1)
        | _ => none
    match next with
    | none =>
      let passed := if (words[index - 1]?) == some "--" && current.isEmpty then index + 1 else index
      finish p "?" passed 0 1
    | some ([], _, _) => finish p "?" index 0 1
    | some (c :: cs, index, offset) =>
      let letter := String.singleton c
      let quiet := known.startsWith ":"
      let offset' := if cs.isEmpty then 0 else offset + 1
      let isKnown := c != ':' && known.toList.contains c
      if !isKnown then
        if quiet then finish (p.assign "OPTARG" letter) "?" index offset' 0
        else
          finish ((p.complain ("Illegal option -" ++ letter)).dropVariable "OPTARG") "?" index
            offset' 0
      else if 1 < (known.splitOn (letter ++ ":")).length then
        if !cs.isEmpty then finish (p.assign "OPTARG" (String.ofList cs)) letter index 0 0
        else
          match words[index - 1]? with
          | some value => finish (p.assign "OPTARG" value) letter (index + 1) 0 0
          | none =>
            if quiet then finish (p.assign "OPTARG" letter) ":" index 0 0
            else
              finish ((p.complain ("No arg for -" ++ letter ++ " option")).dropVariable "OPTARG")
                "?" index 0 0
      else finish (p.assign "OPTARG" "") letter index offset' 0
  | _ => p.fail "Usage: getopts optstring var [arg...]"

/-! ### Permissions -/

/-- A mask in octal digits. -/
def maskText (n : Nat) : String :=
  let digits := Nat.toDigits 8 n
  String.ofList (List.replicate (4 - digits.length) '0' ++ digits) ++ "\n"

/-- The permissions that a mask leaves, as letters. -/
def maskLetters (n : Nat) : String :=
  let letters (m : Nat) : String :=
    (if m / 4 % 2 == 0 then "r" else "") ++ (if m / 2 % 2 == 0 then "w" else "") ++
      (if m % 2 == 0 then "x" else "")
  "u=" ++ letters (n / 64) ++ ",g=" ++ letters (n / 8) ++ ",o=" ++ letters n ++ "\n"

/-- Sets or prints the permissions that new files lack. -/
def umask (arguments : List String) (p : Process) : Process :=
  withOptions "S" arguments p fun found rest =>
    match rest with
    | [] => (p.say (if chose found 'S' then maskLetters p.mask else maskText p.mask)).answer 0
    | s :: _ =>
      if (s.toList.head?).any Number.isDigit then
        match Number.natural? 8 s.toList with
        | some n => { p with mask := n % 512, status := 0 }
        | none => p.fail (illegalNumber s)
      else p.fail ("Illegal mode: " ++ s)

/-! ### Jobs -/

/-- Continues a job, which takes a terminal. -/
def resume (arguments : List String) (p : Process) : Process :=
  withOptions "" arguments p fun _ rest =>
    match rest with
    | [] =>
      if p.jobs.isEmpty then p.fail "No current job"
      else p.fail "job (null) not created under job control"
    | s :: _ =>
      match job? p s with
      | some _ => p.fail ("job " ++ s ++ " not created under job control")
      | none => p.fail ("No such job: " ++ s)

/-- Lists jobs. -/
def jobs (arguments : List String) (p : Process) : Process :=
  withOptions "lp" arguments p fun _ rest =>
    match rest.find? fun s => (job? p s).isNone with
    | some s => p.fail ("No such job: " ++ s)
    | none => p.answer 0

/-! ### The commands by name -/

/-- The commands that need no further script. -/
def commands : List (String × (List String → Process → Process)) :=
  [(":", fun _ p => p.answer 0), ("[", Test.runBracket), ("bg", resume), ("break", leave false),
    ("cd", cd), ("chdir", cd), ("continue", leave true), ("echo", Print.echo), ("exit", exit),
    ("export", exportVariables), ("false", fun _ p => p.answer 1), ("fg", resume),
    ("getopts", getopts), ("jobs", jobs), ("kill", kill), ("local", localVariables),
    ("printf", Print.printf), ("pwd", pwd), ("read", read), ("readonly", fixVariables),
    ("return", returnFrom), ("set", set), ("shift", shift), ("test", Test.run),
    ("times", fun _ p => (p.say "0m0.00s 0m0.00s\n0m0.00s 0m0.00s\n").answer 0), ("trap", trap),
    ("true", fun _ p => p.answer 0), ("ulimit", fun _ p => (p.say "unlimited\n").answer 0),
    ("umask", umask), ("unset", unset), ("wait", wait)]

/-- The names of all commands of the shell. -/
def names : List String :=
  [".", "alias", "command", "eval", "exec", "hash", "type", "unalias"] ++ commands.map Prod.fst

end AgentFleet.Shell.Builtin
