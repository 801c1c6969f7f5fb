import AgentFleet.Number.Decimal
import AgentFleet.Shell.Options
import AgentFleet.Shell.System

/-!
# Tools for files

The programs with which scripts show, list, create, copy, move and remove files and directories.
Each takes its arguments in order and goes on after one that fails, which costs it its status.
-/

namespace AgentFleet.Shell.FileTools

/-- A path without slashes at its end. -/
def withoutSlashes (path : String) : String :=
  let kept := path.toList.reverse.dropWhile (· == '/')
  if kept.isEmpty && !path.isEmpty then "/" else String.ofList kept.reverse

/-- The last component of a path. -/
def baseName (path : String) : String :=
  let trimmed := withoutSlashes path
  if trimmed == "/" then "/" else (Text.split '/' trimmed).getLastD ""

/-- A name in a directory. -/
def inside (directory name : String) : String :=
  if directory.endsWith "/" then directory ++ name else directory ++ "/" ++ name

/-- Whether a location is that of a directory with something in it. -/
def isOccupied (files : FileTree) (location : List String) : Bool :=
  !(files.children location).isEmpty

/-- The wording for a directory that is not empty. -/
def notEmptyMessage : String := "Directory not empty"

/-- Reports a failure about a path. -/
def failed (p : Process) (action path reason : String) : Process :=
  p.reject 1 (action ++ " " ++ path ++ ": " ++ reason)

/-- Asks a question and reads a line for its answer, which is yes when it begins with that letter. -/
def confirm (p : Process) (question : String) : Bool × Process :=
  let p := match p.writeTo 2 (Text.encode (p.name ++ ": " ++ question ++ "? ")) with
    | .ok p => p
    | .error _ => p
  match p.readable 0 with
  | .ok bytes =>
    let line := bytes.takeWhile (· != 10)
    (line.head? == some 121 || line.head? == some 89, p.consume 0 (line.length + 1))
  | .error _ => (false, p)

/-- Reports that nothing was named to work on. -/
def missing (p : Process) (operand : String) : Process :=
  p.rejectUsage 1 ("missing " ++ operand)

/-! ### Showing files -/

/-- How the lines of files are shown. -/
structure LineStyle where
  /-- Lines are numbered. -/
  numbered : Bool
  /-- Lines with something on them are numbered. -/
  numberedText : Bool
  /-- Line ends are marked. -/
  ends : Bool
  /-- Tabs are marked. -/
  tabs : Bool
  /-- What cannot be seen is marked. -/
  unseen : Bool
  /-- Of several blank lines one is shown. -/
  squeezed : Bool
  deriving DecidableEq, Repr

/-- The style in which files are shown as they stand. -/
def plainStyle : LineStyle := ⟨false, false, false, false, false, false⟩

/-- A byte so that it can be seen. -/
def seenByte (b : Nat) : List UInt8 :=
  let low (b : Nat) : List Nat :=
    if b < 32 then [94, b + 64] else if b == 127 then [94, 63] else [b]
  (if b < 128 then low b else 77 :: 45 :: low (b - 128)).map UInt8.ofNat

/-- A byte in a style. -/
def styledByte (s : LineStyle) (b : UInt8) : List UInt8 :=
  if b == 9 then if s.tabs then [94, 73] else [b]
  else if s.unseen then seenByte b.toNat
  else [b]

/-- The line number before a line. -/
def lineNumber (n : Nat) : List UInt8 :=
  let digits := toString n
  Text.encode (String.ofList (List.replicate (6 - digits.length) ' ') ++ digits ++ "\t")

/-- A line in a style, with or without its end. -/
def styledLine (s : LineStyle) (line : List UInt8) (ended : Bool) : List UInt8 :=
  let cut := s.ends && ended && !s.unseen && line.getLast? == some 13
  let body := (if cut then line.dropLast else line).flatMap (styledByte s)
  let body := if cut then body ++ [94, 77] else body
  if ended then body ++ (if s.ends then [36, 10] else [10]) else body

/-- Lines in a style; `n` is the number of the next one. -/
def styledLines (s : LineStyle) (blank : Bool) (n : Nat) : List (List UInt8) → List UInt8
  | [] => []
  | [last] =>
    if last.isEmpty then []
    else (if s.numbered || s.numberedText then lineNumber n else []) ++ styledLine s last false
  | line :: rest =>
    if s.squeezed && blank && line.isEmpty then styledLines s true n rest
    else
      let counts := (s.numbered && !s.numberedText) || (s.numberedText && !line.isEmpty)
      (if counts then lineNumber n else []) ++ styledLine s line true ++
        styledLines s line.isEmpty (if counts then n + 1 else n) rest

/-- The lines of bytes, the last of them without its end. -/
def byteLines (line : List UInt8) : List UInt8 → List (List UInt8)
  | [] => [line.reverse]
  | b :: rest => if b == 10 then line.reverse :: byteLines [] rest else byteLines (b :: line) rest

/-- The options of the program that shows files. -/
def catOptions : OptionTable where
  flags := "AbeEnstTuv".toList
  names := [("number-nonblank", 'b'), ("number", 'n'), ("squeeze-blank", 's'),
    ("show-nonprinting", 'v'), ("show-ends", 'E'), ("show-tabs", 'T'), ("show-all", 'A')]

/-- The style that options ask for. -/
def styleOf (c : Chosen) : LineStyle where
  numbered := c.has 'n'
  numberedText := c.has 'b'
  ends := c.has 'E' || c.has 'e' || c.has 'A'
  tabs := c.has 'T' || c.has 't' || c.has 'A'
  unseen := c.has 'v' || c.has 'e' || c.has 't' || c.has 'A'
  squeezed := c.has 's'

/-- Whether a path is that of the file that the output has got ahead in. -/
def isOutput (p : Process) (path : String) : Bool :=
  match p.open? 1, p.files.find path with
  | some (_, c), .ok (location, .file content) =>
    match c.channel with
    | .file target position appends =>
      target == location && 0 < (if appends then content.length else position)
    | _ => false
  | _, _ => false

/-- Reads an operand: a path, or the input for a dash. -/
def readOperand (p : Process) (path : String) : Except String (List UInt8) × Process :=
  if path == "-" then p.readAll 0 else p.readPath path

/-- Shows files, or the input. -/
def cat (arguments : List String) (p : Process) : Process :=
  p.withOptions catOptions 1 arguments fun c =>
    if (p.open? 1).isNone then p.reject 1 ("standard output: " ++ Process.badDescriptor)
    else
      let operands := if c.operands.isEmpty then ["-"] else c.operands
      let style := styleOf c
      let step (s : Process × List UInt8) (path : String) : Process × List UInt8 :=
        let (p, gathered) := s
        if isOutput p path then (p.reject 1 (nameQuoted path ++ ": input file is output file"), gathered)
        else
          match readOperand p path with
          | (.ok bytes, p) =>
            if style == plainStyle then (p.write bytes, gathered) else (p, gathered ++ bytes)
          | (.error e, p) => (p.reject 1 (nameQuoted path ++ ": " ++ e), gathered)
      let (p, gathered) := operands.foldl step (p.answer 0, [])
      let p := p.write (styledLines style false 1 (byteLines [] gathered))
      if operands.contains "-" && (p.open? 0).isNone then
        p.reject 1 ("closing standard input: " ++ Process.badDescriptor)
      else p

/-! ### Listing directories -/

/-- The options of the program that lists directories. -/
def lsOptions : OptionTable where
  flags := "aA1BdFpmrRUfCxlsithSgGoncuNqbQ".toList
  names := [("all", 'a'), ("almost-all", 'A'), ("directory", 'd'), ("reverse", 'r'),
    ("recursive", 'R'), ("ignore-backups", 'B'), ("quote-name", 'Q'), ("escape", 'b')]

/-- What marks the kind of an entry behind its name. -/
def entryMark (c : Chosen) (isDirectory : Bool) : String :=
  if isDirectory && (c.has 'F' || c.has 'p') then "/" else ""

/-- A name as a listing shows it. -/
def entryName (c : Chosen) (name : String) : String :=
  if c.has 'Q' then
    let marked := name.toList.flatMap fun d => if d == '"' || d == '\\' then ['\\', d] else [d]
    "\"" ++ String.ofList marked ++ "\""
  else name

/-- Names in the order of a listing. -/
def inOrder (c : Chosen) (names : List String) : List String :=
  let sorted := names.mergeSort fun a b => !(b < a)
  if c.has 'r' then sorted.reverse else sorted

/-- Entries on lines, or on one line with commas. -/
def entryLines (c : Chosen) (entries : List String) : String :=
  if entries.isEmpty then ""
  else if c.last? ['1', 'm'] == some 'm' then Text.join ", " entries ++ "\n"
  else String.join (entries.map fun e => e ++ "\n")

/-- The names of a directory that are listed. -/
def listedNames (c : Chosen) (files : FileTree) (location : List String) : List String :=
  let names := (files.children location).filter fun n => !(c.has 'B' && n.endsWith "~")
  if c.has 'a' || c.has 'f' then "." :: ".." :: names
  else if c.has 'A' then names
  else names.filter fun n => !n.startsWith "."

/-- The listings of a directory and, when asked for, of those below it, with their paths. -/
def directoryListings (c : Chosen) (files : FileTree) :
    Nat → String → List String → List (String × String)
  | 0, _, _ => []
  | fuel + 1, path, location =>
    let names := inOrder c (listedNames c files location)
    let isDirectory (n : String) : Bool :=
      n == "." || n == ".." || files.isDirectory (location ++ [n])
    let here := entryLines c (names.map fun n => entryName c n ++ entryMark c (isDirectory n))
    let below :=
      if c.has 'R' then
        (names.filter fun n => n != "." && n != ".." && isDirectory n).flatMap fun n =>
          directoryListings c files fuel (inside path n) (location ++ [n])
      else []
    (path, here) :: below

/-- Lists directories and files. -/
def ls (arguments : List String) (p : Process) : Process :=
  p.withOptions lsOptions 2 arguments fun c =>
    let operands := if c.operands.isEmpty then ["."] else c.operands
    let found := operands.map fun path => (path, p.files.find path)
    let p := found.foldl (fun p e => match e.2 with
      | .ok _ => p
      | .error e' => p.reject 2
        ("cannot access " ++ shellQuoted e.1 ++ ": " ++ Process.plainMessage e')) (p.answer 0)
    let present := inOrder c ((found.filter fun e => e.2.toOption.isSome).map Prod.fst)
    let asEntry (path : String) : Bool := c.has 'd' || !p.isDirectoryAt path
    let entries := (present.filter asEntry).map fun path =>
      entryName c path ++ entryMark c (p.isDirectoryAt path)
    let listings := (present.filter fun path => !asEntry path).flatMap fun path =>
      match p.files.find path with
      | .ok (location, _) => directoryListings c p.files (p.files.nodes.length + 1) path location
      | .error _ => []
    let titled := 1 < operands.length || c.has 'R'
    let blocks := (if entries.isEmpty then [] else [entryLines c entries]) ++
      listings.map fun (path, text) => if titled then entryName c path ++ ":\n" ++ text else text
    p.say (Text.join "\n" blocks)

/-! ### Creating -/

/-- The options of the program that creates directories. -/
def mkdirOptions : OptionTable where
  flags := ['p', 'v', 'Z']
  valued := ['m']
  names := [("parents", 'p'), ("verbose", 'v'), ("mode", 'm')]

/-- Whether a text is a mode of files. -/
def isMode (s : String) : Bool :=
  !s.isEmpty && (s.toList.all (fun c => '0' ≤ c && c ≤ '7') ||
    (s.toList.any fun c => c == '+' || c == '-' || c == '=') &&
      s.toList.all fun c => "ugoarwxXst+-=,".toList.contains c)

/-- Creates the components of a path that are missing; a complaint names the path so far. -/
def createPath (p : Process) (shows : Bool) (whole : String) : Process :=
  let parts := (Text.split '/' whole).filter fun c => !c.isEmpty
  let start := if whole.startsWith "/" then "/" else ""
  let paths := (List.range parts.length).map fun n => start ++ Text.join "/" (parts.take (n + 1))
  let rec go (p : Process) : List String → Process
    | [] => p
    | path :: rest =>
      if p.isDirectoryAt path then go p rest
      else
        match p.files.createDirectory path with
        | .ok files =>
          let p := { p with files := files }
          go (if shows then p.say (p.name ++ ": created directory " ++ shellQuoted path ++ "\n") else p)
            rest
        | .error e =>
          let e := if e == .alreadyExists && !rest.isEmpty then .notADirectory else e
          let shown := if rest.isEmpty then whole else path
          failed p "cannot create directory" (curlyQuoted shown) (Process.plainMessage e)
  if whole.isEmpty then
    failed p "cannot create directory" (curlyQuoted whole) (Process.plainMessage .notFound)
  else go p paths

/-- Creates directories. -/
def mkdir (arguments : List String) (p : Process) : Process :=
  p.withOptions mkdirOptions 1 arguments fun c =>
    if c.operands.isEmpty then missing p "operand"
    else
      match (c.value? 'm').filter fun m => !isMode m with
      | some m => p.reject 1 ("invalid mode " ++ curlyQuoted m)
      | none =>
        let step (p : Process) (path : String) : Process :=
          if c.has 'p' then createPath p (c.has 'v') path
          else
            match p.files.createDirectory path with
            | .ok files =>
              let p := { p with files := files }
              if c.has 'v' then p.say (p.name ++ ": created directory " ++ shellQuoted path ++ "\n")
              else p
            | .error e =>
              failed p "cannot create directory" (curlyQuoted path) (Process.plainMessage e)
        c.operands.foldl step (p.answer 0)

/-- Whether a text is a time stamp: a month, a day, an hour and a minute, after a year of two or
four digits or none, and perhaps seconds after a point. -/
def isTimeStamp (s : String) : Bool :=
  let (digits, seconds) := match Text.split '.' s with
    | [a, b] => (a.toList, b.toList)
    | parts => (s.toList, if 2 < parts.length then [] else ['0', '0'])
  let number (cs : List Char) : Nat := (Number.natural? 10 cs).getD 100
  let fields := digits.drop (digits.length - 8)
  let year := digits.take (digits.length - 8)
  let month := number (fields.take 2)
  let day := number ((fields.drop 2).take 2)
  digits.all Number.isDigit && [8, 10, 12].contains digits.length && seconds.length == 2 &&
    1 ≤ month && month ≤ 12 && 1 ≤ day && day ≤ 31 && number ((fields.drop 4).take 2) ≤ 23 &&
    number (fields.drop 6) ≤ 59 && number seconds ≤ 60 && year.all Number.isDigit

/-- The options of the program that touches files. -/
def touchOptions : OptionTable where
  flags := ['a', 'c', 'f', 'h', 'm']
  valued := ['d', 'r', 't']
  names := [("no-create", 'c'), ("date", 'd'), ("reference", 'r')]
  refusal _ letter value :=
    if letter == 't' && !isTimeStamp value then
      some (.refused false ("invalid date format " ++ curlyQuoted value))
    else none

/-- Creates a file that is missing. -/
def touchOne (c : Chosen) (p : Process) (path : String) : Process :=
  let known := match p.kindAt path with
    | .ok _ => true
    | .error e => c.has 'c' && e == .notFound
  if path == "-" || known then p
  else if c.has 'c' then
    failed p "setting times of" (shellQuoted path) (Process.plainMessage .notADirectory)
  else
    match p.files.writable path with
    | .ok location => { p with files := p.files.append location [] }
    | .error e =>
      let (action, e) := if path.endsWith "/" then
          ("setting times of", match p.files.locate path with
            | .ok _ => OsError.notFound
            | .error e => e)
        else ("cannot touch", e)
      failed p action (shellQuoted path) (Process.plainMessage e)

/-- Creates files that are missing. -/
def touch (arguments : List String) (p : Process) : Process :=
  p.withOptions touchOptions 1 arguments fun c =>
    let reference : Except String Unit := match c.value? 'r' with
      | none => .ok ()
      | some path =>
        match p.kindAt path with
        | .ok _ => .ok ()
        | .error e => .error ("failed to get attributes of " ++ shellQuoted path ++ ": " ++
            Process.plainMessage e)
    match reference with
    | .error e => p.reject 1 e
    | .ok () =>
      if c.operands.isEmpty then missing p "file operand"
      else c.operands.foldl (touchOne c) (p.answer 0)
/-! ### Modes -/

/-- Whether a clause of a mode, such as `u+x`, lets a file be run, if it decides that. -/
def clauseRuns? (runs : Bool) (clause : List Char) : Option Bool :=
  let who := clause.takeWhile fun c => "ugoa".toList.contains c
  match clause.drop who.length with
  | sign :: letters =>
    if !letters.all fun c => "rwxXstugo".toList.contains c then none
    else
      let names := letters.contains 'x' || (letters.contains 'X' && runs)
      let everyone := who.isEmpty || who.contains 'a' || "ugo".toList.all who.contains
      if sign == '+' then some (runs || names)
      else if sign == '-' then some (runs && !(names && everyone))
      else if sign == '=' then some (names || (runs && !everyone))
      else none
  | [] => none

/-- Whether a mode lets a file be run; a text may be no mode. -/
def modeRuns? (runs : Bool) (mode : String) : Option Bool :=
  let cs := mode.toList
  if !cs.isEmpty && cs.all fun c => '0' ≤ c && c ≤ '7' then
    if cs.length ≤ 5 then some ((cs.drop (cs.length - 3)).any fun c => c.toNat % 2 == 1) else none
  else
    (Text.split ',' mode).foldl
      (fun found clause => found.bind fun runs => clauseRuns? runs clause.toList) (some runs)

/-- Whether an argument is a mode although it begins with a dash. -/
def isDashMode (a : String) : Bool :=
  match a.toList with
  | '-' :: c :: cs => (c :: cs).all fun c => "rwxXst,ugoa+=-".toList.contains c && c != 'R'
  | _ => false

/-- The options of the program that changes modes. -/
def chmodOptions : OptionTable where
  flags := ['c', 'f', 'R', 'v', 'S']
  names := [("changes", 'c'), ("silent", 'f'), ("quiet", 'f'), ("recursive", 'R'),
    ("verbose", 'v'), ("preserve-root", 'S')]

/-- Changes the modes of files, of which it counts whether they may be run. -/
def chmod (arguments : List String) (p : Process) : Process :=
  let dashed := arguments.find? isDashMode
  let arguments := match dashed with
    | some a => ("a" ++ a) :: arguments.erase a
    | none => arguments
  p.withOptions chmodOptions 1 arguments fun c =>
    match c.operands with
    | [] => missing p "operand"
    | [mode] => missing p ("operand after " ++ curlyQuoted (dashed.getD mode))
    | mode :: paths =>
      if (modeRuns? false mode).isNone then
        p.rejectUsage 1 ("invalid mode: " ++ curlyQuoted mode)
      else
        let change (files : FileTree) (location : List String) : FileTree :=
          match files.node? location with
          | some (.file _) =>
            files.mark location ((modeRuns? (files.mayRun location) mode).getD false)
          | _ => files
        let step (p : Process) (path : String) : Process :=
          match p.files.find path with
          | .ok (location, _) =>
            let all := if c.has 'R' then
                (p.files.nodes.map Prod.fst).filter fun l => location.isPrefixOf l
              else [location]
            { p with files := all.foldl change p.files }
          | .error e =>
            if (p.kindAt path).toOption.isSome then p
            else if c.has 'f' then p.answer 1
            else failed p "cannot access" (shellQuoted path) (Process.plainMessage e)
        paths.foldl step (p.answer 0)

/-! ### Removing -/

/-- The options of the program that removes files. -/
def rmOptions : OptionTable where
  flags := ['d', 'f', 'i', 'I', 'r', 'R', 'v']
  names := [("dir", 'd'), ("force", 'f'), ("recursive", 'r'), ("verbose", 'v'),
    ("one-file-system", 'x'), ("preserve-root", 'x'), ("no-preserve-root", 'x')]

/-- How often removals are asked about. -/
inductive Asking where
  /-- Never. -/
  | never
  /-- Before many removals. -/
  | once
  /-- Before each removal. -/
  | always
  deriving DecidableEq, Repr

/-- How often options have removals asked about. -/
def askingOf (c : Chosen) : Asking :=
  match c.last? ['f', 'i', 'I'] with
  | some 'i' => .always
  | some 'I' => .once
  | _ => .never

/-- Removes what is at a location and below it, and says whether nothing is left of it. -/
def removeAll (c : Chosen) : Nat → String → List String → Process → Bool × Process
  | 0, _, _, p => (false, p)
  | fuel + 1, path, location, p =>
    let asks := askingOf c == .always
    let told (p : Process) (kind : String) : Process :=
      if c.has 'v' then p.say ("removed " ++ kind ++ shellQuoted path ++ "\n") else p
    let dropped (p : Process) : Process := { p with files := p.files.drop location }
    match p.files.node? location with
    | some (.file content) =>
      let kind := if content.isEmpty then "regular empty file " else "regular file "
      let (yes, p) := if asks then confirm p ("remove " ++ kind ++ shellQuoted path) else (true, p)
      if yes then (true, told (dropped p) "") else (false, p)
    | _ =>
      let names := p.files.children location
      let (enters, p) := if asks && !names.isEmpty then
          confirm p ("descend into directory " ++ shellQuoted path)
        else (true, p)
      if !enters then (false, p)
      else
        let (gone, p) := names.foldl
          (fun (s : Bool × Process) n =>
            let (gone, p) := removeAll c fuel (inside path n) (location ++ [n]) s.2
            (s.1 && gone, p))
          (true, p)
        let (yes, p) := if asks && gone then
            confirm p ("remove directory " ++ shellQuoted path)
          else (gone, p)
        if yes then (true, told (dropped p) "directory ") else (false, p)

/-- Whether a path ends in one of the two names that every directory has. -/
def isDotPath (path : String) : Bool :=
  let name := baseName path
  name == "." || name == ".."

/-- Removes what is behind a path. -/
def removePath (c : Chosen) (p : Process) (path : String) : Process :=
  let cannot (reason : String) : Process := failed p "cannot remove" (shellQuoted path) reason
  let recursive := c.has 'r' || c.has 'R'
  let remove (p : Process) (location : List String) : Process :=
    (removeAll c (p.files.nodes.length + 1) path location p).2
  match p.files.find path with
  | .error e =>
    if c.has 'f' && (e == .notFound || e == .notADirectory) then p
    else cannot (Process.plainMessage e)
  | .ok (location, .file _) => remove p location
  | .ok (location, .directory) =>
    if !recursive && !(c.has 'd') then cannot (Process.plainMessage .isADirectory)
    else if withoutSlashes path == "/" then
      (p.report "it is dangerous to operate recursively on '/'").reject 1
        "use --no-preserve-root to override this failsafe"
    else if recursive && isDotPath path then
      p.reject 1 ("refusing to remove '.' or '..' directory: skipping " ++ shellQuoted path)
    else if !recursive && isOccupied p.files location then cannot notEmptyMessage
    else remove p location

/-- Removes files, and directories when asked to. -/
def rm (arguments : List String) (p : Process) : Process :=
  p.withOptions rmOptions 1 arguments fun c =>
    let count := c.operands.length
    let recursive := c.has 'r' || c.has 'R'
    let go (p : Process) : Process := c.operands.foldl (removePath c) (p.answer 0)
    if count == 0 then if c.has 'f' then p.answer 0 else missing p "operand"
    else if askingOf c == .once && (recursive || 3 < count) then
      let (yes, p) := confirm p ("remove " ++ toString count ++ " argument" ++
        (if count == 1 then "" else "s") ++ if recursive then " recursively" else "")
      if yes then go p else p.answer 0
    else go p

/-- The options of the program that removes empty directories. -/
def rmdirOptions : OptionTable where
  flags := ['p', 'v', 'E']
  names := [("parents", 'p'), ("verbose", 'v'), ("ignore-fail-on-non-empty", 'E')]

/-- Removes an empty directory, or says why it stays. -/
def removeEmpty (p : Process) (path : String) : Except String Process :=
  match p.files.find path with
  | .error e => .error (Process.plainMessage e)
  | .ok (_, .file _) => .error (Process.plainMessage .notADirectory)
  | .ok (location, .directory) =>
    if baseName path == "." then .error "Invalid argument"
    else if isOccupied p.files location then .error notEmptyMessage
    else .ok { p with files := p.files.drop location }

/-- Removes empty directories. -/
def rmdir (arguments : List String) (p : Process) : Process :=
  p.withOptions rmdirOptions 1 arguments fun c =>
    let told (p : Process) (path : String) : Process :=
      if c.has 'v' then p.say (p.name ++ ": removing directory, " ++ shellQuoted path ++ "\n") else p
    let rec above (p : Process) : Nat → String → Process
      | 0, _ => p
      | fuel + 1, path =>
        let parts := (Text.split '/' (withoutSlashes path)).dropLast
        let parent := withoutSlashes (Text.join "/" parts)
        if parts.isEmpty || parent.isEmpty then p
        else
          let p := told p parent
          match removeEmpty p parent with
          | .ok p => above p fuel parent
          | .error e =>
            if c.has 'E' && e == notEmptyMessage then p
            else failed p "failed to remove directory" (shellQuoted parent) e
    let step (p : Process) (path : String) : Process :=
      let p := told p path
      match removeEmpty p path with
      | .ok p => if c.has 'p' then above p path.length path else p
      | .error e =>
        if c.has 'E' && e == notEmptyMessage then p
        else failed p "failed to remove" (shellQuoted path) e
    if c.operands.isEmpty then missing p "operand" else c.operands.foldl step (p.answer 0)

/-! ### Copying and moving -/

/-- The sources of a copy or a move, and where they go. -/
structure Route where
  /-- The sources. -/
  sources : List String
  /-- Where they go. -/
  target : String
  /-- Whether that is a directory to put them into. -/
  into : Bool

/-- The route that operands spell, or the process after a refusal. -/
def route (c : Chosen) (p : Process) : Except Process Route :=
  match c.value? 't', c.operands with
  | _, [] => .error (missing p "file operand")
  | some t, sources =>
    if p.isDirectoryAt t then .ok ⟨sources, t, true⟩
    else
      let e := match p.kindAt t with
        | .ok _ => OsError.notADirectory
        | .error e => e
      .error (p.reject 1 ("target directory " ++ shellQuoted t ++ ": " ++ Process.plainMessage e))
  | none, [source] =>
    .error (missing p ("destination file operand after " ++ shellQuoted source))
  | none, operands =>
    let target := operands.getLastD ""
    let sources := operands.dropLast
    if c.has 'T' then
      match operands.drop 2 with
      | [] => .ok ⟨sources, target, false⟩
      | extra :: _ => .error (p.rejectUsage 1 ("extra operand " ++ shellQuoted extra))
    else if p.isDirectoryAt target then .ok ⟨sources, target, true⟩
    else if 1 < sources.length then
      let e := match p.kindAt target with
        | .ok _ => OsError.notADirectory
        | .error e => e
      .error (p.reject 1 ("target " ++ shellQuoted target ++ ": " ++ Process.plainMessage e))
    else .ok ⟨sources, target, false⟩

/-- Where a source goes on a route. -/
def Route.destination (r : Route) (source : String) : String :=
  if r.into then
    let name := baseName source
    inside r.target (if name == ".." then "." else name)
  else r.target

/-- Refuses a second directory for all sources. -/
def refuseTargets (c : Chosen) (letter : Char) (_ : String) : Option OptionFault :=
  if letter == 't' && c.has 't' then
    some (.refused false "multiple target directories specified")
  else none

/-- What is at a destination: a location with or without something, or why it has none. -/
def occupant (p : Process) (path : String) : Except OsError (List String × Option FileNode) :=
  match p.files.locate path with
  | .ok location => .ok (location, p.files.node? location)
  | .error .notFound => .ok ([], none)
  | .error e => .error e

/-- The options of the program that copies. -/
def cpOptions : OptionTable where
  flags := "abdfiHlLnPprRsTuvxZ".toList
  valued := ['t', 'S']
  names := [("archive", 'a'), ("force", 'f'), ("no-clobber", 'n'), ("recursive", 'r'),
    ("no-target-directory", 'T'), ("target-directory", 't'), ("update", 'u'), ("verbose", 'v')]
  refusal := refuseTargets

/-- Tells of a copy. -/
def tellCopy (c : Chosen) (p : Process) (source target : String) : Process :=
  if c.has 'v' then p.say (shellQuoted source ++ " -> " ++ shellQuoted target ++ "\n") else p

/-- How far a copy has got. -/
structure CopyState where
  /-- The process. -/
  process : Process
  /-- The first directory that the copy created. -/
  made : Option (List String) := none
  /-- Whether the copy met what it had created itself. -/
  stopped : Bool := false

/-- Copies a file to a destination. -/
def copyFile (c : Chosen) (p : Process) (source target : String) (origin : List String)
    (content : List UInt8) : Process :=
  let create (p : Process) : Process :=
    match p.files.writable target with
    | .ok location =>
      let runs := if (p.files.node? location).isSome then p.files.mayRun location
        else p.files.mayRun origin
      let files := (p.files.put location (.file content)).mark location runs
      tellCopy c { p with files := files } source target
    | .error e =>
      failed p "cannot create regular file" (shellQuoted target)
        (Process.plainMessage (if e == .isADirectory then .notADirectory else e))
  match occupant p target with
  | .error e => failed p "cannot stat" (shellQuoted target) (Process.plainMessage e)
  | .ok (_, none) => create p
  | .ok (_, some .directory) =>
    p.reject 1 ("cannot overwrite directory " ++ shellQuoted target ++ " with non-directory")
  | .ok (location, some (.file _)) =>
    if c.last? ['n', 'i'] == some 'n' then p
    else if location == origin then
      p.reject 1 (shellQuoted source ++ " and " ++ shellQuoted target ++ " are the same file")
    else if c.has 'u' then p
    else if c.last? ['n', 'i'] == some 'i' then
      let (yes, p) := confirm p ("overwrite " ++ shellQuoted target)
      if yes then create p else p.answer 1
    else create p

/-- Copies what is behind a path to a destination, and what is below it; `top` is the path and the
destination of the whole copy. -/
def copyNode (c : Chosen) (top : String × String) :
    Nat → String → String → CopyState → CopyState
  | 0, _, _, s => s
  | fuel + 1, source, target, s =>
    let p := s.process
    match p.files.find source, occupant p target with
    | .error e, _ =>
      { s with process := failed p "cannot stat" (shellQuoted source) (Process.plainMessage e) }
    | .ok (origin, .file content), _ =>
      { s with process := copyFile c p source target origin content }
    | .ok _, .error e =>
      { s with process := failed p "cannot stat" (shellQuoted target) (Process.plainMessage e) }
    | .ok _, .ok (_, some (.file _)) =>
      { s with process := p.reject 1 ("cannot overwrite non-directory " ++ shellQuoted target ++
          " with directory " ++ shellQuoted source) }
    | .ok (origin, .directory), .ok (location, there) =>
      if there.isSome && location == origin then
        let same := shellQuoted source ++ " and " ++ shellQuoted target ++ " are the same file"
        { s with process := p.reject 1 same }
      else if s.made == some origin then
        { s with
          process := p.reject 1 ("cannot copy a directory, " ++ shellQuoted top.1 ++
            ", into itself, " ++ shellQuoted top.2)
          stopped := true }
      else
        let names (p : Process) : List String := p.files.children origin
        let goOn (s : CopyState) : CopyState :=
          (names s.process).foldl (fun s n =>
            if s.stopped then s else copyNode c top fuel (inside source n) (inside target n) s) s
        if there.isSome then goOn s
        else
          match p.files.createDirectory target with
          | .error e => { s with
              process := failed p "cannot create directory" (shellQuoted target)
                (Process.plainMessage e) }
          | .ok files =>
            let p := tellCopy c { p with files := files } source target
            goOn { s with process := p, made := s.made <|> (p.files.reach target).toOption }

/-- Copies what is behind a path to a destination. -/
def copyPath (c : Chosen) (p : Process) (source target : String) : Process :=
  (copyNode c (source, target) (p.files.nodes.length + 2) source target { process := p }).process

/-- Copies a source along a route. -/
def copyOne (c : Chosen) (r : Route) (before : List String) (p : Process) (source : String) :
    Process :=
  let target := r.destination source
  let recursive := c.has 'r' || c.has 'R' || c.has 'a'
  match p.kindAt source with
  | .error e => failed p "cannot stat" (shellQuoted source) (Process.plainMessage e)
  | .ok .directory =>
    if !recursive then
      p.reject 1 ("-r not specified; omitting directory " ++ shellQuoted source)
    else copyPath c p source target
  | .ok .device =>
    match p.files.writable target with
    | .ok location => { p with files := p.files.put location (.file []) }
    | .error e =>
      failed p "cannot create regular file" (shellQuoted target) (Process.plainMessage e)
  | .ok _ =>
    if before.contains source then
      p.report ("warning: source file " ++ shellQuoted source ++ " specified more than once")
    else if r.into && before.any fun b => r.destination b == target then
      p.reject 1 ("will not overwrite just-created " ++ shellQuoted target ++ " with " ++
        shellQuoted source)
    else copyPath c p source target

/-- Goes along a route source by source; each step also sees the sources before it. -/
def alongRoute (step : List String → Process → String → Process) (before : List String)
    (p : Process) : List String → Process
  | [] => p
  | s :: rest => alongRoute step (s :: before) (step before p s) rest

/-- Copies files and, when asked to, directories. -/
def cp (arguments : List String) (p : Process) : Process :=
  p.withOptions cpOptions 1 arguments fun c =>
    let p := if c.has 'n' then
        p.report ("warning: behavior of -n is non-portable and may change in future; " ++
          "use --update=none instead")
      else p
    match route c p with
    | .error p => p
    | .ok r => alongRoute (copyOne c r) [] (p.answer 0) r.sources

/-- The options of the program that moves. -/
def mvOptions : OptionTable where
  flags := "bfinTuvZ".toList
  valued := ['t', 'S']
  names := [("force", 'f'), ("no-clobber", 'n'), ("no-target-directory", 'T'),
    ("target-directory", 't'), ("update", 'u'), ("verbose", 'v')]
  refusal := refuseTargets

/-- The tree after what is at and below a location has moved to another one. -/
def moved (files : FileTree) (source target : List String) : FileTree :=
  let kept := files.drop target
  let shift (location : List String) : List String := target ++ location.drop source.length
  let place (location : List String) : List String :=
    if source.isPrefixOf location then shift location else location
  { nodes := kept.nodes.map fun e => (place e.1, e.2)
    current := place files.current
    runnable := kept.runnable.map place }

/-- Moves a source along a route. -/
def moveOne (c : Chosen) (r : Route) (_ : List String) (p : Process) (source : String) : Process :=
  let name := baseName source
  let target := if r.into then inside r.target name else r.target
  match p.files.find source with
  | .error e => failed p "cannot stat" (shellQuoted source) (Process.plainMessage e)
  | .ok (origin, node) =>
    match occupant p target with
    | .error e => failed p "cannot stat" (shellQuoted target) (Process.plainMessage e)
    | .ok (location, there) =>
      let manner := c.last? ['f', 'i', 'n']
      let (goes, p) := if there.isSome && manner == some 'i' && origin != location then
          confirm p ("overwrite " ++ shellQuoted target)
        else (true, p)
      let cannot (reason : String) : Process :=
        p.reject 1 ("cannot move " ++ shellQuoted source ++ " to " ++ shellQuoted target ++ ": " ++
          reason)
      let go (location : List String) : Process :=
        let q := { p with files := moved p.files origin location }
        if c.has 'v' then
          q.say ("renamed " ++ shellQuoted source ++ " -> " ++ shellQuoted target ++ "\n")
        else q
      if !goes then p.answer 1
      else if isDotPath source then cannot "Device or resource busy"
      else if there.isSome && manner == some 'n' then
        p.reject 1 ("not replacing " ++ shellQuoted target)
      else
        match node, there with
        | _, none =>
          if node == .directory then
            match p.files.createDirectory target with
            | .error e => cannot (Process.plainMessage e)
            | .ok _ =>
              match p.files.reach target with
              | .error e => cannot (Process.plainMessage e)
              | .ok location =>
                if origin.isPrefixOf location then
                  p.reject 1 ("cannot move " ++ shellQuoted source ++
                    " to a subdirectory of itself, " ++ shellQuoted target)
                else go location
          else
            match p.files.writable target with
            | .error e =>
              cannot (Process.plainMessage (if e == .isADirectory then .notADirectory else e))
            | .ok location => go location
        | .directory, some (.file _) =>
          p.reject 1 ("cannot overwrite non-directory " ++ shellQuoted target ++ " with directory " ++
            shellQuoted source)
        | .file _, some .directory =>
          p.reject 1
            ("cannot overwrite directory " ++ shellQuoted target ++ " with non-directory")
        | .file _, some (.file _) =>
          if origin == location then
            p.reject 1 (shellQuoted source ++ " and " ++ shellQuoted target ++ " are the same file")
          else go location
        | .directory, some .directory =>
          if origin == location then
            p.reject 1 (shellQuoted source ++ " and " ++ shellQuoted target ++ " are the same file")
          else if origin.isPrefixOf location then
            p.reject 1 ("cannot move " ++ shellQuoted source ++ " to a subdirectory of itself, " ++
              shellQuoted target)
          else if isOccupied p.files location then
            p.reject 1 ("cannot overwrite " ++ shellQuoted target ++ ": " ++ notEmptyMessage)
          else go location

/-- Moves files and directories. -/
def mv (arguments : List String) (p : Process) : Process :=
  p.withOptions mvOptions 1 arguments fun c =>
    match route c p with
    | .error p => p
    | .ok r => alongRoute (moveOne c r) [] (p.answer 0) r.sources

end AgentFleet.Shell.FileTools
