import AgentFleet.Number.Decimal
import AgentFleet.Shell.Options
import AgentFleet.Shell.Pattern

/-!
# Archives

Packing a directory into a stream of bytes and unpacking it elsewhere. A member
is left out together with everything below it when its name, or its name after
some slash, is what an excluded pattern stands for. The form of the stream is
private to this module.
-/

namespace AgentFleet.Shell.Archive

/-- A member of an archive. -/
structure Member where
  /-- The location below the directory that was packed. -/
  location : List String
  /-- What is there. -/
  node : FileNode

/-- Whether the member with the components of a name is left out. -/
def isExcluded (excluded : List Pattern) (components : List String) : Bool :=
  let names := (List.range components.length).map fun n => Text.join "/" (components.drop n)
  excluded.any fun p => names.any p.matchesName

/-- The components of the name of a member below the directory, packed for the sake of a path. -/
def named (path : String) (location : List String) : List String :=
  if path.startsWith "." then "." :: location else location

/-- What is packed of a path below a location: the node there and everything below it. -/
def membersBelow (files : FileTree) (location : List String) (path : String)
    (excluded : List Pattern) : List Member :=
  let nodes := (location, FileNode.directory) :: files.nodes
  nodes.filterMap fun e =>
    if (location ++ FileTree.components path).isPrefixOf e.1 then
      let below := e.1.drop location.length
      let above := (List.range (below.length + 1)).map fun n => named path (below.take n)
      if above.any (isExcluded excluded) then none else some ⟨below, e.2⟩
    else none

/-- What is packed of the paths below a location, and the paths that lead nowhere. -/
def collect (files : FileTree) (location : List String) (excluded : List Pattern)
    (paths : List String) : List Member × List String :=
  let wanted := paths.filter fun path =>
    !isExcluded excluded (named path (FileTree.components path))
  let (present, absent) := wanted.partition fun path =>
    (files.node? (location ++ FileTree.components path)).isSome
  (present.flatMap fun path => membersBelow files location path excluded, absent)

/-! ### The stream -/

/-- The first bytes of a stream. -/
def mark : List UInt8 := Text.encode "archive\n"

/-- Bytes after their number. -/
def counted (bytes : List UInt8) : List UInt8 :=
  Text.encode (toString bytes.length ++ " ") ++ bytes

/-- A member as bytes. -/
def memberBytes (m : Member) : List UInt8 :=
  counted (Text.encode (Text.join "/" m.location)) ++
    match m.node with
    | .directory => Text.encode "d"
    | .file content => Text.encode "f" ++ counted content

/-- The stream of some members. -/
def pack (members : List Member) : List UInt8 :=
  mark ++ members.flatMap memberBytes

/-- Reads bytes after their number. -/
def readCounted (bytes : List UInt8) : Option (List UInt8 × List UInt8) :=
  let digits := bytes.takeWhile fun b => b != 32
  match Number.natural? 10 (digits.map fun b => Char.ofNat b.toNat) with
  | some n =>
    let rest := bytes.drop (digits.length + 1)
    some (rest.take n, rest.drop n)
  | none => none

/-- Reads the members of a stream. -/
def readMembers : Nat → List UInt8 → Option (List Member)
  | _, [] => some []
  | 0, _ :: _ => none
  | fuel + 1, bytes => do
    let (path, rest) ← readCounted bytes
    let location := FileTree.components (Text.decodeLossy path)
    match rest with
    | 100 :: rest => return ⟨location, .directory⟩ :: (← readMembers fuel rest)
    | _ :: rest =>
      let (content, rest) ← readCounted rest
      return ⟨location, .file content⟩ :: (← readMembers fuel rest)
    | [] => none

/-- The members of a stream, `none` when it is no archive. -/
def unpack? (bytes : List UInt8) : Option (List Member) :=
  if mark.isPrefixOf bytes then readMembers bytes.length (bytes.drop mark.length) else none

/-- The tree with a member put below a location, unless a file would take the place of a directory
that is not empty. -/
def place? (location : List String) (files : FileTree) (m : Member) : Option FileTree :=
  let target := location ++ m.location
  match m.node, files.node? target with
  | .directory, some .directory => some files
  | .file content, some .directory =>
    if (files.children target).isEmpty then some (files.put target (.file content)) else none
  | node, _ => some (files.put target node)

/-! ### The program -/

/-- What the archive program does. -/
inductive Action where
  /-- It packs files. -/
  | pack
  /-- It unpacks an archive. -/
  | unpack
  /-- It lists what is in an archive. -/
  | list
  deriving DecidableEq, Repr

/-- What the archive program is asked to do. -/
structure Request where
  /-- What it does. -/
  action : Option Action := none
  /-- The archive, or a dash for the input or the output. -/
  archive : String := "-"
  /-- It tells of each member. -/
  tells : Bool := false
  /-- The directory to work in. -/
  directory : String := "."
  /-- The patterns that are left out. -/
  excluded : List Pattern := []
  /-- The paths to pack. -/
  paths : List String := []

/-- The request with what a letter asks for. -/
def Request.withLetter (r : Request) (c : Char) : Request :=
  match c with
  | 'c' => { r with action := some .pack }
  | 'x' => { r with action := some .unpack }
  | 't' => { r with action := some .list }
  | 'v' => { r with tells := true }
  | _ => r

/-- The request with the value of a letter. -/
def Request.withValue (r : Request) (letter : Char) (value : String) : Request :=
  if letter == 'C' then { r with directory := value } else { r with archive := value }

/-- The request that arguments spell. The first one may hold letters without a dash; the letters
`f` and `C` wait for the next argument. -/
def request (first : Bool) (waiting : Option Char) (r : Request) : List String → Request
  | [] => r
  | a :: rest =>
    match waiting with
    | some letter => request false none (r.withValue letter a) rest
    | none =>
      if a != "-" && ((a.startsWith "-" && !a.startsWith "--") || first) then
        let letters := a.toList.filter (· != '-')
        let waits := letters.find? fun c => c == 'f' || c == 'C'
        request false waits (letters.foldl Request.withLetter r) rest
      else
        match Text.strip? "--exclude=" a with
        | some p => request false none { r with excluded := r.excluded ++ [Pattern.ofString p] } rest
        | none =>
          if a.startsWith "--" then request false none r rest
          else request false none { r with paths := r.paths ++ [a] } rest

/-- Ends with a complaint that leaves nothing to be done. -/
def giveUp (p : Process) (s : String) : Process :=
  (p.report s).reject 2 "Error is not recoverable: exiting now"

/-- Ends with a complaint about the arguments. -/
def rejectArguments (p : Process) (s : String) : Process :=
  (p.report s).refuse 2
    ("Try '" ++ p.name ++ " --help' or '" ++ p.name ++ " --usage' for more information.")

/-- Why a directory cannot be worked in. -/
def openFailure (r : Request) (reason : String) : String :=
  r.directory ++ ": Cannot open: " ++ reason

/-- The location of the directory to work in, or why there is none. -/
def workplace (r : Request) (files : FileTree) : Except String (List String) :=
  match files.find r.directory with
  | .ok (location, .directory) => .ok location
  | .ok (_, .file _) => .error (openFailure r (Process.plainMessage .notADirectory))
  | .error e => .error (openFailure r (Process.plainMessage e))

/-- The process after complaints about members. -/
def afterComplaints (complaints : List String) (p : Process) : Process :=
  if complaints.isEmpty then p
  else
    (complaints.foldl Process.report p).reject 2
      "Exiting with failure status due to previous errors"

/-- The line that tells of a member. -/
def memberLine (m : Member) : String :=
  let path := Text.join "/" m.location
  (if path.isEmpty then "." else path) ++ (if m.node == .directory then "/" else "") ++ "\n"

/-- Writes an archive to where it goes. -/
def store (r : Request) (p : Process) (bytes : List UInt8) : Process :=
  if r.archive == "-" then p.write bytes
  else
    match p.files.writable r.archive with
    | .ok location => { p with files := p.files.put location (.file bytes) }
    | .error e => giveUp p (r.archive ++ ": Cannot open: " ++ Process.plainMessage e)

/-- Packs files. -/
def runPack (r : Request) (p : Process) : Process :=
  if r.paths.isEmpty then rejectArguments p "Cowardly refusing to create an empty archive"
  else
    match workplace r p.files with
    | .error s => giveUp (store r p (pack [])) s
    | .ok location =>
      let (members, absent) := collect p.files location r.excluded r.paths
      let p := (store r p (pack members)).answer 0
      let p := if r.tells then p.say (String.join (members.map memberLine)) else p
      afterComplaints (absent.map fun path =>
        path ++ ": Cannot stat: No such file or directory") p

/-- Unpacks members below a location. -/
def unpackMembers (location : List String) (members : List Member) (p : Process) : Process :=
  let (files, blocked) := members.foldl
    (fun (files, blocked) m =>
      match place? location files m with
      | some files => (files, blocked)
      | none => (files, blocked ++ [m]))
    (p.files, [])
  afterComplaints
    (blocked.map fun m => "./" ++ Text.join "/" m.location ++ ": Cannot open: File exists")
    ({ p with files := files }.answer 0)

/-- Reads an archive from where it is. -/
def load (r : Request) (p : Process) : Except Process (List UInt8 × Process) :=
  if r.archive == "-" then
    match p.readAll 0 with
    | (.ok bytes, p) => .ok (bytes, p)
    | (.error _, p) => .ok ([], p)
  else
    match p.files.read r.archive with
    | .ok bytes => .ok (bytes, p)
    | .error e =>
      let child := p.name ++ " (child): "
      let p := (p.complain (child ++ r.archive ++ ": Cannot open: " ++ Process.plainMessage e)).complain
        (child ++ "Error is not recoverable: exiting now")
      .error (giveUp p "Child returned status 2")

/-- Unpacks or lists an archive; one without members asks for no directory. -/
def runUnpack (r : Request) (lists : Bool) (p : Process) : Process :=
  match load r p with
  | .error p => p
  | .ok (bytes, p) =>
    match unpack? bytes, workplace r p.files with
    | some [], _ => p.answer 0
    | some _, .error s => giveUp p s
    | some members, .ok location =>
      let p := if lists || r.tells then p.say (String.join (members.map memberLine)) else p
      if lists then p.answer 0 else unpackMembers location members p
    | none, _ =>
      let reason := if bytes.isEmpty then "unexpected end of file" else "not in gzip format"
      giveUp (p.complain ("\ngzip: stdin: " ++ reason)) "Child returned status 1"

/-- Runs the archive program. -/
def run (arguments : List String) (p : Process) : Process :=
  let r := request true none {} arguments
  match r.action with
  | none =>
    rejectArguments p
      "You must specify one of the '-Acdtrux', '--delete' or '--test-label' options"
  | some .pack => runPack r p
  | some .unpack => runUnpack r false p
  | some .list => runUnpack r true p

end AgentFleet.Shell.Archive
