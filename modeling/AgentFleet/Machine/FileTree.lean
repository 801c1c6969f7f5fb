import AgentFleet.Machine.Basic
import AgentFleet.Text.Blank

/-!
# File trees

The files and directories of a machine. A node has a location, the list of
components from the root; a path is walked from the root or from the current
directory, component by component, so that it fails where the operating system
fails: at the first component that is missing or no directory.
-/

namespace AgentFleet

/-- What a path of a tree leads to. -/
inductive FileNode where
  /-- A directory. -/
  | directory
  /-- A file with its content. -/
  | file (content : List UInt8)
  deriving DecidableEq, Repr, Inhabited

/-- The files and directories of a machine. -/
structure FileTree where
  /-- The nodes by their locations, the root aside. -/
  nodes : List (List String × FileNode) := []
  /-- The location of the current directory. -/
  current : List String := []
  /-- The locations of the files that may be run as programs. -/
  runnable : List (List String) := []
  deriving Repr, Inhabited

namespace FileTree

/-- The node at a location. -/
def node? (t : FileTree) (location : List String) : Option FileNode :=
  if location.isEmpty then some .directory else t.nodes.lookup location

/-- Whether a directory is at a location. -/
def isDirectory (t : FileTree) (location : List String) : Bool :=
  t.node? location == some .directory

/-- The tree with a node at a location. -/
def put (t : FileTree) (location : List String) (n : FileNode) : FileTree :=
  if t.nodes.any fun e => e.1 == location then
    { t with nodes := t.nodes.map fun e => if e.1 == location then (location, n) else e }
  else { t with nodes := t.nodes ++ [(location, n)] }

/-- The tree without a location and everything below it. -/
def drop (t : FileTree) (location : List String) : FileTree :=
  { t with
    nodes := t.nodes.filter fun e => !location.isPrefixOf e.1
    runnable := t.runnable.filter fun l => !location.isPrefixOf l }

/-- The tree in which the file at a location may be run as a program, or may not. -/
def mark (t : FileTree) (location : List String) (runs : Bool) : FileTree :=
  let others := t.runnable.filter (· != location)
  { t with runnable := if runs then location :: others else others }

/-- Whether the file at a location may be run as a program. -/
def mayRun (t : FileTree) (location : List String) : Bool :=
  t.runnable.contains location

/-- The names directly below a location. -/
def children (t : FileTree) (location : List String) : List String :=
  t.nodes.filterMap fun e =>
    if e.1.length == location.length + 1 && location.isPrefixOf e.1 then e.1.getLast? else none

/-! ### Paths -/

/-- The components of a path; empty ones and single dots stand for nothing. -/
def components (path : String) : List String :=
  (Text.split '/' path).filter fun c => !c.isEmpty && c != "."

/-- Whether a path can only lead to a directory. -/
def asksDirectory (path : String) : Bool :=
  match (Text.split '/' path).getLast? with
  | some c => c.isEmpty || c == "." || c == ".."
  | none => false

/-- Where a path is walked from. -/
def origin (t : FileTree) (path : String) : List String :=
  if path.startsWith "/" then [] else t.current

/-- How many bytes a name has at most. -/
def longestName : Nat := 255

/-- How many bytes a path has at most. -/
def longestPath : Nat := 4095

/-- Walks components from a location; all but the last must be directories. The root is the
directory above itself. -/
def walk (t : FileTree) (location : List String) : List String → Except OsError (List String)
  | [] => .ok location
  | c :: cs =>
    match t.node? location with
    | none => .error .notFound
    | some (.file _) => .error .notADirectory
    | some .directory =>
      if longestName < c.utf8ByteSize then .error .nameTooLong
      else walk t (if c == ".." then location.dropLast else location ++ [c]) cs

/-- The location that a path names, whatever is there. -/
def reach (t : FileTree) (path : String) : Except OsError (List String) :=
  if hasNul path then .error .nulInPath
  else if path.isEmpty then .error .notFound
  else if longestPath < path.utf8ByteSize then .error .nameTooLong
  else t.walk (t.origin path) (components path)

/-- The location that a path names; a file is not there for a path that asks for a directory. -/
def locate (t : FileTree) (path : String) : Except OsError (List String) :=
  match t.reach path with
  | .error e => .error e
  | .ok location =>
    match t.node? location with
    | some (.file _) => if asksDirectory path then .error .notADirectory else .ok location
    | _ => .ok location

/-- The location and the node that a path leads to. -/
def find (t : FileTree) (path : String) : Except OsError (List String × FileNode) :=
  match t.locate path with
  | .error e => .error e
  | .ok location =>
    match t.node? location with
    | some n => .ok (location, n)
    | none => .error .notFound

/-- Whether a path leads to something. -/
def pathExists (t : FileTree) (path : String) : Bool :=
  match t.find path with
  | .ok _ => true
  | .error _ => false

/-- The content of a file. -/
def read (t : FileTree) (path : String) : Except OsError (List UInt8) :=
  match t.find path with
  | .error e => .error e
  | .ok (_, .directory) => .error .isADirectory
  | .ok (_, .file content) => .ok content

/-! ### Changes -/

/-- Where a file may be written. -/
def writable (t : FileTree) (path : String) : Except OsError (List String) :=
  match t.locate path with
  | .error e => .error e
  | .ok location =>
    match t.node? location with
    | some .directory => .error .isADirectory
    | some (.file _) => .ok location
    | none => if asksDirectory path then .error .isADirectory else .ok location

/-- Appends bytes to the file at a location. -/
def append (t : FileTree) (location : List String) (bytes : List UInt8) : FileTree :=
  match t.node? location with
  | some (.file content) => t.put location (.file (content ++ bytes))
  | _ => t.put location (.file bytes)

/-- Whether a path ends in a component that is a single dot. -/
def endsInDot (path : String) : Bool :=
  match (Text.split '/' path).reverse.find? fun c => !c.isEmpty with
  | some c => c == "."
  | none => false

/-- Creates one directory; a path that ends in a dot asks for what is there already. -/
def createDirectory (t : FileTree) (path : String) : Except OsError FileTree :=
  match t.reach path with
  | .error e => .error e
  | .ok location =>
    match t.node? location with
    | some (.file _) => .error (if endsInDot path then .notADirectory else .alreadyExists)
    | some .directory => .error .alreadyExists
    | none => if endsInDot path then .error .notFound else .ok (t.put location .directory)

/-- Creates the directories of a walk that are missing; the answer is what stopped it. -/
def createAlong (t : FileTree) (location : List String) :
    List String → Except OsError Unit × FileTree
  | [] => (.ok (), t)
  | c :: cs =>
    let next := if c == ".." then location.dropLast else location ++ [c]
    match t.node? next with
    | some .directory => createAlong t next cs
    | some (.file _) => (.error (if cs.isEmpty then .alreadyExists else .notADirectory), t)
    | none =>
      if longestName < c.utf8ByteSize then (.error .nameTooLong, t)
      else createAlong (t.put next .directory) next cs

/-- A path without its last component. -/
def parentPath (path : String) : String :=
  let parts := (Text.split '/' path).reverse.dropWhile fun c => c.isEmpty || c == "."
  let parts := (parts.drop 1).dropWhile fun c => c.isEmpty || c == "."
  let parent := Text.join "/" parts.reverse
  if parent.isEmpty && path.startsWith "/" then "/" else parent

/-- Whether a path leads to a directory. -/
def leadsToDirectory (t : FileTree) (path : String) : Bool :=
  match t.find path with
  | .ok (_, .directory) => true
  | _ => false

/-- Creates a directory after those above it that are missing, at most `fuel` of them. -/
def createAbove (t : FileTree) (path : String) : Nat → Except OsError Unit × FileTree
  | 0 => (.ok (), t)
  | fuel + 1 =>
    if path.isEmpty then (.ok (), t)
    else
      match t.createDirectory path with
      | .ok t => (.ok (), t)
      | .error .notFound =>
        match createAbove t (parentPath path) fuel with
        | (.error e, t) => (.error e, t)
        | (.ok (), t) =>
          match t.createDirectory path with
          | .ok t => (.ok (), t)
          | .error e => if t.leadsToDirectory path then (.ok (), t) else (.error e, t)
      | .error e => if t.leadsToDirectory path then (.ok (), t) else (.error e, t)

/-- Creates a directory and those above it. -/
def createDirectories (t : FileTree) (path : String) : Except OsError Unit × FileTree :=
  t.createAbove path (path.length + 1)

/-- An empty directory as the current one. -/
def ofDirectory (location : List String) : FileTree :=
  { ((({} : FileTree).createAlong [] location).2) with current := location }

/-! ### Listing -/

/-- The path of a location as it is listed; a directory ends in a slash. -/
def listedPath (e : List String × FileNode) : String :=
  Text.join "/" e.1 ++ (if e.2 == .directory then "/" else "")

/-- The nodes below the current directory by their locations from there. -/
def below (t : FileTree) : List (List String × FileNode) :=
  t.nodes.filterMap fun e =>
    if t.current.isPrefixOf e.1 && t.current.length < e.1.length then
      some (e.1.drop t.current.length, e.2)
    else none

/-- The nodes below the current directory with their listed paths, in the order of their paths. -/
def listing (t : FileTree) : List (String × FileNode) :=
  (t.below.mergeSort fun a b => !(Text.join "/" b.1 < Text.join "/" a.1)).map
    fun e => (listedPath e, e.2)

end FileTree

end AgentFleet
