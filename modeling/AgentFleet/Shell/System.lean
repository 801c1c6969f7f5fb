import AgentFleet.Shell.Process

/-!
# The system around the files

What a script finds besides the files of its machine: devices, the directories of the system and
the programs in them. Paths of both kinds are looked up and opened here.
-/

namespace AgentFleet.Shell

/-- What is behind a path. -/
inductive PathKind where
  /-- A file of some bytes. -/
  | file (size : Nat)
  /-- A directory. -/
  | directory
  /-- A device. -/
  | device
  /-- A program of the system. -/
  | program
  deriving DecidableEq, Repr

/-- The directories of the system. -/
def systemDirectories : List String :=
  ["/", "/bin", "/boot", "/dev", "/etc", "/home", "/lib", "/lib64", "/media", "/mnt", "/opt",
    "/proc", "/root", "/run", "/sbin", "/srv", "/sys", "/tmp", "/usr", "/usr/bin", "/usr/lib",
    "/usr/local", "/usr/local/bin", "/usr/sbin", "/usr/share", "/var", "/var/log", "/var/tmp"]

/-- The files of the system that have no bytes of their own. -/
def systemDevices : List String :=
  ["/dev/full", "/dev/null", "/dev/random", "/dev/tty", "/dev/urandom", "/dev/zero"]

/-- The programs of the system that scripts may ask for. -/
def systemPrograms : List String :=
  ["[", "awk", "basename", "bash", "cat", "chgrp", "chmod", "chown", "cmp", "comm", "cp", "cut",
    "dash", "date", "dd", "df", "diff", "dirname", "du", "echo", "env", "expand", "expr", "false",
    "find", "fold", "grep", "gzip", "head", "hostname", "id", "join", "kill", "ln", "ls", "mkdir",
    "mktemp", "mv", "nice", "nl", "nohup", "nproc", "od", "paste", "perl", "printenv", "printf",
    "pwd", "readlink", "realpath", "rev", "rm", "rmdir", "sed", "seq", "sh", "shuf", "sleep",
    "sort", "split", "stat", "stty", "sync", "tac", "tail", "tar", "tee", "test", "timeout",
    "touch", "tr", "true", "truncate", "tty", "uname", "uniq", "wc", "which", "who", "whoami",
    "xargs", "yes"]

/-- The directories in which programs are. -/
def programDirectories : List String := ["/usr/bin", "/bin"]

/-- The program of the system that a path with a slash leads to. -/
def programAt? (path : String) : Option String :=
  let parts := Text.split '/' path
  let directory := Text.join "/" parts.dropLast
  let name := parts.getLastD ""
  if programDirectories.contains directory && systemPrograms.contains name then some name else none

/-- The program that the first line of a file asks to be run with, and its argument. -/
def interpreter? (bytes : List UInt8) : Option (String × List String) :=
  match bytes with
  | 35 :: 33 :: rest =>
    let cs := (Text.decodeLossy (rest.takeWhile (· != 10))).toList
    let blank (c : Char) : Bool := c == ' ' || c == '\t'
    let cs := (cs.dropWhile blank).reverse.dropWhile blank |>.reverse
    let path := cs.takeWhile fun c => !blank c
    let argument := (cs.drop path.length).dropWhile blank
    if path.isEmpty then none
    else
      some (String.ofList path, if argument.isEmpty then [] else [String.ofList argument])
  | _ => none

/-- The descriptor that a path names. -/
def descriptorAt? (path : String) : Option Nat :=
  match path with
  | "/dev/stdin" => some 0
  | "/dev/stdout" => some 1
  | "/dev/stderr" => some 2
  | _ => (Text.strip? "/dev/fd/" path).bind String.toNat?

namespace Process

/-- What is behind a path, or why there is nothing. -/
def kindAt (p : Process) (path : String) : Except OsError PathKind :=
  match p.files.find path with
  | .ok (_, .directory) => .ok .directory
  | .ok (_, .file content) => .ok (.file content.length)
  | .error e =>
    if systemDevices.contains path then .ok .device
    else if systemDirectories.contains path then .ok .directory
    else if (programAt? path).isSome then .ok .program
    else
      match descriptorAt? path with
      | some n => if (p.open? n).isSome then .ok .device else .error e
      | none => .error e

/-- Whether a path leads to a directory. -/
def isDirectoryAt (p : Process) (path : String) : Bool :=
  match p.kindAt path with
  | .ok .directory => true
  | _ => false

/-- The content of a file that may be run as a program. -/
def runnable? (p : Process) (path : String) : Option (List UInt8) :=
  match p.files.find path with
  | .ok (location, .file content) => if p.files.mayRun location then some content else none
  | _ => none

/-- What a file is opened for. -/
inductive Purpose where
  /-- To be read. -/
  | read
  /-- To be written from the beginning; its content is dropped. -/
  | write
  /-- To be written at its end. -/
  | append
  /-- To be read and written. -/
  | both
  deriving DecidableEq, Repr

/-- Whether a purpose includes reading. -/
def Purpose.reads : Purpose → Bool
  | read | both => true
  | write | append => false

/-- Whether a purpose includes writing. -/
def Purpose.writes : Purpose → Bool
  | read => false
  | write | append | both => true

/-- The channel of a device. -/
def deviceChannel (path : String) : Channel :=
  if path == "/dev/full" then .full else .nowhere

/-- Opens a path behind a descriptor. -/
def openPath (p : Process) (descriptor : Nat) (path : String) (purpose : Purpose) :
    Except OsError Process :=
  match (descriptorAt? path).bind p.open? with
  | some (n, _) => .ok (p.connect descriptor n)
  | none =>
    if systemDevices.contains path then
      .ok (p.openAt descriptor ⟨deviceChannel path, purpose.reads, purpose.writes⟩)
    else if purpose == .read then
      match p.files.find path with
      | .ok (_, .directory) => .ok (p.openAt descriptor ⟨.directory, true, false⟩)
      | .ok (location, .file _) => .ok (p.openAt descriptor ⟨.file location 0 false, true, false⟩)
      | .error e =>
        if p.isDirectoryAt path then .ok (p.openAt descriptor ⟨.directory, true, false⟩)
        else .error e
    else
      match p.files.writable path with
      | .error e => .error (if p.isDirectoryAt path then .isADirectory else e)
      | .ok location =>
        let files := if purpose == .write then p.files.put location (.file [])
          else p.files.append location []
        let channel := Channel.file location 0 (purpose == .append)
        .ok ({ p with files := files }.openAt descriptor
          ⟨channel, purpose.reads, true⟩)

/-- The bytes behind a path. -/
def readPath (p : Process) (path : String) : Except String (List UInt8) × Process :=
  match descriptorAt? path with
  | some n => p.readAll n
  | none =>
    if systemDevices.contains path then (.ok [], p)
    else
      match p.files.read path with
      | .ok bytes => (.ok bytes, p)
      | .error e =>
        (.error (plainMessage (if p.isDirectoryAt path then .isADirectory else e)), p)

end Process

end AgentFleet.Shell
