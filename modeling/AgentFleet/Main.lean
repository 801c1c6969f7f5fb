import AgentFleet.CommandLine.Run
import AgentFleet.Shell.Computer

/-!
# The program

Runs the command line on the current directory. What is below it is read into a
tree of files first, and what the command changed is written back at the end;
the programs that the command starts are those of the library's own shell.
-/

namespace AgentFleet.Program

/-- The environment variables that are read. -/
def variableNames : List String :=
  ["HOME", "XDG_CONFIG_HOME", Settings.fileVariable]

/-- The environment. -/
def readEnvironment : IO (List (String × String)) := do
  let found ← variableNames.mapM fun name => do
    return (← IO.getEnv name).map fun value => (name, value)
  return found.filterMap id

/-- Reads a file into a tree, with the directories above it, if it can be read. -/
def readFile (path : String) (files : FileTree) : IO FileTree := do
  let location := FileTree.components path
  try
    let content ← IO.FS.readBinFile path
    return (files.createAlong [] location.dropLast).2.put location (.file content.toList)
  catch _ => return files

/-- Reads everything below the current directory into a tree. -/
def readFiles : IO FileTree := do
  let current ← IO.currentDir
  let mut files := FileTree.ofDirectory (FileTree.components current.toString)
  for path in ← current.walkDir do
    if ← path.isDir then files := files.put (FileTree.components path.toString) .directory
    else files ← readFile path.toString files
  return files

/-- Reads the settings of the user into a tree, when they are elsewhere. -/
def readUserSettings (c : Computer) : IO Computer := do
  let mut files := c.files
  for path in Settings.searchPaths Computer.machine c do
    if path.startsWith "/" && !c.files.pathExists path then files ← readFile path files
  return { c with files := files }

/-- Writes what differs between two trees. -/
def writeChanges (before after : FileTree) : IO Unit := do
  for (location, node) in before.below do
    let path := Text.join "/" location
    if (after.node? (before.current ++ location)).isNone then
      match node with
      | .file _ => IO.FS.removeFile path
      | .directory => pure ()
  for (location, node) in after.below do
    let path := Text.join "/" location
    if before.node? (after.current ++ location) != some node then
      match node with
      | .file content => IO.FS.writeBinFile path (ByteArray.mk content.toArray)
      | .directory => IO.FS.createDirAll path

end AgentFleet.Program

/-- Runs the program with its arguments. -/
def main (arguments : List String) : IO UInt32 := do
  let environment ← AgentFleet.Program.readEnvironment
  let files ← AgentFleet.Program.readFiles
  let computer ← AgentFleet.Program.readUserSettings { files := files, environment := environment }
  let (report, after) :=
    AgentFleet.CommandLine.run AgentFleet.Computer.machine arguments computer
  AgentFleet.Program.writeChanges files after.files
  IO.print report.output
  return report.status.toUInt32
