import AgentFleet.CommandLine.Arguments
import AgentFleet.Document.Json
import AgentFleet.Document.Writer
import AgentFleet.Settings

/-!
# Running a command line

A command line is carried out in four steps: the arguments are read, the
settings are loaded, the hosts are loaded and selected, and the command is run
on them. Each step that fails ends the program: with status 2 when the arguments
cannot be read, and with status 1 otherwise.
-/

namespace AgentFleet.CommandLine

variable {ρ σ : Type}

/-- What the program leaves behind. -/
structure Report where
  /-- The exit status. -/
  status : Nat
  /-- The text on the standard output. -/
  output : String := ""
  deriving DecidableEq, Repr, Inhabited

namespace Report

/-- A program that ended well. -/
def success : Report := { status := 0 }

/-- A program that failed. -/
def failure : Report := { status := 1 }

/-- A program that was given arguments that cannot be read. -/
def usage : Report := { status := 2 }

/-- What an operation without output leaves behind. -/
def ofResult {ε : Type} : Except ε Unit → Report
  | .ok () => success
  | .error _ => failure

/-! ### Hosts -/

/-- The text of some hosts, `none` when they cannot be written. -/
def hostsText? (json : Bool) (hosts : List HostRecord) : Option String :=
  let value := HostRecord.listing hosts
  if json then Json.write? 0 value else Writer.write? value

/-- Prints hosts. -/
def ofHosts (json : Bool) (hosts : List HostRecord) : Report :=
  match hostsText? json hosts with
  | some text => { status := 0, output := text ++ "\n" }
  | none => failure

/-! ### Commands on hosts -/

/-- What a command left behind on a host: a line with its status, and its output without trailing
blanks. -/
def hostBlock (host : HostRecord) (result : ExecResult) : String :=
  "==> " ++ host.publicIp ++ " (exit " ++ toString result.status ++ ")\n" ++
    (if result.output.isEmpty then "" else Text.trimEnd result.output ++ "\n")

/-- Prints what a command left behind on every host; a status other than zero is a failure. -/
def ofExec : Except FleetError (List (HostRecord × ExecResult)) → Report
  | .error _ => failure
  | .ok results =>
    { status := if results.all fun r => r.2.success then 0 else 1
      output := String.join (results.map fun r => hostBlock r.1 r.2) }

end Report

/-- Runs a command on the selected hosts. -/
def runCommand (f : Fleet ρ σ) (command : Command) (hosts : List HostRecord) (s : σ) : Report × σ :=
  match command with
  | .inventory json => (Report.ofHosts json hosts, s)
  | .check =>
    let (result, s) := f.check hosts s
    (Report.ofResult result, s)
  | .exec command =>
    let (result, s) := f.exec hosts command s
    (Report.ofExec result, s)
  | .clean =>
    let (result, s) := f.clean hosts s
    (Report.ofResult result, s)
  | .start =>
    let (result, s) := f.start hosts s
    (Report.ofResult result, s)
  | .download runPath runId =>
    let (result, s) := f.download hosts runPath runId s
    (Report.ofResult result, s)
  | .prepareRun uploadDirectory runId =>
    let (result, s) := f.prepareRun hosts uploadDirectory runId s
    (Report.ofResult result, s)

/-- The settings that a request names, or else those that are found. -/
def settingsOf (m : Machine σ) (r : Request) (s : σ) : Except FleetError Settings :=
  match r.settingsPath with
  | some path => Settings.load m path s
  | none => Settings.loadDefault m s

/-- Carries out a request with its settings. -/
def runRequest (m : Machine σ) (settings : Settings) (r : Request) (s : σ) : Report × σ :=
  match loadInventory m settings.inventory settings.hosts r.inventoryPath r.pattern s with
  | (.error _, s) => (.failure, s)
  | (.ok hosts, s) =>
    let f : Fleet Remote σ :=
      { machine := m, carrier := Carrier.ofTools m settings.tools, agents := settings.agents }
    runCommand f r.command hosts s

/-- Runs the program with its arguments. -/
def run (m : Machine σ) (arguments : List String) (s : σ) : Report × σ :=
  match Request.ofArguments? arguments with
  | none => (.usage, s)
  | some r =>
    match settingsOf m r s with
    | .error _ => (.failure, s)
    | .ok settings => runRequest m settings r s

end AgentFleet.CommandLine
