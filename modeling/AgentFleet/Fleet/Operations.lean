import AgentFleet.Fleet.Carrier

/-!
# Operations on the fleet

What is done to the agents of a fleet: checking, cleaning, starting, running a
command, fetching results and preparing a run. Every operation is one round or
several; a round begins only after the one before it has succeeded on all hosts.
-/

namespace AgentFleet

/-- Where the simulator lives on the hosts. -/
structure AgentSettings where
  /-- The installation, relative to the login directory. -/
  simulatorHome : String := "hazelcast-simulator"
  deriving DecidableEq, Repr, Inhabited

namespace AgentSettings

/-- The directory with the output of the workers. -/
def workersDirectory (a : AgentSettings) : String :=
  a.simulatorHome ++ "/workers"

/-- The directory of a run. -/
def runDirectory (a : AgentSettings) (runId : String) : String :=
  a.workersDirectory ++ "/" ++ runId

end AgentSettings

/-- The number that an agent is started with: its own field, or else its place from one. -/
def agentIndex (position : Nat) (r : HostRecord) : String :=
  (r.extraText? "agent_index").getD (toString (position + 1))

/-- A fleet: a machine, a way to the hosts, and the turns of each round. -/
structure Fleet (ρ σ : Type) where
  /-- The machine that the fleet is managed from. -/
  machine : Machine σ
  /-- How the hosts are reached. -/
  carrier : Carrier ρ σ
  /-- Where the simulator lives on the hosts. -/
  agents : AgentSettings
  /-- The order of turns in each round of an operation. -/
  turns : Nat → Turns := fun _ => []

namespace Fleet

variable {ρ σ α : Type}

/-- Does a piece of work for every host as one round of an operation. -/
def round (f : Fleet ρ σ) (n : Nat) (hosts : List HostRecord) (work : Nat → HostRecord → HostTask α)
    (s : σ) : Except FleetError (List α) × σ :=
  let (result, s) := runRound f.carrier (f.turns n) hosts work s
  (result.mapError FleetError.round, s)

/-- A round whose values are of no interest. -/
def roundUnit (f : Fleet ρ σ) (n : Nat) (hosts : List HostRecord)
    (work : Nat → HostRecord → HostTask Unit) (s : σ) : Except FleetError Unit × σ :=
  let (result, s) := f.round n hosts work s
  (result.map fun _ => (), s)

/-! ### Tasks -/

/-- Runs a command that must succeed. -/
def commandTask (command : String) : HostTask Unit :=
  .attempt (.exec command {}) fun _ => .done (.ok ())

/-- Checks that the host can be reached; `name` is what an error calls it. -/
def checkTask (name : String) : HostTask Unit :=
  .attempt (.exec "true" .probe) fun result =>
    match Remote.connected name true result.status with
    | .ok _ => .done (.ok ())
    | .error e => .fail (.remote e)

/-- Runs a command and keeps what it leaves behind. -/
def execTask (command : String) (host : HostRecord) : HostTask (HostRecord × ExecResult) :=
  .attempt (.exec command { failOnError := false }) fun result => .done (.ok (host, result))

/-- Copies a local directory to the host. -/
def uploadTask (source target : String) : HostTask Unit :=
  .attempt (.copyTo source target) fun () => .done (.ok ())

/-- The directory that is never fetched. -/
def uploadDirectoryName : String := "upload"

/-- Copies a directory of the host here, without uploads. -/
def downloadTask (source target : String) : HostTask Unit :=
  .attempt (.copyFrom source target (some uploadDirectoryName)) fun () => .done (.ok ())

/-! ### Measuring -/

/-- The programs that can measure a host, the preferred one first. -/
def measuringPrograms : List String := ["dstat", "pcp-dstat"]

/-- The question whether a program is installed. -/
def installedCommand (program : String) : String :=
  "command -v " ++ program ++ " >/dev/null 2>&1"

/-- The script that stops an earlier measurement and starts one in the background. -/
def measureCommand (program output : String) : String :=
  "if command -v killall >/dev/null 2>&1; then\n" ++
  "    killall -9 dstat || true\n" ++
  "elif command -v pkill >/dev/null 2>&1; then\n" ++
  "    pkill -9 dstat || true\n" ++
  "fi\n" ++
  "nohup " ++ program ++ " --epoch -m --all -l --noheaders --nocolor --output " ++ output ++
  " 1 > /dev/null 2>&1 &\n" ++
  "sleep 1\n"

/-- Starts the first of some programs that is installed, or none. -/
def measureTask (output : String) : List String → HostTask Unit
  | [] => .done (.ok ())
  | program :: rest =>
    .attempt (.exec (installedCommand program) .probe) fun result =>
      if result.status == 0 then commandTask (measureCommand program output)
      else measureTask output rest

/-! ### Operations -/

/-- What messages call the host of a record. -/
def nameOf (r : HostRecord) : String :=
  match r.target with
  | .ok t => t.name
  | .error _ => r.publicIp

/-- Checks that every host can be reached. -/
def check (f : Fleet ρ σ) (hosts : List HostRecord) (s : σ) : Except FleetError Unit × σ :=
  f.roundUnit 0 hosts (fun _ host => checkTask (nameOf host)) s

/-- Runs a command on every host, whatever its status. -/
def exec (f : Fleet ρ σ) (hosts : List HostRecord) (command : String) (s : σ) :
    Except FleetError (List (HostRecord × ExecResult)) × σ :=
  f.round 0 hosts (fun _ host => execTask command host) s

/-- Removes the output of all workers. -/
def clean (f : Fleet ρ σ) (hosts : List HostRecord) (s : σ) : Except FleetError Unit × σ :=
  f.roundUnit 0 hosts (fun _ _ => commandTask ("rm -fr " ++ f.agents.workersDirectory ++ "/*")) s

/-- The command that starts an agent. -/
def startCommand (a : AgentSettings) (position : Nat) (host : HostRecord) : String :=
  a.simulatorHome ++ "/bin/hidden/agent_start " ++ agentIndex position host ++ " " ++
    host.publicIp ++ " " ++ host.agentPort

/-- Starts the agents. -/
def start (f : Fleet ρ σ) (hosts : List HostRecord) (s : σ) : Except FleetError Unit × σ :=
  f.roundUnit 0 hosts (fun i host => commandTask (startCommand f.agents i host)) s

/-- The name that stands for every run. -/
def everyRun : String := "*"

/-- The directory of the hosts that a run is fetched from. -/
def downloadSource (a : AgentSettings) (runId : String) : String :=
  if runId == everyRun then a.workersDirectory ++ "/" else a.runDirectory runId ++ "/"

/-- Fetches the output of the workers into a local directory. -/
def download (f : Fleet ρ σ) (hosts : List HostRecord) (runPath runId : String) (s : σ) :
    Except FleetError Unit × σ :=
  match f.machine.createDirectories runPath s with
  | (.error e, s) => (.error (.io (runPath ++ ": " ++ e.message)), s)
  | (.ok (), s) =>
    f.roundUnit 0 hosts (fun _ _ => downloadTask (downloadSource f.agents runId) runPath) s

/-- The command that recreates the directory of a run. -/
def recreateCommand (directory : String) : String :=
  "rm -fr " ++ directory ++ "\nmkdir -p " ++ directory

/-- The file that a host's measurements go to. -/
def measurementFile (directory : String) (position : Nat) (host : HostRecord) : String :=
  directory ++ "/A" ++ agentIndex position host ++ "_dstat.csv"

/-- Recreates the directory of a run, uploads a local directory into it if there is one, and starts
measuring. -/
def prepareRun (f : Fleet ρ σ) (hosts : List HostRecord) (uploadDirectory runId : String) (s : σ) :
    Except FleetError Unit × σ :=
  let directory := f.agents.runDirectory runId
  match f.roundUnit 0 hosts (fun _ _ => commandTask (recreateCommand directory)) s with
  | (.error e, s) => (.error e, s)
  | (.ok (), s) =>
    let uploaded :=
      if f.machine.pathExists uploadDirectory s then
        f.roundUnit 1 hosts (fun _ _ => uploadTask uploadDirectory directory) s
      else (.ok (), s)
    match uploaded with
    | (.error e, s) => (.error e, s)
    | (.ok (), s) =>
      f.roundUnit 2 hosts
        (fun i host => measureTask (measurementFile directory i host) measuringPrograms) s

end Fleet

end AgentFleet
