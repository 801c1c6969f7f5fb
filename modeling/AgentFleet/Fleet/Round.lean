import AgentFleet.Fleet.Error
import AgentFleet.Inventory.Record
import AgentFleet.Text.Quoted
import AgentFleet.Transport.Remote

/-!
# Rounds

A round does one piece of work for every host at the same time. The work for a
host is a task: a tree of calls, each going on with the answer of the one
before. Which host's call comes next is decided by an order of turns; hosts that
are not done when it is used up finish one after the other, so that every
interleaving of the hosts' calls has an order. A round is over when every task
is, and its result lists the values or else all failures in the order of the
hosts.
-/

namespace AgentFleet

/-- Why the work for one host failed. -/
inductive TaskFailure where
  /-- It met an error. -/
  | error (e : FleetError)
  /-- It broke off with a message. -/
  | panic (text : String)
  deriving DecidableEq, Repr

/-- The wording of the failure of a task. -/
def TaskFailure.message : TaskFailure → String
  | error e => e.message
  | panic text => "task # panicked with message " ++ Text.quoted text

/-- The work for one host. -/
inductive HostTask (α : Type) where
  /-- The work is done. -/
  | done (result : Except TaskFailure α)
  /-- A call whose answer decides how the work goes on. -/
  | call (c : Call) (next : Except RemoteError c.Answer → HostTask α)

namespace HostTask

variable {α : Type}

/-- Work that ends with an error. -/
def fail (e : FleetError) : HostTask α :=
  .done (.error (.error e))

/-- A call whose failure ends the work. -/
def attempt (c : Call) (next : c.Answer → HostTask α) : HostTask α :=
  .call c fun answer =>
    match answer with
    | .ok a => next a
    | .error e => fail (.remote e)

end HostTask

/-- How the hosts of a fleet are reached: by remotes `ρ` on a machine with states `σ`. -/
structure Carrier (ρ σ : Type) where
  /-- The remote of a host. -/
  remoteFor : HostRecord → Except FleetError ρ
  /-- Makes a call through a remote. -/
  perform : ρ → (c : Call) → σ → Except RemoteError c.Answer × σ

/-- A host at work. -/
inductive Worker (ρ α : Type) where
  /-- It has a remote and a task. -/
  | busy (remote : ρ) (task : HostTask α)
  /-- Its task is over. -/
  | idle (result : Except TaskFailure α)

variable {ρ σ α : Type}

namespace Worker

/-- A host that begins a task; without a remote the task fails at once. -/
def start (carrier : Carrier ρ σ) (host : HostRecord) (task : HostTask α) : Worker ρ α :=
  match carrier.remoteFor host with
  | .ok remote => .busy remote task
  | .error e => .idle (.error (.error e))

/-- Lets a host make its next call. -/
def turn (carrier : Carrier ρ σ) (w : Worker ρ α) (s : σ) : Worker ρ α × σ :=
  match w with
  | .busy remote (.call c next) =>
    let (answer, s) := carrier.perform remote c s
    (.busy remote (next answer), s)
  | .busy _ (.done result) => (.idle result, s)
  | .idle result => (.idle result, s)

/-- Makes all calls of a task. -/
def runTask (carrier : Carrier ρ σ) (remote : ρ) : HostTask α → σ → Except TaskFailure α × σ
  | .done result, s => (result, s)
  | .call c next, s =>
    let (answer, s) := carrier.perform remote c s
    runTask carrier remote (next answer) s

/-- Lets a host finish its task. -/
def finish (carrier : Carrier ρ σ) (w : Worker ρ α) (s : σ) : Except TaskFailure α × σ :=
  match w with
  | .busy remote task => runTask carrier remote task s
  | .idle result => (result, s)

end Worker

/-- The hosts whose turn it is, one after the other; positions without a host are passed over. -/
abbrev Turns := List Nat

/-- Lets the host at a position make its next call. -/
def takeTurn (carrier : Carrier ρ σ) (ws : List (Worker ρ α)) (s : σ) (i : Nat) :
    List (Worker ρ α) × σ :=
  match ws[i]? with
  | some w =>
    let (w, s) := w.turn carrier s
    (ws.set i w, s)
  | none => (ws, s)

/-- Lets the hosts make calls in an order of turns. -/
def takeTurns (carrier : Carrier ρ σ) : Turns → List (Worker ρ α) → σ → List (Worker ρ α) × σ
  | [], ws, s => (ws, s)
  | i :: turns, ws, s =>
    let (ws, s) := takeTurn carrier ws s i
    takeTurns carrier turns ws s

/-- Lets the hosts finish one after the other. -/
def finishAll (carrier : Carrier ρ σ) : List (Worker ρ α) → σ → List (Except TaskFailure α) × σ
  | [], s => ([], s)
  | w :: ws, s =>
    let (result, s) := w.finish carrier s
    let (results, s) := finishAll carrier ws s
    (result :: results, s)

/-- The failures among results, each under the address of its host. -/
def failuresOf : List (HostRecord × Except TaskFailure α) → List HostFailure
  | [] => []
  | (host, .error e) :: rest => ⟨host.publicIp, e.message⟩ :: failuresOf rest
  | (_, .ok _) :: rest => failuresOf rest

/-- The values among results. -/
def valuesOf : List (HostRecord × Except TaskFailure α) → List α
  | [] => []
  | (_, .ok a) :: rest => a :: valuesOf rest
  | (_, .error _) :: rest => valuesOf rest

/-- The result of a round: all values, or else all failures. -/
def collect (hosts : List HostRecord) (results : List (Except TaskFailure α)) :
    Except RoundFailure (List α) :=
  let paired := hosts.zip results
  match failuresOf paired with
  | [] => .ok (valuesOf paired)
  | failures => .error ⟨failures, hosts.length⟩

/-- The hosts of a round at its beginning, each with the work for its position. -/
def startAll (carrier : Carrier ρ σ) (hosts : List HostRecord)
    (work : Nat → HostRecord → HostTask α) : List (Worker ρ α) :=
  hosts.mapIdx fun i host => Worker.start carrier host (work i host)

/-- Does a piece of work for every host and waits for all of them. -/
def runRound (carrier : Carrier ρ σ) (turns : Turns) (hosts : List HostRecord)
    (work : Nat → HostRecord → HostTask α) (s : σ) : Except RoundFailure (List α) × σ :=
  let (ws, s) := takeTurns carrier turns (startAll carrier hosts work) s
  let (results, s) := finishAll carrier ws s
  (collect hosts results, s)

end AgentFleet
