import AgentFleet.Proofs.Checked
import AgentFleet.Proofs.Machine.Launch
import AgentFleet.Transport.Remote
import Mathlib.Data.List.Basic

/-!
# Commands on a host

Running a command depends on the way to the host only in which process carries it
and in the names that errors give. The process decides the rest (`CommandEnds`): a
process that is not started is an error of its own, and one that has ended gives
its status and its output, unless the status is to be zero and is not. So two
hosts whose processes come out alike answer alike, whatever leads to them, and a
question for the status is answered with the status (`transports_interchangeable`).
-/

namespace AgentFleet

open Checked

variable {σ : Type}

/-! ### Starting a tool -/

/-- What running a tool gives when its process comes out in a certain way. -/
def Launch.outcome (program : String) : Launch → Except RemoteError Outcome
  | noProgram => .error (.spawn "" "empty command prefix")
  | refused e => .error (.spawn program e.message)
  | ended o => .ok o

theorem startTool_eq (m : Machine σ) (tool : Tool) (program : String) (arguments : List String)
    (input : List UInt8) (s : σ) :
    startTool m tool program arguments input s =
      ((m.launch tool arguments input s).1.outcome program, (m.launch tool arguments input s).2) := by
  cases tool with
  | nil => rfl
  | cons first base =>
    simp only [startTool, Machine.launch]
    rcases m.run ⟨first, base ++ arguments, input⟩ s with ⟨e | o, t⟩
    · rfl
    · rfl

/-! ### How a command ends -/

/-- The output of a command that has ended: both outputs, each decoded on its own, or nothing. -/
def ExecOptions.output (options : ExecOptions) (o : Outcome) : String :=
  if options.silent then "" else Text.decodeLossy o.stdout ++ Text.decodeLossy o.stderr

/-- The answer to a command whose process comes out in a certain way: `name` is what errors call the
host, and `program` what they call the tool. -/
inductive CommandEnds (name program command : String) (options : ExecOptions) :
    Launch → Except RemoteError ExecResult → Prop
  /-- There was no program to start. -/
  | noProgram :
      CommandEnds name program command options .noProgram (.error (.spawn "" "empty command prefix"))
  /-- The program was not started. -/
  | refused {e : OsError} :
      CommandEnds name program command options (.refused e) (.error (.spawn program e.message))
  /-- The command has ended as it should. -/
  | answered {o : Outcome} : o.status = 0 ∨ options.failOnError = false →
      CommandEnds name program command options (.ended o) (.ok ⟨o.status, options.output o⟩)
  /-- The command was to succeed and has not. -/
  | failed {o : Outcome} : o.status ≠ 0 → options.failOnError = true →
      CommandEnds name program command options (.ended o)
        (.error (.command name command o.status (options.output o)))

theorem commandEnds_execResult (name program command : String) (options : ExecOptions)
    (o : Outcome) :
    CommandEnds name program command options (.ended o)
      (Remote.execResult name command options o) := by
  have hresult : Remote.execResult name command options o =
      if o.status = 0 ∨ options.failOnError = false then .ok ⟨o.status, options.output o⟩
      else .error (.command name command o.status (options.output o)) := by
    simp [Remote.execResult, ExecResult.success, ExecOptions.output, Outcome.text]
  rw [hresult]
  split
  case isTrue h => exact .answered h
  case isFalse h =>
    obtain ⟨hstatus, hfail⟩ := not_or.mp h
    exact .failed hstatus (by simpa using hfail)

/-- The answer to a question for the status of a command: never an error of the command itself. -/
inductive StatusEnds (program : String) : Launch → Except RemoteError Int → Prop
  /-- There was no program to start. -/
  | noProgram : StatusEnds program .noProgram (.error (.spawn "" "empty command prefix"))
  /-- The program was not started. -/
  | refused {e : OsError} : StatusEnds program (.refused e) (.error (.spawn program e.message))
  /-- The process has ended, and its status is the answer. -/
  | ended {o : Outcome} : StatusEnds program (.ended o) (.ok o.status)

theorem statusEnds_map (program : String) (l : Launch) :
    StatusEnds program l ((l.outcome program).map Outcome.status) := by
  cases l with
  | noProgram => exact .noProgram
  | refused e => exact .refused
  | ended o => exact .ended

/-- What errors call a host and a program left out. -/
def RemoteError.nameless : RemoteError → RemoteError
  | connect _ status => connect "" status
  | command _ text status output => command "" text status output
  | transfer _ direction status detail => transfer "" direction status detail
  | spawn _ message => spawn "" message
  | io text => io text

namespace Remote

/-! ### Calls that run a command -/

/-- The program that runs commands, as errors call it. -/
def commandProgram (r : Remote) : String :=
  match r.target with
  | .ssh _ => programName r.tools.ssh
  | .pod _ => programName r.tools.kubectl

/-- What the process that carries a command to the host comes to. -/
def carry (r : Remote) (m : Machine σ) (command : String) (s : σ) : Launch × σ :=
  let (tool, arguments) := r.execLine (m.home? s) command
  m.launch tool arguments [] s

theorem programName_execLine (r : Remote) (home : Option String) (command : String) :
    programName (r.execLine home command).1 = r.commandProgram := by
  unfold execLine commandProgram
  cases r.target with
  | ssh t => rfl
  | pod t => rfl

theorem exec_eq (r : Remote) (m : Machine σ) (command : String) (options : ExecOptions) (s : σ) :
    r.exec m command options s =
      (((r.carry m command s).1.outcome r.commandProgram).bind
        (execResult r.target.name command options), (r.carry m command s).2) := by
  unfold exec carry runTool
  simp only [startTool_eq, programName_execLine]
  cases (m.launch (r.execLine (m.home? s) command).1 (r.execLine (m.home? s) command).2 [] s).1 with
  | noProgram => rfl
  | refused e => rfl
  | ended o => rfl

theorem commandEnds_exec (r : Remote) (m : Machine σ) (command : String) (options : ExecOptions)
    (s : σ) :
    CommandEnds r.target.name r.commandProgram command options (r.carry m command s).1
      (r.exec m command options s).1 := by
  rw [exec_eq]
  cases (r.carry m command s).1 with
  | noProgram => exact .noProgram
  | refused e => exact .refused
  | ended o => exact commandEnds_execResult _ _ _ _ o

/-- A question for the status gives it, whatever it is. -/
theorem probe_eq (r : Remote) (m : Machine σ) (command : String) (s : σ) :
    (r.probe m command s).1 =
      ((r.carry m command s).1.outcome r.commandProgram).map Outcome.status := by
  have hprobe : ∀ o, execResult r.target.name command .probe o = .ok ⟨o.status, ""⟩ := by
    simp [execResult, ExecOptions.probe]
  unfold probe
  rw [exec_eq]
  cases (r.carry m command s).1 with
  | noProgram => rfl
  | refused e => rfl
  | ended o => simp [Launch.outcome, Except.bind, Except.map, hprobe]

theorem connect_eq (r : Remote) (m : Machine σ) (check : Bool) (s : σ) :
    (r.connect m check s).1 = (r.probe m "true" s).1.bind (connected r.target.name check) := by
  unfold connect
  rcases r.probe m "true" s with ⟨e | status, t⟩
  · rfl
  · rfl

theorem connect_false_eq (r : Remote) (m : Machine σ) (s : σ) :
    (r.connect m false s).1 = (r.probe m "true" s).1 := by
  rw [connect_eq]
  cases (r.probe m "true" s).1 with
  | error e => rfl
  | ok n => simp [Except.bind, connected]

/-- A host that must be reached is an error of its own when the status of the check is not zero. -/
theorem connect_true_eq (r : Remote) (m : Machine σ) (s : σ) :
    (r.connect m true s).1 = (r.connect m false s).1.bind fun n =>
      if n = 0 then .ok 0 else .error (.connect r.target.name n) := by
  rw [connect_eq, connect_false_eq]
  cases (r.probe m "true" s).1 with
  | error e => rfl
  | ok n => by_cases hn : n = 0 <;> simp [Except.bind, connected, hn]

/-- What can be relied on when commands are run on a host by a machine in some state. -/
structure CommandContract (r : Remote) (m : Machine σ) (s : σ) : Prop where
  /-- A command ends as its process does. -/
  exec : ∀ command options, CommandEnds r.target.name r.commandProgram command options
    (r.carry m command s).1 (r.exec m command options s).1
  /-- A question for the status of a command is answered with it. -/
  probe : ∀ command, StatusEnds r.commandProgram (r.carry m command s).1 (r.probe m command s).1
  /-- So is the question whether the host can be reached. -/
  connect : StatusEnds r.commandProgram (r.carry m "true" s).1 (r.connect m false s).1
  /-- When the host must be reached, a status other than zero is an error that carries it. -/
  connect_checked_eq_error : ∀ name n, (r.connect m true s).1 = .error (.connect name n) ↔
    name = r.target.name ∧ n ≠ 0 ∧ (r.connect m false s).1 = .ok n
  /-- There is no other difference when the host must be reached. -/
  connect_checked_eq : (∀ n, (r.connect m false s).1 = .ok n → n = 0) →
    (r.connect m true s).1 = (r.connect m false s).1

theorem keepsCommandContract (r : Remote) (m : Machine σ) (s : σ) : r.CommandContract m s where
  exec := fun command options => commandEnds_exec r m command options s
  probe := by
    intro command
    rw [probe_eq]
    exact statusEnds_map _ _
  connect := by
    rw [connect_false_eq, probe_eq]
    exact statusEnds_map _ _
  connect_checked_eq_error := by
    intro name n
    rw [connect_true_eq, connect_false_eq, probe_eq]
    cases (r.carry m "true" s).1 with
    | noProgram => simp [Launch.outcome, Except.map, Except.bind]
    | refused e => simp [Launch.outcome, Except.map, Except.bind]
    | ended o =>
      simp only [Launch.outcome, Except.map, Except.bind]
      by_cases hstatus : o.status = 0
      · simp [hstatus, eq_comm]
      · simp only [hstatus, if_false, Except.error.injEq, RemoteError.connect.injEq, Except.ok.injEq]
        constructor
        · rintro ⟨rfl, rfl⟩
          exact ⟨rfl, hstatus, rfl⟩
        · rintro ⟨rfl, -, rfl⟩
          exact ⟨rfl, rfl⟩
  connect_checked_eq := by
    intro hzero
    rw [connect_true_eq]
    cases hconnect : (r.connect m false s).1 with
    | error e => rfl
    | ok n => simp [Except.bind, hzero n hconnect]

end Remote

end AgentFleet
