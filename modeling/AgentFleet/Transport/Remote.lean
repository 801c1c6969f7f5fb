import AgentFleet.Machine.Basic
import AgentFleet.Transport.Arguments
import AgentFleet.Transport.Error

/-!
# Calls to a host

A host is called by running a tool to its end: a command is run, or files are
copied to the host or from it. A pod sends files without those that are excluded
as an archive, which is unpacked here; all other calls run one process each.
-/

namespace AgentFleet

variable {σ : Type}

/-- A call to a host. -/
inductive Call where
  /-- Runs a command in a shell of the host. -/
  | exec (command : String) (options : ExecOptions)
  /-- Copies a local path to one of the host. -/
  | copyTo (source target : String)
  /-- Copies a path of the host into a local directory, without what a pattern excludes. -/
  | copyFrom (source target : String) (excluded : Option String)
  deriving DecidableEq, Repr

/-- What a successful call answers. -/
abbrev Call.Answer : Call → Type
  | exec _ _ => ExecResult
  | copyTo _ _ => Unit
  | copyFrom _ _ _ => Unit

/-- A host with the tools that carry calls to it. -/
structure Remote where
  /-- The tools. -/
  tools : Tools
  /-- Where the host is. -/
  target : Target
  deriving DecidableEq, Repr

/-! ### Running a tool -/

/-- Runs a tool with further arguments; `program` is what an error calls it. -/
def startTool (m : Machine σ) (tool : Tool) (program : String) (arguments : List String)
    (input : List UInt8) (s : σ) : Except RemoteError Outcome × σ :=
  match tool with
  | [] => (.error (.spawn "" "empty command prefix"), s)
  | first :: base =>
    match m.run ⟨first, base ++ arguments, input⟩ s with
    | (.ok outcome, s) => (.ok outcome, s)
    | (.error e, s) => (.error (.spawn program e.message), s)

/-- What an error calls the program of a tool; a NUL character cannot be shown. -/
def programName (tool : Tool) : String :=
  let name := tool.headD ""
  if hasNul name then "<string-with-nul>" else name

/-- Runs a tool without input. -/
def runTool (m : Machine σ) (tool : Tool) (arguments : List String) (s : σ) :
    Except RemoteError Outcome × σ :=
  startTool m tool (programName tool) arguments [] s

namespace Remote

/-! ### Commands -/

/-- The result of a command whose process has ended. -/
def execResult (name command : String) (options : ExecOptions) (o : Outcome) :
    Except RemoteError ExecResult :=
  let result : ExecResult := { status := o.status, output := if options.silent then "" else o.text }
  if result.success || !options.failOnError then .ok result
  else .error (.command name command result.status result.output)

/-- The tool that runs commands, with its arguments. -/
def execLine (r : Remote) (home : Option String) (command : String) : Tool × List String :=
  match r.target with
  | .ssh t => (r.tools.ssh, t.execArguments command)
  | .pod t => (r.tools.kubectl, t.execArguments home command)

/-- Runs a command on the host. -/
def exec (r : Remote) (m : Machine σ) (command : String) (options : ExecOptions) (s : σ) :
    Except RemoteError ExecResult × σ :=
  let (tool, arguments) := r.execLine (m.home? s) command
  match runTool m tool arguments s with
  | (.ok outcome, s) => (execResult r.target.name command options outcome, s)
  | (.error e, s) => (.error e, s)

/-- Runs a command silently and answers its status. -/
def probe (r : Remote) (m : Machine σ) (command : String) (s : σ) : Except RemoteError Int × σ :=
  match r.exec m command .probe s with
  | (.ok result, s) => (.ok result.status, s)
  | (.error e, s) => (.error e, s)

/-- Takes the status of a connection that was checked. -/
def connected (name : String) (check : Bool) (status : Int) : Except RemoteError Int :=
  if status != 0 && check then .error (.connect name status) else .ok status

/-- Asks whether the host is reachable; with `check` it must be. -/
def connect (r : Remote) (m : Machine σ) (check : Bool) (s : σ) : Except RemoteError Int × σ :=
  match r.probe m "true" s with
  | (.ok status, s) => (connected r.target.name check status, s)
  | (.error e, s) => (.error e, s)

/-! ### Transfers -/

/-- Runs a tool that copies. -/
def transfer (m : Machine σ) (name : String) (direction : Direction) (tool : Tool)
    (arguments : List String) (s : σ) : Except RemoteError Unit × σ :=
  match runTool m tool arguments s with
  | (.error e, s) => (.error e, s)
  | (.ok o, s) =>
    if o.status == 0 then (.ok (), s)
    else (.error (.transfer name direction o.status o.text), s)

/-- Copies a local path to one of the host. -/
def copyTo (r : Remote) (m : Machine σ) (source target : String) (s : σ) :
    Except RemoteError Unit × σ :=
  match r.target with
  | .ssh t => transfer m t.host .toHost r.tools.scp (t.copyToArguments source target) s
  | .pod t =>
    transfer m t.pod .toHost r.tools.kubectl (t.copyArguments (m.home? s) source (t.path target)) s

/-- The result of packing a directory there and unpacking it here. -/
def archiveResult (name : String) (packed unpacked : Outcome) : Except RemoteError Unit :=
  if packed.status == 0 && unpacked.status == 0 then .ok ()
  else
    let status := if packed.status != 0 then packed.status else unpacked.status
    .error (.transfer name .fromHost status
      ("tar stream: remote exited " ++ toString packed.status ++ ", local extract exited " ++
        toString unpacked.status ++ ": " ++ Text.trim unpacked.text))

/-- Copies a directory of a pod without what a pattern excludes, as an archive. -/
def copyArchive (r : Remote) (m : Machine σ) (t : PodTarget) (source target excluded : String)
    (s : σ) : Except RemoteError Unit × σ :=
  match m.createDirectories target s with
  | (.error e, s) => (.error (.io (target ++ ": " ++ e.message)), s)
  | (.ok (), s) =>
    let arguments := t.execArguments (m.home? s) (archiveScript source excluded)
    match startTool m r.tools.kubectl (Text.join " " r.tools.kubectl) arguments [] s with
    | (.error e, s) => (.error e, s)
    | (.ok packed, s) =>
      let unpack := ["xzf", "-", "-C", target]
      match startTool m r.tools.tar (programName r.tools.tar) unpack packed.stdout s with
      | (.error e, s) => (.error e, s)
      | (.ok unpacked, s) => (archiveResult t.pod packed unpacked, s)

/-- Copies a path of the host into a local directory. -/
def copyFrom (r : Remote) (m : Machine σ) (source target : String) (excluded : Option String)
    (s : σ) : Except RemoteError Unit × σ :=
  match r.target, excluded with
  | .ssh t, excluded =>
    transfer m t.host .fromHost r.tools.rsync
      (t.copyFromArguments r.tools.ssh source target excluded) s
  | .pod t, some pattern => r.copyArchive m t source target pattern s
  | .pod t, none =>
    transfer m t.pod .fromHost r.tools.kubectl
      (t.copyArguments (m.home? s) (t.path source) target) s

/-- Makes a call to the host. -/
def perform (m : Machine σ) (r : Remote) : (c : Call) → σ → Except RemoteError c.Answer × σ
  | .exec command options => r.exec m command options
  | .copyTo source target => r.copyTo m source target
  | .copyFrom source target excluded => r.copyFrom m source target excluded

end Remote

end AgentFleet
