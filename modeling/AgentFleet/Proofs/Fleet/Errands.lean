import AgentFleet.Proofs.Fleet.Dispatch
import AgentFleet.Proofs.Fleet.Recording
import AgentFleet.Proofs.Fleet.Tasks
import AgentFleet.Proofs.Transport.Commands

/-!
# Operations of one round

Most operations are an errand: one call to every host, and a verdict on its answer
(`Errand`). A host that can be reached receives this call once, and the call does
not depend on the other hosts; neither does the result for the host, which its own
exchange decides (`Errand.Ends`). So in every order of turns the operation gives
one value per host, or else lists those that have none (`Errand.Visits`), and this
is what checking, cleaning, starting, running a command and fetching have in common
(`operations_visit`).
-/

namespace AgentFleet

open Fleet

variable {ρ σ α β : Type}

/-! ### Errands -/

/-- What is to be done on every host of a fleet with one call each. -/
structure Errand (α : Type) where
  /-- The call to the host at a position. -/
  call : Nat → HostRecord → Call
  /-- What the answer of the host is worth. -/
  verdict : (i : Nat) → (host : HostRecord) → (call i host).Answer → Except RemoteError α

namespace Errand

/-- The work for the host at a position. -/
def task (errand : Errand α) (i : Nat) (host : HostRecord) : HostTask α :=
  .attempt (errand.call i host) fun answer =>
    match errand.verdict i host answer with
    | .ok a => .done (.ok a)
    | .error e => .fail (.remote e)

/-- What an errand has come to for the host at a position, after these exchanges with it. -/
inductive Ends (errand : Errand α) (remoteFor : HostRecord → Except FleetError ρ) (i : Nat)
    (host : HostRecord) : List Exchange → Except TaskFailure α → Prop
  /-- The host has no remote and receives no call. -/
  | unreached {e : FleetError} : remoteFor host = .error e →
      Ends errand remoteFor i host [] (.error (.error e))
  /-- The call was refused. -/
  | refused {remote : ρ} {e : RemoteError} : remoteFor host = .ok remote →
      Ends errand remoteFor i host [⟨errand.call i host, .error e⟩] (.error (.error (.remote e)))
  /-- The call was answered, and the answer is a failure. -/
  | failed {remote : ρ} {answer : (errand.call i host).Answer} {e : RemoteError} :
      remoteFor host = .ok remote → errand.verdict i host answer = .error e →
      Ends errand remoteFor i host [⟨errand.call i host, .ok answer⟩] (.error (.error (.remote e)))
  /-- The call was answered with a value. -/
  | done {remote : ρ} {answer : (errand.call i host).Answer} {a : α} :
      remoteFor host = .ok remote → errand.verdict i host answer = .ok a →
      Ends errand remoteFor i host [⟨errand.call i host, .ok answer⟩] (.ok a)

variable {errand : Errand α} {remoteFor : HostRecord → Except FleetError ρ}
  {hosts : List HostRecord} {i : Nat} {host : HostRecord} {exchanges : List Exchange}
  {result : Except TaskFailure α}

theorem ends_of_serves {carrier : Carrier ρ σ}
    (h : Serves carrier host (errand.task i host) exchanges result) :
    errand.Ends carrier.remoteFor i host exchanges result := by
  cases h with
  | unreached hremote => exact .unreached hremote
  | ended hremote hleads =>
    rcases HostTask.leads_attempt hleads with ⟨answer, rest, rfl, hrest⟩ | ⟨e, rfl, rfl⟩
    · split at hrest
      case h_1 a hverdict =>
        cases hrest
        exact .done hremote hverdict
      case h_2 e hverdict =>
        cases hrest
        exact .failed hremote hverdict
    · exact .refused hremote

theorem Ends.exists_answer {remote : ρ} (h : errand.Ends remoteFor i host exchanges result)
    (hremote : remoteFor host = .ok remote) :
    ∃ answer, exchanges = [⟨errand.call i host, answer⟩] := by
  cases h with
  | unreached herror => cases hremote.symm.trans herror
  | refused => exact ⟨_, rfl⟩
  | failed => exact ⟨_, rfl⟩
  | done => exact ⟨_, rfl⟩

theorem Ends.eq_nil {e : FleetError} (h : errand.Ends remoteFor i host exchanges result)
    (hremote : remoteFor host = .error e) : exchanges = [] := by
  cases h with
  | unreached => rfl
  | refused hok => cases hremote.symm.trans hok
  | failed hok => cases hremote.symm.trans hok
  | done hok => cases hremote.symm.trans hok

/-- A host receives no other call. -/
theorem Ends.call_eq (h : errand.Ends remoteFor i host exchanges result) :
    ∀ x ∈ exchanges, x.call = errand.call i host := by
  cases h <;> simp

/-- The exchanges with a host decide what the errand has come to for it. -/
theorem Ends.unique {result' : Except TaskFailure α}
    (h : errand.Ends remoteFor i host exchanges result)
    (h' : errand.Ends remoteFor i host exchanges result') : result = result' := by
  cases h with
  | unreached hremote =>
    cases h' with
    | unreached hremote' =>
      obtain rfl := Except.error.inj (hremote.symm.trans hremote')
      rfl
  | refused =>
    cases h' with
    | refused => rfl
  | failed _ hverdict =>
    cases h' with
    | failed _ hverdict' =>
      obtain rfl := Except.error.inj (hverdict.symm.trans hverdict')
      rfl
    | done _ hverdict' => cases hverdict.symm.trans hverdict'
  | done _ hverdict =>
    cases h' with
    | failed _ hverdict' => cases hverdict.symm.trans hverdict'
    | done _ hverdict' =>
      obtain rfl := Except.ok.inj (hverdict.symm.trans hverdict')
      rfl

/-- What an errand has come to for all hosts after a trace, one result for each of them. -/
structure Results (errand : Errand α) (remoteFor : HostRecord → Except FleetError ρ)
    (hosts : List HostRecord) (trace : Trace) (results : List (Except TaskFailure α)) : Prop where
  length : results.length = hosts.length
  ends : ∀ i host result, hosts[i]? = some host → results[i]? = some result →
    errand.Ends remoteFor i host (trace.of i) result

theorem Results.unique {trace : Trace} {results results' : List (Except TaskFailure α)}
    (h : errand.Results remoteFor hosts trace results)
    (h' : errand.Results remoteFor hosts trace results') : results = results' := by
  refine List.ext_getElem (h.length.trans h'.length.symm) fun i hi hi' => ?_
  have hlt : i < hosts.length := h.length ▸ hi
  have hhost : hosts[i]? = some hosts[i] := List.getElem?_eq_getElem hlt
  exact (h.ends i _ _ hhost (List.getElem?_eq_getElem hi)).unique
    (h'.ends i _ _ hhost (List.getElem?_eq_getElem hi'))

/-- A host of an errand that has come to an end has a result. -/
theorem Results.exists_ends {trace : Trace} {results : List (Except TaskFailure α)}
    (h : errand.Results remoteFor hosts trace results) (hhost : hosts[i]? = some host) :
    ∃ result, errand.Ends remoteFor i host (trace.of i) result := by
  obtain ⟨hi, -⟩ := List.getElem?_eq_some_iff.mp hhost
  exact ⟨_, h.ends i host _ hhost (List.getElem?_eq_getElem (h.length ▸ hi))⟩

theorem results_of_completes {carrier : Carrier ρ σ} {log : RoundLog α}
    (h : log.Completes carrier hosts errand.task) :
    errand.Results carrier.remoteFor hosts log.trace log.results where
  length := h.length
  ends i host result hhost hresult := ends_of_serves (h.serves i host result hhost hresult)

/-- What an operation makes of the results of its round. -/
def collected (hosts : List HostRecord) (give : List α → β)
    (results : List (Except TaskFailure α)) : Except FleetError β :=
  ((collect hosts results).mapError FleetError.round).map give

theorem Results.collected_eq_ok_iff {trace : Trace} {results : List (Except TaskFailure α)}
    (h : errand.Results remoteFor hosts trace results) {give : List α → β} {b : β} :
    collected hosts give results = .ok b ↔
      ∃ values, give values = b ∧ errand.Results remoteFor hosts trace (values.map .ok) := by
  constructor
  · intro hok
    cases hcollect : collect hosts results with
    | error failure => simp [collected, hcollect, Except.mapError, Except.map] at hok
    | ok values =>
      rw [collected, hcollect] at hok
      obtain rfl := (collect_eq_ok_iff h.length).mp hcollect
      exact ⟨values, Except.ok.inj hok, h⟩
  · rintro ⟨values, rfl, hvalues⟩
    rw [collected, (collect_eq_ok_iff h.length).mpr (h.unique hvalues)]
    rfl

theorem Results.collected_eq_error_iff {trace : Trace} {results : List (Except TaskFailure α)}
    (h : errand.Results remoteFor hosts trace results) {give : List α → β} {e : FleetError} :
    collected hosts give results = .error e ↔
      ∃ results, errand.Results remoteFor hosts trace results ∧ failures hosts results ≠ [] ∧
        e = .round ⟨failures hosts results, hosts.length⟩ := by
  constructor
  · intro herror
    cases hcollect : collect hosts results with
    | ok values => simp [collected, hcollect, Except.mapError, Except.map] at herror
    | error failure =>
      rw [collected, hcollect] at herror
      obtain ⟨hne, rfl⟩ := collect_eq_error_iff.mp hcollect
      exact ⟨results, h, hne, (Except.error.inj herror).symm⟩
  · rintro ⟨results', hresults', hne, rfl⟩
    obtain rfl := h.unique hresults'
    rw [collected, collect_eq_error_iff.mpr ⟨hne, rfl⟩]
    rfl

end Errand

/-! ### Answers to commands -/

/-- An answer keeps to the status of a command: a command that is to succeed is answered only with
zero, and one that may fail is refused only when no process was started. -/
def Exchange.KeepsStatus : Exchange → Prop
  | ⟨.exec _ options, .ok result⟩ => options.failOnError = true → result.status = 0
  | ⟨.exec _ options, .error e⟩ =>
    options.failOnError = false → ∃ program message, e = .spawn program message
  | ⟨.copyTo _ _, _⟩ | ⟨.copyFrom _ _ _, _⟩ => True

/-- All answers that hosts give keep to the status of commands. -/
def Carrier.KeepsStatus (carrier : Carrier ρ σ) : Prop :=
  ∀ remote c s, Exchange.KeepsStatus ⟨c, (carrier.perform remote c s).1⟩

theorem CommandEnds.keepsStatus {name program command : String} {options : ExecOptions} {l : Launch}
    {answer : Except RemoteError ExecResult}
    (h : CommandEnds name program command options l answer) :
    Exchange.KeepsStatus ⟨.exec command options, answer⟩ := by
  cases h with
  | noProgram => exact fun _ => ⟨_, _, rfl⟩
  | refused => exact fun _ => ⟨_, _, rfl⟩
  | answered hgood => exact fun hfail => hgood.resolve_right (by simp [hfail])
  | failed _ hfail => exact fun hmay => by simp [hfail] at hmay

/-- Hosts that are reached by tools keep to the status of commands. -/
theorem keepsStatus_ofTools (m : Machine σ) (tools : Tools) :
    (Carrier.ofTools m tools).KeepsStatus := by
  intro remote c s
  cases c with
  | exec command options => exact (Remote.commandEnds_exec remote m command options s).keepsStatus
  | copyTo source target => trivial
  | copyFrom source target excluded => trivial

/-! ### Rounds -/

/-- What a round of an errand has done, and what it has given: its trace, the calls that were made
and its result. -/
structure Errand.Visits (errand : Errand α) (carrier : Carrier ρ σ) (hosts : List HostRecord)
    (give : List α → β) (s : σ) (trace : Trace)
    (run : Except FleetError β × σ × List (ρ × Exchange)) : Prop where
  /-- The exchanges of the trace have happened one after the other. -/
  happens : Happens carrier hosts s trace run.2.1
  /-- There were no other calls, and each was made to the host at its position. -/
  recorded : List.Forall₂ (fun event entry => event.2 = entry.2 ∧
    ∃ host, hosts[event.1]? = some host ∧ carrier.remoteFor host = .ok entry.1) trace run.2.2
  /-- A host that can be reached has received one call. -/
  one_call : ∀ i host remote, hosts[i]? = some host → carrier.remoteFor host = .ok remote →
    ∃ answer, trace.of i = [⟨errand.call i host, answer⟩]
  /-- Any other host has received none. -/
  no_call : ∀ i host e, hosts[i]? = some host → carrier.remoteFor host = .error e → trace.of i = []
  /-- The result is a value when the errand has come to a value on every host. -/
  eq_ok_iff : ∀ b, run.1 = .ok b ↔
    ∃ values, give values = b ∧ errand.Results carrier.remoteFor hosts trace (values.map .ok)
  /-- Otherwise the result lists the hosts that have none, in their order. -/
  eq_error_iff : ∀ e, run.1 = .error e ↔
    ∃ results, errand.Results carrier.remoteFor hosts trace results ∧ failures hosts results ≠ [] ∧
      e = .round ⟨failures hosts results, hosts.length⟩
  /-- When all answers that hosts give keep to the status of commands, so have these. -/
  keepsStatus : carrier.KeepsStatus → ∀ event ∈ trace, event.2.KeepsStatus

/-- A fleet does an operation as one round of an errand: the operation is `plain`, and `run` is the
operation of the fleet that records its calls. -/
def Fleet.Visits (f : Fleet ρ σ) (errand : Errand α) (give : List α → β) (hosts : List HostRecord)
    (s : σ) (plain : Except FleetError β × σ)
    (run : Except FleetError β × σ × List (ρ × Exchange)) : Prop :=
  Prod.map id Prod.fst run = plain ∧ ∃ trace, errand.Visits f.carrier hosts give s trace run

theorem Happens.keepsStatus {carrier : Carrier ρ σ} {hosts : List HostRecord} {s t : σ}
    {trace : Trace} (h : Happens carrier hosts s trace t) (hkeeps : carrier.KeepsStatus) :
    ∀ event ∈ trace, event.2.KeepsStatus := by
  induction h with
  | nil => simp
  | @cons s _ _ _ e _ _ remote _ _ hperform _ ih =>
    refine List.forall_mem_cons.mpr ⟨?_, ih⟩
    have hanswer := hkeeps remote e.call s
    rwa [hperform] at hanswer

/-- A recorded round of an errand has visited the hosts. -/
theorem Errand.exists_visits_round (errand : Errand α) (give : List α → β) (f : Fleet ρ σ) (n : Nat)
    (hosts : List HostRecord) (s : σ) :
    ∃ trace, errand.Visits f.carrier hosts give s trace
      ((f.recorded.round n hosts errand.task (s, [])).1.map give,
        (f.recorded.round n hosts errand.task (s, [])).2) := by
  obtain ⟨log, hhappens, hcompletes, hround⟩ :=
    exists_completes_runRound f.carrier.recorded (f.turns n) hosts errand.task (s, [])
  have hresults := results_of_completes hcompletes
  have hrun : (f.recorded.round n hosts errand.task (s, [])).1.map give =
      collected hosts give log.results := by
    rw [collected, ← hround]
    rfl
  obtain ⟨hhappens, made, hmade, hrecorded⟩ := hhappens.recorded
  rw [List.nil_append] at hmade
  refine ⟨log.trace, ⟨hhappens, hmade ▸ hrecorded, ?_, ?_, ?_, ?_, hhappens.keepsStatus⟩⟩
  · intro i host remote hhost hremote
    obtain ⟨result, hends⟩ := hresults.exists_ends hhost
    exact hends.exists_answer hremote
  · intro i host e hhost hremote
    obtain ⟨result, hends⟩ := hresults.exists_ends hhost
    exact hends.eq_nil hremote
  · intro b
    rw [hrun]
    exact hresults.collected_eq_ok_iff
  · intro e
    rw [hrun]
    exact hresults.collected_eq_error_iff

/-- A round of an errand whose values are kept. -/
theorem Fleet.visits_round (f : Fleet ρ σ) (errand : Errand α) (hosts : List HostRecord) (s : σ) :
    f.Visits errand id hosts s (f.round 0 hosts errand.task s)
      (f.recorded.round 0 hosts errand.task (s, [])) := by
  have hvisits := errand.exists_visits_round id f 0 hosts s
  rw [Except.map_id] at hvisits
  exact ⟨f.round_recorded 0 hosts errand.task s [], hvisits⟩

/-- A round of an errand without values. -/
theorem Fleet.visits_roundUnit (f : Fleet ρ σ) (errand : Errand Unit) (hosts : List HostRecord)
    (s : σ) :
    f.Visits errand (fun _ => ()) hosts s (f.roundUnit 0 hosts errand.task s)
      (f.recorded.roundUnit 0 hosts errand.task (s, [])) :=
  ⟨f.roundUnit_recorded 0 hosts errand.task s [], errand.exists_visits_round _ f 0 hosts s⟩

/-! ### The operations -/

/-- Checking that every host can be reached. -/
def checking : Errand Unit where
  call _ _ := .exec "true" { silent := true, failOnError := false }
  verdict _ host result :=
    if result.status = 0 then .ok () else .error (.connect (nameOf host) result.status)

/-- Running a command on every host, whatever its status. -/
def running (command : String) : Errand (HostRecord × ExecResult) where
  call _ _ := .exec command { failOnError := false }
  verdict _ host result := .ok (host, result)

/-- Running a command on every host that must succeed. -/
def commanding (command : Nat → HostRecord → String) : Errand Unit where
  call i host := .exec (command i host) {}
  verdict _ _ _ := .ok ()

/-- Fetching a directory from every host, without uploads. -/
def fetching (source target : String) : Errand Unit where
  call _ _ := .copyFrom source target (some "upload")
  verdict _ _ _ := .ok ()

theorem task_checking (i : Nat) (host : HostRecord) :
    checking.task i host = checkTask (nameOf host) := by
  unfold Errand.task checking checkTask
  congr 1
  funext result
  by_cases hstatus : result.status = 0
  · simp [hstatus, Remote.connected]
  · simp [hstatus, Remote.connected]

/-- What the operations of one round do on a fleet and some hosts, from some state. -/
structure Fleet.SingleRounds (f : Fleet ρ σ) (hosts : List HostRecord) (s : σ) : Prop where
  /-- Checking is an errand. -/
  check : f.Visits checking (fun _ => ()) hosts s (f.check hosts s) (f.recorded.check hosts (s, []))
  /-- So is running a command; its value is what the command has left behind on each host. -/
  exec : ∀ command, f.Visits (running command) id hosts s (f.exec hosts command s)
    (f.recorded.exec hosts command (s, []))
  /-- So is cleaning. -/
  clean : f.Visits (commanding fun _ _ => "rm -fr " ++ f.agents.simulatorHome ++ "/workers/*")
    (fun _ => ()) hosts s (f.clean hosts s) (f.recorded.clean hosts (s, []))
  /-- So is starting; every agent is told its number, its address and its port. -/
  start : ∃ number : Nat → HostRecord → String,
    (∀ i host, Numbered i host (number i host)) ∧
    f.Visits (commanding fun i host => f.agents.simulatorHome ++ "/bin/hidden/agent_start " ++
        number i host ++ " " ++ host.publicIp ++ " " ++ host.agentPort)
      (fun _ => ()) hosts s (f.start hosts s) (f.recorded.start hosts (s, []))
  /-- So is fetching the output of a run, or of every run, when there is a local directory to fetch
  into. -/
  download : ∀ runPath runId t, f.machine.createDirectories runPath s = (.ok (), t) →
    f.Visits
      (fetching (if runId = "*" then f.agents.simulatorHome ++ "/workers/"
        else f.agents.simulatorHome ++ "/workers/" ++ runId ++ "/") runPath)
      (fun _ => ()) hosts t
      (f.download hosts runPath runId s) (f.recorded.download hosts runPath runId (s, []))
  /-- Without the directory nothing is fetched and no host receives a call. -/
  download_refused : ∀ runPath runId e t, f.machine.createDirectories runPath s = (.error e, t) →
    f.download hosts runPath runId s = (.error (.io (runPath ++ ": " ++ e.message)), t) ∧
      f.recorded.download hosts runPath runId (s, []) =
        (.error (.io (runPath ++ ": " ++ e.message)), t, [])

theorem Fleet.singleRounds (f : Fleet ρ σ) (hosts : List HostRecord) (s : σ) :
    f.SingleRounds hosts s where
  check := by
    have hwork : (fun _ host => checkTask (nameOf host)) = checking.task := by
      funext i host
      exact (task_checking i host).symm
    simp only [Fleet.check, hwork]
    exact f.visits_roundUnit checking hosts s
  exec := fun command => f.visits_round (running command) hosts s
  clean := by
    rw [← cleanCommand_eq]
    exact f.visits_roundUnit (commanding fun _ _ => _) hosts s
  start := ⟨agentIndex, fun _ _ => numbered_iff.mpr rfl,
    f.visits_roundUnit (commanding fun i host => startCommand f.agents i host) hosts s⟩
  download := by
    intro runPath runId t hcreated
    rw [← downloadSource_eq]
    have hplain : f.download hosts runPath runId s =
        f.roundUnit 0 hosts (fetching (downloadSource f.agents runId) runPath).task t := by
      simp only [Fleet.download, hcreated]
      rfl
    have hrecorded : f.recorded.download hosts runPath runId (s, []) =
        f.recorded.roundUnit 0 hosts (fetching (downloadSource f.agents runId) runPath).task
          (t, []) := by
      simp only [Fleet.download, recorded, Machine.beside, hcreated]
      rfl
    rw [hplain, hrecorded]
    exact f.visits_roundUnit _ hosts t
  download_refused := by
    intro runPath runId e t hrefused
    simp [Fleet.download, recorded, Machine.beside, hrefused]

/-- Checking, running a command, cleaning, starting and fetching make one call to every host that
can be reached, in every order of turns and whatever the hosts answer, and the result is one value
per host or else the list of the hosts that have none. Agents are started with the number of their
own field, or else of their place, and tools keep to the status of commands. -/
theorem operations_visit (f : Fleet ρ σ) (hosts : List HostRecord) (s : σ) :
    f.SingleRounds hosts s ∧ ∀ (m : Machine σ) tools, (Carrier.ofTools m tools).KeepsStatus :=
  ⟨f.singleRounds hosts s, keepsStatus_ofTools⟩

/-- A fleet that refuses every call, the one to the second host first. -/
def unpluggedFleet : Fleet Unit Unit where
  machine := Machine.answering fun _ => .error .notFound
  carrier := unplugged
  agents := {}
  turns := fun _ => [1, 0]

/-- A host without a number of its own. -/
def plainHost : HostRecord :=
  { publicIp := "10.0.0.1", sshUser := "simulator", sshOptions := "", agentPort := "9000" }

/-- Two hosts are started with the number of the first one's own field and the place of the second
one, in the order of turns, and the output of every run is fetched from all workers. -/
theorem operations_visit_numbered :
    let numbered := { plainHost with extra := [(.str "agent_index", .int 7)] }
    let started := (unpluggedFleet.recorded.start [numbered, plainHost] ((), [])).2.2
    let fetched := (unpluggedFleet.recorded.download [plainHost] "runs" "*" ((), [])).2.2
    started.map (fun entry => entry.2.call) =
        [.exec "hazelcast-simulator/bin/hidden/agent_start 2 10.0.0.1 9000" {},
          .exec "hazelcast-simulator/bin/hidden/agent_start 7 10.0.0.1 9000" {}] ∧
      (∃ (trace : Trace) (answer answer' : Except RemoteError ExecResult),
        List.Forall₂ (fun event entry => event.2 = entry.2) trace started ∧
        trace.of 0 =
          [⟨.exec "hazelcast-simulator/bin/hidden/agent_start 7 10.0.0.1 9000" {}, answer⟩] ∧
        trace.of 1 =
          [⟨.exec "hazelcast-simulator/bin/hidden/agent_start 2 10.0.0.1 9000" {}, answer'⟩]) ∧
      ∃ (trace : Trace) (answer : Except RemoteError Unit),
        List.Forall₂ (fun event entry => event.2 = entry.2) trace fetched ∧
        trace.of 0 =
          [⟨.copyFrom "hazelcast-simulator/workers/" "runs" (some "upload"), answer⟩] := by
  intro numbered started fetched
  obtain ⟨hrounds, -⟩ := operations_visit unpluggedFleet [numbered, plainHost] ()
  obtain ⟨number, hnumber, -, trace, hvisits⟩ := hrounds.start
  obtain ⟨hfetching, -⟩ := operations_visit unpluggedFleet [plainHost] ()
  obtain ⟨-, trace', hfetched⟩ := hfetching.download "runs" "*" () rfl
  obtain rfl : number = agentIndex := funext₂ fun i host => numbered_iff.mp (hnumber i host)
  refine ⟨by decide +kernel, ?start, ?download⟩
  case start =>
    obtain ⟨answer, hanswer⟩ := hvisits.one_call 0 numbered () rfl rfl
    obtain ⟨answer', hanswer'⟩ := hvisits.one_call 1 plainHost () rfl rfl
    exact ⟨trace, answer, answer', hvisits.recorded.imp fun _ _ h => h.1, hanswer, hanswer'⟩
  case download =>
    obtain ⟨answer, hanswer⟩ := hfetched.one_call 0 plainHost () rfl rfl
    exact ⟨trace', answer, hfetched.recorded.imp fun _ _ h => h.1, hanswer⟩

end AgentFleet
