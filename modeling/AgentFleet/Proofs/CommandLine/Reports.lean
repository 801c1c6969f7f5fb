import AgentFleet.CommandLine.Run
import AgentFleet.Proofs.Document.Equality
import AgentFleet.Proofs.Fleet.Errands
import AgentFleet.Proofs.Text.Lines

/-!
# Reports of a command on every host

Running a command on hosts starts one process for each of them that can be reached.
The report is made from what these processes have come to, and from nothing else:
when one of them could not be driven there is no output but a failure, and otherwise
there is one block for every host (`IsBlock`) in the order of the hosts, and the exit
status is zero when the status of every process is (`exec_reports_every_host`). The
processes run one after the other in some order of turns (`Carried`), which the report
does not show.
-/

namespace AgentFleet

open Fleet

variable {σ : Type}

/-! ### Processes that carry a command -/

/-- The processes that carry a command to hosts run one after the other, from a state to another one;
each is kept with the position of its host and what it comes to. -/
inductive Carried (m : Machine σ) (tools : Tools) (command : String) (hosts : List HostRecord) :
    σ → List (Nat × Launch) → σ → Prop
  /-- There is no process. -/
  | nil {s : σ} : Carried m tools command hosts s [] s
  /-- A process runs for a host that can be reached, and the rest run afterwards. -/
  | cons {s t u : σ} {i : Nat} {l : Launch} {launches : List (Nat × Launch)} {host : HostRecord}
      {remote : Remote} : hosts[i]? = some host → tools.remoteFor host = .ok remote →
      remote.carry m command s = (l, t) → Carried m tools command hosts t launches u →
      Carried m tools command hosts s ((i, l) :: launches) u

/-- What the processes for the host at a position have come to. -/
def launchesOf (launches : List (Nat × Launch)) (i : Nat) : List Launch :=
  (launches.filter fun launch => launch.1 == i).map Prod.snd

/-- One process has run for each host that can be reached, and none for another one. -/
structure OneEach (tools : Tools) (hosts : List HostRecord) (launches : List (Nat × Launch)) :
    Prop where
  one : ∀ i host remote, hosts[i]? = some host → tools.remoteFor host = .ok remote →
    ∃ l, launchesOf launches i = [l]
  none : ∀ i host e, hosts[i]? = some host → tools.remoteFor host = .error e →
    launchesOf launches i = []

/-- The processes have ended on all hosts, with these outcomes in the order of the hosts. -/
def Outcomes (hosts : List HostRecord) (launches : List (Nat × Launch)) (outcomes : List Outcome) :
    Prop :=
  (List.range hosts.length).map (launchesOf launches) = outcomes.map fun o => [.ended o]

/-- The answer to a command that may fail, by what its process has come to. -/
inductive Answers (command : String) : Exchange → Launch → Prop
  /-- The process has ended, and its status and output are the answer. -/
  | ended {o : Outcome} :
      Answers command ⟨.exec command { failOnError := false }, .ok ⟨o.status, o.text⟩⟩ (.ended o)
  /-- There was no process, and the answer is an error. -/
  | undriven {l : Launch} {e : RemoteError} : (∀ o, l ≠ .ended o) →
      Answers command ⟨.exec command { failOnError := false }, .error e⟩ l

theorem CommandEnds.answers {name program command : String} {l : Launch}
    {answer : Except RemoteError ExecResult}
    (h : CommandEnds name program command { failOnError := false } l answer) :
    Answers command ⟨.exec command { failOnError := false }, answer⟩ l := by
  cases h with
  | noProgram => exact .undriven (by simp)
  | refused => exact .undriven (by simp)
  | answered => exact .ended
  | failed _ hfail => cases hfail

section Carried

variable {m : Machine σ} {tools : Tools} {command : String} {hosts : List HostRecord}

/-- When every call of a trace runs the command, each of its exchanges is the answer of a process. -/
theorem Happens.exists_carried {s t : σ} {trace : Trace}
    (h : Happens (Carrier.ofTools m tools) hosts s trace t)
    (hcalls : ∀ event ∈ trace, event.2.call = .exec command { failOnError := false }) :
    ∃ launches, Carried m tools command hosts s launches t ∧
      List.Forall₂ (fun event launch => event.1 = launch.1 ∧ Answers command event.2 launch.2)
        trace launches := by
  induction h with
  | nil => exact ⟨[], .nil, .nil⟩
  | @cons s t u i e trace host remote hhost hremote hperform _ ih =>
    obtain ⟨hcall, hcalls⟩ := List.forall_mem_cons.mp hcalls
    obtain ⟨launches, hcarried, hanswers⟩ := ih hcalls
    obtain ⟨c, answer⟩ := e
    dsimp only at hcall hperform
    subst hcall
    have hexec : remote.exec m command { failOnError := false } s = (answer, t) := hperform
    have hends := Remote.commandEnds_exec remote m command { failOnError := false } s
    rw [hexec] at hends
    rw [remote.exec_eq] at hexec
    have hcarry : remote.carry m command s = ((remote.carry m command s).1, t) :=
      Prod.ext rfl (Prod.mk.inj hexec).2
    exact ⟨(i, _) :: launches, .cons hhost hremote hcarry hcarried, .cons ⟨rfl, hends.answers⟩ hanswers⟩

theorem forall₂_launchesOf {trace : Trace} {launches : List (Nat × Launch)}
    (h : List.Forall₂ (fun event launch => event.1 = launch.1 ∧ Answers command event.2 launch.2)
      trace launches) (i : Nat) :
    List.Forall₂ (Answers command) (trace.of i) (launchesOf launches i) := by
  unfold Trace.of launchesOf
  induction h with
  | nil => exact .nil
  | @cons event launch trace launches hanswer _ ih =>
    obtain ⟨hposition, hanswer⟩ := hanswer
    by_cases hi : launch.1 = i
    · simpa [hposition, hi, hanswer] using ih
    · simpa [hposition, hi] using ih

/-- What is kept for a host whose process has ended. -/
def resultOf (host : HostRecord) (o : Outcome) : HostRecord × ExecResult :=
  (host, ⟨o.status, o.text⟩)

/-- The result for a host, by what the processes for it have come to. -/
inductive ResultFrom (host : HostRecord) :
    List Launch → Except TaskFailure (HostRecord × ExecResult) → Prop
  /-- A process has ended, and its status and output are kept. -/
  | ended {o : Outcome} : ResultFrom host [.ended o] (.ok (resultOf host o))
  /-- There was no process, and the result is an error. -/
  | undriven {launches : List Launch} {e : TaskFailure} : (∀ o, launches ≠ [.ended o]) →
      ResultFrom host launches (.error e)

/-- The results for all hosts come from the processes. -/
def ResultsFrom (hosts : List HostRecord) (launches : List (Nat × Launch))
    (results : List (Except TaskFailure (HostRecord × ExecResult))) : Prop :=
  ∀ i host result, hosts[i]? = some host → results[i]? = some result →
    ResultFrom host (launchesOf launches i) result

theorem resultFrom_of_ends {remoteFor : HostRecord → Except FleetError Remote} {i : Nat}
    {host : HostRecord} {exchanges : List Exchange}
    {result : Except TaskFailure (HostRecord × ExecResult)} {launches : List Launch}
    (h : (running command).Ends remoteFor i host exchanges result)
    (hanswers : List.Forall₂ (Answers command) exchanges launches) :
    ResultFrom host launches result := by
  cases h with
  | unreached =>
    cases hanswers
    exact .undriven (by simp)
  | refused =>
    obtain _ | ⟨hanswer, ⟨⟩⟩ := hanswers
    cases hanswer with
    | undriven hundriven => exact .undriven (by simpa using hundriven)
  | failed _ hverdict => cases hverdict
  | done _ hverdict =>
    obtain _ | ⟨⟨⟩, ⟨⟩⟩ := hanswers
    cases hverdict
    exact .ended

/-- A recorded round of the command has carried it: every host that can be reached has had one process,
and what this has come to decides the result for the host. -/
theorem exists_carried_of_completes {log : RoundLog (HostRecord × ExecResult)} {s t : σ}
    (hhappens : Happens (Carrier.ofTools m tools) hosts s log.trace t)
    (hcompletes : log.Completes (Carrier.ofTools m tools) hosts (running command).task) :
    ∃ launches, Carried m tools command hosts s launches t ∧
      OneEach tools hosts launches ∧ ResultsFrom hosts launches log.results := by
  have hresults := Errand.results_of_completes hcompletes
  have hcalls : ∀ event ∈ log.trace, event.2.call = .exec command { failOnError := false } := by
    rintro ⟨i, e⟩ hmem
    obtain ⟨host, hhost⟩ := hhappens.exists_host hmem
    obtain ⟨result, hends⟩ := hresults.exists_ends hhost
    exact hends.call_eq e (Trace.mem_of_iff.mpr hmem)
  obtain ⟨launches, hcarried, hanswers⟩ := hhappens.exists_carried hcalls
  have hof := forall₂_launchesOf hanswers
  refine ⟨launches, hcarried, ⟨fun i host remote hhost hremote => ?_,
    fun i host e hhost hremote => ?_⟩, fun i host result hhost hresult => ?_⟩
  · obtain ⟨result, hends⟩ := hresults.exists_ends hhost
    obtain ⟨answer, hone⟩ := hends.exists_answer hremote
    have hi := hof i
    rw [hone] at hi
    obtain ⟨l, rest, -, hrest, hlaunches⟩ := List.forall₂_cons_left_iff.mp hi
    obtain rfl := List.forall₂_nil_left_iff.mp hrest
    exact ⟨l, hlaunches⟩
  · obtain ⟨result, hends⟩ := hresults.exists_ends hhost
    have hi := hof i
    rw [hends.eq_nil hremote] at hi
    exact List.forall₂_nil_left_iff.mp hi
  · exact resultFrom_of_ends (hresults.ends i host result hhost hresult) (hof i)

end Carried

/-! ### What is printed -/

/-- The line that is printed for a host: its address and the status of its process. -/
def statusLine (host : HostRecord) (o : Outcome) : String :=
  "==> " ++ host.publicIp ++ " (exit " ++ toString o.status ++ ")\n"

/-- What is printed for a host whose process has ended. -/
inductive IsBlock (host : HostRecord) (o : Outcome) : String → Prop
  /-- The process has written nothing. -/
  | silent : o.text = "" → IsBlock host o (statusLine host o)
  /-- What it has written is printed without the blanks at its end, and then a line break. -/
  | spoken {kept : String} {blanks : List Char} : o.text ≠ "" →
      o.text.toList = kept.toList ++ blanks → (∀ c ∈ blanks, Text.isBlank c = true) →
      (∀ c ∈ kept.toList.getLast?, Text.isBlank c = false) →
      IsBlock host o (statusLine host o ++ kept ++ "\n")

namespace CommandLine

open Report

theorem isBlock_hostBlock (host : HostRecord) (o : Outcome) :
    IsBlock host o (hostBlock host ⟨o.status, o.text⟩) := by
  unfold hostBlock
  dsimp only
  by_cases htext : o.text = ""
  · rw [if_pos (String.isEmpty_iff.mpr htext), String.append_empty]
    exact .silent htext
  · have hempty : ¬ o.text.isEmpty = true := fun h => htext (String.isEmpty_iff.mp h)
    obtain ⟨blanks, hsplit, hblanks, hlast⟩ := Text.exists_toList_eq_trimEnd_append o.text
    rw [if_neg hempty, ← String.append_assoc]
    exact .spoken htext hsplit hblanks hlast

/-- The results of processes that have ended are printed one block after the other, and the exit status
is zero when every process has exited with zero. -/
theorem ofExec_results {hosts : List HostRecord} {outcomes : List Outcome}
    (hlen : outcomes.length = hosts.length) :
    let report := ofExec (.ok ((hosts.zip outcomes).map fun p => resultOf p.1 p.2))
    (∃ blocks, List.Forall₂ (fun p block => IsBlock p.1 p.2 block) (hosts.zip outcomes) blocks ∧
        report.output = String.join blocks) ∧
      report.status = if ∀ o ∈ outcomes, o.ending = .exited 0 then 0 else 1 := by
  intro report
  refine ⟨⟨_, ?_, congrArg String.join (List.map_map ..)⟩, ?_⟩
  · rw [List.forall₂_map_right_iff, List.forall₂_same]
    exact fun p _ => isBlock_hostBlock p.1 p.2
  · have hpairs : (∀ o ∈ (hosts.zip outcomes).map Prod.snd, o.ending = .exited 0) ↔
        ∀ p ∈ hosts.zip outcomes, p.2.ending = .exited 0 := List.forall_mem_map
    rw [List.map_snd_zip hlen.le] at hpairs
    have hall : (((hosts.zip outcomes).map fun p => resultOf p.1 p.2).all fun r => r.2.success) =
        true ↔ ∀ o ∈ outcomes, o.ending = .exited 0 := by
      simp [hpairs, resultOf, ExecResult.success, status_eq_zero_iff]
    simp only [report, ofExec, hall]

end CommandLine

/-- What the report of a command says of the processes that have carried it. -/
structure ReportContract (hosts : List HostRecord) (launches : List (Nat × Launch))
    (report : CommandLine.Report) : Prop where
  /-- When some host has no process that has ended, nothing is printed and the program fails. -/
  undriven : (∃ i < hosts.length, ∀ o, launchesOf launches i ≠ [.ended o]) →
    report.output = "" ∧ report.status = 1
  /-- Otherwise there is one block for every host, in the order of the hosts, and the exit status is
  zero when every process has exited with zero. -/
  driven : (∀ i < hosts.length, ∃ o, launchesOf launches i = [.ended o]) →
    ∃ outcomes blocks, Outcomes hosts launches outcomes ∧
      List.Forall₂ (fun p block => IsBlock p.1 p.2 block) (hosts.zip outcomes) blocks ∧
      report.output = String.join blocks ∧
      report.status = if ∀ o ∈ outcomes, o.ending = .exited 0 then 0 else 1

section Results

variable {hosts : List HostRecord} {launches : List (Nat × Launch)}
  {results : List (Except TaskFailure (HostRecord × ExecResult))}

theorem Outcomes.length_eq {outcomes : List Outcome} (h : Outcomes hosts launches outcomes) :
    outcomes.length = hosts.length := by
  simpa using (congrArg List.length h).symm

theorem exists_outcomes (h : ∀ i < hosts.length, ∃ o, launchesOf launches i = [.ended o]) :
    ∃ outcomes, Outcomes hosts launches outcomes := by
  have hrange : (List.range hosts.length).map (launchesOf launches) ∈
      Set.range (List.map fun o : Outcome => [Launch.ended o]) := by
    rw [Set.range_list_map]
    intro l hl
    obtain ⟨i, hi, rfl⟩ := List.mem_map.mp hl
    obtain ⟨o, ho⟩ := h i (List.mem_range.mp hi)
    exact ⟨o, ho.symm⟩
  obtain ⟨outcomes, houtcomes⟩ := hrange
  exact ⟨outcomes, houtcomes.symm⟩

/-- The results of a command are those of the processes that have ended. -/
theorem ResultsFrom.eq_of_outcomes (h : ResultsFrom hosts launches results)
    (hlen : results.length = hosts.length) {outcomes : List Outcome}
    (houtcomes : Outcomes hosts launches outcomes) :
    results = ((hosts.zip outcomes).map fun p => resultOf p.1 p.2).map .ok := by
  have hlen' := houtcomes.length_eq
  refine List.ext_getElem (by simp [hlen, hlen']) fun i hi _ => ?_
  have hhost : i < hosts.length := hlen ▸ hi
  have houtcome : i < outcomes.length := hlen' ▸ hhost
  have hended : launchesOf launches i = [.ended outcomes[i]] := by
    simpa [hhost, houtcome] using congrArg (fun l => l[i]?) houtcomes
  have hfrom := h i _ _ (List.getElem?_eq_getElem hhost) (List.getElem?_eq_getElem hi)
  rw [hended] at hfrom
  generalize results[i] = result at hfrom ⊢
  cases hfrom with
  | ended => simp
  | undriven hnot => exact absurd rfl (hnot _)

/-- A host without a process that has ended fails the round. -/
theorem ResultsFrom.exists_collect_eq_error (h : ResultsFrom hosts launches results)
    (hlen : results.length = hosts.length)
    (hundriven : ∃ i < hosts.length, ∀ o, launchesOf launches i ≠ [.ended o]) :
    ∃ failure, collect hosts results = .error failure := by
  obtain ⟨i, hi, hnot⟩ := hundriven
  cases hcollect : collect hosts results with
  | error failure => exact ⟨failure, rfl⟩
  | ok values =>
    have hi' : i < results.length := hlen.symm ▸ hi
    have hvalues := (collect_eq_ok_iff hlen).mp hcollect
    have hfrom := h i _ _ (List.getElem?_eq_getElem hi) (List.getElem?_eq_getElem hi')
    generalize hlaunches : launchesOf launches i = l, hresult : results[i] = result at hfrom
    cases hfrom with
    | ended => exact absurd hlaunches (hnot _)
    | undriven => simp [hvalues] at hresult

/-- The report of the results contains what the processes have come to. -/
theorem ResultsFrom.reportContract (h : ResultsFrom hosts launches results)
    (hlen : results.length = hosts.length) :
    ReportContract hosts launches
      (CommandLine.Report.ofExec ((collect hosts results).mapError FleetError.round)) where
  undriven hundriven := by
    obtain ⟨failure, hcollect⟩ := h.exists_collect_eq_error hlen hundriven
    rw [hcollect]
    exact ⟨rfl, rfl⟩
  driven hdriven := by
    obtain ⟨outcomes, houtcomes⟩ := exists_outcomes hdriven
    have hcollect : collect hosts results = .ok ((hosts.zip outcomes).map fun p => resultOf p.1 p.2) :=
      (collect_eq_ok_iff hlen).mpr (h.eq_of_outcomes hlen houtcomes)
    obtain ⟨⟨blocks, hblocks, houtput⟩, hstatus⟩ := CommandLine.ofExec_results houtcomes.length_eq
    rw [hcollect]
    exact ⟨outcomes, blocks, houtcomes, hblocks, houtput, hstatus⟩

end Results

/-! ### Command lines -/

/-- The arguments of the program are a request for a command on hosts, and selecting these leaves the
machine in some state. -/
structure AsksFor (m : Machine σ) (arguments : List String) (s₀ : σ) (r : CommandLine.Request)
    (settings : Settings) (command : String) (hosts : List HostRecord) (s : σ) : Prop where
  /-- The arguments can be read. -/
  read : CommandLine.Request.ofArguments? arguments = some r
  /-- They ask for the command. -/
  asked : r.command = .exec command
  /-- The settings are loaded. -/
  settled : CommandLine.settingsOf m r s₀ = .ok settings
  /-- The hosts are selected. -/
  selected : loadInventory m settings.inventory settings.hosts r.inventoryPath r.pattern s₀ =
    (.ok hosts, s)

/-- The fleet of hosts that are reached by tools. -/
def Fleet.ofTools (m : Machine σ) (tools : Tools) (agents : AgentSettings)
    (turns : Nat → Turns := fun _ => []) : Fleet Remote σ :=
  { machine := m, carrier := Carrier.ofTools m tools, agents := agents, turns := turns }

theorem AsksFor.run_eq {m : Machine σ} {arguments : List String} {s₀ s : σ}
    {r : CommandLine.Request} {settings : Settings} {command : String} {hosts : List HostRecord}
    (h : AsksFor m arguments s₀ r settings command hosts s) :
    CommandLine.run m arguments s₀ =
      CommandLine.runCommand (Fleet.ofTools m settings.tools settings.agents) (.exec command) hosts s := by
  simp only [CommandLine.run, h.read, h.settled, CommandLine.runRequest, h.selected, h.asked]
  rfl

/-- Running a command reports every host. In every order of turns one process runs for each host that
can be reached, and none for another one. When there is a host without a process that has ended, no
block is printed and the program fails; otherwise the blocks of all hosts are printed in their order,
and the exit status is zero when every process has exited with zero. The program does so with the
hosts that its command line selects. -/
theorem exec_reports_every_host (m : Machine σ) (command : String) (hosts : List HostRecord) (s : σ) :
    (∀ tools agents turns,
      let run := CommandLine.runCommand (Fleet.ofTools m tools agents turns) (.exec command) hosts s
      ∃ launches, Carried m tools command hosts s launches run.2 ∧ OneEach tools hosts launches ∧
        ReportContract hosts launches run.1) ∧
    ∀ arguments s₀ r settings, AsksFor m arguments s₀ r settings command hosts s →
      CommandLine.run m arguments s₀ = CommandLine.runCommand
        (Fleet.ofTools m settings.tools settings.agents) (.exec command) hosts s := by
  refine ⟨fun tools agents turns => ?_, fun arguments s₀ r settings h => h.run_eq⟩
  obtain ⟨log, hhappens, hcompletes, hround⟩ := exists_completes_runRound (Carrier.ofTools m tools)
    (turns 0) hosts (running command).task s
  obtain ⟨launches, hcarried, hone, hresults⟩ := exists_carried_of_completes hhappens hcompletes
  refine ⟨launches, hcarried, hone, ?_⟩
  have hcontract := hresults.reportContract hcompletes.length
  rw [← hround] at hcontract
  exact hcontract

/-- A machine with an inventory of two hosts, on which the process for the second one is killed. -/
def killingMachine : Machine Unit :=
  { Machine.answering fun i =>
      if "simulator@b" ∈ i.arguments then .ok { ending := .signaled }
      else .ok { ending := .exited 0, stdout := Text.encode "up\n\n" } with
    readFile := fun path _ =>
      if path == "inventory.yaml" then .ok (Text.encode "hosts: [a, b]") else .error .notFound
    pathExists := fun path _ => path == "inventory.yaml" }

/-- The process that is killed has a block of its own, and it fails the program. -/
theorem exec_reports_every_host_killed :
    (CommandLine.run killingMachine ["exec", "all", "uptime"] ()).1 =
      { status := 1, output := "==> a (exit 0)\nup\n==> b (exit -1)\n" } := by
  let record : HostRecord :=
    { publicIp := "a", sshUser := "simulator", sshOptions := ({} : HostDefaults).sshOptions,
      agentPort := "9000" }
  have hasks : AsksFor killingMachine ["exec", "all", "uptime"] ()
      ⟨none, none, none, .parse "all", .exec "uptime"⟩ {} "uptime"
      [record, { record with publicIp := "b" }] () :=
    { read := by decide +kernel
      asked := rfl
      settled := by decide +kernel
      selected := Prod.ext (by decide +kernel) rfl }
  rw [(exec_reports_every_host killingMachine "uptime" _ ()).2 _ _ _ _ hasks]
  decide +kernel

end AgentFleet
