import AgentFleet.Proofs.Fleet.Rounds
import AgentFleet.Proofs.Machine.Launch
import AgentFleet.Proofs.Fleet.Tasks

/-!
# Preparing a run

The rounds that prepare a run are barriers, in every order of turns and whatever
the hosts answer (`prepareRun_barriers`). Nothing is uploaded before the directory
has been recreated on all hosts, nothing is probed before the uploads have
succeeded on all of them, and a round in which a host fails is still finished by
the others. Each fact is read off the sequence of the rounds
(`exists_rounds_prepareRun`), which knows the work of every round.
-/

namespace AgentFleet

open Fleet

variable {ρ σ : Type} {carrier : Carrier ρ σ} {hosts : List HostRecord} {host : HostRecord}

/-! ### The sequence of rounds -/

/-- The call that removes and recreates a directory. -/
def recreating (directory : String) : Call :=
  .exec ("rm -fr " ++ directory ++ "\nmkdir -p " ++ directory) {}

/-- What the rounds of preparing a run do, with or without an upload. -/
def preparing (directory uploadDirectory : String) (uploads : Bool) : List RoundWork :=
  [fun _ _ => .attempt (recreating directory) fun _ => .done (.ok ())] ++
    (if uploads then [fun _ _ => uploadTask uploadDirectory directory] else []) ++
    [fun i host => measureTask (measurementFile directory i host) ["dstat", "pcp-dstat"]]

/-- A run is prepared in rounds, and the upload is decided on when the first of them is over. -/
theorem exists_rounds_prepareRun (f : Fleet ρ σ) (hosts : List HostRecord)
    (uploadDirectory runId : String) (s : σ) :
    let run := f.prepareRun hosts uploadDirectory runId s
    ∃ first later s₁ uploads, Happens f.carrier hosts s (RoundLog.trace first) s₁ ∧
      Happens f.carrier hosts s₁ (later.flatMap RoundLog.trace) run.2 ∧
      (uploads = true ↔ first.Succeeds ∧ f.machine.pathExists uploadDirectory s₁ = true) ∧
      Rounds f.carrier hosts (preparing (f.agents.runDirectory runId) uploadDirectory uploads) s
        (first :: later) run.1 run.2 := by
  intro run
  obtain ⟨first, s₁, hfirst, hcompletes, ⟨hsucceeds, hround⟩ | ⟨hfails, hround⟩⟩ :=
    f.exists_log_roundUnit 0 hosts
      (fun _ _ => commandTask (recreateCommand (f.agents.runDirectory runId))) s
  case inr =>
    have hrun : run = (.error (.round ⟨failures hosts first.results, hosts.length⟩), s₁) := by
      simp only [run, prepareRun, hround]
    rw [hrun]
    exact ⟨first, [], s₁, false, hfirst, .nil, by simp [hfails], .failed hfirst hcompletes hfails⟩
  case inl =>
    let measuring : RoundWork := fun i host =>
      measureTask (measurementFile (f.agents.runDirectory runId) i host) measuringPrograms
    -- what is left to do is a sequence of rounds after the first one
    suffices hlater : ∃ later uploads,
        (uploads = true ↔ first.Succeeds ∧ f.machine.pathExists uploadDirectory s₁ = true) ∧
        Rounds f.carrier hosts
          (preparing (f.agents.runDirectory runId) uploadDirectory uploads).tail s₁ later
          run.1 run.2 by
      obtain ⟨later, uploads, huploads, hrounds⟩ := hlater
      exact ⟨first, later, s₁, uploads, hfirst, hrounds.happens, huploads,
        .passed hfirst hcompletes hsucceeds hrounds⟩
    cases hexists : f.machine.pathExists uploadDirectory s₁ with
    | false =>
      have hrun : run = f.roundUnit 2 hosts measuring s₁ := by
        simp only [run, prepareRun, hround, hexists, Bool.false_eq_true, if_false, measuring]
      obtain ⟨last, hlast⟩ := f.exists_rounds_roundUnit 2 hosts measuring s₁
      rw [hrun]
      exact ⟨[last], false, by simp, hlast⟩
    | true =>
      obtain ⟨second, s₂, hsecond, hcompletes₂, ⟨hsucceeds₂, hround₂⟩ | ⟨hfails₂, hround₂⟩⟩ :=
        f.exists_log_roundUnit 1 hosts
          (fun _ _ => uploadTask uploadDirectory (f.agents.runDirectory runId)) s₁
      · have hrun : run = f.roundUnit 2 hosts measuring s₂ := by
          simp only [run, prepareRun, hround, hexists, if_true, hround₂, measuring]
        obtain ⟨last, hlast⟩ := f.exists_rounds_roundUnit 2 hosts measuring s₂
        rw [hrun]
        exact ⟨[second, last], true, by simp [hsucceeds],
          .passed hsecond hcompletes₂ hsucceeds₂ hlast⟩
      · have hrun : run =
            (.error (.round ⟨failures hosts second.results, hosts.length⟩), s₂) := by
          simp only [run, prepareRun, hround, hexists, if_true, hround₂]
        rw [hrun]
        exact ⟨[second], true, by simp [hsucceeds], .failed hsecond hcompletes₂ hfails₂⟩

/-! ### Barriers -/

/-- A host has answered a call without an error. -/
def Succeeded (c : Call) (exchanges : List Exchange) : Prop :=
  ∃ a, (⟨c, .ok a⟩ : Exchange) ∈ exchanges

/-- The uploads among some exchanges. -/
def uploadsOf (exchanges : List Exchange) : List Exchange :=
  exchanges.filter fun e => e.call.isUpload

theorem uploadsOf_append (exchanges more : List Exchange) :
    uploadsOf (exchanges ++ more) = uploadsOf exchanges ++ uploadsOf more :=
  List.filter_append ..

section Rounds

variable {directory uploadDirectory : String} {uploads : Bool} {s t : σ}
  {logs : List (RoundLog Unit)} {result : Except FleetError Unit} {i j : Nat}

/-- Before any other call the directory has been recreated on every host. -/
theorem Rounds.recreated
    (h : Rounds carrier hosts (preparing directory uploadDirectory uploads) s logs result t)
    {before after : Trace} {e : Exchange}
    (htrace : logs.flatMap RoundLog.trace = before ++ (i, e) :: after)
    (he : e.call ≠ recreating directory) (hhost : hosts[j]? = some host) :
    Succeeded (recreating directory) (before.of j) := by
  obtain ⟨n, work, host', exchanges, outcome, hwork, -, hserves, hmem, hearlier⟩ := h.barrier htrace
  cases n with
  | zero =>
    obtain rfl := Option.some.inj hwork
    exact absurd ((asks_single _).call_of_serves hserves e hmem) he
  | succ n =>
    obtain ⟨earlier, _, hserves', hsub⟩ := hearlier 0 (Nat.succ_pos n) _ rfl j host hhost
    obtain ⟨a, rfl⟩ := serves_single_ok hserves'
    exact ⟨a, hsub (List.mem_singleton_self _)⟩

/-- Before any probe the upload has succeeded on every host. -/
theorem Rounds.uploaded
    (h : Rounds carrier hosts (preparing directory uploadDirectory true) s logs result t)
    {before after : Trace} {e : Exchange}
    (htrace : logs.flatMap RoundLog.trace = before ++ (i, e) :: after)
    (he : e.call.isProbe = true) (hhost : hosts[j]? = some host) :
    Succeeded (.copyTo uploadDirectory directory) (before.of j) := by
  obtain ⟨n, work, host', exchanges, outcome, hwork, -, hserves, hmem, hearlier⟩ := h.barrier htrace
  match n with
  | 0 =>
    obtain rfl := Option.some.inj hwork
    rw [(asks_single _).call_of_serves hserves e hmem] at he
    cases he
  | 1 =>
    obtain rfl := Option.some.inj hwork
    rw [(asks_single _).call_of_serves hserves e hmem] at he
    cases he
  | n + 2 =>
    obtain ⟨earlier, _, hserves', hsub⟩ := hearlier 1 (by omega) _ rfl j host hhost
    obtain ⟨a, rfl⟩ := serves_single_ok hserves'
    exact ⟨a, hsub (List.mem_singleton_self _)⟩

theorem RoundLog.Completes.uploadsOf_eq_nil {log : RoundLog Unit} {work : RoundWork}
    (h : log.Completes carrier hosts work) (hhost : hosts[i]? = some host)
    (hasks : (work i host).Asks fun c => c.isUpload = false) : uploadsOf (log.trace.of i) = [] := by
  obtain ⟨result, -, hserves⟩ := h.exists_serves hhost
  rw [uploadsOf, List.filter_eq_nil_iff]
  intro e he
  rw [hasks.call_of_serves hserves e he]
  exact Bool.false_ne_true

/-- Rounds without uploads upload nothing. -/
theorem Rounds.uploadsOf_eq_nil {works : List RoundWork}
    (h : Rounds carrier hosts works s logs result t) (hhost : hosts[i]? = some host)
    (hworks : ∀ work ∈ works, (work i host).Asks fun c => c.isUpload = false) :
    uploadsOf (Trace.of (logs.flatMap RoundLog.trace) i) = [] := by
  induction h with
  | nil => rfl
  | passed _ hcompletes _ _ ih =>
    obtain ⟨hwork, hworks⟩ := List.forall_mem_cons.mp hworks
    rw [List.flatMap_cons, Trace.of_append, uploadsOf_append,
      hcompletes.uploadsOf_eq_nil hhost hwork, ih hworks]
    rfl
  | failed _ hcompletes =>
    rw [List.flatMap_cons, List.flatMap_nil, List.append_nil]
    exact hcompletes.uploadsOf_eq_nil hhost (hworks _ List.mem_cons_self)

theorem asks_preparing {work : RoundWork} (h : work ∈ preparing directory uploadDirectory uploads)
    (i : Nat) (host : HostRecord) : ∃ P, (work i host).Asks P := by
  cases uploads with
  | false =>
    rcases h with _ | ⟨_, _ | ⟨_, ⟨⟩⟩⟩
    · exact ⟨_, asks_single _⟩
    · exact ⟨_, asks_measureTask _ _⟩
  | true =>
    rcases h with _ | ⟨_, _ | ⟨_, _ | ⟨_, ⟨⟩⟩⟩⟩
    · exact ⟨_, asks_single _⟩
    · exact ⟨_, asks_single _⟩
    · exact ⟨_, asks_measureTask _ _⟩

theorem asks_recreating (directory : String) :
    (HostTask.attempt (recreating directory) fun _ => .done (.ok ())).Asks fun c =>
      c.isUpload = false :=
  (asks_single _).imp fun _ hc => hc ▸ rfl

/-- Without the round of uploads no host receives any. -/
theorem Rounds.uploadsOf_of_not_uploads
    (h : Rounds carrier hosts (preparing directory uploadDirectory false) s logs result t)
    (hhost : hosts[i]? = some host) :
    uploadsOf (Trace.of (logs.flatMap RoundLog.trace) i) = [] := by
  refine h.uploadsOf_eq_nil hhost fun work hwork => ?_
  rcases hwork with _ | ⟨_, _ | ⟨_, ⟨⟩⟩⟩
  · exact asks_recreating _
  · exact asks_measureTask _ _

/-- With the round of uploads every host receives one, unless the first round has failed. -/
theorem Rounds.uploadsOf_of_uploads {first : RoundLog Unit}
    (h : Rounds carrier hosts (preparing directory uploadDirectory true) s (first :: logs) result t)
    (hfirst : first.Succeeds) (hhost : hosts[i]? = some host) :
    ∃ answer, uploadsOf (Trace.of ((first :: logs).flatMap RoundLog.trace) i) =
      [⟨.copyTo uploadDirectory directory, answer⟩] := by
  have hone : ∀ second : RoundLog Unit,
      first.Completes carrier hosts
        (fun _ _ => .attempt (recreating directory) fun _ => .done (.ok ())) →
      second.Completes carrier hosts (fun _ _ => uploadTask uploadDirectory directory) →
      ∃ answer, uploadsOf (first.trace.of i ++ second.trace.of i) =
        [⟨.copyTo uploadDirectory directory, answer⟩] := by
    intro second hcompletes hcompletes'
    obtain ⟨a, hserved⟩ := hcompletes.serves_of_succeeds hfirst hhost
    obtain ⟨remote, hremote⟩ := hserved.exists_remote
    obtain ⟨outcome, -, hserves⟩ := hcompletes'.exists_serves hhost
    obtain ⟨answer, hanswer⟩ := serves_single hremote hserves
    refine ⟨answer, ?_⟩
    rw [uploadsOf_append, hcompletes.uploadsOf_eq_nil hhost (asks_recreating _), hanswer]
    rfl
  cases h with
  | failed _ _ hfails => exact absurd hfirst hfails
  | passed _ hcompletes _ hlater =>
    cases hlater with
    | @failed _ _ _ _ second _ hcompletes' _ =>
      obtain ⟨answer, hanswer⟩ := hone second hcompletes hcompletes'
      exact ⟨answer, by simpa using hanswer⟩
    | @passed _ _ _ _ _ second rest _ _ hcompletes' _ hlast =>
      obtain ⟨answer, hanswer⟩ := hone second hcompletes hcompletes'
      refine ⟨answer, ?_⟩
      rw [List.flatMap_cons, List.flatMap_cons, Trace.of_append, Trace.of_append,
        ← List.append_assoc, uploadsOf_append, hanswer, hlast.uploadsOf_eq_nil hhost,
        List.append_nil]
      exact List.forall_mem_singleton.mpr (asks_measureTask _ _)

/-- What a host is asked when the run has been prepared. -/
theorem Rounds.trace_of_ok
    (h : Rounds carrier hosts (preparing directory uploadDirectory uploads) s logs (.ok ()) t)
    (hhost : hosts[i]? = some host) :
    ∃ number recreated measuring, Numbered i host number ∧
      Measures (directory ++ "/A" ++ number ++ "_dstat.csv") measuring ∧
      Trace.of (logs.flatMap RoundLog.trace) i =
        ⟨recreating directory, .ok recreated⟩ ::
          ((if uploads then [⟨.copyTo uploadDirectory directory, .ok ()⟩] else []) ++
            measuring) := by
  have hserves : ∀ {work : RoundWork} {log : RoundLog Unit},
      log.Completes carrier hosts work ∧ log.Succeeds →
      Serves carrier host (work i host) (log.trace.of i) (.ok ()) := by
    intro work log hlog
    obtain ⟨_, hserves⟩ := hlog.1.serves_of_succeeds hlog.2 hhost
    exact hserves
  have hall := h.of_ok
  cases uploads with
  | false =>
    obtain _ | ⟨hfirst, _ | ⟨hlast, ⟨⟩⟩⟩ := hall
    obtain ⟨recreated, hrecreated⟩ := serves_single_ok (hserves hfirst)
    refine ⟨_, recreated, _, numbered_iff.mpr rfl,
      measures_of_measured (serves_measureTask_ok (hserves hlast)), ?_⟩
    simp [hrecreated]
  | true =>
    obtain _ | ⟨hfirst, _ | ⟨hsecond, _ | ⟨hlast, ⟨⟩⟩⟩⟩ := hall
    obtain ⟨recreated, hrecreated⟩ := serves_single_ok (hserves hfirst)
    obtain ⟨_, huploaded⟩ := serves_single_ok (hserves hsecond)
    refine ⟨_, recreated, _, numbered_iff.mpr rfl,
      measures_of_measured (serves_measureTask_ok (hserves hlast)), ?_⟩
    simp [hrecreated, huploaded]

end Rounds

/-- What the rounds that prepare a run have in common in every order of turns, whatever the hosts
have answered. -/
structure Barriers (carrier : Carrier ρ σ) (hosts : List HostRecord)
    (directory uploadDirectory : String) (uploads : Bool) (logs : List (RoundLog Unit))
    (result : Except FleetError Unit) : Prop where
  /-- Before an upload the directory has been recreated on every host. -/
  recreated_before_upload : ∀ before i e after,
    logs.flatMap RoundLog.trace = before ++ (i, e) :: after → e.call.isUpload = true →
    ∀ j < hosts.length, Succeeded (recreating directory) (Trace.of before j)
  /-- Before a probe the directory has been recreated on every host. -/
  recreated_before_probe : ∀ before i e after,
    logs.flatMap RoundLog.trace = before ++ (i, e) :: after → e.call.isProbe = true →
    ∀ j < hosts.length, Succeeded (recreating directory) (Trace.of before j)
  /-- Before a probe the upload, if there is one, has succeeded on every host. -/
  uploaded_before_probe : ∀ before i e after,
    logs.flatMap RoundLog.trace = before ++ (i, e) :: after → e.call.isProbe = true →
    uploads = true → ∀ j < hosts.length,
      Succeeded (.copyTo uploadDirectory directory) (Trace.of before j)
  /-- Either every host receives one upload or none does. -/
  uploads_all_or_none : ∀ i < hosts.length,
    if uploads then
      ∃ answer, uploadsOf (Trace.of (logs.flatMap RoundLog.trace) i) =
        [⟨.copyTo uploadDirectory directory, answer⟩]
    else uploadsOf (Trace.of (logs.flatMap RoundLog.trace) i) = []
  /-- In every round that has begun all hosts have finished their work for it. -/
  completes : ∀ (k : Nat) (log : RoundLog Unit), logs[k]? = some log → ∃ work,
    (preparing directory uploadDirectory uploads)[k]? = some work ∧ log.Completes carrier hosts work
  /-- The work for a host has failed only because it has no remote or has refused a call. -/
  failedBy : ∀ log ∈ logs, ∀ i host failure, hosts[i]? = some host →
    log.results[i]? = some (.error failure) → FailedBy carrier host (log.trace.of i) failure
  /-- After a round in which a host has failed there is no other one, and the error lists the hosts
  that have failed in this round. -/
  last_of_not_succeeds : ∀ before (log : RoundLog Unit) after, logs = before ++ log :: after →
    ¬ log.Succeeds →
    after = [] ∧ result = .error (.round ⟨failures hosts log.results, hosts.length⟩)
  /-- The operation succeeds when every round has succeeded. -/
  eq_ok_iff : result = .ok () ↔ ∀ log ∈ logs, log.Succeeds
  /-- When the operation succeeds, this is what each host has been asked: to recreate the directory,
  to take the upload, if there is one, and to measure into a file with its own number. -/
  trace_of_ok : result = .ok () → ∀ i host, hosts[i]? = some host →
    ∃ number recreated measuring, Numbered i host number ∧
      Measures (directory ++ "/A" ++ number ++ "_dstat.csv") measuring ∧
      Trace.of (logs.flatMap RoundLog.trace) i =
        ⟨recreating directory, .ok recreated⟩ ::
          ((if uploads then [⟨.copyTo uploadDirectory directory, .ok ()⟩] else []) ++
            measuring)

theorem Rounds.barriers {directory uploadDirectory : String} {uploads : Bool} {s t : σ}
    {first : RoundLog Unit} {later : List (RoundLog Unit)} {result : Except FleetError Unit}
    (h : Rounds carrier hosts (preparing directory uploadDirectory uploads) s (first :: later)
      result t)
    (hfirst : uploads = true → first.Succeeds) :
    Barriers carrier hosts directory uploadDirectory uploads (first :: later) result where
  recreated_before_upload := by
    intro before i e after htrace hupload j hj
    refine h.recreated htrace (fun hcall => ?_) (List.getElem?_eq_getElem hj)
    rw [hcall] at hupload
    cases hupload
  recreated_before_probe := by
    intro before i e after htrace hprobe j hj
    refine h.recreated htrace (fun hcall => ?_) (List.getElem?_eq_getElem hj)
    rw [hcall] at hprobe
    cases hprobe
  uploaded_before_probe := by
    rintro before i e after htrace hprobe rfl j hj
    exact h.uploaded htrace hprobe (List.getElem?_eq_getElem hj)
  uploads_all_or_none := by
    intro i hi
    cases uploads with
    | false => exact h.uploadsOf_of_not_uploads (List.getElem?_eq_getElem hi)
    | true => exact h.uploadsOf_of_uploads (hfirst rfl) (List.getElem?_eq_getElem hi)
  completes := fun k log => h.completes
  failedBy := by
    intro log hlog i host failure hhost hfailure
    obtain ⟨k, hk⟩ := List.mem_iff_getElem?.mp hlog
    obtain ⟨work, hwork, hcompletes⟩ := h.completes hk
    obtain ⟨P, hasks⟩ := asks_preparing (List.mem_of_getElem? hwork) i host
    exact hasks.failedBy (hcompletes.serves i host _ hhost hfailure)
  last_of_not_succeeds := fun before log after => h.of_not_succeeds
  eq_ok_iff := h.eq_ok_iff
  trace_of_ok := by
    rintro rfl i host hhost
    exact h.trace_of_ok hhost

/-- A run is prepared in rounds that happen one after the other, and what exists when the first
round is over decides whether there is a round of uploads. The rounds are barriers, for any orders
of turns and any way in which the hosts can be reached. -/
theorem prepareRun_barriers (f : Fleet ρ σ) (hosts : List HostRecord)
    (uploadDirectory runId : String) (s : σ) :
    let run := f.prepareRun hosts uploadDirectory runId s
    ∃ (first : RoundLog Unit) (later : List (RoundLog Unit)) (s₁ : σ) (uploads : Bool),
      Happens f.carrier hosts s first.trace s₁ ∧
      Happens f.carrier hosts s₁ (later.flatMap RoundLog.trace) run.2 ∧
      (uploads = true ↔ first.Succeeds ∧ f.machine.pathExists uploadDirectory s₁ = true) ∧
      Barriers f.carrier hosts (f.agents.simulatorHome ++ "/workers/" ++ runId) uploadDirectory
        uploads (first :: later) run.1 := by
  intro run
  obtain ⟨first, later, s₁, uploads, hfirst, hlater, huploads, hrounds⟩ :=
    exists_rounds_prepareRun f hosts uploadDirectory runId s
  rw [runDirectory_eq] at hrounds
  exact ⟨first, later, s₁, uploads, hfirst, hlater, huploads,
    hrounds.barriers fun h => (huploads.mp h).1⟩

/-! ### A run -/

/-- Hosts that are reached at their addresses and answer well, but the host at `a` does not have the
program that is looked for first. -/
def lackingDstat : Carrier String Unit where
  remoteFor host := .ok host.publicIp
  perform address c s :=
    match c with
    | .exec command _ =>
      (.ok ⟨if address = "a" ∧ command = "command -v dstat >/dev/null 2>&1" then 1 else 0, ""⟩, s)
    | .copyTo _ _ => (.ok (), s)
    | .copyFrom _ _ _ => (.ok (), s)

theorem status_of_canAnswer {command : String} {options : ExecOptions} {result : ExecResult}
    (h : CanAnswer lackingDstat host ⟨.exec command options, .ok result⟩) :
    result.status =
      if host.publicIp = "a" ∧ command = "command -v dstat >/dev/null 2>&1" then 1 else 0 := by
  obtain ⟨remote, s, t, hremote, hperform⟩ := h
  obtain rfl := Except.ok.inj hremote
  rw [← Except.ok.inj (Prod.mk.inj hperform).1]

/-- What a host is asked in order to measure. -/
theorem map_call_of_measures {output : String} {measuring : List Exchange}
    (h : Measures output measuring) (hcan : ∀ e ∈ measuring, CanAnswer lackingDstat host e) :
    measuring.map Exchange.call =
      if host.publicIp = "a" then
        [.exec "command -v dstat >/dev/null 2>&1" { silent := true, failOnError := false },
          .exec "command -v pcp-dstat >/dev/null 2>&1" { silent := true, failOnError := false },
          .exec (measuringScript "pcp-dstat" output) {}]
      else
        [.exec "command -v dstat >/dev/null 2>&1" { silent := true, failOnError := false },
          .exec (measuringScript "dstat" output) {}] := by
  cases h with
  | dstat hzero =>
    have ha : host.publicIp ≠ "a" := fun ha => by
      rw [status_of_canAnswer (hcan _ List.mem_cons_self), if_pos ⟨ha, rfl⟩] at hzero
      cases hzero
    rw [if_neg ha]
    rfl
  | pcpDstat hmissing =>
    have ha : host.publicIp = "a" := by
      by_contra ha
      rw [status_of_canAnswer (hcan _ List.mem_cons_self), if_neg fun h => ha h.1] at hmissing
      exact hmissing rfl
    rw [if_pos ha]
    rfl
  | neither _ hmissing =>
    have hstatus := status_of_canAnswer (hcan _ (List.mem_cons_of_mem _ List.mem_cons_self))
    rw [hstatus, if_neg fun h => absurd h.2 (by decide)] at hmissing
    exact absurd rfl hmissing

/-- A fleet that prepares a run with an upload, in some order of turns. -/
def measuredFleet : Fleet String Unit where
  machine :=
    { Machine.answering fun _ => .error .notFound with
      pathExists := fun path _ => path == "upload" }
  carrier := lackingDstat
  agents := {}
  turns := fun _ => [1, 0, 1]

/-- Two hosts, of which the second one has a number of its own. -/
def measuredHosts : List HostRecord :=
  [{ publicIp := "a", sshUser := "simulator", sshOptions := "", agentPort := "9000" },
    { publicIp := "b", sshUser := "simulator", sshOptions := "", agentPort := "9000"
      extra := [(.str "agent_index", .int 7)] }]

/-- The first host is asked for both programs and starts the second one, and the other host is asked
for one. -/
theorem prepareRun_barriers_probed :
    ∃ trace : Trace, Happens lackingDstat measuredHosts () trace () ∧
      (trace.of 0).map Exchange.call =
        [.exec "rm -fr hazelcast-simulator/workers/r1\nmkdir -p hazelcast-simulator/workers/r1" {},
          .copyTo "upload" "hazelcast-simulator/workers/r1",
          .exec "command -v dstat >/dev/null 2>&1" { silent := true, failOnError := false },
          .exec "command -v pcp-dstat >/dev/null 2>&1" { silent := true, failOnError := false },
          .exec (measuringScript "pcp-dstat" "hazelcast-simulator/workers/r1/A1_dstat.csv") {}] ∧
      (trace.of 1).map Exchange.call =
        [.exec "rm -fr hazelcast-simulator/workers/r1\nmkdir -p hazelcast-simulator/workers/r1" {},
          .copyTo "upload" "hazelcast-simulator/workers/r1",
          .exec "command -v dstat >/dev/null 2>&1" { silent := true, failOnError := false },
          .exec (measuringScript "dstat" "hazelcast-simulator/workers/r1/A7_dstat.csv") {}] := by
  obtain ⟨first, later, s₁, uploads, hfirst, hlater, huploads, hbarriers⟩ :=
    prepareRun_barriers measuredFleet measuredHosts "upload" "r1" ()
  have hok : (measuredFleet.prepareRun measuredHosts "upload" "r1" ()).1 = .ok () := by rfl
  obtain rfl : uploads = true :=
    huploads.mpr ⟨hbarriers.eq_ok_iff.mp hok first List.mem_cons_self, rfl⟩
  have hhappens := hfirst.append hlater
  have hasked : ∀ i host, measuredHosts[i]? = some host → ∃ measuring,
      (Trace.of (first.trace ++ later.flatMap RoundLog.trace) i).map Exchange.call =
        recreating "hazelcast-simulator/workers/r1" ::
          .copyTo "upload" "hazelcast-simulator/workers/r1" :: measuring.map Exchange.call ∧
        Measures ("hazelcast-simulator/workers/r1/A" ++ agentIndex i host ++ "_dstat.csv")
          measuring ∧
        ∀ e ∈ measuring, CanAnswer lackingDstat host e := by
    intro i host hhost
    obtain ⟨number, recreated, measuring, hnumber, hmeasures, htrace⟩ :=
      hbarriers.trace_of_ok hok i host hhost
    obtain rfl := numbered_iff.mp hnumber
    have hcan := hhappens.canAnswer hhost
    rw [List.flatMap_cons] at htrace
    rw [htrace] at hcan
    obtain ⟨-, hcan⟩ := List.forall_mem_cons.mp hcan
    obtain ⟨-, hcan⟩ := List.forall_mem_cons.mp hcan
    refine ⟨measuring, ?_, hmeasures, hcan⟩
    rw [htrace]
    rfl
  obtain ⟨measuring, hfirst, hmeasures, hcan⟩ := hasked 0 _ rfl
  obtain ⟨measuring', hsecond, hmeasures', hcan'⟩ := hasked 1 _ rfl
  refine ⟨_, hhappens, ?_, ?_⟩
  · rw [hfirst, map_call_of_measures hmeasures hcan]
    rfl
  · rw [hsecond, map_call_of_measures hmeasures' hcan']
    rfl

end AgentFleet
