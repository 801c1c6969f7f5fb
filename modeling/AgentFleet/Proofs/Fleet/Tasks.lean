import AgentFleet.Fleet.Operations
import AgentFleet.Proofs.Fleet.Trace
import AgentFleet.Proofs.Inventory.Normalization

/-!
# What tasks ask of a host

A task is known by the calls that it can make and by why it fails. The tasks of
the operations fail only when the host cannot be reached or has refused a call
(`HostTask.Asks.failedBy`), so a program that is not installed is no failure of
measuring. A task of one call has made just this call when it ends, and measuring
has looked for `dstat`, then perhaps for `pcp-dstat`, and has started what it has
found (`measures_of_measured`). The texts of the calls are those of the operations
in full, with the number of an agent (`Numbered`).
-/

namespace AgentFleet

open Fleet

variable {ρ σ α : Type} {carrier : Carrier ρ σ} {host : HostRecord}

/-! ### Tasks that fail with their calls -/

/-- A task whose calls all have a property, and that fails only when a call is refused. -/
inductive HostTask.Asks (P : Call → Prop) : HostTask α → Prop
  /-- The task succeeds. -/
  | done (a : α) : Asks P (.done (.ok a))
  /-- The task goes on when its call is answered. -/
  | attempt {c : Call} {next : c.Answer → HostTask α} : P c → (∀ a, Asks P (next a)) →
      Asks P (.attempt c next)

theorem HostTask.Asks.imp {P Q : Call → Prop} (hPQ : ∀ c, P c → Q c) {task : HostTask α}
    (h : task.Asks P) : task.Asks Q := by
  induction h with
  | done a => exact .done a
  | attempt hc _ ih => exact .attempt (hPQ _ hc) ih

/-- Why a task for a host has failed after some exchanges: the host has no remote, or it has refused
the last call after all others have been answered. -/
inductive FailedBy (carrier : Carrier ρ σ) (host : HostRecord) : List Exchange → TaskFailure → Prop
  /-- The host has no remote. -/
  | unreached {e : FleetError} : carrier.remoteFor host = .error e →
      FailedBy carrier host [] (.error e)
  /-- The last call was refused. -/
  | refused {exchanges : List Exchange} {c : Call} {e : RemoteError} :
      (∀ x ∈ exchanges, ∃ a, x.answer = .ok a) →
      FailedBy carrier host (exchanges ++ [⟨c, .error e⟩]) (.error (.remote e))

/-- A task that begins with a call goes on with the answer, or fails. -/
theorem HostTask.leads_attempt {c : Call} {next : c.Answer → HostTask α} {exchanges : List Exchange}
    {result : Except TaskFailure α}
    (h : (HostTask.attempt c next).Leads exchanges (.done result)) :
    (∃ a rest, exchanges = ⟨c, .ok a⟩ :: rest ∧ (next a).Leads rest (.done result)) ∨
      ∃ e, exchanges = [⟨c, .error e⟩] ∧ result = .error (.error (.remote e)) := by
  obtain _ | @⟨_, _, answer, rest, _, h⟩ := h
  cases answer with
  | ok a => exact Or.inl ⟨a, rest, rfl, h⟩
  | error e =>
    cases h
    exact Or.inr ⟨e, rfl, rfl⟩

theorem HostTask.Asks.call_of_leads {P : Call → Prop} {task : HostTask α} (htask : task.Asks P)
    {exchanges : List Exchange} {result : Except TaskFailure α}
    (h : task.Leads exchanges (.done result)) : ∀ x ∈ exchanges, P x.call := by
  induction htask generalizing exchanges with
  | done a =>
    cases h
    simp
  | attempt hc _ ih =>
    rcases HostTask.leads_attempt h with ⟨a, rest, rfl, hrest⟩ | ⟨e, rfl, -⟩
    · exact List.forall_mem_cons.mpr ⟨hc, ih a hrest⟩
    · exact List.forall_mem_singleton.mpr hc

theorem HostTask.Asks.exists_refused {P : Call → Prop} {task : HostTask α} (htask : task.Asks P)
    {exchanges : List Exchange} {failure : TaskFailure}
    (h : task.Leads exchanges (.done (.error failure))) :
    ∃ before c e, exchanges = before ++ [⟨c, .error e⟩] ∧ failure = .error (.remote e) ∧
      ∀ x ∈ before, ∃ a, x.answer = .ok a := by
  induction htask generalizing exchanges with
  | done a => cases h
  | @attempt c _ _ _ ih =>
    rcases HostTask.leads_attempt h with ⟨a, rest, rfl, hrest⟩ | ⟨e, rfl, hfailure⟩
    · obtain ⟨before, c', e, rfl, hfailure, hbefore⟩ := ih a hrest
      exact ⟨⟨c, .ok a⟩ :: before, c', e, rfl, hfailure,
        List.forall_mem_cons.mpr ⟨⟨a, rfl⟩, hbefore⟩⟩
    · exact ⟨[], c, e, rfl, Except.error.inj hfailure, by simp⟩

/-- The work for a host fails only when the host has no remote or has refused a call. -/
theorem HostTask.Asks.failedBy {P : Call → Prop} {task : HostTask α} (htask : task.Asks P)
    {exchanges : List Exchange} {failure : TaskFailure}
    (h : Serves carrier host task exchanges (.error failure)) :
    FailedBy carrier host exchanges failure := by
  cases h with
  | ended _ hleads =>
    obtain ⟨before, c, e, rfl, rfl, hbefore⟩ := htask.exists_refused hleads
    exact .refused hbefore
  | unreached hremote => exact .unreached hremote

/-- All calls that are made for a host have the property. -/
theorem HostTask.Asks.call_of_serves {P : Call → Prop} {task : HostTask α} (htask : task.Asks P)
    {exchanges : List Exchange} {result : Except TaskFailure α}
    (h : Serves carrier host task exchanges result) : ∀ x ∈ exchanges, P x.call := by
  cases h with
  | ended _ hleads => exact htask.call_of_leads hleads
  | unreached => simp

/-! ### Tasks of one call -/

/-- A task of one call asks for nothing else. -/
theorem asks_single (c : Call) : (HostTask.attempt c fun _ => .done (.ok ())).Asks (· = c) :=
  .attempt rfl fun _ => .done ()

theorem leads_single {c : Call} {exchanges : List Exchange} {result : Except TaskFailure Unit}
    (h : (HostTask.attempt c fun _ => .done (.ok ())).Leads exchanges (.done result)) :
    (∃ a, exchanges = [⟨c, .ok a⟩] ∧ result = .ok ()) ∨
      ∃ e, exchanges = [⟨c, .error e⟩] ∧ result = .error (.error (.remote e)) := by
  rcases HostTask.leads_attempt h with ⟨a, rest, rfl, hrest⟩ | herror
  · cases hrest
    exact Or.inl ⟨a, rfl, rfl⟩
  · exact Or.inr herror

/-- A task of one call has succeeded when the call has. -/
theorem serves_single_ok {c : Call} {exchanges : List Exchange}
    (h : Serves carrier host (.attempt c fun _ => .done (.ok ())) exchanges (.ok ())) :
    ∃ a, exchanges = [⟨c, .ok a⟩] := by
  obtain ⟨-, h⟩ := h
  rcases leads_single h with ⟨a, rfl, -⟩ | ⟨e, -, ⟨⟩⟩
  exact ⟨a, rfl⟩

/-- A host that can be reached gets the call of such a task once, whatever it answers. -/
theorem serves_single {c : Call} {exchanges : List Exchange} {result : Except TaskFailure Unit}
    {remote : ρ} (hremote : carrier.remoteFor host = .ok remote)
    (h : Serves carrier host (.attempt c fun _ => .done (.ok ())) exchanges result) :
    ∃ answer, exchanges = [⟨c, answer⟩] := by
  cases h with
  | ended _ hleads =>
    rcases leads_single hleads with ⟨a, rfl, -⟩ | ⟨e, rfl, -⟩
    · exact ⟨.ok a, rfl⟩
    · exact ⟨.error e, rfl⟩
  | unreached herror => cases hremote.symm.trans herror

/-! ### Kinds of calls -/

/-- A call that copies something to a host. -/
def Call.isUpload : Call → Bool
  | .copyTo _ _ => true
  | .exec _ _ | .copyFrom _ _ _ => false

/-- A call that asks a host for the status of a command. -/
def Call.isProbe : Call → Bool
  | .exec _ options => options == { silent := true, failOnError := false }
  | .copyTo _ _ | .copyFrom _ _ _ => false

/-! ### Measuring -/

theorem asks_measureTask (output : String) (programs : List String) :
    (measureTask output programs).Asks fun c => c.isUpload = false := by
  induction programs with
  | nil => exact .done ()
  | cons program rest ih =>
    refine .attempt rfl fun answer => ?_
    split
    · exact .attempt rfl fun _ => .done ()
    · exact ih

/-- The calls that look for a program and start measuring with the first one that is installed. -/
inductive Measured (output : String) : List String → List Exchange → Prop
  /-- No program is left, and nothing is started. -/
  | none : Measured output [] []
  /-- The program is installed and is started. -/
  | installed {program : String} {rest : List String} {status started : ExecResult} :
      status.status = 0 →
      Measured output (program :: rest)
        [⟨.exec (installedCommand program) .probe, .ok status⟩,
          ⟨.exec (measureCommand program output) {}, .ok started⟩]
  /-- The program is not installed, and the others are looked for. -/
  | missing {program : String} {rest : List String} {status : ExecResult}
      {exchanges : List Exchange} :
      status.status ≠ 0 → Measured output rest exchanges →
      Measured output (program :: rest)
        (⟨.exec (installedCommand program) .probe, .ok status⟩ :: exchanges)

theorem measured_of_leads {output : String} {programs : List String} {exchanges : List Exchange}
    (h : (measureTask output programs).Leads exchanges (.done (.ok ()))) :
    Measured output programs exchanges := by
  induction programs generalizing exchanges with
  | nil =>
    cases h
    exact .none
  | cons program rest ih =>
    rcases HostTask.leads_attempt h with ⟨status, more, rfl, hmore⟩ | ⟨e, -, ⟨⟩⟩
    split at hmore
    case isTrue hzero =>
      rcases leads_single hmore with ⟨started, rfl, -⟩ | ⟨e, -, ⟨⟩⟩
      exact .installed (by simpa using hzero)
    case isFalse hnonzero => exact .missing (by simpa using hnonzero) (ih hmore)

theorem serves_measureTask_ok {output : String} {programs : List String}
    {exchanges : List Exchange}
    (h : Serves carrier host (measureTask output programs) exchanges (.ok ())) :
    Measured output programs exchanges := by
  obtain ⟨-, h⟩ := h
  exact measured_of_leads h

/-- The script that starts measuring with a program, line by line. -/
def measuringScript (program output : String) : String :=
  String.join
    ["if command -v killall >/dev/null 2>&1; then\n",
      "    killall -9 dstat || true\n",
      "elif command -v pkill >/dev/null 2>&1; then\n",
      "    pkill -9 dstat || true\n",
      "fi\n",
      "nohup " ++ program ++ " --epoch -m --all -l --noheaders --nocolor --output " ++ output ++
        " 1 > /dev/null 2>&1 &\n",
      "sleep 1\n"]

theorem measureCommand_eq (program output : String) :
    measureCommand program output = measuringScript program output := by
  unfold measureCommand measuringScript String.join
  simp only [List.foldl_cons, List.foldl_nil]
  simp only [String.empty_append, ← String.append_assoc]

/-- The calls that look for the two programs and start the first one that is installed. -/
inductive Measures (output : String) : List Exchange → Prop
  /-- The first program is installed. -/
  | dstat {status started : ExecResult} : status.status = 0 →
      Measures output
        [⟨.exec "command -v dstat >/dev/null 2>&1" { silent := true, failOnError := false },
            .ok status⟩,
          ⟨.exec (measuringScript "dstat" output) {}, .ok started⟩]
  /-- Only the second program is. -/
  | pcpDstat {missing status started : ExecResult} : missing.status ≠ 0 → status.status = 0 →
      Measures output
        [⟨.exec "command -v dstat >/dev/null 2>&1" { silent := true, failOnError := false },
            .ok missing⟩,
          ⟨.exec "command -v pcp-dstat >/dev/null 2>&1" { silent := true, failOnError := false },
            .ok status⟩,
          ⟨.exec (measuringScript "pcp-dstat" output) {}, .ok started⟩]
  /-- Neither is, and nothing is started. -/
  | neither {missing missing' : ExecResult} : missing.status ≠ 0 → missing'.status ≠ 0 →
      Measures output
        [⟨.exec "command -v dstat >/dev/null 2>&1" { silent := true, failOnError := false },
            .ok missing⟩,
          ⟨.exec "command -v pcp-dstat >/dev/null 2>&1" { silent := true, failOnError := false },
            .ok missing'⟩]

theorem measures_of_measured {output : String} {exchanges : List Exchange}
    (h : Measured output ["dstat", "pcp-dstat"] exchanges) : Measures output exchanges := by
  cases h with
  | installed hzero =>
    rw [measureCommand_eq]
    exact .dstat hzero
  | missing hnonzero h =>
    cases h with
    | installed hzero =>
      rw [measureCommand_eq]
      exact .pcpDstat hnonzero hzero
    | missing hnonzero' h =>
      cases h
      exact .neither hnonzero hnonzero'

/-! ### Numbers of agents -/

/-- The number of an agent: the one that the record gives, or else its place, counted from one. -/
inductive Numbered (i : Nat) (host : HostRecord) : String → Prop
  /-- The record has a number of its own. -/
  | own {number : String} : host.extra.Gives "agent_index" (some number) → Numbered i host number
  /-- It has none. -/
  | place : host.extra.Gives "agent_index" none → Numbered i host (toString (i + 1))

theorem numbered_iff {i : Nat} {host : HostRecord} {number : String} :
    Numbered i host number ↔ number = agentIndex i host := by
  have hindex : agentIndex i host =
      (host.extra.text? "agent_index").getD (toString (i + 1)) := rfl
  constructor
  · intro h
    cases h with
    | own hgives => rw [hindex, ← hgives.eq_text?, Option.getD_some]
    | place hgives => rw [hindex, ← hgives.eq_text?, Option.getD_none]
  · rintro rfl
    have hgives := host.extra.gives_text? "agent_index"
    rw [hindex]
    cases htext : host.extra.text? "agent_index" with
    | none => exact .place (htext ▸ hgives)
    | some number => exact .own (htext ▸ hgives)

/-! ### Directories -/

theorem runDirectory_eq (a : AgentSettings) (runId : String) :
    a.runDirectory runId = a.simulatorHome ++ "/workers/" ++ runId := by
  simp [AgentSettings.runDirectory, AgentSettings.workersDirectory, String.append_assoc]

theorem downloadSource_eq (a : AgentSettings) (runId : String) :
    downloadSource a runId = if runId = "*" then a.simulatorHome ++ "/workers/"
      else a.simulatorHome ++ "/workers/" ++ runId ++ "/" := by
  simp [downloadSource, everyRun, AgentSettings.workersDirectory, runDirectory_eq,
    String.append_assoc]

theorem cleanCommand_eq (a : AgentSettings) :
    "rm -fr " ++ a.workersDirectory ++ "/*" = "rm -fr " ++ a.simulatorHome ++ "/workers/*" := by
  simp [AgentSettings.workersDirectory, String.append_assoc]

end AgentFleet
