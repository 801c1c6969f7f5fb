import AgentFleet.Proofs.Transport.Commands
import Mathlib.Data.List.Forall2

/-!
# Transfers and their failures

A transfer takes its steps one after the other: it runs one process, or for an
archive it creates a directory, has the pod pack and unpacks here. It succeeds when
every step has been taken and every process has exited with zero, and only then.
When all steps have been taken and it has not, its error carries the first status
that is not zero (`Transferred.contract`). No error of any call carries the status
zero (`transfer_failures_surface`).
-/

namespace AgentFleet

open Checked

variable {σ : Type}

/-! ### Steps -/

/-- A step of a transfer. -/
inductive Step where
  /-- A local directory is created. -/
  | directory (path : String)
  /-- A process of a tool runs to its end. -/
  | process (tool : Tool)
  deriving DecidableEq, Repr

namespace Step

/-- A step has been taken by what a machine has done, whatever status a process has left. -/
inductive Taken : Step → Deed → Prop
  /-- The directory exists. -/
  | directory {path : String} : Taken (.directory path) (.created path (.ok ()))
  /-- The process has run to its end. -/
  | process {program : String} {base arguments : List String} {input : List UInt8} {o : Outcome} :
      Taken (.process (program :: base)) (.ran ⟨program, base ++ arguments, input⟩ (.ok o))

/-- A step has succeeded: it has been taken, and a process has exited with zero. -/
inductive Done : Step → Deed → Prop
  /-- The directory exists. -/
  | directory {path : String} : Done (.directory path) (.created path (.ok ()))
  /-- The process has exited with zero. -/
  | process {program : String} {base arguments : List String} {input : List UInt8} {o : Outcome} :
      o.ending = .exited 0 →
      Done (.process (program :: base)) (.ran ⟨program, base ++ arguments, input⟩ (.ok o))

/-- A step could not be taken, and this is why. -/
inductive Refused : Step → List Deed → RemoteError → Prop
  /-- The directory could not be created. -/
  | directory {path : String} {e : OsError} :
      Refused (.directory path) [.created path (.error e)] (.io (path ++ ": " ++ e.message))
  /-- The tool names no program. -/
  | noProgram : Refused (.process []) [] (.spawn "" "empty command prefix")
  /-- The process was not started. -/
  | notStarted {program name : String} {base arguments : List String} {input : List UInt8}
      {e : OsError} :
      Refused (.process (program :: base)) [.ran ⟨program, base ++ arguments, input⟩ (.error e)]
        (.spawn name e.message)

theorem done_iff {step : Step} {deed : Deed} :
    step.Done deed ↔ step.Taken deed ∧ ∀ n, deed.status? = some n → n = 0 := by
  constructor
  · rintro (_ | hending)
    · exact ⟨.directory, by simp [Deed.status?]⟩
    · exact ⟨.process, by simp [Deed.status?, (status_eq_zero_iff _).mpr hending]⟩
  · rintro ⟨_ | _, hzero⟩
    · exact .directory
    · exact .process ((status_eq_zero_iff _).mp (hzero _ rfl))

theorem Refused.exitStatus?_eq_none {step : Step} {deeds : List Deed} {e : RemoteError}
    (h : step.Refused deeds e) : e.exitStatus? = none := by
  cases h <;> rfl

theorem Taken.ne_refused {step : Step} {deed : Deed} (h : step.Taken deed) :
    (∀ path e, deed ≠ .created path (.error e)) ∧ ∀ i e, deed ≠ .ran i (.error e) := by
  cases h with
  | directory => simp
  | process => simp

theorem Refused.not_taken {step : Step} {deed : Deed} {deeds : List Deed} {e : RemoteError}
    (h : step.Refused (deed :: deeds) e) : ¬ step.Taken deed := by
  intro htaken
  obtain ⟨hcreated, hran⟩ := htaken.ne_refused
  cases h with
  | directory => exact hcreated _ _ rfl
  | notStarted => exact hran _ _ rfl

end Step

/-! ### Ends of a transfer -/

/-- The exit statuses of the processes that have run to their ends. -/
def exitStatuses (deeds : List Deed) : List Int :=
  deeds.filterMap Deed.status?

theorem exitStatuses_cons (deed : Deed) (deeds : List Deed) :
    exitStatuses (deed :: deeds) = deed.status?.toList ++ exitStatuses deeds := by
  rw [exitStatuses, List.filterMap_cons]
  cases deed.status? <;> rfl

theorem mem_exitStatuses_cons {deed : Deed} {deeds : List Deed} {n : Int} :
    n ∈ exitStatuses (deed :: deeds) ↔ deed.status? = some n ∨ n ∈ exitStatuses deeds := by
  simp [exitStatuses]

theorem forall₂_done_iff {steps : List Step} {deeds : List Deed} :
    List.Forall₂ Step.Done steps deeds ↔
      List.Forall₂ Step.Taken steps deeds ∧ ∀ n ∈ exitStatuses deeds, n = 0 := by
  induction steps generalizing deeds with
  | nil => cases deeds <;> simp [exitStatuses]
  | cons step steps ih =>
    cases deeds with
    | nil => simp
    | cons deed deeds =>
      simp only [List.forall₂_cons, Step.done_iff, ih, mem_exitStatuses_cons]
      constructor
      · rintro ⟨⟨htaken, hfirst⟩, hlater, hrest⟩
        exact ⟨⟨htaken, hlater⟩, fun n hn => hn.elim (hfirst n) (hrest n)⟩
      · rintro ⟨⟨htaken, hlater⟩, hzero⟩
        exact ⟨⟨htaken, fun n hn => hzero n (Or.inl hn)⟩, hlater, fun n hn => hzero n (Or.inr hn)⟩

/-- A transfer stops at the first step that cannot be taken. -/
inductive Stops : List Step → List Deed → RemoteError → Prop
  /-- The next step cannot be taken. -/
  | refused {step : Step} {steps : List Step} {deeds : List Deed} {e : RemoteError} :
      step.Refused deeds e → Stops (step :: steps) deeds e
  /-- The next step is taken, and the transfer stops later. -/
  | later {step : Step} {steps : List Step} {deed : Deed} {deeds : List Deed} {e : RemoteError} :
      step.Taken deed → Stops steps deeds e → Stops (step :: steps) (deed :: deeds) e

theorem Stops.exitStatus?_eq_none {steps : List Step} {deeds : List Deed} {e : RemoteError}
    (h : Stops steps deeds e) : e.exitStatus? = none := by
  induction h with
  | refused hrefused => exact hrefused.exitStatus?_eq_none
  | later _ _ ih => exact ih

theorem Stops.not_forall₂_taken {steps : List Step} {deeds : List Deed} {e : RemoteError}
    (h : Stops steps deeds e) : ¬ List.Forall₂ Step.Taken steps deeds := by
  induction h with
  | refused hrefused =>
    rintro (_ | ⟨htaken, -⟩)
    exact hrefused.not_taken htaken
  | later _ _ ih =>
    rintro (_ | ⟨-, hlater⟩)
    exact ih hlater

/-- How a transfer ends after what a machine has done. -/
inductive Transferred (name : String) (direction : Direction) (steps : List Step) (deeds : List Deed) :
    Except RemoteError Unit → Prop
  /-- Every step has been taken, and no process has failed. -/
  | completed : List.Forall₂ Step.Taken steps deeds → (∀ n ∈ exitStatuses deeds, n = 0) →
      Transferred name direction steps deeds (.ok ())
  /-- Every step has been taken; the first process that has failed gives the status. -/
  | failed {n : Int} {detail : String} : List.Forall₂ Step.Taken steps deeds →
      (exitStatuses deeds).find? (fun n => n != 0) = some n →
      Transferred name direction steps deeds (.error (.transfer name direction n detail))
  /-- Some step could not be taken. -/
  | stopped {e : RemoteError} : Stops steps deeds e → Transferred name direction steps deeds (.error e)

/-- What can be relied on when a transfer has come to a result. -/
structure TransferContract (name : String) (direction : Direction) (steps : List Step)
    (deeds : List Deed) (result : Except RemoteError Unit) : Prop where
  /-- It succeeds when each of its steps does. -/
  ok_iff : result = .ok () ↔ List.Forall₂ Step.Done steps deeds
  /-- When all steps have been taken, a failure carries the first status that is not zero. -/
  failed : List.Forall₂ Step.Taken steps deeds → ¬ List.Forall₂ Step.Done steps deeds →
    ∃ n detail, result = .error (.transfer name direction n detail) ∧ n ≠ 0 ∧
      (exitStatuses deeds).find? (fun n => n != 0) = some n
  /-- Otherwise a failure carries no status. -/
  stopped : ¬ List.Forall₂ Step.Taken steps deeds → ∃ e, result = .error e ∧ e.exitStatus? = none

section Transferred

variable {name : String} {direction : Direction} {steps : List Step} {deeds : List Deed}
  {result : Except RemoteError Unit}

theorem Transferred.contract (h : Transferred name direction steps deeds result) :
    TransferContract name direction steps deeds result := by
  cases h with
  | completed htaken hzero =>
    have hdone := forall₂_done_iff.mpr ⟨htaken, hzero⟩
    exact ⟨iff_of_true rfl hdone, fun _ hnot => absurd hdone hnot, fun hnot => absurd htaken hnot⟩
  | @failed n detail htaken hfind =>
    have hn : n ≠ 0 := by simpa using List.find?_some hfind
    have hnot : ¬ List.Forall₂ Step.Done steps deeds := fun hdone =>
      hn ((forall₂_done_iff.mp hdone).2 n (List.mem_of_find?_eq_some hfind))
    exact ⟨iff_of_false (by simp) hnot, fun _ _ => ⟨n, detail, rfl, hn, hfind⟩,
      fun hnot => absurd htaken hnot⟩
  | stopped hstops =>
    have hnot := hstops.not_forall₂_taken
    exact ⟨iff_of_false (by simp) fun hdone => hnot (forall₂_done_iff.mp hdone).1,
      fun htaken => absurd htaken hnot, fun _ => ⟨_, rfl, hstops.exitStatus?_eq_none⟩⟩

/-- An error that carries no status, or one that is not zero. -/
def RemoteError.NotZero (e : RemoteError) : Prop :=
  ∀ n, e.exitStatus? = some n → n ≠ 0

theorem Transferred.failsOnlyWith (h : Transferred name direction steps deeds result) :
    FailsOnlyWith RemoteError.NotZero result := by
  rintro e rfl n hn
  cases h with
  | failed _ hfind =>
    obtain rfl := Option.some.inj hn
    simpa using List.find?_some hfind
  | stopped hstops =>
    rw [hstops.exitStatus?_eq_none] at hn
    cases hn

end Transferred

theorem CommandEnds.failsOnlyWith {name program command : String} {options : ExecOptions} {l : Launch}
    {x : Except RemoteError ExecResult} (h : CommandEnds name program command options l x) :
    FailsOnlyWith RemoteError.NotZero x := by
  rintro e rfl n hn
  cases h with
  | noProgram => cases hn
  | refused => cases hn
  | failed hstatus _ =>
    obtain rfl := Option.some.inj hn
    exact hstatus

theorem StatusEnds.failsOnlyWith {program : String} {l : Launch} {x : Except RemoteError Int}
    (h : StatusEnds program l x) : FailsOnlyWith RemoteError.NotZero x := by
  rintro e rfl n hn
  cases h with
  | noProgram => cases hn
  | refused => cases hn

/-! ### Taking the steps -/

namespace Machine

/-- A process that a tool is started for is a step of its own. -/
theorem launch_step (m : Machine σ) (tool : Tool) (program : String) (arguments : List String)
    (input : List UInt8) (s : σ) :
    let l := (m.launch tool arguments input s).1
    let deeds := m.launchDeeds tool arguments input s
    (∃ e, l.outcome program = .error e ∧ (Step.process tool).Refused deeds e) ∨
      ∃ o deed, l.outcome program = .ok o ∧ deeds = [deed] ∧ (Step.process tool).Taken deed ∧
        deed.status? = some o.status := by
  intro l deeds
  cases tool with
  | nil => exact Or.inl ⟨_, rfl, .noProgram⟩
  | cons first base =>
    simp only [l, deeds, launch, launchDeeds]
    rcases m.run ⟨first, base ++ arguments, input⟩ s with ⟨e | o, t⟩
    · exact Or.inl ⟨_, rfl, .notStarted⟩
    · exact Or.inr ⟨o, _, rfl, rfl, .process, rfl⟩

end Machine

namespace Remote

/-- The result of a transfer whose process has ended. -/
def transferResult (name : String) (direction : Direction) (o : Outcome) : Except RemoteError Unit :=
  if o.status = 0 then .ok () else .error (.transfer name direction o.status o.text)

theorem transfer_eq (m : Machine σ) (name : String) (direction : Direction) (tool : Tool)
    (arguments : List String) (s : σ) :
    transfer m name direction tool arguments s =
      (((m.launch tool arguments [] s).1.outcome (programName tool)).bind
        (transferResult name direction), (m.launch tool arguments [] s).2) := by
  unfold transfer runTool
  rw [startTool_eq]
  cases (m.launch tool arguments [] s).1.outcome (programName tool) with
  | error e => rfl
  | ok o => by_cases h : o.status = 0 <;> simp [Except.bind, transferResult, h]

theorem transferred_transferResult {name : String} {direction : Direction} {steps : List Step}
    {deeds : List Deed} {o : Outcome} (htaken : List.Forall₂ Step.Taken steps deeds)
    (hstatuses : exitStatuses deeds = [o.status]) :
    Transferred name direction steps deeds (transferResult name direction o) := by
  unfold transferResult
  split
  case isTrue hzero => exact .completed htaken (by simp [hstatuses, hzero])
  case isFalse hnonzero => exact .failed htaken (by simp [hstatuses, hnonzero])

/-- A transfer by one process. -/
theorem transferred_transfer (m : Machine σ) (name : String) (direction : Direction) (tool : Tool)
    (arguments : List String) (s : σ) :
    let run := transfer m.witnessed name direction tool arguments (s, [])
    (run.1, run.2.1) = transfer m name direction tool arguments s ∧
      Transferred name direction [.process tool] run.2.2 run.1 := by
  intro run
  have hrun : run = _ := transfer_eq m.witnessed name direction tool arguments (s, [])
  rw [m.launch_witnessed, List.nil_append] at hrun
  rw [hrun, transfer_eq]
  refine ⟨rfl, ?_⟩
  rcases m.launch_step tool (programName tool) arguments [] s with
    ⟨e, houtcome, hrefused⟩ | ⟨o, deed, houtcome, hdeeds, htaken, hstatus⟩
  · simp only [houtcome]
    exact .stopped (.refused hrefused)
  · simp only [houtcome, hdeeds]
    exact transferred_transferResult (.cons htaken .nil) (by simp [exitStatuses, hstatus])

/-! ### Archives -/

theorem transferred_archiveResult {name : String} {steps : List Step} {deeds : List Deed}
    {packed unpacked : Outcome} (htaken : List.Forall₂ Step.Taken steps deeds)
    (hstatuses : exitStatuses deeds = [packed.status, unpacked.status]) :
    Transferred name .fromHost steps deeds (archiveResult name packed unpacked) := by
  unfold archiveResult
  by_cases hpacked : packed.status = 0
  · by_cases hunpacked : unpacked.status = 0
    · simp only [hpacked, hunpacked, beq_self_eq_true, Bool.and_self, if_true]
      exact .completed htaken (by simp [hstatuses, hpacked, hunpacked])
    · simp only [hpacked, hunpacked, beq_iff_eq, Bool.and_eq_true, and_false, if_false]
      exact .failed htaken (by simp [hstatuses, hpacked, hunpacked])
  · simp only [hpacked, beq_iff_eq, Bool.and_eq_true, false_and, if_false]
    exact .failed htaken (by simp [hstatuses, hpacked])

/-- A transfer as an archive: the directory is created, the pod packs, and the machine unpacks. -/
theorem transferred_copyArchive (r : Remote) (m : Machine σ) (t : PodTarget)
    (source target excluded : String) (s : σ) :
    let run := r.copyArchive m.witnessed t source target excluded (s, [])
    (run.1, run.2.1) = r.copyArchive m t source target excluded s ∧
      Transferred t.pod .fromHost
        [.directory target, .process r.tools.kubectl, .process r.tools.tar] run.2.2 run.1 := by
  have hcreate : m.witnessed.createDirectories target (s, []) =
      ((m.createDirectories target s).1, (m.createDirectories target s).2,
        [.created target (m.createDirectories target s).1]) := rfl
  have hhome : ∀ u deeds, m.witnessed.home? (u, deeds) = m.home? u := fun _ _ => rfl
  unfold copyArchive
  simp only [startTool_eq, hcreate, hhome, m.launch_witnessed]
  rcases m.createDirectories target s with ⟨e | ⟨⟩, u⟩
  case error => exact ⟨rfl, .stopped (.refused .directory)⟩
  dsimp only
  generalize t.execArguments (m.home? u) (archiveScript source excluded) = arguments
  rcases m.launch_step r.tools.kubectl (Text.join " " r.tools.kubectl) arguments [] u with
    ⟨e, houtcome, hrefused⟩ | ⟨packed, deed, houtcome, hdeeds, hpacking, hpacked⟩
  case inl =>
    rw [houtcome]
    exact ⟨rfl, .stopped (.later .directory (.refused hrefused))⟩
  rw [houtcome, hdeeds]
  dsimp only
  generalize (m.launch r.tools.kubectl arguments [] u).2 = v
  rcases m.launch_step r.tools.tar (programName r.tools.tar) ["xzf", "-", "-C", target]
      packed.stdout v with
    ⟨e, houtcome, hrefused⟩ | ⟨unpacked, deed', houtcome, hdeeds, hunpacking, hunpacked⟩
  case inl =>
    rw [houtcome]
    exact ⟨rfl, .stopped (.later .directory (.later hpacking (.refused hrefused)))⟩
  have hstatuses : exitStatuses [.created target (.ok ()), deed, deed'] =
      [packed.status, unpacked.status] := by
    rw [exitStatuses_cons, exitStatuses_cons, exitStatuses_cons, hpacked, hunpacked]
    rfl
  rw [houtcome, hdeeds]
  have htaken : List.Forall₂ Step.Taken
      [.directory target, .process r.tools.kubectl, .process r.tools.tar]
      [.created target (.ok ()), deed, deed'] :=
    .cons .directory (.cons hpacking (.cons hunpacking .nil))
  exact ⟨rfl, transferred_archiveResult htaken hstatuses⟩

/-! ### All calls -/

/-- The steps of copying something to the host. -/
def copyToSteps (r : Remote) : List Step :=
  match r.target with
  | .ssh _ => [.process r.tools.scp]
  | .pod _ => [.process r.tools.kubectl]

/-- The steps of copying something from the host; an archive has three. -/
def copyFromSteps (r : Remote) (target : String) (excluded : Option String) : List Step :=
  match r.target, excluded with
  | .ssh _, _ => [.process r.tools.rsync]
  | .pod _, none => [.process r.tools.kubectl]
  | .pod _, some _ => [.directory target, .process r.tools.kubectl, .process r.tools.tar]

theorem transferred_copyTo (r : Remote) (m : Machine σ) (source target : String) (s : σ) :
    let run := r.copyTo m.witnessed source target (s, [])
    (run.1, run.2.1) = r.copyTo m source target s ∧
      Transferred r.target.name .toHost r.copyToSteps run.2.2 run.1 := by
  unfold copyTo copyToSteps
  cases r.target with
  | ssh t => exact transferred_transfer m t.host .toHost _ _ s
  | pod t => exact transferred_transfer m t.pod .toHost _ _ s

theorem transferred_copyFrom (r : Remote) (m : Machine σ) (source target : String)
    (excluded : Option String) (s : σ) :
    let run := r.copyFrom m.witnessed source target excluded (s, [])
    (run.1, run.2.1) = r.copyFrom m source target excluded s ∧
      Transferred r.target.name .fromHost (r.copyFromSteps target excluded) run.2.2 run.1 := by
  unfold copyFrom copyFromSteps
  cases r.target with
  | ssh t => exact transferred_transfer m t.host .fromHost _ _ s
  | pod t =>
    cases excluded with
    | none => exact transferred_transfer m t.pod .fromHost _ _ s
    | some pattern => exact transferred_copyArchive r m t source target pattern s

/-- A transfer fails as it does on a machine that keeps what it has done. -/
theorem failsOnlyWith_of_transferred {name : String} {direction : Direction} {steps : List Step}
    {run : Except RemoteError Unit × σ × List Deed} {plain : Except RemoteError Unit × σ}
    (h : (run.1, run.2.1) = plain ∧ Transferred name direction steps run.2.2 run.1) :
    FailsOnlyWith RemoteError.NotZero plain.1 := by
  obtain ⟨rfl, htransferred⟩ := h
  exact htransferred.failsOnlyWith

theorem perform_failsOnlyWith (r : Remote) (m : Machine σ) (c : Call) (s : σ) :
    FailsOnlyWith RemoteError.NotZero (perform m r c s).1 := by
  cases c with
  | exec command options => exact (commandEnds_exec r m command options s).failsOnlyWith
  | copyTo source target => exact failsOnlyWith_of_transferred (r.transferred_copyTo m source target s)
  | copyFrom source target excluded =>
    exact failsOnlyWith_of_transferred (r.transferred_copyFrom m source target excluded s)

theorem probe_failsOnlyWith (r : Remote) (m : Machine σ) (command : String) (s : σ) :
    FailsOnlyWith RemoteError.NotZero (r.probe m command s).1 :=
  ((r.keepsCommandContract m s).probe command).failsOnlyWith

theorem connect_failsOnlyWith (r : Remote) (m : Machine σ) (check : Bool) (s : σ) :
    FailsOnlyWith RemoteError.NotZero (r.connect m check s).1 := by
  have hunchecked : FailsOnlyWith RemoteError.NotZero (r.connect m false s).1 :=
    (r.keepsCommandContract m s).connect.failsOnlyWith
  cases check with
  | false => exact hunchecked
  | true =>
    rw [connect_true_eq]
    refine hunchecked.bind fun status => ?_
    split
    case isTrue => exact .ok 0
    case isFalse hstatus =>
      rintro e ⟨⟩ n hn
      obtain rfl := Option.some.inj hn
      exact hstatus

/-- No failure is lost and none carries the status zero. A transfer in either direction succeeds when
each of its steps does, the same ones that a machine keeps track of; otherwise it fails, and once all
steps have been taken it does so for this host and direction with the first status that is not zero.
The errors of commands, of questions for a status and of checks do not carry a zero either. -/
theorem transfer_failures_surface (r : Remote) (m : Machine σ) (s : σ) :
    (∀ source target, let run := r.copyTo m.witnessed source target (s, [])
      (run.1, run.2.1) = r.copyTo m source target s ∧
        TransferContract r.target.name .toHost r.copyToSteps run.2.2 run.1) ∧
    (∀ source target excluded, let run := r.copyFrom m.witnessed source target excluded (s, [])
      (run.1, run.2.1) = r.copyFrom m source target excluded s ∧
        TransferContract r.target.name .fromHost (r.copyFromSteps target excluded) run.2.2 run.1) ∧
    (∀ c, FailsOnlyWith RemoteError.NotZero (perform m r c s).1) ∧
    (∀ command, FailsOnlyWith RemoteError.NotZero (r.probe m command s).1) ∧
    ∀ check, FailsOnlyWith RemoteError.NotZero (r.connect m check s).1 := by
  refine ⟨fun source target => ?_, fun source target excluded => ?_,
    fun c => r.perform_failsOnlyWith m c s, fun command => r.probe_failsOnlyWith m command s,
    fun check => r.connect_failsOnlyWith m check s⟩
  · obtain ⟨hplain, htransferred⟩ := r.transferred_copyTo m source target s
    exact ⟨hplain, htransferred.contract⟩
  · obtain ⟨hplain, htransferred⟩ := r.transferred_copyFrom m source target excluded s
    exact ⟨hplain, htransferred.contract⟩

/-- A machine on which every process exits with zero, but for those of one program. -/
def failingOnly (program : String) (code : Nat) : Machine Unit :=
  Machine.answering fun i => .ok { ending := .exited (if i.program == program then code else 0) }

/-- An archive that the pod has packed is fetched only when it has been unpacked. -/
theorem transfer_failures_surface_halfExtracted :
    let pod : Remote := ⟨{}, .pod { pod := "member-0" }⟩
    let fetch := fun m : Machine Unit =>
      pod.copyFrom m.witnessed "workers/" "out" (some "upload") ((), [])
    (fetch (failingOnly "scp" 1)).1 = .ok () ∧
      ∃ detail, (fetch (failingOnly "tar" 2)).1 = .error (.transfer "member-0" .fromHost 2 detail) := by
  intro pod fetch
  refine ⟨?_, ?_⟩
  · obtain ⟨-, hfrom, -⟩ := transfer_failures_surface pod (failingOnly "scp" 1) ()
    obtain ⟨-, hcontract⟩ := hfrom "workers/" "out" (some "upload")
    exact hcontract.ok_iff.mpr (.cons .directory (.cons (.process rfl) (.cons (.process rfl) .nil)))
  · obtain ⟨-, hfrom, -⟩ := transfer_failures_surface pod (failingOnly "tar" 2) ()
    obtain ⟨-, hcontract⟩ := hfrom "workers/" "out" (some "upload")
    have hstatuses : exitStatuses (fetch (failingOnly "tar" 2)).2.2 = [0, 2] := by decide +kernel
    have hnot : ¬ List.Forall₂ Step.Done
        [.directory "out", .process ["kubectl"], .process ["tar"]]
        (fetch (failingOnly "tar" 2)).2.2 := fun hdone => by
      simpa [hstatuses] using (forall₂_done_iff.mp hdone).2
    obtain ⟨n, detail, herror, -, hfind⟩ :=
      hcontract.failed (.cons .directory (.cons .process (.cons .process .nil))) hnot
    have htwo : (exitStatuses (fetch (failingOnly "tar" 2)).2.2).find? (fun n => n != 0) = some 2 := by
      simp [hstatuses]
    obtain rfl := Option.some.inj (hfind.symm.trans htwo)
    exact ⟨detail, herror⟩

end Remote

end AgentFleet
