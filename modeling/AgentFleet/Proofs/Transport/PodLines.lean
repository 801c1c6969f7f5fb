import AgentFleet.Proofs.Transport.Logins
import AgentFleet.Proofs.Transport.Quoting

/-!
# Command lines of pods

The cluster's command line is given flags with their values, a verb and what the verb
is about. A text of a target may look like a flag or a verb itself, but its place
says what it is: the arguments that run a command can be read back from the front, one
flag after the other (`PodLine.read?_execArguments`). So two command lines are the same
only for the same command in the same place (`pods_unambiguous`), where a
configuration file counts as the path that the home directory makes of it. `PodContract`
says which processes the calls to a pod start.
-/

namespace AgentFleet

/-! ### Reading the arguments back -/

/-- What the arguments that run a command in a pod tell the cluster's command line. -/
structure PodLine where
  /-- The path of the configuration file. -/
  kubeconfig : Option String
  /-- The context. -/
  context : Option String
  /-- The namespace. -/
  namespaceName : Option String
  /-- The name of the pod. -/
  pod : String
  /-- The container. -/
  container : Option String
  /-- The command. -/
  command : String
  deriving DecidableEq, Repr

namespace PodTarget

/-- What is to be told of a target and a command. -/
def line (t : PodTarget) (home : Option String) (command : String) : PodLine where
  kubeconfig := t.kubeconfig.map (expandHome home)
  context := t.context
  namespaceName := t.namespaceName
  pod := t.pod
  container := t.container
  command := command

/-- Takes the value of a flag when the flag comes first. -/
def takeFlag (name : String) : List String → Option String × List String
  | word :: value :: rest =>
    if word = name then (some value, rest) else (none, word :: value :: rest)
  | rest => (none, rest)

theorem takeFlag_of_head?_ne {name : String} {rest : List String} (h : rest.head? ≠ some name) :
    takeFlag name rest = (none, rest) := by
  rcases rest with _ | ⟨word, _ | ⟨value, rest⟩⟩
  · rfl
  · rfl
  · have hword : word ≠ name := fun heq => h (congrArg some heq)
    rw [takeFlag, if_neg hword]

/-- A flag is read back, with its value or without, when what follows does not begin with it. -/
theorem takeFlag_flag_append {name : String} {rest : List String} (h : rest.head? ≠ some name)
    (value : Option String) : takeFlag name (flag name value ++ rest) = (value, rest) := by
  cases value with
  | none => exact takeFlag_of_head?_ne h
  | some v => simp [flag, takeFlag]

theorem head?_flag_append_ne {name word : String} {rest : List String} (hname : name ≠ word)
    (hrest : rest.head? ≠ some word) (value : Option String) :
    (flag name value ++ rest).head? ≠ some word := by
  cases value with
  | none => exact hrest
  | some v => simpa [flag] using hname

end PodTarget

namespace PodLine

open PodTarget

/-- What arguments say, read from the front; `none` when they do not run a command in a pod. -/
def read? (arguments : List String) : Option PodLine :=
  let (kubeconfig, arguments) := takeFlag "--kubeconfig" arguments
  let (context, arguments) := takeFlag "--context" arguments
  let (namespaceName, arguments) := takeFlag "-n" arguments
  match arguments with
  | "exec" :: pod :: arguments =>
    match takeFlag "-c" arguments with
    | (container, ["--", "sh", "-c", command]) =>
      some ⟨kubeconfig, context, namespaceName, pod, container, command⟩
    | _ => none
  | _ => none

/-- The arguments that run a command say where it is to be run, whatever the texts look like. -/
theorem read?_execArguments (t : PodTarget) (home : Option String) (command : String) :
    read? (t.execArguments home command) = some (t.line home command) := by
  -- behind each flag comes another flag or the verb
  have hverb : ∀ {name : String}, "exec" ≠ name → ∀ rest : List String,
      ("exec" :: rest).head? ≠ some name := fun hname _ heq => hname (Option.some.inj heq)
  have hnamespace : ∀ {name : String}, "-n" ≠ name → "exec" ≠ name → ∀ rest : List String,
      (flag "-n" t.namespaceName ++ "exec" :: rest).head? ≠ some name :=
    fun hname hexec rest => head?_flag_append_ne hname (hverb hexec rest) _
  have hcontext : ∀ rest : List String,
      (flag "--context" t.context ++ (flag "-n" t.namespaceName ++ "exec" :: rest)).head? ≠
        some "--kubeconfig" :=
    fun rest => head?_flag_append_ne (by decide) (hnamespace (by decide) (by decide) rest) _
  have hcontainer : takeFlag "-c" (t.containerFlag ++ ["--", "sh", "-c", command]) =
      (t.container, ["--", "sh", "-c", command]) := takeFlag_flag_append (by simp) _
  unfold read? execArguments globalFlags
  simp only [List.append_assoc, List.cons_append, List.nil_append]
  rw [takeFlag_flag_append (hcontext _)]
  dsimp only
  rw [takeFlag_flag_append (hnamespace (by decide) (by decide) _)]
  dsimp only
  rw [takeFlag_flag_append (hverb (by decide) _)]
  simp only [hcontainer]
  rfl

end PodLine

namespace PodTarget

theorem execArguments_eq_iff {t t' : PodTarget} {home home' : Option String}
    {command command' : String} :
    t.execArguments home command = t'.execArguments home' command' ↔
      t.line home command = t'.line home' command' := by
  constructor
  · intro h
    have hread := congrArg PodLine.read? h
    rw [PodLine.read?_execArguments, PodLine.read?_execArguments] at hread
    exact Option.some.inj hread
  · intro h
    obtain ⟨hkubeconfig, hcontext, hnamespace, hpod, hcontainer, hcommand⟩ := PodLine.mk.inj h
    simp only [execArguments, globalFlags, containerFlag, hkubeconfig, hcontext, hnamespace, hpod,
      hcontainer, hcommand]

end PodTarget

/-! ### The processes that are started -/

/-- What can be relied on when the cluster's command line is started for a pod. -/
structure PodContract (tools : Tools) (t : PodTarget) : Prop where
  /-- A command is the last argument of its process, as it is. -/
  exec : ∀ {σ : Type} (m : Machine σ) (s : σ) (command : String) (options : ExecOptions),
    ((Remote.mk tools (.pod t)).exec m.witnessed command options (s, [])).2.2 =
      m.launchDeeds tools.kubectl
        (t.globalFlags (m.home? s) ++ ["exec", t.pod] ++ t.containerFlag ++
          ["--", "sh", "-c"] ++ [command]) [] s
  /-- A copy to the pod is started with the same flags. -/
  copyTo : ∀ {σ : Type} (m : Machine σ) (s : σ) (source target : String),
    ((Remote.mk tools (.pod t)).copyTo m.witnessed source target (s, [])).2.2 =
      m.launchDeeds tools.kubectl
        (t.globalFlags (m.home? s) ++ ["cp"] ++ t.containerFlag ++
          [source, t.pod ++ ":" ++ target]) [] s
  /-- So is a copy from the pod. -/
  copyFrom : ∀ {σ : Type} (m : Machine σ) (s : σ) (source target : String),
    ((Remote.mk tools (.pod t)).copyFrom m.witnessed source target none (s, [])).2.2 =
      m.launchDeeds tools.kubectl
        (t.globalFlags (m.home? s) ++ ["cp"] ++ t.containerFlag ++
          [t.pod ++ ":" ++ source, target]) [] s
  /-- An archive is packed by a command, once there is a directory to unpack it in. -/
  archive : ∀ {σ : Type} (m : Machine σ) (s u : σ) (source target excluded : String),
    m.createDirectories target s = (.ok (), u) →
    ∃ later, ((Remote.mk tools (.pod t)).copyFrom m.witnessed source target (some excluded)
        (s, [])).2.2 =
      .created target (.ok ()) :: (m.launchDeeds tools.kubectl
        (t.globalFlags (m.home? u) ++ ["exec", t.pod] ++ t.containerFlag ++
          ["--", "sh", "-c"] ++ [archiveScript source excluded]) [] u ++ later)

theorem PodTarget.execArguments_eq_concat (t : PodTarget) (home : Option String)
    (command : String) :
    t.execArguments home command =
      t.globalFlags home ++ ["exec", t.pod] ++ t.containerFlag ++ ["--", "sh", "-c"] ++ [command] := by
  simp [execArguments]

theorem keepsPodContract (tools : Tools) (t : PodTarget) : PodContract tools t where
  exec := by
    intro σ m s command options
    rw [Remote.exec_witnessed, ← t.execArguments_eq_concat]
    rfl
  copyTo := fun m s source target =>
    Remote.transfer_witnessed m t.pod .toHost tools.kubectl _ s
  copyFrom := fun m s source target =>
    Remote.transfer_witnessed m t.pod .fromHost tools.kubectl _ s
  archive := by
    intro σ m s u source target excluded hcreate
    rw [← t.execArguments_eq_concat]
    exact Quoting.copyFrom_witnessed tools t m hcreate source excluded

/-- No two pods and no two commands share a command line: it tells the command and every part of the
place, and whether the part is there at all. All calls to a pod are started with the same flags. -/
theorem pods_unambiguous (tools : Tools) :
    (∀ (t t' : PodTarget) (home home' : Option String) (command command' : String),
      t.execArguments home command = t'.execArguments home' command' ↔
        command = command' ∧ t.pod = t'.pod ∧ t.namespaceName = t'.namespaceName ∧
          t.container = t'.container ∧ t.context = t'.context ∧
          t.kubeconfig.map (expandHome home) = t'.kubeconfig.map (expandHome home')) ∧
    (∀ (t : PodTarget) (home : Option String) (command : String),
      (t.execArguments home command).getLast? = some command) ∧
    ∀ t, PodContract tools t := by
  refine ⟨fun t t' home home' command command' => ?_, fun t home command => ?_,
    keepsPodContract tools⟩
  · rw [PodTarget.execArguments_eq_iff, PodTarget.line, PodTarget.line, PodLine.mk.injEq]
    constructor
    · rintro ⟨hkubeconfig, hcontext, hnamespace, hpod, hcontainer, hcommand⟩
      exact ⟨hcommand, hpod, hnamespace, hcontainer, hcontext, hkubeconfig⟩
    · rintro ⟨hcommand, hpod, hnamespace, hcontainer, hcontext, hkubeconfig⟩
      exact ⟨hkubeconfig, hcontext, hnamespace, hpod, hcontainer, hcommand⟩
  · rw [t.execArguments_eq_concat]
    exact List.getLast?_concat

/-- Pods whose texts look like flags, and a path that two spellings have in common. -/
theorem pods_unambiguous_flaglike :
    let pod : PodTarget := { pod := "-c", container := some "exec", context := some "-n" }
    let other : PodTarget := { pod := "-c", container := some "exec", namespaceName := some "-n" }
    let tilde : PodTarget := { pod := "member-0", kubeconfig := some "~/.kube/bench" }
    let absolute : PodTarget := { tilde with kubeconfig := some "/home/sim/.kube/bench" }
    pod.execArguments none "uptime" ≠ other.execArguments none "uptime" ∧
      tilde.execArguments (some "/home/sim") "uptime" =
        absolute.execArguments (some "/home/sim") "uptime" ∧
      tilde.execArguments none "uptime" ≠ absolute.execArguments none "uptime" ∧
      ∃ later, ((Remote.mk {} (.pod pod)).copyFrom
          (Machine.answering fun _ => .ok { ending := .exited 0 }).witnessed "workers/" "out"
          (some "upload") ((), [])).2.2 =
        .created "out" (.ok ()) :: .ran ⟨"kubectl", ["--context", "-n", "exec", "-c", "-c", "exec",
          "--", "sh", "-c", archiveScript "workers/" "upload"], []⟩ (.ok { ending := .exited 0 }) ::
          later := by
  intro pod other tilde absolute
  obtain ⟨hsame, -, hcontract⟩ := pods_unambiguous {}
  refine ⟨?_, (hsame _ _ _ _ _ _).mpr (by decide), ?_, ?_⟩
  · rw [Ne, hsame]
    decide
  · rw [Ne, hsame]
    decide
  · exact (hcontract pod).archive _ () () "workers/" "out" "upload" rfl

end AgentFleet
