import AgentFleet.Proofs.Loading.Identities

/-!
# Which answer loading gives

Loading a file has three ends. A file that is missing is an error of its own; a
file that lists hosts is selected from; and only for a file that is refused or
lists nobody are the inventory tools asked, once. What they answer is taken as it
is, and when they fail, the reason why the file was refused comes first
(`loadInventory_precedence`). A machine that records what it starts
(`Machine.recorded`) shows that no process runs before that, and that the second
tool runs only after the first one has exited with zero.
-/

namespace AgentFleet

variable {σ : Type} {m : Machine σ} {settings : InventorySettings} {d : HostDefaults} {path : String}
  {p : HostPattern}

/-! ### What a machine starts -/

/-- The machine that also keeps a list of the processes that it has been asked to start. -/
def Machine.recorded (m : Machine σ) : Machine (σ × List Invocation) where
  run i s := ((m.run i s.1).1, (m.run i s.1).2, s.2 ++ [i])
  readFile path s := m.readFile path s.1
  pathExists path s := m.pathExists path s.1
  createDirectories path s :=
    ((m.createDirectories path s.1).1, (m.createDirectories path s.1).2, s.2)
  environment? name s := m.environment? name s.1
  accountHome? s := m.accountHome? s.1

/-- The processes that running a tool starts: one, or none when it names no program. -/
def Tool.started (tool : Tool) (arguments : List String) : List Invocation :=
  match tool with
  | [] => []
  | program :: base => [{ program := program, arguments := base ++ arguments }]

theorem run_recorded (i : Invocation) (s : σ) (log : List Invocation) :
    m.recorded.run i (s, log) = ((m.run i s).1, (m.run i s).2, log ++ [i]) := rfl

/-- A machine that records its processes gives a tool the same answer. -/
theorem runInventoryTool_recorded (tool : Tool) (arguments : List String) (s : σ)
    (log : List Invocation) :
    runInventoryTool m.recorded tool arguments (s, log) =
      ((runInventoryTool m tool arguments s).1, (runInventoryTool m tool arguments s).2,
        log ++ tool.started arguments) := by
  cases tool with
  | nil => simp [runInventoryTool, Tool.started]
  | cons program base =>
    unfold runInventoryTool Tool.started
    dsimp only
    rw [run_recorded]
    rcases m.run { program := program, arguments := base ++ arguments } s with ⟨e | o, t⟩
    · rfl
    · rfl

/-- The first tool has exited with zero for a pattern. -/
def HasListed (m : Machine σ) (settings : InventorySettings) (path : String) (p : HostPattern)
    (s : σ) : Prop :=
  ∃ listing s', Prints m settings.ansible ["-i", path, "--list-hosts", p.text] s listing s'

theorem hasListed_iff {s : σ} :
    HasListed m settings path p s ↔
      ∃ listing, (runInventoryTool m settings.ansible ["-i", path, "--list-hosts", p.text] s).1 =
        .ok listing := by
  unfold HasListed
  refine exists_congr fun listing => ?_
  simp only [← runInventoryTool_eq_ok_iff]
  constructor
  · rintro ⟨s', h⟩
    rw [h]
  · intro h
    exact ⟨_, Prod.ext h rfl⟩

/-- The process that asking for a listing starts. -/
def listingStarted (settings : InventorySettings) (path : String) (p : HostPattern) :
    List Invocation :=
  settings.ansible.started ["-i", path, "--list-hosts", p.text]

/-- The process that asking for a dump starts. -/
def dumpStarted (settings : InventorySettings) (path : String) : List Invocation :=
  settings.ansibleInventory.started ["-i", path, "-y", "--list"]

/-- The processes that asking the tools starts: the second one only after the first has listed. -/
def toolsStarted (m : Machine σ) (settings : InventorySettings) (path : String) (p : HostPattern)
    (s : σ) : List Invocation :=
  listingStarted settings path p ++
    match (runInventoryTool m settings.ansible ["-i", path, "--list-hosts", p.text] s).1 with
    | .ok _ => dumpStarted settings path
    | .error _ => []

theorem toolsStarted_of_hasListed {s : σ} (h : HasListed m settings path p s) :
    toolsStarted m settings path p s = listingStarted settings path p ++ dumpStarted settings path := by
  obtain ⟨listing, hlisting⟩ := hasListed_iff.mp h
  rw [toolsStarted, hlisting]

theorem toolsStarted_of_not_hasListed {s : σ} (h : ¬ HasListed m settings path p s) :
    toolsStarted m settings path p s = listingStarted settings path p := by
  rw [hasListed_iff] at h
  unfold toolsStarted
  cases hlisting : (runInventoryTool m settings.ansible ["-i", path, "--list-hosts", p.text] s).1 with
  | error e => exact List.append_nil _
  | ok listing => exact absurd ⟨listing, hlisting⟩ h

theorem resolve_recorded (s : σ) (log : List Invocation) :
    resolve m.recorded settings d path p (s, log) =
      ((resolve m settings d path p s).1, (resolve m settings d path p s).2,
        log ++ toolsStarted m settings path p s) := by
  unfold resolve toolsStarted listingStarted dumpStarted
  rw [runInventoryTool_recorded]
  rcases runInventoryTool m settings.ansible ["-i", path, "--list-hosts", p.text] s with
    ⟨e | listing, t⟩
  case error => simp
  case ok =>
    dsimp only
    rw [runInventoryTool_recorded, List.append_assoc]
    rcases runInventoryTool m settings.ansibleInventory ["-i", path, "-y", "--list"] t with
      ⟨e | dump, u⟩
    · rfl
    · rfl

/-! ### What a file holds -/

/-- A file holds the text of a document that is accepted with some records. -/
def FileLists (m : Machine σ) (d : HostDefaults) (path : String) (s : σ) (records : List HostRecord) :
    Prop :=
  ∃ text doc, m.readText path s = .ok text ∧ Document.read? text = some doc ∧
    inventory doc d = .ok records

/-- Why a file is refused. -/
inductive FileRefused (m : Machine σ) (d : HostDefaults) (path : String) (s : σ) :
    InventoryError → Prop
  /-- It cannot be read as a text. -/
  | unreadable {reason : String} : m.readText path s = .error reason →
      FileRefused m d path s (.io (path ++ ": " ++ reason))
  /-- Its text is no document. -/
  | malformed {text : String} : m.readText path s = .ok text → Document.read? text = none →
      FileRefused m d path s (.malformed "the text is no document")
  /-- Its document is no inventory. -/
  | invalid {text : String} {doc : Value} {e : InventoryError} : m.readText path s = .ok text →
      Document.read? text = some doc → inventory doc d = .error e → FileRefused m d path s e

theorem readInventory_eq_ok_iff {s : σ} {records : List HostRecord} :
    readInventory m d path s = .ok records ↔ FileLists m d path s records := by
  unfold readInventory FileLists inventoryOfText
  cases m.readText path s with
  | error reason => simp
  | ok text =>
    dsimp only
    cases hdoc : Document.read? text with
    | none => simp [hdoc]
    | some doc => simp [hdoc]

theorem readInventory_eq_error_iff {s : σ} {e : InventoryError} :
    readInventory m d path s = .error e ↔ FileRefused m d path s e := by
  unfold readInventory inventoryOfText
  constructor
  · intro h
    cases htext : m.readText path s with
    | error reason =>
      rw [htext] at h
      obtain rfl := Except.error.inj h
      exact .unreadable htext
    | ok text =>
      rw [htext] at h
      dsimp only at h
      cases hdoc : Document.read? text with
      | none =>
        rw [hdoc] at h
        obtain rfl := Except.error.inj h
        exact .malformed htext hdoc
      | some doc =>
        rw [hdoc] at h
        exact .invalid htext hdoc h
  · rintro (htext | ⟨htext, hdoc⟩ | ⟨htext, hdoc, he⟩)
    · rw [htext]
    · rw [htext]
      dsimp only
      rw [hdoc]
    · rw [htext]
      dsimp only
      rw [hdoc]
      exact he

/-- A file lists hosts, or it is refused. -/
theorem fileLists_or_fileRefused (m : Machine σ) (d : HostDefaults) (path : String) (s : σ) :
    (∃ records, FileLists m d path s records) ∨ ∃ e, FileRefused m d path s e := by
  cases hread : readInventory m d path s with
  | ok records => exact Or.inl ⟨records, readInventory_eq_ok_iff.mp hread⟩
  | error e => exact Or.inr ⟨e, readInventory_eq_error_iff.mp hread⟩

/-! ### The order of the answers -/

/-- A machine that records its processes loads the same hosts and ends in the same state. -/
theorem loadInventory_recorded (path : Option String) (s : σ) (log : List Invocation) :
    let load := loadInventory m.recorded settings d path p (s, log)
    (load.1, load.2.1) = loadInventory m settings d path p s := by
  have hexists : ∀ file, m.recorded.pathExists file (s, log) = m.pathExists file s := fun _ => rfl
  have hread : ∀ file, readInventory m.recorded d file (s, log) = readInventory m d file s :=
    fun _ => rfl
  unfold loadInventory
  simp only [hexists, hread, resolve_recorded]
  split
  · rfl
  · split
    · rfl
    · rfl

/-- Loading has asked the inventory tools once, and the second one was started only if the first one
had exited with zero. -/
structure AsksTools (m : Machine σ) (settings : InventorySettings) (d : HostDefaults) (path : String)
    (p : HostPattern) (s : σ) (after : σ × List Invocation) : Prop where
  state : after.1 = (resolve m settings d path p s).2
  both : HasListed m settings path p s →
    after.2 = listingStarted settings path p ++ dumpStarted settings path
  onlyFirst : ¬ HasListed m settings path p s → after.2 = listingStarted settings path p

/-- For a file that gives no host the tools are asked, whether it has been refused or not. -/
theorem asksTools_of_findsNobody {path : Option String} {s : σ}
    (h : m.pathExists (path.getD settings.path) s = true)
    (hnobody : FindsNobody m d (path.getD settings.path) s) :
    let load := loadInventory m.recorded settings d path p (s, [])
    AsksTools m settings d (path.getD settings.path) p s load.2 ∧
      load.1 = preferNative (readInventory m d (path.getD settings.path) s)
        (resolve m settings d (path.getD settings.path) p s).1 := by
  have hload : loadInventory m.recorded settings d path p (s, []) = _ :=
    loadInventory_of_findsNobody h hnobody
  dsimp only
  rw [hload, resolve_recorded, List.nil_append]
  exact ⟨⟨rfl, toolsStarted_of_hasListed, toolsStarted_of_not_hasListed⟩, rfl⟩

/-- What loading a file comes to, and which processes it starts. A missing file is an error and a
file that lists hosts is selected from, and nothing is started for either. Otherwise the tools are
asked: their hosts are taken as they are, and when they fail, a file that has been refused gives its
own error and one that lists nobody gives theirs. -/
theorem loadInventory_precedence (m : Machine σ) (settings : InventorySettings) (d : HostDefaults)
    (path : Option String) (p : HostPattern) (s : σ) :
    let file := path.getD settings.path
    let answer := (resolve m settings d file p s).1
    let load := loadInventory m.recorded settings d path p (s, [])
    (load.1, load.2.1) = loadInventory m settings d path p s ∧
    ((∃ records, FileLists m d file s records) ∨ ∃ e, FileRefused m d file s e) ∧
    (m.pathExists file s = false → load = (.error (.notFound file), s, [])) ∧
    (m.pathExists file s = true →
      (∀ records, FileLists m d file s records → records ≠ [] →
        load = (.ok (p.select records), s, [])) ∧
      (FileLists m d file s [] → AsksTools m settings d file p s load.2 ∧ load.1 = answer) ∧
      ∀ e, FileRefused m d file s e → AsksTools m settings d file p s load.2 ∧
        (∀ records, answer = .ok records → load.1 = .ok records) ∧
        ∀ f, answer = .error f → load.1 = .error e) := by
  intro file answer load
  have hasks : ∀ native, readInventory m d file s = native → (∀ r rs, native ≠ .ok (r :: rs)) →
      m.pathExists file s = true →
      AsksTools m settings d file p s load.2 ∧ load.1 = preferNative native answer := by
    rintro _ rfl hnobody hexists
    exact asksTools_of_findsNobody hexists hnobody
  refine ⟨loadInventory_recorded path s [], fileLists_or_fileRefused m d file s, fun hmissing => ?_,
    fun hexists => ⟨fun records hlists hne => ?_, fun hlists => ?_, fun e hrefused => ?_⟩⟩
  · exact loadInventory_of_not_exists hmissing
  · exact loadInventory_of_hosts hexists (readInventory_eq_ok_iff.mpr hlists) hne
  · obtain ⟨htools, hload⟩ := hasks _ (readInventory_eq_ok_iff.mpr hlists) (by simp) hexists
    exact ⟨htools, hload.trans (preferNative_ok [] answer)⟩
  · obtain ⟨htools, hload⟩ := hasks _ (readInventory_eq_error_iff.mpr hrefused) (by simp) hexists
    refine ⟨htools, fun records hanswer => ?_, fun f hanswer => ?_⟩
    · rw [hload, hanswer, preferNative]
    · rw [hload, hanswer, preferNative]

/-- A machine with a file, whose tools list one name and dump a text that is no document. -/
def garbledDump (file : String) : Machine Unit :=
  deskMachine file "  hosts (1):\n    a\n" "hosts: ["

/-- What both tools are started with. -/
def bothStarted : List Invocation :=
  [{ program := "ansible", arguments := ["-i", "inventory.yaml", "--list-hosts", "all"] },
    { program := "ansible-inventory", arguments := ["-i", "inventory.yaml", "-y", "--list"] }]

/-- A missing file starts nothing, and neither does one that lists a host. A file that is no document
keeps its error when the dump is none either, and one that lists nobody gets the error of the tools. -/
theorem loadInventory_precedence_garbled :
    let load := fun m : Machine Unit => loadInventory m.recorded {} {} none .everyHost ((), [])
    load { garbledDump "" with pathExists := fun _ _ => false } =
        (.error (.notFound "inventory.yaml"), (), []) ∧
      load (garbledDump "hosts:\n  - 10.0.0.1") =
        (.ok [{ sharedRecord with groupname := none }], (), []) ∧
      load (garbledDump "name: bench") =
        (.error (.fallback "the text is no document"), (), bothStarted) ∧
      load (garbledDump "hosts: [") =
        (.error (.malformed "the text is no document"), (), bothStarted) := by
  have hlisting : (runInventoryTool (garbledDump "") ["ansible"]
      ["-i", "inventory.yaml", "--list-hosts", "all"] ()).1 = .ok "  hosts (1):\n    a\n" := by
    decide +kernel
  have hstarted : ∀ file load, AsksTools (garbledDump file) {} {} "inventory.yaml" .everyHost () load →
      load = ((), bothStarted) :=
    fun file load h => Prod.ext rfl (h.both (hasListed_iff.mpr ⟨_, hlisting⟩))
  refine ⟨?missing, ?listed, ?nobody, ?refused⟩
  case missing =>
    obtain ⟨-, -, hmissing, -⟩ := loadInventory_precedence
      { garbledDump "" with pathExists := fun _ _ => false } {} {} none .everyHost ()
    exact hmissing rfl
  case listed =>
    obtain ⟨-, -, -, hend⟩ :=
      loadInventory_precedence (garbledDump "hosts:\n  - 10.0.0.1") {} {} none .everyHost ()
    obtain ⟨hlisted, -, -⟩ := hend rfl
    have hread : readInventory (garbledDump "hosts:\n  - 10.0.0.1") {} "inventory.yaml" () =
        .ok [{ sharedRecord with groupname := none }] := by decide +kernel
    exact (hlisted _ (readInventory_eq_ok_iff.mp hread) (by simp)).trans
      (Prod.ext (by decide +kernel) rfl)
  case nobody =>
    obtain ⟨-, -, -, hend⟩ :=
      loadInventory_precedence (garbledDump "name: bench") {} {} none .everyHost ()
    obtain ⟨-, hnobody, -⟩ := hend rfl
    obtain ⟨hasks, hload⟩ := hnobody (readInventory_eq_ok_iff.mp (by decide +kernel))
    exact Prod.ext (hload.trans (by decide +kernel)) (hstarted _ _ hasks)
  case refused =>
    obtain ⟨-, -, -, hend⟩ :=
      loadInventory_precedence (garbledDump "hosts: [") {} {} none .everyHost ()
    obtain ⟨-, -, hrefused⟩ := hend rfl
    have htext : (garbledDump "hosts: [").readText "inventory.yaml" () = .ok "hosts: [" := by
      decide +kernel
    obtain ⟨hasks, -, hload⟩ := hrefused _ (.malformed htext (by decide +kernel))
    exact Prod.ext (hload (.fallback "the text is no document") (by decide +kernel))
      (hstarted _ _ hasks)

end AgentFleet
