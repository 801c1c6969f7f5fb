import AgentFleet.Proofs.Machine.Launch
import AgentFleet.Settings

/-!
# Looking for the settings

Settings are loaded from one file or from none. A variable names the file, or else it
is the first of two that exists, in the current directory or in the directory of the
user's settings (`Settings.UserDirectory`); and once there is a choice it stays,
whatever the file turns out to be (`Settings.Loads`). A search is kept with everything
that it looks at (`Settings.Search`), and nothing else has a say: two machines that
give the same answers to these looks load the same settings (`Search.loadDefault_congr`),
whatever other files there are. The one content among them is that of the chosen file
(`loadDefault_keeps_choice`).
-/

namespace AgentFleet

variable {σ τ : Type}

/-! ### Looks at a machine -/

/-- A look at something that a machine has. -/
inductive Look where
  /-- At the value of an environment variable. -/
  | environment (name : String)
  /-- At the home directory of the user's account. -/
  | account
  /-- At whether something has a path. -/
  | existence (path : String)
  /-- At the content of a file. -/
  | content (path : String)
  deriving DecidableEq, Repr

namespace Look

/-- Two machines give a look the same answer. -/
def Same (m : Machine σ) (s : σ) (m' : Machine τ) (s' : τ) : Look → Prop
  | environment name => m'.environment? name s' = m.environment? name s
  | account => m'.accountHome? s' = m.accountHome? s
  | existence path => m'.pathExists path s' = m.pathExists path s
  | content path => m'.readFile path s' = m.readFile path s

/-- The file whose content is looked at. -/
def content? : Look → Option String
  | content path => some path
  | environment _ | account | existence _ => none

end Look

namespace Settings

/-! ### The directory of the user -/

/-- A path leads to something in a directory: a slash stands between the two, unless the directory
ends in one. -/
inductive LeadsTo (directory name : String) : String → Prop
  /-- The directory ends in a slash, or its name is empty. -/
  | closed : (∀ c ∈ directory.toList.getLast?, c = '/') → LeadsTo directory name (directory ++ name)
  /-- It ends in something else. -/
  | opened {c : Char} : directory.toList.getLast? = some c → c ≠ '/' →
      LeadsTo directory name (directory ++ "/" ++ name)

theorem leadsTo_iff {directory name path : String} :
    LeadsTo directory name path ↔ path = pathIn directory name := by
  unfold pathIn
  constructor
  · intro h
    cases h with
    | closed hall => rw [if_pos (by simpa [Option.all_eq_true] using hall)]
    | opened hlast hne => rw [if_neg (by simpa [hlast] using hne)]
  · rintro rfl
    split
    case isTrue hall => exact .closed (by simpa [Option.all_eq_true] using hall)
    case isFalse hnot =>
      cases hlast : directory.toList.getLast? with
      | none => simp [hlast] at hnot
      | some c => exact .opened hlast (by simpa [hlast] using hnot)

/-- The home directory of the user, if there is one. -/
inductive Home (m : Machine σ) (s : σ) : Option String → Prop
  /-- A variable names it. -/
  | named {home : String} : m.environment? "HOME" s = some home → home ≠ "" → Home m s (some home)
  /-- The variable names none, and the account may have one. -/
  | account : (∀ home ∈ m.environment? "HOME" s, home = "") → Home m s (m.accountHome? s)

theorem home_iff {m : Machine σ} {s : σ} {home : Option String} :
    Home m s home ↔ home = m.home? s := by
  unfold Machine.home?
  constructor
  · intro h
    cases h with
    | named hvariable hne => simp [hvariable, Option.filter_some, hne]
    | account hnone =>
      cases hvariable : m.environment? "HOME" s with
      | none => rfl
      | some value => simp [hnone value hvariable, Option.filter_some]
  · rintro rfl
    cases hvariable : m.environment? "HOME" s with
    | none => exact .account (by simp [hvariable])
    | some value =>
      by_cases hvalue : value = ""
      · subst hvalue
        exact .account (by simp [hvariable])
      · have hnamed : (some value).filter (fun home => !home.isEmpty) = some value := by
          simp [Option.filter_some, hvalue]
        rw [hnamed]
        exact .named hvariable hvalue

/-- The directory of the user's settings, if there is one. -/
inductive UserDirectory (m : Machine σ) (s : σ) : Option String → Prop
  /-- A variable names it from the root on. -/
  | named {directory : String} : m.environment? "XDG_CONFIG_HOME" s = some directory →
      directory.startsWith "/" = true → UserDirectory m s (some directory)
  /-- The variable names none, and it is in the home directory. -/
  | home {home directory : String} :
      (∀ d ∈ m.environment? "XDG_CONFIG_HOME" s, d.startsWith "/" = false) →
      Home m s (some home) → LeadsTo home ".config" directory → UserDirectory m s (some directory)
  /-- There is no home directory either. -/
  | homeless : (∀ d ∈ m.environment? "XDG_CONFIG_HOME" s, d.startsWith "/" = false) →
      Home m s none → UserDirectory m s none

theorem userDirectory?_of_unnamed {m : Machine σ} {s : σ}
    (h : ∀ d ∈ m.environment? "XDG_CONFIG_HOME" s, d.startsWith "/" = false) :
    userDirectory? m s = (m.home? s).map fun home => pathIn home ".config" := by
  unfold userDirectory?
  cases hvariable : m.environment? "XDG_CONFIG_HOME" s with
  | none => rfl
  | some d => simp [h d hvariable, homeSettings?]

theorem userDirectory_of_unnamed {m : Machine σ} {s : σ}
    (h : ∀ d ∈ m.environment? "XDG_CONFIG_HOME" s, d.startsWith "/" = false) :
    UserDirectory m s (userDirectory? m s) := by
  have hhome : Home m s (m.home? s) := home_iff.mpr rfl
  rw [userDirectory?_of_unnamed h]
  cases hfound : m.home? s with
  | none => exact .homeless h (hfound ▸ hhome)
  | some home => exact .home h (hfound ▸ hhome) (leadsTo_iff.mpr rfl)

theorem userDirectory_iff {m : Machine σ} {s : σ} {directory : Option String} :
    UserDirectory m s directory ↔ directory = userDirectory? m s := by
  constructor
  · intro h
    cases h with
    | named hvariable hroot => simp [userDirectory?, hvariable, hroot]
    | home hunnamed hhome hpath =>
      rw [userDirectory?_of_unnamed hunnamed, ← home_iff.mp hhome, leadsTo_iff.mp hpath]
      rfl
    | homeless hunnamed hhome =>
      rw [userDirectory?_of_unnamed hunnamed, ← home_iff.mp hhome]
      rfl
  · rintro rfl
    cases hvariable : m.environment? "XDG_CONFIG_HOME" s with
    | none => exact userDirectory_of_unnamed (by simp [hvariable])
    | some d =>
      cases hroot : d.startsWith "/" with
      | false => exact userDirectory_of_unnamed (by simpa [hvariable] using hroot)
      | true =>
        have hnamed : userDirectory? m s = some d := by simp [userDirectory?, hvariable, hroot]
        rw [hnamed]
        exact .named hvariable hroot

/-! ### The search -/

/-- The looks from which the directory of the user's settings is known. -/
def directoryLooks : List Look :=
  [.environment "XDG_CONFIG_HOME", .environment "HOME", .account]

/-- What the search for a settings file looks at until it has chosen, and its choice. -/
inductive Search (m : Machine σ) (s : σ) : List Look → Option String → Prop
  /-- The variable names the file, which need not be there. -/
  | named {path : String} : m.environment? "SIMFLEET_CONFIG" s = some path →
      Search m s [.environment "SIMFLEET_CONFIG"] (some path)
  /-- The file is in the current directory. -/
  | current : m.environment? "SIMFLEET_CONFIG" s = none → m.pathExists "simfleet.toml" s = true →
      Search m s [.environment "SIMFLEET_CONFIG", .existence "simfleet.toml"] (some "simfleet.toml")
  /-- It is not, but there is one in the directory of the user's settings. -/
  | user {directory path : String} : m.environment? "SIMFLEET_CONFIG" s = none →
      m.pathExists "simfleet.toml" s = false → UserDirectory m s (some directory) →
      LeadsTo directory "simfleet/simfleet.toml" path → m.pathExists path s = true →
      Search m s
        ([.environment "SIMFLEET_CONFIG", .existence "simfleet.toml", .existence path] ++
          directoryLooks)
        (some path)
  /-- There is none there either. -/
  | missing {directory path : String} : m.environment? "SIMFLEET_CONFIG" s = none →
      m.pathExists "simfleet.toml" s = false → UserDirectory m s (some directory) →
      LeadsTo directory "simfleet/simfleet.toml" path → m.pathExists path s = false →
      Search m s
        ([.environment "SIMFLEET_CONFIG", .existence "simfleet.toml", .existence path] ++
          directoryLooks)
        none
  /-- The user has no directory of settings. -/
  | homeless : m.environment? "SIMFLEET_CONFIG" s = none → m.pathExists "simfleet.toml" s = false →
      UserDirectory m s none →
      Search m s ([.environment "SIMFLEET_CONFIG", .existence "simfleet.toml"] ++ directoryLooks)
        none

section Search

variable {m : Machine σ} {s : σ} {looks : List Look} {choice : Option String}

theorem exists_search (m : Machine σ) (s : σ) : ∃ looks choice, Search m s looks choice := by
  cases hvariable : m.environment? "SIMFLEET_CONFIG" s with
  | some path => exact ⟨_, _, .named hvariable⟩
  | none =>
    cases hcurrent : m.pathExists "simfleet.toml" s with
    | true => exact ⟨_, _, .current hvariable hcurrent⟩
    | false =>
      have hdirectory : UserDirectory m s (userDirectory? m s) := userDirectory_iff.mpr rfl
      cases hfound : userDirectory? m s with
      | none => exact ⟨_, _, .homeless hvariable hcurrent (hfound ▸ hdirectory)⟩
      | some directory =>
        have hpath : LeadsTo directory "simfleet/simfleet.toml" (fileIn directory) :=
          leadsTo_iff.mpr rfl
        cases huser : m.pathExists (fileIn directory) s with
        | true => exact ⟨_, _, .user hvariable hcurrent (hfound ▸ hdirectory) hpath huser⟩
        | false => exact ⟨_, _, .missing hvariable hcurrent (hfound ▸ hdirectory) hpath huser⟩

theorem chosenFile?_of_unnamed (hvariable : m.environment? "SIMFLEET_CONFIG" s = none) :
    chosenFile? m s =
      ("simfleet.toml" :: ((userDirectory? m s).map fun directory =>
        pathIn directory "simfleet/simfleet.toml").toList).find? (m.pathExists · s) := by
  unfold chosenFile?
  rw [show m.environment? fileVariable s = none from hvariable]
  rfl

theorem Search.chosenFile?_eq (h : Search m s looks choice) : chosenFile? m s = choice := by
  cases h with
  | named hvariable =>
    unfold chosenFile?
    rw [show m.environment? fileVariable s = _ from hvariable]
  | current hvariable hcurrent => simp [chosenFile?_of_unnamed hvariable, hcurrent]
  | user hvariable hcurrent hdirectory hpath huser =>
    rw [leadsTo_iff.mp hpath] at huser ⊢
    simp [chosenFile?_of_unnamed hvariable, ← userDirectory_iff.mp hdirectory, hcurrent, huser]
  | missing hvariable hcurrent hdirectory hpath huser =>
    rw [leadsTo_iff.mp hpath] at huser
    simp [chosenFile?_of_unnamed hvariable, ← userDirectory_iff.mp hdirectory, hcurrent, huser]
  | homeless hvariable hcurrent hdirectory =>
    simp [chosenFile?_of_unnamed hvariable, ← userDirectory_iff.mp hdirectory, hcurrent]

section Congr

variable {m' : Machine τ} {s' : τ}

theorem userDirectory?_congr (h : ∀ look ∈ directoryLooks, look.Same m s m' s') :
    userDirectory? m' s' = userDirectory? m s := by
  have hxdg : m'.environment? "XDG_CONFIG_HOME" s' = m.environment? "XDG_CONFIG_HOME" s :=
    h (.environment "XDG_CONFIG_HOME") (by decide)
  have hhome : m'.environment? "HOME" s' = m.environment? "HOME" s :=
    h (.environment "HOME") (by decide)
  have haccount : m'.accountHome? s' = m.accountHome? s := h .account (by decide)
  simp only [userDirectory?, homeSettings?, Machine.home?, hxdg, hhome, haccount]

/-- Machines that give a search the same answers lead it to the same choice. -/
theorem Search.congr (h : Search m s looks choice) (hsame : ∀ look ∈ looks, look.Same m s m' s') :
    Search m' s' looks choice := by
  have hvariable : m'.environment? "SIMFLEET_CONFIG" s' = m.environment? "SIMFLEET_CONFIG" s :=
    hsame (.environment "SIMFLEET_CONFIG") (by cases h <;> simp)
  have hexists : ∀ {path}, .existence path ∈ looks → m'.pathExists path s' = m.pathExists path s :=
    fun hlook => hsame _ hlook
  have hwhere : directoryLooks ⊆ looks → ∀ {directory}, UserDirectory m s directory →
      UserDirectory m' s' directory := fun hlooks directory hdirectory => by
    rw [userDirectory_iff] at hdirectory ⊢
    rw [userDirectory?_congr fun look hlook => hsame look (hlooks hlook), hdirectory]
  cases h with
  | named hnamed => exact .named (hvariable.trans hnamed)
  | current hunset hcurrent =>
    exact .current (hvariable.trans hunset) ((hexists (by simp)).trans hcurrent)
  | user hunset hcurrent hdirectory hpath huser =>
    exact .user (hvariable.trans hunset) ((hexists (by simp)).trans hcurrent)
      (hwhere (List.subset_append_right _ _) hdirectory) hpath ((hexists (by simp)).trans huser)
  | missing hunset hcurrent hdirectory hpath huser =>
    exact .missing (hvariable.trans hunset) ((hexists (by simp)).trans hcurrent)
      (hwhere (List.subset_append_right _ _) hdirectory) hpath ((hexists (by simp)).trans huser)
  | homeless hunset hcurrent hdirectory =>
    exact .homeless (hvariable.trans hunset) ((hexists (by simp)).trans hcurrent)
      (hwhere (List.subset_append_right _ _) hdirectory)

end Congr

/-- A file that is named is chosen without any other look. -/
theorem Search.looks_eq {path : String} (h : Search m s looks choice)
    (hvariable : m.environment? "SIMFLEET_CONFIG" s = some path) :
    looks = [.environment "SIMFLEET_CONFIG"] := by
  cases h with
  | named => rfl
  | current hunset => cases hvariable.symm.trans hunset
  | user hunset => cases hvariable.symm.trans hunset
  | missing hunset => cases hvariable.symm.trans hunset
  | homeless hunset => cases hvariable.symm.trans hunset

/-- A search looks into no file. -/
theorem Search.content?_eq_none (h : Search m s looks choice) :
    ∀ look ∈ looks, look.content? = none := by
  cases h <;> simp [directoryLooks, Look.content?]

end Search

/-! ### The chosen file -/

/-- What loading settings from a file comes to. -/
inductive Loads (m : Machine σ) (s : σ) (path : String) : Except FleetError Settings → Prop
  /-- The file cannot be read, or is no text. -/
  | unreadable {reason : String} : m.readText path s = .error reason →
      Loads m s path (.error (.config (path ++ ": " ++ reason)))
  /-- The text of the file has no settings. -/
  | malformed {text : String} : m.readText path s = .ok text → ofText? text = none →
      Loads m s path (.error (.config (path ++ ": " ++ malformedMessage)))
  /-- The text of the file has these settings. -/
  | loaded {text : String} {c : Settings} : m.readText path s = .ok text → ofText? text = some c →
      Loads m s path (.ok c)

theorem loads_load (m : Machine σ) (s : σ) (path : String) : Loads m s path (load m path s) := by
  unfold load
  cases htext : m.readText path s with
  | error reason => exact .unreadable htext
  | ok text =>
    dsimp only
    cases hsettings : ofText? text with
    | none => exact .malformed htext hsettings
    | some c => exact .loaded htext hsettings

theorem Loads.exists_reason {m : Machine σ} {s : σ} {path : String} {e : FleetError}
    (h : Loads m s path (.error e)) : ∃ reason, e = .config (path ++ ": " ++ reason) := by
  cases h with
  | unreadable => exact ⟨_, rfl⟩
  | malformed => exact ⟨_, rfl⟩

/-- What a choice has looked at. -/
def contentLooks (choice : Option String) : List Look :=
  (choice.map Look.content).toList

theorem loadDefault_eq_load {m : Machine σ} {s : σ} {path : String}
    (h : chosenFile? m s = some path) : loadDefault m s = load m path s := by
  rw [loadDefault, h]

theorem loadDefault_eq_default {m : Machine σ} {s : σ} (h : chosenFile? m s = none) :
    loadDefault m s = .ok {} := by
  rw [loadDefault, h]

/-- Settings depend only on what the search looks at and on the content of the file that it
chooses. -/
theorem Search.loadDefault_congr {m : Machine σ} {s : σ} {m' : Machine τ} {s' : τ}
    {looks : List Look} {choice : Option String} (h : Search m s looks choice)
    (hsame : ∀ look ∈ looks ++ contentLooks choice, look.Same m s m' s') :
    loadDefault m' s' = loadDefault m s := by
  have h' : Search m' s' looks choice :=
    h.congr fun look hlook => hsame look (List.mem_append_left _ hlook)
  cases choice with
  | none => rw [loadDefault_eq_default h.chosenFile?_eq, loadDefault_eq_default h'.chosenFile?_eq]
  | some path =>
    have hcontent : m'.readFile path s' = m.readFile path s :=
      hsame (.content path) (List.mem_append_right _ (by simp [contentLooks]))
    rw [loadDefault_eq_load h.chosenFile?_eq, loadDefault_eq_load h'.chosenFile?_eq, load, load,
      Machine.readText, Machine.readText, hcontent]

/-- Settings come from the one file that is chosen, or from none: the search ends with the file that
the variable names, or else with the first that exists, and it looks into no other. What the file
turns out to be does not change the choice: its settings are loaded, or there is an error of the
settings with its path; only without a file do the defaults hold. -/
theorem loadDefault_keeps_choice (m : Machine σ) (s : σ) :
    ∃ looks, Search m s looks (chosenFile? m s) ∧
      (∀ path, Look.content path ∈ looks ++ contentLooks (chosenFile? m s) ↔
        chosenFile? m s = some path) ∧
      (∀ {τ : Type} (m' : Machine τ) (s' : τ),
        (∀ look ∈ looks ++ contentLooks (chosenFile? m s), look.Same m s m' s') →
        loadDefault m' s' = loadDefault m s) ∧
      (chosenFile? m s = none → loadDefault m s = .ok {}) ∧
      ∀ path, chosenFile? m s = some path → Loads m s path (loadDefault m s) ∧
        ∀ e, loadDefault m s = .error e → ∃ reason, e = .config (path ++ ": " ++ reason) := by
  obtain ⟨looks, choice, hsearch⟩ := exists_search m s
  obtain rfl := hsearch.chosenFile?_eq
  refine ⟨looks, hsearch, fun path => ?_, fun m' s' => hsearch.loadDefault_congr,
    loadDefault_eq_default, fun path hchosen => ?_⟩
  · have hnot : .content path ∉ looks := fun hlook => by
      cases hsearch.content?_eq_none _ hlook
    cases hchosen : chosenFile? m s <;> simp [contentLooks, hnot, eq_comm]
  · have hloads : Loads m s path (loadDefault m s) :=
      loadDefault_eq_load hchosen ▸ loads_load m s path
    exact ⟨hloads, fun e he => (he ▸ hloads).exists_reason⟩

/-- A machine with a variable that names a file, and another file where it is looked for first. -/
def lostFile : Machine Unit :=
  { Machine.answering (fun _ => .error .notFound) with
    pathExists := fun path _ => path == "simfleet.toml"
    readFile := fun path _ => if path == "simfleet.toml" then .ok [] else .error .notFound
    environment? := fun name _ => if name == "SIMFLEET_CONFIG" then some "lost.toml" else none }

/-- A machine with a file of the user that has no settings. -/
def brokenFile : Machine Unit :=
  { Machine.answering (fun _ => .error .notFound) with
    pathExists := fun path _ => path == "/home/sim/.config/simfleet/simfleet.toml"
    readFile := fun _ _ => .ok (Text.encode "[hosts")
    environment? := fun name _ => if name == "HOME" then some "/home/sim" else none }

/-- A file that is named and not there is not passed over for one that is, whatever other files
there are. A file of the user that has no settings is an error, and without any file there are the
defaults. -/
theorem loadDefault_keeps_choice_broken :
    (∀ m : Machine Unit, m.environment? "SIMFLEET_CONFIG" () = some "lost.toml" →
      m.readFile "lost.toml" () = .error .notFound →
      loadDefault m () = .error (.config "lost.toml: No such file or directory (os error 2)")) ∧
    ((∃ looks, Search brokenFile () looks (some "/home/sim/.config/simfleet/simfleet.toml")) ∧
      ∃ reason, loadDefault brokenFile () =
        .error (.config ("/home/sim/.config/simfleet/simfleet.toml: " ++ reason))) ∧
    loadDefault (Machine.answering fun _ => .error .notFound) () = .ok {} := by
  refine ⟨fun m hvariable hmissing => ?lost, ?broken, ?defaults⟩
  case lost =>
    obtain ⟨looks, hsearch, -, hsame, -⟩ := loadDefault_keeps_choice lostFile ()
    obtain rfl : looks = [.environment "SIMFLEET_CONFIG"] := hsearch.looks_eq rfl
    have hlost : loadDefault lostFile () =
        .error (.config "lost.toml: No such file or directory (os error 2)") := rfl
    rw [← hlost]
    refine hsame m () (List.forall_mem_cons.mpr ⟨hvariable, ?_⟩)
    exact List.forall_mem_singleton.mpr hmissing
  case broken =>
    obtain ⟨looks, hsearch, -, -, -, hchosen⟩ := loadDefault_keeps_choice brokenFile ()
    have hchoice : chosenFile? brokenFile () =
        some "/home/sim/.config/simfleet/simfleet.toml" := rfl
    obtain ⟨e, herror⟩ : ∃ e, loadDefault brokenFile () = .error e := by
      have hfails : (loadDefault brokenFile ()).isOk = false := by decide +kernel
      cases hload : loadDefault brokenFile () with
      | error e => exact ⟨e, rfl⟩
      | ok c => simp [hload, Except.isOk, Except.toBool] at hfails
    obtain ⟨reason, rfl⟩ := (hchosen _ hchoice).2 e herror
    exact ⟨⟨looks, hchoice ▸ hsearch⟩, reason, herror⟩
  case defaults =>
    obtain ⟨-, -, -, -, hdefault, -⟩ :=
      loadDefault_keeps_choice (Machine.answering fun _ => .error .notFound) ()
    exact hdefault rfl

end Settings

end AgentFleet
