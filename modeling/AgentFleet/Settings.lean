import AgentFleet.Fleet.Operations
import AgentFleet.Inventory.Loading
import AgentFleet.Table.Reader

/-!
# Settings

The settings of the fleet manager, read from a file of five sections. Every
field that the file leaves out has its default, whatever other fields it sets;
fields and sections of other names are ignored. The file is named by an
environment variable, or else it is the first of two that exists.
-/

namespace AgentFleet

variable {σ : Type}

/-- The settings of the log. -/
structure LogSettings where
  /-- The least level that is logged. -/
  level : String := "info"
  deriving DecidableEq, Repr, Inhabited

/-- The settings of the fleet manager. -/
structure Settings where
  /-- Where the inventory is. -/
  inventory : InventorySettings := {}
  /-- What entries that leave fields out are given. -/
  hosts : HostDefaults := {}
  /-- The local programs that carry calls. -/
  tools : Tools := {}
  /-- Where the simulator lives on the hosts. -/
  agents : AgentSettings := {}
  /-- What is logged. -/
  log : LogSettings := {}
  deriving DecidableEq, Repr, Inhabited

/-! ### Fields -/

namespace TableValue

/-- A text. -/
def text? : TableValue → Option String
  | text s => some s
  | _ => none

/-- A number of 64 bits without a sign. -/
def natural? : TableValue → Option Nat
  | integer n => if 0 ≤ n && n < Int.pow 2 64 then some n.toNat else none
  | _ => none

/-- The texts of a list. -/
def textsOf? : List TableValue → Option (List String)
  | [] => some []
  | v :: vs =>
    match v.text?, textsOf? vs with
    | some s, some ss => some (s :: ss)
    | _, _ => none

/-- A list of texts. -/
def texts? : TableValue → Option (List String)
  | list _ items => textsOf? items
  | _ => none

end TableValue

/-- The fields of a section: by name, or by position when the section is a list; a moment is a
section that sets no field. -/
def sectionFields? (names : List String) : TableValue → Option Table
  | .table _ entries => some entries
  | .list _ items => some (names.zip items)
  | .moment => some []
  | _ => none

/-- A field of a section; a field that is left out has its default, one of the wrong kind none. -/
def fieldOr {α : Type} (read : TableValue → Option α) (default : α) (name : String) (t : Table) :
    Option α :=
  match t.lookup name with
  | none => some default
  | some v => read v

/-- A section of a file; a section that is left out has no fields. -/
def sectionOr {α : Type} (read : Table → Option α) (names : List String) (name : String)
    (t : Table) : Option α :=
  match t.lookup name with
  | none => read []
  | some v => (sectionFields? names v).bind read

/-! ### Sections -/

/-- The settings of the inventory section. -/
def InventorySettings.ofTable? (t : Table) : Option InventorySettings := do
  let d : InventorySettings := {}
  let path ← fieldOr TableValue.text? d.path "path" t
  let ansible ← fieldOr TableValue.texts? d.ansible "ansible" t
  let ansibleInventory ← fieldOr TableValue.texts? d.ansibleInventory "ansible_inventory" t
  return { path := path, ansible := ansible, ansibleInventory := ansibleInventory }

/-- The defaults of the hosts section. -/
def HostDefaults.ofTable? (t : Table) : Option HostDefaults := do
  let d : HostDefaults := {}
  let sshUser ← fieldOr TableValue.text? d.sshUser "ssh_user" t
  let identityFile ← fieldOr TableValue.text? d.identityFile "identity_file" t
  let timeout ← fieldOr TableValue.natural? d.connectTimeoutSecs "connect_timeout_secs" t
  let agentPort ← fieldOr TableValue.text? d.agentPort "agent_port" t
  return {
    sshUser := sshUser
    identityFile := identityFile
    connectTimeoutSecs := timeout
    agentPort := agentPort }

/-- The programs of the tools section. -/
def Tools.ofTable? (t : Table) : Option Tools := do
  let d : Tools := {}
  let ssh ← fieldOr TableValue.texts? d.ssh "ssh" t
  let scp ← fieldOr TableValue.texts? d.scp "scp" t
  let rsync ← fieldOr TableValue.texts? d.rsync "rsync" t
  let kubectl ← fieldOr TableValue.texts? d.kubectl "kubectl" t
  let tar ← fieldOr TableValue.texts? d.tar "tar" t
  return { ssh := ssh, scp := scp, rsync := rsync, kubectl := kubectl, tar := tar }

/-- The settings of the agents section. -/
def AgentSettings.ofTable? (t : Table) : Option AgentSettings := do
  let d : AgentSettings := {}
  let home ← fieldOr TableValue.text? d.simulatorHome "simulator_home" t
  return { simulatorHome := home }

/-- The settings of the log section. -/
def LogSettings.ofTable? (t : Table) : Option LogSettings := do
  let d : LogSettings := {}
  let level ← fieldOr TableValue.text? d.level "level" t
  return { level := level }

namespace Settings

/-- The settings of a file. -/
def ofTable? (t : Table) : Option Settings := do
  let inventory ←
    sectionOr InventorySettings.ofTable? ["path", "ansible", "ansible_inventory"] "inventory" t
  let hosts ←
    sectionOr HostDefaults.ofTable?
      ["ssh_user", "identity_file", "connect_timeout_secs", "agent_port"] "hosts" t
  let tools ← sectionOr Tools.ofTable? ["ssh", "scp", "rsync", "kubectl", "tar"] "tools" t
  let agents ← sectionOr AgentSettings.ofTable? ["simulator_home"] "agents" t
  let log ← sectionOr LogSettings.ofTable? ["level"] "log" t
  return { inventory := inventory, hosts := hosts, tools := tools, agents := agents, log := log }

/-- The wording for a text that is no settings file. -/
def malformedMessage : String := "TOML parse error"

/-- The settings of the text of a file. -/
def ofText? (text : String) : Option Settings :=
  (Table.read? text).bind ofTable?

/-- The settings of a text, or why it has none. -/
def parse (text : String) : Except FleetError Settings :=
  match ofText? text with
  | some settings => .ok settings
  | none => .error (.config malformedMessage)

/-! ### Files -/

/-- The settings of a file, or why they cannot be loaded. -/
def load (m : Machine σ) (path : String) (s : σ) : Except FleetError Settings :=
  match m.readText path s with
  | .error reason => .error (.config (path ++ ": " ++ reason))
  | .ok text =>
    match ofText? text with
    | some settings => .ok settings
    | none => .error (.config (path ++ ": " ++ malformedMessage))

/-- The environment variable that names the file. -/
def fileVariable : String := "SIMFLEET_CONFIG"

/-- The name of a settings file. -/
def fileName : String := "simfleet.toml"

/-- The path of something in a directory; a directory that ends in a slash is given no other. -/
def pathIn (directory name : String) : String :=
  if directory.toList.getLast?.all (· == '/') then directory ++ name else directory ++ "/" ++ name

/-- The directory of settings in the home directory. -/
def homeSettings? (m : Machine σ) (s : σ) : Option String :=
  (m.home? s).map fun home => pathIn home ".config"

/-- The directory of the user's settings. -/
def userDirectory? (m : Machine σ) (s : σ) : Option String :=
  match m.environment? "XDG_CONFIG_HOME" s with
  | some dir => if dir.startsWith "/" then some dir else homeSettings? m s
  | none => homeSettings? m s

/-- The settings file in a directory of settings. -/
def fileIn (directory : String) : String :=
  pathIn directory ("simfleet/" ++ fileName)

/-- The files that are looked for, the preferred one first. -/
def searchPaths (m : Machine σ) (s : σ) : List String :=
  fileName :: ((userDirectory? m s).map fileIn).toList

/-- The file that settings are loaded from, if any. -/
def chosenFile? (m : Machine σ) (s : σ) : Option String :=
  match m.environment? fileVariable s with
  | some path => some path
  | none => (searchPaths m s).find? fun path => m.pathExists path s

/-- Loads the settings of the chosen file, or else the defaults. -/
def loadDefault (m : Machine σ) (s : σ) : Except FleetError Settings :=
  match chosenFile? m s with
  | some path => load m path s
  | none => .ok {}

end Settings

end AgentFleet
