import AgentFleet.Inventory.Normalize

/-!
# Inventory layouts

A document lists its hosts in one of three layouts: a mapping of groups, the
layout of the Ansible tools, or a flat list. A layout either declines a document
or yields the raw entries of its hosts in the order of the document. The first
layout that yields an entry decides; its entries are normalized, and no two
records may share their identity.
-/

namespace AgentFleet

/-- The layouts of an inventory. -/
inductive Layout where
  /-- Groups by name, each with its hosts. -/
  | groupedMap
  /-- Groups below `all.children`, and hosts without a group below `all.hosts`. -/
  | ansible
  /-- Hosts without groups. -/
  | flat
  deriving DecidableEq, Repr

namespace Layout

/-- The layouts in the order in which they are tried. -/
def all : List Layout := [groupedMap, ansible, flat]

/-! ### Entries -/

/-- The entry of a host that is declared by name; its own address wins over the name. -/
def namedEntry (name fields : Value) : Mapping :=
  Mapping.insertAll [(.str field.publicIp, name)] (fields.asMapping?.getD [])

/-- The entry of an item of a sequence: a mapping of fields or a bare name. -/
def itemEntry : Value → Mapping
  | .map fields => fields
  | item => if item.scalarText.isSome then [(.str field.publicIp, item)] else []

/-- The entries of a section of hosts; other values than mappings and sequences hold none. -/
def sectionEntries : Value → Option (List Mapping)
  | .map hosts => some (hosts.map fun e => namedEntry e.1 e.2)
  | .seq items => some (items.map itemEntry)
  | _ => none

/-- An entry with its group set. -/
def inGroup (group : String) (entry : Mapping) : Mapping :=
  entry.insert (.str field.groupname) (.str group)

/-! ### The grouped layout -/

/-- The entries that one key of a grouped inventory contributes. -/
def groupEntries (group body : Value) : List Mapping :=
  match group.scalarText, (body.get? "hosts").filter Value.isTruthy with
  | some name, some hosts => ((sectionEntries hosts).getD []).map (inGroup name)
  | _, _ => []

/-- The entries of a grouped inventory; a set key `all` belongs to another layout. -/
def groupedEntries (doc : Value) : Option (List Mapping) :=
  match doc.asMapping? with
  | none => none
  | some root =>
    if ((root.get? "all").map Value.isTruthy).getD false then none
    else some (root.flatMap fun e => groupEntries e.1 e.2)

/-! ### The Ansible layout -/

/-- The variables of the Ansible tools that become fields of a host. -/
structure AnsibleNames where
  /-- The login user. -/
  user : String
  /-- The private key of the login. -/
  keyFile : String

/-- The names of those variables. -/
def ansibleName : AnsibleNames :=
  { user := "ansible_user", keyFile := "ansible_ssh_private_key_file" }

/-- Whether a variable is translated rather than copied. -/
def isTranslated (key : Value) : Bool :=
  match key.asString? with
  | some s => s == field.privateIp || s == ansibleName.user || s == ansibleName.keyFile
  | none => false

/-- The fields that variables translate to, in the order in which they are set. -/
def translated (vars : Mapping) (d : HostDefaults) : Mapping :=
  (match vars.get? field.privateIp with
    | some v => [(.str field.privateIp, v)]
    | none => []) ++
  (match vars.get? ansibleName.user with
    | some v => [(.str field.sshUser, v)]
    | none => []) ++
  (match (vars.get? ansibleName.keyFile).bind Value.scalarText with
    | some key => [(.str field.sshOptions, .str (d.sshOptionsForKey key))]
    | none => [])

/-- The variables of a host as fields: the translated ones and then the copied ones. -/
def ansibleFields (vars : Mapping) (d : HostDefaults) : Mapping :=
  translated vars d ++ vars.filter fun e => !isTranslated e.1

/-- The name and the entry of a host; a host without a name is left out. -/
def ansibleEntry (d : HostDefaults) (group : Option String) (name vars : Value) :
    Option (String × Mapping) :=
  name.scalarText.map fun hostname =>
    let entry := Mapping.insertAll [(.str field.publicIp, .str hostname)]
      (ansibleFields (vars.asMapping?.getD []) d)
    (hostname, match group with
      | some g => inGroup g entry
      | none => entry)

/-- The hosts of a mapping of names to variables. -/
def ansibleSection (d : HostDefaults) (group : Option String) (hosts : Mapping) :
    List (String × Mapping) :=
  hosts.filterMap fun e => ansibleEntry d group e.1 e.2

/-- The hosts of one group. -/
def ansibleGroup (d : HostDefaults) (group body : Value) : List (String × Mapping) :=
  match group.scalarText, (body.get? "hosts").bind Value.asMapping? with
  | some name, some hosts => ansibleSection d (some name) hosts
  | _, _ => []

/-- The hosts of an inventory in the Ansible layout: by group, then those without a group. -/
def ansibleHosts (doc : Value) (d : HostDefaults) : Option (List (String × Mapping)) :=
  match doc.get? "all" with
  | none => none
  | some top =>
    let children := (top.get? "children").bind Value.asMapping?
    let ungrouped := (top.get? "hosts").bind Value.asMapping?
    if children.isNone && ungrouped.isNone then none
    else some ((children.getD []).flatMap (fun e => ansibleGroup d e.1 e.2) ++
      ansibleSection d none (ungrouped.getD []))

/-! ### The flat layout -/

/-- The entries of a flat inventory: a sequence, or a section of hosts. -/
def flatEntries : Value → Option (List Mapping)
  | .seq items => some (items.map itemEntry)
  | .map root => (Mapping.get? root "hosts").bind sectionEntries
  | _ => none

/-! ### All layouts -/

/-- The raw entries of a document in a layout, unless the layout declines it. -/
def extract (layout : Layout) (doc : Value) (d : HostDefaults) : Option (List Mapping) :=
  match layout with
  | groupedMap => groupedEntries doc
  | ansible => (ansibleHosts doc d).map fun hosts => hosts.map Prod.snd
  | flat => flatEntries doc

/-- The entries of the first of some layouts that yields any. -/
def firstEntries (layouts : List Layout) (doc : Value) (d : HostDefaults) : List Mapping :=
  match layouts with
  | [] => []
  | layout :: rest =>
    match layout.extract doc d with
    | some (e :: es) => e :: es
    | _ => firstEntries rest doc d

end Layout

/-! ### Inventories -/

/-- The first record whose identity an earlier record or one of `seen` has. -/
def firstDuplicate (seen : List (String × Option String)) : List HostRecord → Option HostRecord
  | [] => none
  | r :: rest =>
    if seen.contains r.identity then some r else firstDuplicate (r.identity :: seen) rest

/-- Refuses records that share their identity. -/
def rejectDuplicates (records : List HostRecord) : Except InventoryError Unit :=
  match firstDuplicate [] records with
  | none => .ok ()
  | some r => .error (.duplicateHost r.publicIp (r.groupname.getD "<none>"))

/-- The records of an inventory document. -/
def inventory (doc : Value) (d : HostDefaults) : Except InventoryError (List HostRecord) := do
  let records ← (Layout.firstEntries Layout.all doc d).mapM fun entry => normalize entry d
  rejectDuplicates records
  return records

end AgentFleet
