import AgentFleet.Proofs.Inventory.KnownFields

/-!
# Hosts from variables

In the layout of the Ansible tools a host is a name with variables. Two of the
variables are other names for known fields, and a variable with the name of the field
itself goes before them, wherever the two stand (`get?_hostEntry`). What the record of
such a host is follows from its name, its variables and its group alone (`Translates`),
and the hosts of a document are those that it declares in a group or in none
(`mem_ansibleHosts_iff`).
-/

namespace AgentFleet

namespace Mapping

/-- A field occurs in the mapping, whatever it holds. -/
def Has (m : Mapping) (name : String) : Prop :=
  ∃ v, (.str name, v) ∈ m

theorem has_iff {m : Mapping} (h : m.Distinct) {name : String} :
    m.Has name ↔ ∃ v, m.get? name = some v :=
  exists_congr fun _ => (get?_eq_some_iff h).symm

section

variable {a b : Mapping} {name name' : String}

/-- Fields with the same value show the same text, also by different names. -/
theorem shows_congr (ha : a.Distinct) (hb : b.Distinct) (h : a.get? name = b.get? name') {s : String} :
    a.Shows name s ↔ b.Shows name' s := by
  rw [← text?_eq_some_iff ha, ← text?_eq_some_iff hb, text?, text?, h]

theorem fills_congr (ha : a.Distinct) (hb : b.Distinct) (h : a.get? name = b.get? name')
    {default s : String} : a.Fills name default s ↔ b.Fills name' default s := by
  rw [fills_iff ha, fills_iff hb, text?, text?, h]

theorem shows_of_get?_str (ha : a.Distinct) {t : String} (h : a.get? name = some (.str t))
    (ht : t ≠ "") {s : String} : a.Shows name s ↔ s = t := by
  have htext : (Value.str t).scalarText = some t := by simp [Value.scalarText, ht]
  rw [← text?_eq_some_iff ha, text?, h, Option.bind_some, htext, Option.some_inj]
  exact eq_comm

/-- A field that is a given one before anything else is that one if it occurs. -/
theorem get?_of_or (hb : b.Distinct) {other : Option Value}
    (h : a.get? name = (b.get? name').or other) :
    (b.Has name' → a.get? name = b.get? name') ∧ (¬ b.Has name' → a.get? name = other) := by
  constructor
  · intro hhas
    obtain ⟨v, hv⟩ := (has_iff hb).mp hhas
    rw [h, hv, Option.some_or]
  · intro hnot
    have hnone : b.get? name' = none := by
      rw [has_iff hb, not_exists] at hnot
      exact Option.eq_none_iff_forall_ne_some.mpr hnot
    rw [h, hnone, Option.none_or]

end

theorem insertAll_append (m a b : Mapping) : m.insertAll (a ++ b) = (m.insertAll a).insertAll b :=
  List.foldl_append

end Mapping

namespace Layout

/-! ### The entry of a host -/

/-- The variables of a host; other values than mappings hold none. -/
def variablesOf (v : Value) : Mapping :=
  v.asMapping?.getD []

/-- An entry in a group or in none. -/
def inGroup? (group : Option String) (entry : Mapping) : Mapping :=
  match group with
  | some g => inGroup g entry
  | none => entry

/-- The entry of a host before its group is set. -/
def ungrouped (d : HostDefaults) (hostname : String) (vars : Mapping) : Mapping :=
  Mapping.insertAll [(.str field.publicIp, .str hostname)] (ansibleFields vars d)

/-- The entry of a host. -/
def hostEntry (d : HostDefaults) (group : Option String) (hostname : String) (vars : Mapping) :
    Mapping :=
  inGroup? group (ungrouped d hostname vars)

/-- A host has an entry when its name shows a text. -/
theorem ansibleEntry_eq_some_iff {d : HostDefaults} {group : Option String} {name vars : Value}
    {hostname : String} {entry : Mapping} :
    ansibleEntry d group name vars = some (hostname, entry) ↔
      name.Shows hostname ∧ hostEntry d group hostname (variablesOf vars) = entry := by
  rw [ansibleEntry, Option.map_eq_some_iff, ← scalarText_eq_some_iff]
  constructor
  · rintro ⟨text, htext, he⟩
    obtain ⟨rfl, rfl⟩ := Prod.mk.inj he
    exact ⟨htext, rfl⟩
  · rintro ⟨htext, rfl⟩
    exact ⟨hostname, htext, rfl⟩

theorem inGroup?_distinct (group : Option String) {entry : Mapping} (h : entry.Distinct) :
    (inGroup? group entry).Distinct := by
  cases group with
  | none => exact h
  | some g => exact inGroup_distinct g h

theorem ungrouped_distinct (d : HostDefaults) (hostname : String) (vars : Mapping) :
    (ungrouped d hostname vars).Distinct :=
  Mapping.Distinct.insertAll (List.pairwise_singleton _ _) _

theorem hostEntry_distinct (d : HostDefaults) (group : Option String) (hostname : String)
    (vars : Mapping) : (hostEntry d group hostname vars).Distinct :=
  inGroup?_distinct group (ungrouped_distinct d hostname vars)

/-! ### Looking a field up -/

theorem isTranslated_str (s : String) :
    isTranslated (.str s) =
      (s == field.privateIp || s == ansibleName.user || s == ansibleName.keyFile) :=
  rfl

theorem translated_eq (vars : Mapping) (d : HostDefaults) :
    translated vars d =
      ((vars.get? field.privateIp).map fun v => (Value.str field.privateIp, v)).toList ++
      ((vars.get? ansibleName.user).map fun v => (Value.str field.sshUser, v)).toList ++
      ((vars.text? ansibleName.keyFile).map fun key =>
        (Value.str field.sshOptions, Value.str (d.sshOptionsForKey key))).toList := by
  unfold translated Mapping.text?
  cases vars.get? field.privateIp <;> cases vars.get? ansibleName.user <;>
    cases (vars.get? ansibleName.keyFile).bind Value.scalarText <;> rfl

theorem translated_distinct (vars : Mapping) (d : HostDefaults) : (translated vars d).Distinct := by
  rw [translated_eq]
  cases vars.get? field.privateIp <;> cases vars.get? ansibleName.user <;>
    cases vars.text? ansibleName.keyFile <;> simp [Mapping.Distinct, Value.same, field]

theorem get?_toList_map {α : Type} (o : Option α) (key : String) (f : α → Value) (name : String) :
    Mapping.get? (o.map fun a => (Value.str key, f a)).toList name =
      if key = name then o.map f else none := by
  cases o <;> simp [Mapping.get?]

theorem get?_translated (vars : Mapping) (d : HostDefaults) (name : String) :
    (translated vars d).get? name =
      (if field.privateIp = name then vars.get? field.privateIp else none).or
        ((if field.sshUser = name then vars.get? ansibleName.user else none).or
          (if field.sshOptions = name then
            (vars.text? ansibleName.keyFile).map fun key => .str (d.sshOptionsForKey key)
          else none)) := by
  rw [translated_eq, Mapping.get?_append, Mapping.get?_append, get?_toList_map, get?_toList_map,
    get?_toList_map, Option.map_id', Option.map_id', Option.or_assoc]

section

variable {vars : Mapping} {d : HostDefaults} {group : Option String} {hostname : String}

/-- A field is the variable of its name, unless that one is translated; else it is what another variable
is translated to, and the address is the name of the host at last. -/
theorem get?_ungrouped (h : vars.Distinct) (name : String) :
    (ungrouped d hostname vars).get? name =
      ((if isTranslated (.str name) then none else vars.get? name).or
        ((translated vars d).get? name)).or
          (if field.publicIp = name then some (.str hostname) else none) := by
  have hcopied : Mapping.Distinct (vars.filter fun e => !isTranslated e.1) := List.Pairwise.filter _ h
  rw [ungrouped, ansibleFields, Mapping.insertAll_append, Mapping.get?_insertAll _ hcopied,
    Mapping.get?_insertAll _ (translated_distinct vars d),
    Mapping.get?_filter vars (fun key => !isTranslated key), Option.or_assoc]
  cases isTranslated (.str name) <;> simp [Mapping.get?]

theorem get?_hostEntry (h : vars.Distinct) {name : String} (hname : field.groupname ≠ name) :
    (hostEntry d group hostname vars).get? name =
      ((if isTranslated (.str name) then none else vars.get? name).or
        ((translated vars d).get? name)).or
          (if field.publicIp = name then some (.str hostname) else none) := by
  rw [hostEntry, ← get?_ungrouped h]
  cases group with
  | none => rfl
  | some g => rw [inGroup?, get?_inGroup, if_neg hname]

/-- An address among the variables goes before the name of the host. -/
theorem get?_hostEntry_publicIp (h : vars.Distinct) :
    (hostEntry d group hostname vars).get? "public_ip" =
      (vars.get? "public_ip").or (some (.str hostname)) := by
  rw [get?_hostEntry h (by decide), get?_translated, isTranslated_str]
  simp [field, ansibleName]

/-- A login user by the name of the field goes before one by the other name. -/
theorem get?_hostEntry_sshUser (h : vars.Distinct) :
    (hostEntry d group hostname vars).get? "ssh_user" =
      (vars.get? "ssh_user").or (vars.get? "ansible_user") := by
  rw [get?_hostEntry h (by decide), get?_translated, isTranslated_str]
  simp [field, ansibleName]

/-- Options go before a key file, and a key file without a text is none. -/
theorem get?_hostEntry_sshOptions (h : vars.Distinct) :
    (hostEntry d group hostname vars).get? "ssh_options" =
      (vars.get? "ssh_options").or
        ((vars.text? "ansible_ssh_private_key_file").map fun key =>
          .str (d.sshOptionsForKey key)) := by
  rw [get?_hostEntry h (by decide), get?_translated, isTranslated_str]
  simp [field, ansibleName]

/-- The other known fields are the variables of their names. -/
theorem get?_hostEntry_of_mem (h : vars.Distinct) {name : String}
    (hname : name ∈ ["private_ip", "agent_port", "connection"]) :
    (hostEntry d group hostname vars).get? name = vars.get? name := by
  simp only [List.mem_cons, List.not_mem_nil, or_false] at hname
  rcases hname with rfl | rfl | rfl <;>
    rw [get?_hostEntry h (by decide), get?_translated, isTranslated_str] <;>
      simp [field, ansibleName]

/-- A group stands against a variable of that name. -/
theorem get?_hostEntry_groupname (h : vars.Distinct) :
    (hostEntry d group hostname vars).get? "groupname" =
      (group.map Value.str).or (vars.get? "groupname") := by
  cases group with
  | some g => exact get?_inGroup g (ungrouped d hostname vars) "groupname"
  | none =>
    rw [hostEntry, inGroup?, get?_ungrouped h, get?_translated, isTranslated_str]
    simp [field, ansibleName]

/-! ### Variables that are carried along -/

/-- Whether a variable is carried along: it is no known field, and it does not read, through tags, as
one that is translated. -/
def isCarried (key : Value) : Bool :=
  (!field.all.any fun name => key.isText name) &&
    !(["private_ip", "ansible_user", "ansible_ssh_private_key_file"].any fun name =>
      key.asString? == some name)

theorem isCarried_eq (e : Value × Value) :
    isCarried e.1 = (Mapping.isOutside field.all e && !isTranslated e.1) := by
  unfold isCarried isTranslated Mapping.isOutside
  cases e.1.asString? with
  | none => simp
  | some s => simp [field, ansibleName, Bool.or_assoc]

/-- What variables are translated to is all known. -/
theorem filter_translated (vars : Mapping) (d : HostDefaults) :
    (translated vars d).filter (Mapping.isOutside field.all) = [] := by
  rw [translated_eq]
  cases vars.get? field.privateIp <;> cases vars.get? ansibleName.user <;>
    cases vars.text? ansibleName.keyFile <;>
      simp [Mapping.isOutside, FieldNames.all, Value.isText]

theorem filter_inGroup? (group : Option String) (entry : Mapping) :
    (inGroup? group entry).filter (Mapping.isOutside field.all) =
      entry.filter (Mapping.isOutside field.all) := by
  cases group with
  | none => rfl
  | some g =>
    have hgroup : Mapping.isOutside field.all (.str field.groupname, .str g) = false := by
      simp [Mapping.isOutside, FieldNames.all, Value.isText]
    rw [inGroup?, inGroup, Mapping.filter_insert, hgroup, if_neg Bool.false_ne_true]

theorem filter_hostEntry (h : vars.Distinct) :
    (hostEntry d group hostname vars).filter (Mapping.isOutside field.all) =
      vars.filter fun e => isCarried e.1 := by
  have haddress : Mapping.isOutside field.all (.str field.publicIp, .str hostname) = false := by
    simp [Mapping.isOutside, FieldNames.all, Value.isText]
  have hcarried : ((vars.filter fun e => !isTranslated e.1).filter (Mapping.isOutside field.all)) =
      vars.filter fun e => isCarried e.1 := by
    rw [List.filter_filter]
    exact List.filter_congr fun e _ => (isCarried_eq e).symm
  have hdistinct : Mapping.Distinct (vars.filter fun e => isCarried e.1) := List.Pairwise.filter _ h
  calc (hostEntry d group hostname vars).filter (Mapping.isOutside field.all)
      = Mapping.insertAll [] ((ansibleFields vars d).filter (Mapping.isOutside field.all)) := by
        rw [hostEntry, filter_inGroup?, ungrouped, Mapping.filter_insertAll, List.filter_cons,
          haddress, if_neg Bool.false_ne_true, List.filter_nil]
    _ = Mapping.insertAll [] (vars.filter fun e => isCarried e.1) := by
        rw [ansibleFields, List.filter_append, filter_translated, hcarried, List.nil_append]
    _ = vars.filter fun e => isCarried e.1 := Mapping.insertAll_of_distinct hdistinct

/-! ### The record of a host -/

/-- What the record of a host is, by its name, its variables, its group and the defaults. -/
structure Translates (hostname : String) (vars : Mapping) (group : Option String) (d : HostDefaults)
    (r : HostRecord) : Prop where
  /-- The address is the variable of that name, and the name of the host only without it. -/
  publicIp : (vars.Has "public_ip" → vars.Shows "public_ip" r.publicIp) ∧
    (¬ vars.Has "public_ip" → r.publicIp = hostname)
  privateIp : ∀ s, r.privateIp = some s ↔ vars.Shows "private_ip" s
  /-- The other name of the login user counts only without its own, whatever that one holds. -/
  sshUser : (vars.Has "ssh_user" → vars.Fills "ssh_user" d.sshUser r.sshUser) ∧
    (¬ vars.Has "ssh_user" → vars.Fills "ansible_user" d.sshUser r.sshUser)
  /-- A key file makes the options only where none are given. -/
  sshOptions : (vars.Has "ssh_options" → vars.Fills "ssh_options" d.sshOptions r.sshOptions) ∧
    (¬ vars.Has "ssh_options" →
      (∀ key, vars.Shows "ansible_ssh_private_key_file" key → r.sshOptions = d.sshOptionsForKey key) ∧
      ((∀ key, ¬ vars.Shows "ansible_ssh_private_key_file" key) → r.sshOptions = d.sshOptions))
  agentPort : vars.Fills "agent_port" d.agentPort r.agentPort
  /-- A group stands against whatever the variables say of one. -/
  groupname : ∀ s, r.groupname = some s ↔
    match group with
    | some g => s = g
    | none => vars.Shows "groupname" s
  connection : r.connection = .kubectl ↔ vars.Shows "connection" "kubectl"
  extra : r.extra = vars.filter fun e => isCarried e.1

variable {r : HostRecord}

/-- Options that a key file makes are not empty, so that they are what the entry shows. -/
theorem sshOptions_of_fills (h : vars.Distinct) {m : Mapping} (hm : m.Distinct) {options : String}
    (hget : m.get? "ssh_options" = (vars.text? "ansible_ssh_private_key_file").map fun key =>
      .str (d.sshOptionsForKey key)) (hfills : m.Fills "ssh_options" d.sshOptions options) :
    (∀ key, vars.Shows "ansible_ssh_private_key_file" key → options = d.sshOptionsForKey key) ∧
      ((∀ key, ¬ vars.Shows "ansible_ssh_private_key_file" key) → options = d.sshOptions) := by
  rw [Mapping.fills_iff hm, Mapping.text?, hget] at hfills
  constructor
  · intro key hkey
    have hoptions : d.sshOptionsForKey key ≠ "" := by simp [HostDefaults.sshOptionsForKey]
    rw [(Mapping.text?_eq_some_iff h).mpr hkey] at hfills
    simpa [Value.scalarText, hoptions] using hfills
  · intro hnone
    rw [(Mapping.text?_eq_none_iff h).mpr hnone] at hfills
    exact hfills

/-- The record of an entry that is made from variables is what they are translated to. -/
theorem translates_of_settles (h : vars.Distinct) (hname : hostname ≠ "") (hgroup : group ≠ some "")
    (hr : (hostEntry d group hostname vars).Settles d r) : Translates hostname vars group d r := by
  have hentry := hostEntry_distinct d group hostname vars
  obtain ⟨haddress, hhostname⟩ := Mapping.get?_of_or (a := hostEntry d group hostname vars) h
    (get?_hostEntry_publicIp h)
  obtain ⟨huser, halias⟩ := Mapping.get?_of_or (a := hostEntry d group hostname vars) h
    (get?_hostEntry_sshUser h)
  obtain ⟨hoptions, hkeyFile⟩ := Mapping.get?_of_or (a := hostEntry d group hostname vars) h
    (get?_hostEntry_sshOptions h)
  constructor
  case publicIp =>
    constructor
    · intro hhas
      exact (Mapping.shows_congr hentry h (haddress hhas)).mp hr.publicIp
    · intro hnot
      exact (Mapping.shows_of_get?_str hentry (hhostname hnot) hname).mp hr.publicIp
  case privateIp =>
    intro s
    rw [hr.privateIp s]
    exact Mapping.shows_congr hentry h (get?_hostEntry_of_mem h (by decide))
  case sshUser =>
    constructor
    · intro hhas
      exact (Mapping.fills_congr hentry h (huser hhas)).mp hr.sshUser
    · intro hnot
      exact (Mapping.fills_congr hentry h (halias hnot)).mp hr.sshUser
  case sshOptions =>
    constructor
    · intro hhas
      exact (Mapping.fills_congr hentry h (hoptions hhas)).mp hr.sshOptions
    · intro hnot
      exact sshOptions_of_fills h hentry (hkeyFile hnot) hr.sshOptions
  case agentPort =>
    exact (Mapping.fills_congr hentry h (get?_hostEntry_of_mem h (by decide))).mp hr.agentPort
  case groupname =>
    intro s
    rw [hr.groupname s]
    have hset : (hostEntry d group hostname vars).get? "groupname" = _ := get?_hostEntry_groupname h
    cases group with
    | none => exact Mapping.shows_congr hentry h hset
    | some g => exact Mapping.shows_of_get?_str hentry hset (by simpa using hgroup)
  case connection =>
    rw [hr.connection]
    exact Mapping.shows_congr hentry h (get?_hostEntry_of_mem h (by decide))
  case extra => rw [hr.extra, filter_hostEntry h]

theorem translates_of_ansibleEntry {name vars : Value} {entry : Mapping}
    (h : ansibleEntry d group name vars = some (hostname, entry)) (hgroup : group ≠ some "")
    (hvars : (variablesOf vars).Distinct) (hr : normalize entry d = .ok r) :
    Translates hostname (variablesOf vars) group d r := by
  obtain ⟨hname, rfl⟩ := ansibleEntry_eq_some_iff.mp h
  have hsettles := (normalize_eq_ok_iff_settles (hostEntry_distinct d group hostname _)).mp hr
  exact translates_of_settles hvars hname.ne_empty hgroup hsettles.2

end

/-! ### The hosts of a document -/

/-- A document declares a host in the Ansible layout: its group, its name and its variables. -/
inductive Declares (doc : Value) : Option String → Value → Value → Prop
  /-- In a group below `all.children`; the key of the group is a scalar with a text. -/
  | grouped {top children key body hosts name vars : Value} {groups named : Mapping} {group : String} :
      doc.get? "all" = some top → top.get? "children" = some children →
      children.asMapping? = some groups → (key, body) ∈ groups → key.Shows group →
      body.get? "hosts" = some hosts → hosts.asMapping? = some named → (name, vars) ∈ named →
      Declares doc (some group) name vars
  /-- Below `all.hosts`, in no group. -/
  | ungrouped {top hosts name vars : Value} {named : Mapping} :
      doc.get? "all" = some top → top.get? "hosts" = some hosts → hosts.asMapping? = some named →
      (name, vars) ∈ named → Declares doc none name vars

section

variable {doc : Value} {d : HostDefaults} {group : Option String} {name vars : Value}

theorem Declares.group_ne_empty (h : Declares doc group name vars) : group ≠ some "" := by
  cases h with
  | grouped _ _ _ _ hgroup _ _ _ =>
    intro he
    exact hgroup.ne_empty (Option.some.inj he)
  | ungrouped _ _ _ _ => simp

theorem variablesOf_distinct {v : Value} (h : v.WellFormed) : (variablesOf v).Distinct := by
  unfold variablesOf
  cases hm : v.asMapping? with
  | none => exact List.Pairwise.nil
  | some entries => exact (h.asMapping? hm).distinct

/-- The variables of a declared host have no key twice. -/
theorem Declares.distinct (h : Declares doc group name vars) (hdoc : doc.WellFormed) :
    (variablesOf vars).Distinct := by
  cases h with
  | grouped htop hchildren hgroups hbody _ hhosts hnamed hvars =>
    have hgroup := (((hdoc.get? htop).get? hchildren).asMapping? hgroups).of_mem hbody
    exact variablesOf_distinct (((hgroup.get? hhosts).asMapping? hnamed).of_mem hvars)
  | ungrouped htop hhosts hnamed hvars =>
    exact variablesOf_distinct ((((hdoc.get? htop).get? hhosts).asMapping? hnamed).of_mem hvars)

theorem mem_ansibleSection_iff {hosts : Mapping} {host : String × Mapping} :
    host ∈ ansibleSection d group hosts ↔
      ∃ name vars, (name, vars) ∈ hosts ∧ ansibleEntry d group name vars = some host := by
  rw [ansibleSection, List.mem_filterMap, Prod.exists]

theorem mem_ansibleGroup_iff {key body : Value} {host : String × Mapping} :
    host ∈ ansibleGroup d key body ↔
      ∃ g hosts named name vars, key.Shows g ∧ body.get? "hosts" = some hosts ∧
        hosts.asMapping? = some named ∧ (name, vars) ∈ named ∧
        ansibleEntry d (some g) name vars = some host := by
  unfold ansibleGroup
  constructor
  · intro h
    split at h
    case h_1 g named hg hnamed =>
      obtain ⟨hosts, hhosts, hmap⟩ := Option.bind_eq_some_iff.mp hnamed
      obtain ⟨name, vars, hmem, hentry⟩ := mem_ansibleSection_iff.mp h
      exact ⟨g, hosts, named, name, vars, scalarText_eq_some_iff.mp hg, hhosts, hmap, hmem, hentry⟩
    case h_2 => cases h
  · rintro ⟨g, hosts, named, name, vars, hg, hhosts, hmap, hmem, hentry⟩
    rw [scalarText_eq_some_iff.mpr hg, hhosts, Option.bind_some, hmap]
    exact mem_ansibleSection_iff.mpr ⟨name, vars, hmem, hentry⟩

theorem mem_getD_nil_iff {α : Type} {o : Option (List α)} {a : α} :
    a ∈ o.getD [] ↔ ∃ l, o = some l ∧ a ∈ l := by
  cases o <;> simp

theorem ansibleHosts_eq_some {hosts : List (String × Mapping)} (h : ansibleHosts doc d = some hosts) :
    ∃ top, doc.get? "all" = some top ∧
      hosts = ((((top.get? "children").bind Value.asMapping?).getD []).flatMap fun e =>
          ansibleGroup d e.1 e.2) ++
        ansibleSection d none (((top.get? "hosts").bind Value.asMapping?).getD []) := by
  unfold ansibleHosts at h
  split at h
  case h_1 => cases h
  case h_2 top htop =>
    dsimp only at h
    split at h
    · cases h
    · exact ⟨top, htop, (Option.some.inj h).symm⟩

/-- The hosts of a document in this layout are those that it declares and that have an entry. -/
theorem mem_ansibleHosts_iff {hosts : List (String × Mapping)} (h : ansibleHosts doc d = some hosts)
    {host : String × Mapping} :
    host ∈ hosts ↔
      ∃ group name vars, Declares doc group name vars ∧ ansibleEntry d group name vars = some host := by
  obtain ⟨top, htop, rfl⟩ := ansibleHosts_eq_some h
  rw [List.mem_append, List.mem_flatMap, mem_ansibleSection_iff]
  simp only [mem_ansibleGroup_iff, mem_getD_nil_iff, Option.bind_eq_some_iff]
  constructor
  · rintro (⟨⟨key, body⟩, ⟨groups, ⟨children, hchildren, hgroups⟩, hmem⟩,
      g, hosts, named, name, vars, hg, hhosts, hmap, hvars, hentry⟩ |
      ⟨name, vars, ⟨named, ⟨hosts, hhosts, hmap⟩, hvars⟩, hentry⟩)
    · exact ⟨some g, name, vars, .grouped htop hchildren hgroups hmem hg hhosts hmap hvars, hentry⟩
    · exact ⟨none, name, vars, .ungrouped htop hhosts hmap hvars, hentry⟩
  · rintro ⟨group, name, vars, hdeclares, hentry⟩
    cases hdeclares with
    | grouped htop' hchildren hgroups hmem hg hhosts hmap hvars =>
      obtain rfl := Option.some.inj (htop.symm.trans htop')
      exact Or.inl ⟨(_, _), ⟨_, ⟨_, hchildren, hgroups⟩, hmem⟩, _, _, _, _, _, hg, hhosts, hmap, hvars,
        hentry⟩
    | ungrouped htop' hhosts hmap hvars =>
      obtain rfl := Option.some.inj (htop.symm.trans htop')
      exact Or.inr ⟨_, _, ⟨_, ⟨_, hhosts, hmap⟩, hvars⟩, hentry⟩

end

/-- A host in the layout of the Ansible tools has one entry, and if that is accepted, its record is what
its name, its variables and its group are translated to. The hosts of a document are exactly those
that it declares by a name with a text, each with the group that it stands in or, below `all.hosts`,
with none. -/
theorem ansible_translation (d : HostDefaults) :
    (∀ group name vars hostname, group ≠ some "" → name.Shows hostname →
      (variablesOf vars).Distinct →
        ∃ entry, ansibleEntry d group name vars = some (hostname, entry) ∧
          ∀ r, normalize entry d = .ok r → Translates hostname (variablesOf vars) group d r) ∧
    ∀ doc hosts, doc.WellFormed → ansibleHosts doc d = some hosts →
      (∀ group name vars hostname, Declares doc group name vars → name.Shows hostname →
        ∃ entry, (hostname, entry) ∈ hosts ∧
          ∀ r, normalize entry d = .ok r → Translates hostname (variablesOf vars) group d r) ∧
      ∀ hostname entry, (hostname, entry) ∈ hosts →
        ∃ group name vars, Declares doc group name vars ∧ name.Shows hostname ∧
          ∀ r, normalize entry d = .ok r → Translates hostname (variablesOf vars) group d r := by
  refine ⟨fun group name vars hostname hgroup hname hvars => ?_, fun doc hosts hdoc hhosts => ⟨?_, ?_⟩⟩
  · have hentry : ansibleEntry d group name vars = some (hostname, _) :=
      ansibleEntry_eq_some_iff.mpr ⟨hname, rfl⟩
    exact ⟨_, hentry, fun r => translates_of_ansibleEntry hentry hgroup hvars⟩
  · intro group name vars hostname hdeclares hname
    have hentry : ansibleEntry d group name vars = some (hostname, _) :=
      ansibleEntry_eq_some_iff.mpr ⟨hname, rfl⟩
    refine ⟨_, (mem_ansibleHosts_iff hhosts).mpr ⟨group, name, vars, hdeclares, hentry⟩, fun r => ?_⟩
    exact translates_of_ansibleEntry hentry hdeclares.group_ne_empty (hdeclares.distinct hdoc)
  · intro hostname entry hmem
    obtain ⟨group, name, vars, hdeclares, hentry⟩ := (mem_ansibleHosts_iff hhosts).mp hmem
    refine ⟨group, name, vars, hdeclares, (ansibleEntry_eq_some_iff.mp hentry).1, fun r => ?_⟩
    exact translates_of_ansibleEntry hentry hdeclares.group_ne_empty (hdeclares.distinct hdoc)

/-- Variables of a host: an empty login user behind the other name of it, a group that is a sequence, an
address inside the cluster with a tagged key, and a key file with a tag. -/
def spareVariables : Mapping :=
  [(.str "ansible_user", .str "root"), (.str "ssh_user", .str ""), (.str "groupname", .seq []),
    (.tagged "old" (.str "private_ip"), .int 1), (.str "rack", .int 4),
    (.str "ansible_ssh_private_key_file", .tagged "file" (.str "spare.pem"))]

/-- A document with that host in a group. -/
def spareDocument : Value :=
  .map [(.str "all", .map [(.str "children", .map [(.int 7, .map [(.str "hosts",
    .tagged "set" (.map [(.bool true, .map spareVariables)]))])])])]

/-- The record of that host. -/
def spareRecord : HostRecord :=
  { publicIp := "true"
    sshUser := "simulator"
    sshOptions := "-i spare.pem -o StrictHostKeyChecking=no -o ConnectTimeout=60"
    agentPort := "9000"
    groupname := some "7"
    extra := [(.str "rack", .int 4)] }

theorem ansible_translation_spare :
    Declares spareDocument (some "7") (.bool true) (.map spareVariables) ∧
      spareVariables.Distinct ∧ inventory spareDocument {} = .ok [spareRecord] ∧
      Translates "true" spareVariables (some "7") {} spareRecord := by
  have hdeclares : Declares spareDocument (some "7") (.bool true) (.map spareVariables) :=
    .grouped rfl rfl rfl List.mem_cons_self (.int 7) rfl rfl List.mem_cons_self
  have hdistinct : spareVariables.Distinct := by simp [spareVariables, Mapping.Distinct, Value.same]
  obtain ⟨htranslates, -⟩ := ansible_translation {}
  obtain ⟨entry, hentry, hrecord⟩ :=
    htranslates (some "7") (.bool true) (.map spareVariables) "true" (by decide) (.bool true) hdistinct
  refine ⟨hdeclares, hdistinct, rfl, hrecord spareRecord ?_⟩
  obtain ⟨-, rfl⟩ := ansibleEntry_eq_some_iff.mp hentry
  rfl

end Layout

end AgentFleet
