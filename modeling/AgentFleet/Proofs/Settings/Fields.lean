import AgentFleet.Settings
import Mathlib.Tactic.Choose

/-!
# Fields of the settings

The settings have fourteen fields (`SettingField`), each in a section of its own or
with others, and they are nothing but the values of these fields (`ofFields_get`).
A file whose sections are tables gives every field its value on its own: the one that
it spells, or else the default (`ofTable?_eq_some_iff`), whatever it says about other
fields. So it is refused only for a field that it spells wrongly, and the changes of
two files can be put into one (`Table.combine`, `settings_overlay`).
-/

namespace AgentFleet

/-! ### Kinds of fields -/

/-- What a field of the settings holds. -/
inductive FieldKind where
  /-- A text. -/
  | text
  /-- A list of texts. -/
  | texts
  /-- A number of 64 bits without a sign. -/
  | natural
  deriving DecidableEq, Repr

namespace FieldKind

/-- The values of a kind. -/
abbrev Value : FieldKind → Type
  | text => String
  | texts => List String
  | natural => Nat

/-- How a file spells the values of a kind. -/
inductive Spells : (k : FieldKind) → TableValue → k.Value → Prop
  /-- A text is spelled as a text. -/
  | text (s : String) : Spells .text (.text s) s
  /-- A list of texts is spelled as a list in which every item is a text. -/
  | texts (growing : Bool) (ss : List String) : Spells .texts (.list growing (ss.map .text)) ss
  /-- A number is spelled as an integer that is not negative. -/
  | natural (n : Nat) : n < UInt64.size → Spells .natural (.integer n) n

/-- The value that is spelled, if any. -/
def read? : (k : FieldKind) → TableValue → Option k.Value
  | text => TableValue.text?
  | texts => TableValue.texts?
  | natural => TableValue.natural?

end FieldKind

theorem TableValue.text?_eq_some_iff {v : TableValue} {s : String} :
    v.text? = some s ↔ v = .text s := by
  cases v <;> simp [text?]

theorem TableValue.textsOf?_eq_some_iff {vs : List TableValue} {ss : List String} :
    textsOf? vs = some ss ↔ vs = ss.map .text := by
  induction vs generalizing ss with
  | nil => cases ss <;> simp [textsOf?]
  | cons v vs ih =>
    rw [textsOf?]
    cases ss with
    | nil => cases v.text? <;> cases textsOf? vs <;> simp
    | cons s ss =>
      rw [List.map_cons, List.cons.injEq, ← text?_eq_some_iff, ← ih]
      cases v.text? <;> cases textsOf? vs <;> simp

theorem TableValue.natural?_eq_some_iff {v : TableValue} {n : Nat} :
    v.natural? = some n ↔ v = .integer n ∧ n < UInt64.size := by
  have hpow : Int.pow 2 64 = UInt64.size := rfl
  cases v with
  | integer i =>
    simp only [natural?, hpow, Bool.and_eq_true, decide_eq_true_eq, Option.ite_none_right_eq_some,
      Option.some.injEq, integer.injEq]
    omega
  | _ => simp [natural?]

theorem FieldKind.read?_eq_some_iff {k : FieldKind} {v : TableValue} {a : k.Value} :
    k.read? v = some a ↔ k.Spells v a := by
  cases k with
  | text =>
    refine TableValue.text?_eq_some_iff.trans ⟨?_, ?_⟩
    · rintro rfl
      exact .text a
    · rintro ⟨⟩
      rfl
  | texts =>
    constructor
    · intro h
      cases v with
      | list growing items =>
        obtain rfl := TableValue.textsOf?_eq_some_iff.mp h
        exact .texts growing a
      | _ => cases h
    · rintro ⟨⟩
      exact TableValue.textsOf?_eq_some_iff.mpr rfl
  | natural =>
    refine TableValue.natural?_eq_some_iff.trans ⟨?_, fun h => ?_⟩
    · rintro ⟨rfl, hlt⟩
      exact .natural a hlt
    · cases h with
      | natural _ hlt => exact ⟨rfl, hlt⟩

/-- Among the integers that fit, those that spell a number are not negative. -/
theorem FieldKind.exists_spells_integer_iff {n : Int} (h : n < UInt64.size) :
    (∃ a, FieldKind.Spells .natural (.integer n) a) ↔ 0 ≤ n := by
  constructor
  · rintro ⟨a, hspells⟩
    cases hspells with
    | natural => exact Int.natCast_nonneg a
  · intro hnonneg
    obtain ⟨a, rfl⟩ := Int.eq_ofNat_of_zero_le hnonneg
    exact ⟨a, .natural a (by omega)⟩

/-! ### The fields -/

/-- A field of the settings. -/
inductive SettingField where
  /-- The path of the inventory. -/
  | inventoryPath
  /-- The tool that lists hosts. -/
  | ansible
  /-- The tool that prints the inventory. -/
  | ansibleInventory
  /-- The login user of hosts that name none. -/
  | sshUser
  /-- The key of hosts that name none. -/
  | identityFile
  /-- The seconds until a login is given up. -/
  | connectTimeoutSecs
  /-- The port of agents that name none. -/
  | agentPort
  /-- The secure shell. -/
  | ssh
  /-- The copy program of the secure shell. -/
  | scp
  /-- The synchronizing copy program. -/
  | rsync
  /-- The cluster's command line. -/
  | kubectl
  /-- The archive program. -/
  | tar
  /-- The installation of the simulator. -/
  | simulatorHome
  /-- The least level that is logged. -/
  | logLevel
  deriving DecidableEq, Repr

namespace SettingField

/-- The fourteen fields. -/
def all : List SettingField :=
  [inventoryPath, ansible, ansibleInventory, sshUser, identityFile, connectTimeoutSecs, agentPort,
    ssh, scp, rsync, kubectl, tar, simulatorHome, logLevel]

theorem mem_all (f : SettingField) : f ∈ all := by
  cases f <;> decide

instance decidableForall (p : SettingField → Prop) [DecidablePred p] : Decidable (∀ f, p f) :=
  decidable_of_iff (∀ f ∈ all, p f) ⟨fun h f => h f f.mem_all, fun h f _ => h f⟩

/-- What a field holds. -/
def kind : SettingField → FieldKind
  | inventoryPath | sshUser | identityFile | agentPort | simulatorHome | logLevel => .text
  | ansible | ansibleInventory | ssh | scp | rsync | kubectl | tar => .texts
  | connectTimeoutSecs => .natural

/-- The section that a field stands in. -/
def sectionName : SettingField → String
  | inventoryPath | ansible | ansibleInventory => "inventory"
  | sshUser | identityFile | connectTimeoutSecs | agentPort => "hosts"
  | ssh | scp | rsync | kubectl | tar => "tools"
  | simulatorHome => "agents"
  | logLevel => "log"

/-- The name of a field in its section. -/
def name : SettingField → String
  | inventoryPath => "path"
  | ansible => "ansible"
  | ansibleInventory => "ansible_inventory"
  | sshUser => "ssh_user"
  | identityFile => "identity_file"
  | connectTimeoutSecs => "connect_timeout_secs"
  | agentPort => "agent_port"
  | ssh => "ssh"
  | scp => "scp"
  | rsync => "rsync"
  | kubectl => "kubectl"
  | tar => "tar"
  | simulatorHome => "simulator_home"
  | logLevel => "level"

/-- The value of a field. -/
def get : (f : SettingField) → Settings → f.kind.Value
  | inventoryPath, c => c.inventory.path
  | ansible, c => c.inventory.ansible
  | ansibleInventory, c => c.inventory.ansibleInventory
  | sshUser, c => c.hosts.sshUser
  | identityFile, c => c.hosts.identityFile
  | connectTimeoutSecs, c => c.hosts.connectTimeoutSecs
  | agentPort, c => c.hosts.agentPort
  | ssh, c => c.tools.ssh
  | scp, c => c.tools.scp
  | rsync, c => c.tools.rsync
  | kubectl, c => c.tools.kubectl
  | tar, c => c.tools.tar
  | simulatorHome, c => c.agents.simulatorHome
  | logLevel, c => c.log.level

end SettingField

namespace Settings

/-- The settings with given values. -/
def ofFields (value : (f : SettingField) → f.kind.Value) : Settings where
  inventory := {
    path := value .inventoryPath
    ansible := value .ansible
    ansibleInventory := value .ansibleInventory }
  hosts := {
    sshUser := value .sshUser
    identityFile := value .identityFile
    connectTimeoutSecs := value .connectTimeoutSecs
    agentPort := value .agentPort }
  tools := {
    ssh := value .ssh
    scp := value .scp
    rsync := value .rsync
    kubectl := value .kubectl
    tar := value .tar }
  agents := { simulatorHome := value .simulatorHome }
  log := { level := value .logLevel }

@[simp] theorem get_ofFields (value : (f : SettingField) → f.kind.Value) (f : SettingField) :
    f.get (ofFields value) = value f := by
  cases f <;> rfl

/-- The settings are the values of their fields. -/
theorem ofFields_get (c : Settings) : ofFields (fun f => f.get c) = c := rfl

end Settings

/-! ### What a file says of a field -/

/-- Whether a value is a table. -/
def TableValue.isTable : TableValue → Bool
  | table _ _ => true
  | _ => false

theorem TableValue.isTable_iff {v : TableValue} :
    v.isTable = true ↔ ∃ origin entries, v = .table origin entries := by
  cases v <;> simp [isTable]

namespace Table

/-- The entries of a section; a section that is left out has none. -/
def sectionEntries (t : Table) (name : String) : Table :=
  match t.lookup name with
  | some (.table _ entries) => entries
  | _ => []

/-- What a file says of a field, if anything. -/
def setting? (t : Table) (f : SettingField) : Option TableValue :=
  (t.sectionEntries f.sectionName).lookup f.name

/-- The sections of the settings are tables, as far as they are there. -/
def HasSections (t : Table) : Prop :=
  ∀ f : SettingField, ∀ v ∈ t.lookup f.sectionName, v.isTable = true

instance (t : Table) : Decidable t.HasSections :=
  inferInstanceAs (Decidable (∀ f : SettingField, ∀ v ∈ t.lookup f.sectionName, v.isTable = true))

theorem sectionOr_eq {α : Type} {t : Table} (name : String)
    (h : ∀ v ∈ t.lookup name, v.isTable = true) (read : Table → Option α) (names : List String) :
    sectionOr read names name t = read (t.sectionEntries name) := by
  unfold sectionOr sectionEntries
  cases hv : t.lookup name with
  | none => rfl
  | some v =>
    obtain ⟨origin, entries, rfl⟩ := TableValue.isTable_iff.mp (h v hv)
    rfl

end Table

/-- The value that a file leaves a field with: the one that it spells, or the default when it says
nothing of the field. -/
inductive Overlaid (t : Table) (f : SettingField) (a : f.kind.Value) : Prop
  /-- The file spells the value. -/
  | spelled {v : TableValue} : t.setting? f = some v → f.kind.Spells v a → Overlaid t f a
  /-- The file says nothing of the field. -/
  | default : t.setting? f = none → a = f.get {} → Overlaid t f a

theorem overlaid_iff {t : Table} {f : SettingField} {a : f.kind.Value} :
    Overlaid t f a ↔
      fieldOr f.kind.read? (f.get {}) f.name (t.sectionEntries f.sectionName) = some a := by
  unfold fieldOr
  constructor
  · rintro (⟨hv, hspells⟩ | ⟨hnone, rfl⟩)
    · rw [show List.lookup _ _ = _ from hv]
      exact FieldKind.read?_eq_some_iff.mpr hspells
    · rw [show List.lookup _ _ = _ from hnone]
  · cases hv : (t.sectionEntries f.sectionName).lookup f.name with
    | none => exact fun h => .default hv (Option.some.inj h).symm
    | some v => exact fun h => .spelled hv (FieldKind.read?_eq_some_iff.mp h)

theorem Overlaid.eq_of_setting?_eq {t u : Table} {f : SettingField} {a b : f.kind.Value}
    (ht : Overlaid t f a) (hu : Overlaid u f b) (h : t.setting? f = u.setting? f) : a = b := by
  rw [overlaid_iff] at ht hu
  unfold fieldOr at ht hu
  rw [show List.lookup f.name (t.sectionEntries f.sectionName) = _ from h] at ht
  exact Option.some.inj (ht.symm.trans hu)

namespace Settings

/-- A file gives the settings in which every field has the value that it is left with. -/
theorem ofTable?_eq_some_iff {t : Table} (ht : t.HasSections) {c : Settings} :
    ofTable? t = some c ↔ ∀ f : SettingField, Overlaid t f (f.get c) := by
  simp only [overlaid_iff]
  unfold ofTable?
  rw [Table.sectionOr_eq "inventory" (ht .inventoryPath), Table.sectionOr_eq "hosts" (ht .sshUser),
    Table.sectionOr_eq "tools" (ht .ssh), Table.sectionOr_eq "agents" (ht .simulatorHome),
    Table.sectionOr_eq "log" (ht .logLevel)]
  simp only [InventorySettings.ofTable?, HostDefaults.ofTable?, Tools.ofTable?,
    AgentSettings.ofTable?, LogSettings.ofTable?, Option.bind_eq_bind, Option.bind_eq_some_iff,
    Option.pure_def, Option.some.injEq]
  constructor
  · rintro ⟨_, ⟨_, hpath, _, hansible, _, hinventory, rfl⟩,
      _, ⟨_, huser, _, hidentity, _, htimeout, _, hport, rfl⟩,
      _, ⟨_, hssh, _, hscp, _, hrsync, _, hkubectl, _, htar, rfl⟩,
      _, ⟨_, hhome, rfl⟩, _, ⟨_, hlevel, rfl⟩, rfl⟩ f
    cases f <;> assumption
  · intro h
    exact ⟨_, ⟨_, h .inventoryPath, _, h .ansible, _, h .ansibleInventory, rfl⟩,
      _, ⟨_, h .sshUser, _, h .identityFile, _, h .connectTimeoutSecs, _, h .agentPort, rfl⟩,
      _, ⟨_, h .ssh, _, h .scp, _, h .rsync, _, h .kubectl, _, h .tar, rfl⟩,
      _, ⟨_, h .simulatorHome, rfl⟩, _, ⟨_, h .logLevel, rfl⟩, rfl⟩

/-- A file is accepted when every field that it mentions is spelled as its kind is. -/
theorem exists_ofTable?_iff {t : Table} (ht : t.HasSections) :
    (∃ c, ofTable? t = some c) ↔
      ∀ (f : SettingField) (v : TableValue), t.setting? f = some v → ∃ a, f.kind.Spells v a := by
  constructor
  · rintro ⟨c, hc⟩ f v hv
    rcases (ofTable?_eq_some_iff ht).mp hc f with ⟨hw, hspells⟩ | ⟨hnone, -⟩
    · obtain rfl := Option.some.inj (hw.symm.trans hv)
      exact ⟨_, hspells⟩
    · cases hnone.symm.trans hv
  · intro hspelled
    have hvalue : ∀ f : SettingField, ∃ a, Overlaid t f a := by
      intro f
      cases hv : t.setting? f with
      | none => exact ⟨_, .default hv rfl⟩
      | some v =>
        obtain ⟨a, ha⟩ := hspelled f v hv
        exact ⟨a, .spelled hv ha⟩
    choose value hvalue using hvalue
    refine ⟨ofFields value, (ofTable?_eq_some_iff ht).mpr fun f => ?_⟩
    rw [get_ofFields]
    exact hvalue f

end Settings

/-! ### Two files in one -/

namespace Table

/-- The entries of two tables; of a key that both have, the value in the first one. -/
def extend (t u : Table) : Table :=
  t ++ u.filter fun entry => (t.lookup entry.1).isNone

/-- A value of a file with what another file has under the same key: two tables are extended, and any
other value stays. -/
def combineValue : TableValue → Option TableValue → TableValue
  | .table origin entries, some (.table _ more) => .table origin (extend entries more)
  | v, _ => v

/-- Two files in one: sections that both have are extended. -/
def combine (t u : Table) : Table :=
  extend (t.map fun entry => (entry.1, combineValue entry.2 (u.lookup entry.1))) u

/-- A file says of every field what one of two files says of it, or else the other. -/
def Joins (v t u : Table) : Prop :=
  ∀ f, v.setting? f = (t.setting? f).or (u.setting? f)

theorem lookup_filter_key (p : String → Bool) (t : Table) (key : String) :
    (t.filter fun entry => p entry.1).lookup key = if p key then t.lookup key else none := by
  induction t with
  | nil => simp
  | cons entry t ih =>
    obtain ⟨k, v⟩ := entry
    by_cases hkey : key = k
    · subst hkey
      by_cases hp : p key = true <;> simp [hp, ih]
    · have hbeq : (key == k) = false := beq_eq_false_iff_ne.mpr hkey
      by_cases hp : p k = true <;> simp [List.lookup_cons, hp, hbeq, ih]

theorem lookup_extend (t u : Table) (key : String) :
    (extend t u).lookup key = (t.lookup key).or (u.lookup key) := by
  rw [extend, List.lookup_append, lookup_filter_key fun key => (t.lookup key).isNone]
  cases t.lookup key <;> simp

theorem lookup_map_value (g : String → TableValue → TableValue) (t : Table) (key : String) :
    (t.map fun entry => (entry.1, g entry.1 entry.2)).lookup key = (t.lookup key).map (g key) := by
  induction t with
  | nil => rfl
  | cons entry t ih =>
    obtain ⟨k, v⟩ := entry
    by_cases hkey : key = k
    · simp [hkey]
    · have hbeq : (key == k) = false := beq_eq_false_iff_ne.mpr hkey
      simp [List.lookup_cons, hbeq, ih]

theorem lookup_combine (t u : Table) (key : String) :
    (combine t u).lookup key =
      ((t.lookup key).map fun v => combineValue v (u.lookup key)).or (u.lookup key) := by
  rw [combine, lookup_extend,
    lookup_map_value fun key v => combineValue v (u.lookup key)]

section Combine

variable {t u : Table}

theorem HasSections.combine (ht : t.HasSections) (hu : u.HasSections) :
    (combine t u).HasSections := by
  intro f v hv
  rw [lookup_combine] at hv
  cases hfirst : t.lookup f.sectionName with
  | none => exact hu f v (by simpa [hfirst] using hv)
  | some w =>
    obtain ⟨origin, entries, rfl⟩ := TableValue.isTable_iff.mp (ht f w hfirst)
    simp only [hfirst, Option.map_some, Option.some_or, Option.mem_some_iff] at hv
    rw [← hv]
    unfold combineValue
    split
    · rfl
    · rfl

/-- Two files in one say of a field what either of them says of it. -/
theorem joins_combine (ht : t.HasSections) (hu : u.HasSections) : (combine t u).Joins t u := by
  intro f
  unfold setting? sectionEntries
  rw [lookup_combine]
  cases hfirst : t.lookup f.sectionName with
  | none => simp
  | some v =>
    obtain ⟨origin, entries, rfl⟩ := TableValue.isTable_iff.mp (ht f v hfirst)
    cases hsecond : u.lookup f.sectionName with
    | none => simp [combineValue]
    | some w =>
      obtain ⟨origin', entries', rfl⟩ := TableValue.isTable_iff.mp (hu f w hsecond)
      simp [combineValue, lookup_extend]

end Combine

end Table

namespace Settings

/-- When no field is mentioned by both of two accepted files, a file that says what they say is
accepted, and every field has the value of the file that mentions it. -/
theorem exists_ofTable?_of_joins {t u v : Table} (ht : t.HasSections) (hu : u.HasSections)
    (hv : v.HasSections) (hjoins : v.Joins t u) {a b : Settings} (ha : ofTable? t = some a)
    (hb : ofTable? u = some b) (hapart : ∀ f, t.setting? f = none ∨ u.setting? f = none) :
    ∃ c, ofTable? v = some c ∧ ∀ f : SettingField,
      (u.setting? f = none → f.get c = f.get a) ∧ (t.setting? f = none → f.get c = f.get b) := by
  have hfirst : ∀ f, u.setting? f = none → v.setting? f = t.setting? f :=
    fun f hnone => by rw [hjoins, hnone, Option.or_none]
  have hsecond : ∀ f, t.setting? f = none → v.setting? f = u.setting? f :=
    fun f hnone => by rw [hjoins, hnone, Option.none_or]
  have haccepted : ∃ c, ofTable? v = some c := by
    refine (exists_ofTable?_iff hv).mpr fun f w hw => ?_
    rcases hapart f with hnone | hnone
    · rw [hsecond f hnone] at hw
      exact (exists_ofTable?_iff hu).mp ⟨b, hb⟩ f w hw
    · rw [hfirst f hnone] at hw
      exact (exists_ofTable?_iff ht).mp ⟨a, ha⟩ f w hw
  obtain ⟨c, hc⟩ := haccepted
  rw [ofTable?_eq_some_iff ht] at ha
  rw [ofTable?_eq_some_iff hu] at hb
  have hvalues := (ofTable?_eq_some_iff hv).mp hc
  exact ⟨c, hc, fun f => ⟨fun hnone => (hvalues f).eq_of_setting?_eq (ha f) (hfirst f hnone),
    fun hnone => (hvalues f).eq_of_setting?_eq (hb f) (hsecond f hnone)⟩⟩

theorem parse_eq_ok_iff {text : String} {t : Table} (h : Table.read? text = some t)
    {c : Settings} : parse text = .ok c ↔ ofTable? t = some c := by
  unfold parse ofText?
  rw [h, Option.bind_some]
  cases ofTable? t <;> simp

end Settings

/-- A file whose sections are tables is accepted when every field that it mentions is spelled as its
kind is, for a number by an integer that is not negative; and then every field has the value that the
file spells, or else its default, on its own. So two accepted files that mention different fields can
be joined, and the changes of both are made. -/
theorem settings_overlay {t : Table} (ht : t.HasSections) :
    (∀ text, Table.read? text = some t →
      ∀ c, Settings.parse text = .ok c ↔ Settings.ofTable? t = some c) ∧
    ((∃ c, Settings.ofTable? t = some c) ↔
      ∀ (f : SettingField) (v : TableValue), t.setting? f = some v → ∃ a, f.kind.Spells v a) ∧
    (∀ n : Int, n < UInt64.size → ((∃ a, FieldKind.Spells .natural (.integer n) a) ↔ 0 ≤ n)) ∧
    (∀ c, Settings.ofTable? t = some c ↔ ∀ f : SettingField, Overlaid t f (f.get c)) ∧
    ∀ u : Table, u.HasSections →
      ((t.combine u).HasSections ∧ (t.combine u).Joins t u) ∧
      ∀ (v : Table) (a b : Settings), v.HasSections → v.Joins t u →
        Settings.ofTable? t = some a → Settings.ofTable? u = some b →
        (∀ f, t.setting? f = none ∨ u.setting? f = none) →
        ∃ c, Settings.ofTable? v = some c ∧ ∀ f : SettingField,
          (u.setting? f = none → f.get c = f.get a) ∧ (t.setting? f = none → f.get c = f.get b) := by
  refine ⟨?parsed, Settings.exists_ofTable?_iff ht, ?natural, ?fields, ?joined⟩
  case parsed =>
    intro text hread c
    exact Settings.parse_eq_ok_iff hread
  case natural =>
    intro n hn
    exact FieldKind.exists_spells_integer_iff hn
  case fields =>
    intro c
    exact Settings.ofTable?_eq_some_iff ht
  case joined =>
    intro u hu
    refine ⟨⟨ht.combine hu, Table.joins_combine ht hu⟩, ?_⟩
    intro v a b hv hjoins ha hb hapart
    exact Settings.exists_ofTable?_of_joins ht hu hv hjoins ha hb hapart

/-- A file that sets one field of a section, one that sets another and holds strays, and the file of
both; and a number that is spelled with a sign. -/
theorem settings_overlay_partial :
    let t : Table := [("hosts", .table .header [("ssh_user", .text "ec2-user")])]
    let u : Table := [("stray", .real), ("hosts", .table .inline
      [("colour", .text "red"), ("connect_timeout_secs", .integer 5)])]
    let signed : Table := [("hosts", .table .header [("connect_timeout_secs", .integer (-5))])]
    Settings.parse "[hosts]\nssh_user = \"ec2-user\"\n" =
        .ok { hosts := { sshUser := "ec2-user" } } ∧
      (∃ c, Settings.ofTable? (t.combine u) = some c ∧ c.hosts.sshUser = "ec2-user" ∧
        c.hosts.connectTimeoutSecs = 5 ∧ c.hosts.agentPort = "9000") ∧
      ¬ ∃ c, Settings.ofTable? signed = some c := by
  intro t u signed
  have ht : t.HasSections := by decide
  have hu : u.HasSections := by decide
  have hsigned : signed.HasSections := by decide
  obtain ⟨hparse, -, -, -, hjoin⟩ := settings_overlay ht
  obtain ⟨⟨hsections, hjoins⟩, hchanges⟩ := hjoin u hu
  refine ⟨(hparse _ rfl _).mpr rfl, ?_, fun haccepted => ?_⟩
  · obtain ⟨c, hc, hvalues⟩ := hchanges _ _ _ hsections hjoins rfl rfl (by decide)
    exact ⟨c, hc, (hvalues .sshUser).1 rfl, (hvalues .connectTimeoutSecs).2 rfl,
      (hvalues .agentPort).1 rfl⟩
  · obtain ⟨-, haccept, hnatural, -, -⟩ := settings_overlay hsigned
    have hspelled := haccept.mp haccepted .connectTimeoutSecs (.integer (-5)) rfl
    exact absurd ((hnatural (-5) (by decide)).mp hspelled) (by decide)

end AgentFleet
