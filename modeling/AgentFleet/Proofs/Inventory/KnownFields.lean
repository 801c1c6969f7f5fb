import AgentFleet.Proofs.Inventory.RoundTrip

/-!
# The known fields of an entry

What normalization makes of an entry, said without its steps. A value shows a text
when it is a scalar that has one, under any number of tags (`Value.Shows`). An entry
is accepted when its address shows a text and no other known field is a plain
collection (`Mapping.Accepted`), and then every known field of the record is the text that
the entry shows or else the default, while all other fields are carried along in
their order (`Mapping.Settles`). An entry that is not accepted is refused, because of its
address or of the first known field that is a collection (`Mapping.Refused`).
-/

namespace AgentFleet

open Checked

/-! ### Texts that are shown -/

/-- The value is a scalar with this text, under any number of tags. -/
inductive Value.Shows : Value → String → Prop
  /-- A text shows itself unless it is empty. -/
  | str {s : String} : s ≠ "" → Shows (.str s) s
  /-- An integer shows its digits. -/
  | int (n : Int) : Shows (.int n) (toString n)
  /-- A floating-point number shows its shortest text. -/
  | float (x : Binary64) : Shows (.float x) x.text
  /-- A truth value shows its name. -/
  | bool (b : Bool) : Shows (.bool b) (if b then "true" else "false")
  /-- A tag is looked through. -/
  | tagged (tag : String) {v : Value} {s : String} : Shows v s → Shows (.tagged tag v) s

theorem scalarText_eq_some_iff {v : Value} {s : String} : v.scalarText = some s ↔ v.Shows s := by
  constructor
  · intro h
    fun_induction Value.scalarText v with
    | case1 t he => cases h
    | case2 t he =>
      obtain rfl := Option.some.inj h
      exact .str (by simpa using he)
    | case3 n =>
      obtain rfl := Option.some.inj h
      exact .int n
    | case4 x =>
      obtain rfl := Option.some.inj h
      exact .float x
    | case5 b =>
      obtain rfl := Option.some.inj h
      exact .bool b
    | case6 tag v ih => exact .tagged tag (ih h)
    | case7 v => cases h
  · intro h
    induction h with
    | str hs => simp [Value.scalarText, hs]
    | int n => rfl
    | float x => rfl
    | bool b => rfl
    | tagged tag _ ih => exact ih

theorem scalarText_eq_none_iff_not_shows {v : Value} : v.scalarText = none ↔ ∀ s, ¬ v.Shows s := by
  simp only [← scalarText_eq_some_iff, Option.eq_none_iff_forall_ne_some, ne_eq]

/-- A text that a value shows is not empty. -/
theorem Value.Shows.ne_empty {v : Value} {s : String} (h : v.Shows s) : s ≠ "" :=
  scalarText_ne_empty (scalarText_eq_some_iff.mpr h)

namespace Mapping

/-- A field of the mapping shows a text. -/
def Shows (m : Mapping) (name s : String) : Prop :=
  ∃ v, (.str name, v) ∈ m ∧ v.Shows s

/-- A text is what a field shows, or else a default. -/
inductive Fills (m : Mapping) (name default : String) : String → Prop
  /-- The field shows the text. -/
  | shown {s : String} : m.Shows name s → Fills m name default s
  /-- The field is missing or shows none. -/
  | unshown : (∀ s, ¬ m.Shows name s) → Fills m name default default

section

variable {m : Mapping} {name : String}

theorem text?_eq_some_iff (h : m.Distinct) {s : String} : m.text? name = some s ↔ m.Shows name s := by
  simp only [text?, Option.bind_eq_some_iff, get?_eq_some_iff h, scalarText_eq_some_iff, Shows]

theorem text?_eq_none_iff (h : m.Distinct) : m.text? name = none ↔ ∀ s, ¬ m.Shows name s := by
  simp only [← text?_eq_some_iff h, Option.eq_none_iff_forall_ne_some]

theorem eq_text?_iff (h : m.Distinct) {t : Option String} :
    t = m.text? name ↔ ∀ s, t = some s ↔ m.Shows name s := by
  simp only [← text?_eq_some_iff h]
  exact ⟨fun he s => by rw [he], fun hs => Option.ext hs⟩

theorem fills_iff (h : m.Distinct) {default s : String} :
    m.Fills name default s ↔ s = (m.text? name).getD default := by
  cases ht : m.text? name with
  | none =>
    have hnone := (text?_eq_none_iff h).mp ht
    constructor
    · rintro (hs | -)
      · exact absurd hs (hnone _)
      · rfl
    · rintro rfl
      exact .unshown hnone
  | some t =>
    have hsome := (text?_eq_some_iff h).mp ht
    constructor
    · rintro (hs | hnone)
      · exact Option.some.inj (((text?_eq_some_iff h).mpr hs).symm.trans ht)
      · exact absurd hsome (hnone t)
    · rintro rfl
      exact .shown hsome

theorem holdsCollection_eq_false_iff (h : m.Distinct) :
    m.holdsCollection name = false ↔ ∀ v, (.str name, v) ∈ m → v.isCollection = false := by
  simp only [← get?_eq_some_iff h, holdsCollection]
  cases m.get? name with
  | none => simp
  | some v => simp

theorem fieldText_eq_error_iff (h : m.Distinct) {e : InventoryError} :
    m.fieldText name = .error e ↔ ∃ v, (.str name, v) ∈ m ∧ v.isCollection = true ∧
      .validation ("field " ++ name ++ " must be a scalar, got " ++ v.describe) = e := by
  simp only [← get?_eq_some_iff h, fieldText]
  cases m.get? name with
  | none => simp
  | some v => cases v <;> simp [Value.isCollection]

end

end Mapping

/-! ### Entries that are accepted -/

/-- The names of the known fields that may be absent. -/
def FieldNames.others (f : FieldNames) : List String :=
  [f.privateIp, f.sshUser, f.sshOptions, f.agentPort, f.groupname, f.connection]

/-- An entry that has a record: it shows an address, and no other known field is a collection without
a tag. -/
structure Mapping.Accepted (raw : Mapping) : Prop where
  address : ∃ ip, raw.Shows "public_ip" ip
  plain : ∀ name ∈ field.others, ∀ v, (.str name, v) ∈ raw → v.isCollection = false

/-- The record of an accepted entry under given defaults. -/
structure Mapping.Settles (raw : Mapping) (d : HostDefaults) (r : HostRecord) : Prop where
  publicIp : raw.Shows "public_ip" r.publicIp
  privateIp : ∀ s, r.privateIp = some s ↔ raw.Shows "private_ip" s
  sshUser : raw.Fills "ssh_user" d.sshUser r.sshUser
  sshOptions : raw.Fills "ssh_options" d.sshOptions r.sshOptions
  agentPort : raw.Fills "agent_port" d.agentPort r.agentPort
  groupname : ∀ s, r.groupname = some s ↔ raw.Shows "groupname" s
  connection : r.connection = .kubectl ↔ raw.Shows "connection" "kubectl"
  extra : r.extra = raw.filter (Mapping.isOutside field.all)

section

variable {raw : Mapping} {d : HostDefaults} {r : HostRecord}

/-- An address that shows a text is no collection, so that only the other fields can be one. -/
theorem accepted_iff (h : raw.Distinct) :
    raw.Accepted ↔ (∃ ip, raw.text? field.publicIp = some ip) ∧
      ∀ name ∈ field.all, raw.holdsCollection name = false := by
  have hall : field.all = field.publicIp :: field.others := rfl
  have haddress : (∃ ip, raw.Shows "public_ip" ip) ↔ ∃ ip, raw.text? field.publicIp = some ip :=
    exists_congr fun _ => (Mapping.text?_eq_some_iff h).symm
  have hplain : (∀ name ∈ field.others, ∀ v, (.str name, v) ∈ raw → v.isCollection = false) ↔
      ∀ name ∈ field.others, raw.holdsCollection name = false :=
    forall₂_congr fun _ _ => (Mapping.holdsCollection_eq_false_iff h).symm
  rw [hall, List.forall_mem_cons, ← haddress, ← hplain]
  constructor
  · rintro ⟨hip, hothers⟩
    obtain ⟨ip, htext⟩ := haddress.mp hip
    exact ⟨hip, Mapping.holdsCollection_eq_false_of_text? htext, hothers⟩
  · rintro ⟨hip, -, hothers⟩
    exact ⟨hip, hothers⟩

theorem ofField_eq_kubectl_iff {t : Option String} :
    Connection.ofField t = .kubectl ↔ t = some "kubectl" := by
  cases t with
  | none => decide
  | some s =>
    by_cases hs : s = "ssh"
    · subst hs
      decide
    · by_cases hk : s = "kubectl"
      · subst hk
        decide
      · simp [Connection.ofField, Connection.ofText?, Connection.standard, hs, hk]

theorem Connection.eq_iff {a b : Connection} : a = b ↔ (a = .kubectl ↔ b = .kubectl) := by
  cases a <;> cases b <;> decide

/-- The record is settled field by field. -/
theorem settles_iff (h : raw.Distinct) {ip : String} (hip : raw.text? field.publicIp = some ip) :
    raw.Settles d r ↔ HostRecord.ofEntry raw d = r := by
  have haddress : raw.Shows "public_ip" r.publicIp ↔ (raw.text? field.publicIp).getD "" = r.publicIp := by
    rw [← Mapping.text?_eq_some_iff h, hip]
    exact ⟨fun he => Option.some.inj (he.symm.trans hip) ▸ rfl, fun he => he ▸ hip⟩
  have hconnection : (r.connection = .kubectl ↔ raw.Shows "connection" "kubectl") ↔
      Connection.ofField (raw.text? field.connection) = r.connection := by
    rw [← Mapping.text?_eq_some_iff h, ← ofField_eq_kubectl_iff, ← Connection.eq_iff]
    exact eq_comm
  have hextra : raw.withoutKnown = raw.filter (Mapping.isOutside field.all) :=
    Mapping.withoutKnown_eq_filter h
  constructor
  · rintro ⟨h1, h2, h3, h4, h5, h6, h7, h8⟩
    rw [← Mapping.eq_text?_iff h] at h2 h6
    rw [Mapping.fills_iff h] at h3 h4 h5
    obtain ⟨publicIp, privateIp, sshUser, sshOptions, agentPort, groupname, connection, extra⟩ := r
    exact HostRecord.mk.injEq .. ▸
      ⟨haddress.mp h1, h2.symm, h3.symm, h4.symm, h5.symm, h6.symm, hconnection.mp h7,
        hextra.trans h8.symm⟩
  · rintro rfl
    exact
      { publicIp := haddress.mpr rfl
        privateIp := (Mapping.eq_text?_iff h).mp rfl
        sshUser := (Mapping.fills_iff h).mpr rfl
        sshOptions := (Mapping.fills_iff h).mpr rfl
        agentPort := (Mapping.fills_iff h).mpr rfl
        groupname := (Mapping.eq_text?_iff h).mp rfl
        connection := hconnection.mpr rfl
        extra := hextra }

theorem normalize_eq_ok_iff_settles (h : raw.Distinct) :
    normalize raw d = .ok r ↔ raw.Accepted ∧ raw.Settles d r := by
  rw [normalize_eq_ok_iff, accepted_iff h, and_assoc]
  refine and_congr_right fun ⟨ip, hip⟩ => and_congr_right fun _ => ?_
  rw [settles_iff h hip]

/-! ### Entries that are refused -/

/-- Why an entry has no record. -/
inductive Mapping.Refused (raw : Mapping) : InventoryError → Prop
  /-- It shows no address. -/
  | addressless : (∀ ip, ¬ raw.Shows "public_ip" ip) →
      Refused raw
        (.validation ("could not find public_ip in host entry " ++ (Value.map raw).describe))
  /-- It shows one, but a known field is a collection, and those that are read before it are not. -/
  | collection {ip : String} {before : List String} {name : String} {after : List String} {v : Value} :
      raw.Shows "public_ip" ip → field.others = before ++ name :: after →
      (∀ other ∈ before, ∀ w, (.str other, w) ∈ raw → w.isCollection = false) →
      (.str name, v) ∈ raw → v.isCollection = true →
      Refused raw (.validation ("field " ++ name ++ " must be a scalar, got " ++ v.describe))

/-- Without an address nothing else is looked at; with one, the known fields are read in order. -/
theorem normalize_eq_error_iff {e : InventoryError} :
    normalize raw d = .error e ↔
      raw.text? field.publicIp = none ∧
          .validation ("could not find public_ip in host entry " ++ (Value.map raw).describe) = e ∨
        (∃ ip, raw.text? field.publicIp = some ip) ∧ FailsFirst raw.fieldText field.all e := by
  unfold normalize Mapping.text?
  cases hip : (raw.get? field.publicIp).bind Value.scalarText with
  | none => simp
  | some ip =>
    have hnil : ¬ FailsFirst raw.fieldText [] e := by
      rintro ⟨before, x, after, hsplit, -⟩
      cases before <;> cases hsplit
    simp [bind_eq_error_iff, FieldNames.all, failsFirst_cons_iff, hnil, pure, Except.pure]

/-- A refusal names what the entry lacks, or the first field that it cannot have. -/
theorem normalize_eq_error_iff_refused (h : raw.Distinct) {e : InventoryError} :
    normalize raw d = .error e ↔ raw.Refused e := by
  have hall : field.all = field.publicIp :: field.others := rfl
  rw [normalize_eq_error_iff, hall, failsFirst_cons_iff]
  constructor
  · rintro (⟨hip, rfl⟩ | ⟨⟨ip, hip⟩, haddress | ⟨-, before, name, after, hsplit, hbefore, hname⟩⟩)
    · exact .addressless ((Mapping.text?_eq_none_iff h).mp hip)
    · -- an address that shows a text is read
      rw [Mapping.fieldText_of_text? hip] at haddress
      cases haddress
    · obtain ⟨v, hv, hcollection, rfl⟩ := (Mapping.fieldText_eq_error_iff h).mp hname
      refine .collection ((Mapping.text?_eq_some_iff h).mp hip) hsplit ?_ hv hcollection
      intro other hother
      obtain ⟨t, ht⟩ := hbefore other hother
      exact (Mapping.holdsCollection_eq_false_iff h).mp (Mapping.fieldText_eq_ok_iff.mp ht).1
  · rintro (hnone | ⟨hip, hsplit, hbefore, hv, hcollection⟩)
    · exact Or.inl ⟨(Mapping.text?_eq_none_iff h).mpr hnone, rfl⟩
    · have hip := (Mapping.text?_eq_some_iff h).mpr hip
      refine Or.inr ⟨⟨_, hip⟩, Or.inr ⟨⟨_, Mapping.fieldText_of_text? hip⟩, _, _, _, hsplit, ?_, ?_⟩⟩
      · intro other hother
        exact ⟨_, Mapping.fieldText_eq_ok_iff.mpr
          ⟨(Mapping.holdsCollection_eq_false_iff h).mpr (hbefore other hother), rfl⟩⟩
      · exact (Mapping.fieldText_eq_error_iff h).mpr ⟨_, hv, hcollection, rfl⟩

theorem Mapping.Refused.exists_text {e : InventoryError} (h : raw.Refused e) :
    ∃ text, e = .validation text := by
  cases h with
  | addressless _ => exact ⟨_, rfl⟩
  | collection _ _ _ _ _ => exact ⟨_, rfl⟩

theorem exists_normalize_iff (h : raw.Distinct) : (∃ r, normalize raw d = .ok r) ↔ raw.Accepted := by
  constructor
  · rintro ⟨r, hr⟩
    exact ((normalize_eq_ok_iff_settles h).mp hr).1
  · intro haccepted
    obtain ⟨haddress, hplain⟩ := (accepted_iff h).mp haccepted
    exact ⟨_, normalize_eq_ok_iff.mpr ⟨haddress, hplain, rfl⟩⟩

end

/-- The law of normalization, for entries without repeated keys. An entry has a record when it shows an
address and no other known field is a collection without a tag, and then the record is settled by
what the entry shows and by the defaults. Any other entry is refused with a validation error, which
names the address or the first field that is a collection. -/
theorem normalize_settles {raw : Mapping} (hraw : raw.Distinct) (d : HostDefaults) :
    ((∃ r, normalize raw d = .ok r) ↔ raw.Accepted) ∧
      (¬ raw.Accepted → ∃ text, normalize raw d = .error (.validation text)) ∧
      (∀ r, normalize raw d = .ok r ↔ raw.Accepted ∧ raw.Settles d r) ∧
      ∀ e, normalize raw d = .error e ↔ raw.Refused e := by
  have hok := exists_normalize_iff (d := d) hraw
  refine ⟨hok, fun hnot => ?_, fun r => normalize_eq_ok_iff_settles hraw,
    fun e => normalize_eq_error_iff_refused hraw⟩
  cases hn : normalize raw d with
  | ok r => exact absurd (hok.mp ⟨r, hn⟩) hnot
  | error e =>
    obtain ⟨text, rfl⟩ := ((normalize_eq_error_iff_refused hraw).mp hn).exists_text
    exact ⟨text, rfl⟩

/-- An entry with an address under two tags, a port that is a sequence under a tag, an unknown
connection, a null login user, and further fields, of which two have names of known ones under tags. -/
def taggedEntry : Mapping :=
  [(.tagged "old" (.str "public_ip"), .seq []), (.str "connection", .str "docker"),
    (.str "public_ip", .tagged "node" (.tagged "v4" (.int 7))), (.str "rack", .map []),
    (.str "agent_port", .tagged "ports" (.seq [.int 9100])), (.str "ssh_user", .null),
    (.str "private_ip", .bool true), (.tagged "was" (.str "rack"), .null)]

/-- The record of that entry under the standard defaults. -/
def taggedRecord : HostRecord :=
  { publicIp := "7"
    privateIp := some "true"
    sshUser := "simulator"
    sshOptions := "-i key -o StrictHostKeyChecking=no -o ConnectTimeout=60"
    agentPort := "9000"
    extra := [(.tagged "old" (.str "public_ip"), .seq []), (.str "rack", .map []),
      (.tagged "was" (.str "rack"), .null)] }

theorem normalize_settles_tagged :
    taggedEntry.Distinct ∧ taggedEntry.Accepted ∧ taggedEntry.Settles {} taggedRecord ∧
      normalize taggedEntry {} = .ok taggedRecord := by
  have hraw : taggedEntry.Distinct := by simp [taggedEntry, Mapping.Distinct, Value.same]
  have h : normalize taggedEntry {} = .ok taggedRecord := by rfl
  obtain ⟨-, -, hsettles, -⟩ := normalize_settles hraw {}
  obtain ⟨haccepted, hsettled⟩ := (hsettles taggedRecord).mp h
  exact ⟨hraw, haccepted, hsettled, h⟩

/-- A login user that is a mapping is refused before a port that is a sequence, wherever they stand. -/
example :
    normalize [(.str "agent_port", .seq []), (.str "ssh_user", .map []),
      (.str "public_ip", .str "10.0.0.1")] {} =
      .error (.validation "field ssh_user must be a scalar, got {}") := by
  cbv

end AgentFleet
