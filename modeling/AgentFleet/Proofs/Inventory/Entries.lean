import AgentFleet.Proofs.Document.WellFormed
import AgentFleet.Proofs.Inventory.Acceptance

/-!
# The entries of a document

Every layout builds the entries of a well-formed document as mappings without
repeated keys, so that a field has one value in an entry.
-/

namespace AgentFleet.Layout

/-! ### Entries -/

theorem namedEntry_distinct (name fields : Value) : (namedEntry name fields).Distinct :=
  Mapping.Distinct.insertAll (List.pairwise_singleton _ _) _

theorem itemEntry_distinct {item : Value} (h : item.WellFormed) : (itemEntry item).Distinct := by
  unfold itemEntry
  split
  · exact h.distinct
  · split
    · exact List.pairwise_singleton _ _
    · exact List.Pairwise.nil

theorem sectionEntries_distinct {hosts : Value} {entries : List Mapping} (h : hosts.WellFormed)
    (he : sectionEntries hosts = some entries) : ∀ e ∈ entries, e.Distinct := by
  unfold sectionEntries at he
  split at he
  · obtain rfl := Option.some.inj he
    intro e hmem
    obtain ⟨a, -, rfl⟩ := List.mem_map.mp hmem
    exact namedEntry_distinct a.1 a.2
  · obtain rfl := Option.some.inj he
    intro e hmem
    obtain ⟨item, hitem, rfl⟩ := List.mem_map.mp hmem
    exact itemEntry_distinct (h.items item hitem)
  · cases he

theorem get?_inGroup (group : String) (entry : Mapping) (name : String) :
    (inGroup group entry).get? name =
      if field.groupname = name then some (.str group) else entry.get? name := by
  rw [inGroup, Mapping.get?_insert]
  simp [Value.isText]

theorem inGroup_distinct (group : String) {entry : Mapping} (h : entry.Distinct) :
    (inGroup group entry).Distinct :=
  Mapping.Distinct.insert h _ _

theorem groupEntries_distinct (group : Value) {body : Value} (h : body.WellFormed) :
    ∀ e ∈ groupEntries group body, e.Distinct := by
  unfold groupEntries
  split
  case h_1 name hosts _ hhosts =>
    obtain ⟨hget, -⟩ := Option.filter_eq_some_iff.mp hhosts
    intro e he
    obtain ⟨a, ha, rfl⟩ := List.mem_map.mp he
    cases hs : sectionEntries hosts with
    | none => simp [hs] at ha
    | some entries =>
      rw [hs] at ha
      exact inGroup_distinct name (sectionEntries_distinct (h.get? hget) hs a ha)
  case h_2 => simp

theorem ansibleEntry_distinct {d : HostDefaults} {group : Option String} {name vars : Value}
    {host : String × Mapping} (h : ansibleEntry d group name vars = some host) :
    host.2.Distinct := by
  obtain ⟨hostname, -, rfl⟩ := Option.map_eq_some_iff.mp h
  have hentry : (Mapping.insertAll [(.str field.publicIp, .str hostname)]
      (ansibleFields (vars.asMapping?.getD []) d)).Distinct :=
    Mapping.Distinct.insertAll (List.pairwise_singleton _ _) _
  cases group with
  | none => exact hentry
  | some g => exact inGroup_distinct g hentry

theorem exists_of_mem_ansibleSection {d : HostDefaults} {group : Option String} {hosts : Mapping}
    {host : String × Mapping} (h : host ∈ ansibleSection d group hosts) :
    ∃ group name vars, ansibleEntry d group name vars = some host := by
  obtain ⟨e, -, he⟩ := List.mem_filterMap.mp h
  exact ⟨group, e.1, e.2, he⟩

/-- In the Ansible layout, every host has been declared by a name. -/
theorem exists_of_mem_ansibleHosts {doc : Value} {d : HostDefaults} {hosts : List (String × Mapping)}
    (h : ansibleHosts doc d = some hosts) {host : String × Mapping} (hmem : host ∈ hosts) :
    ∃ group name vars, ansibleEntry d group name vars = some host := by
  unfold ansibleHosts at h
  split at h
  · cases h
  · dsimp only at h
    split at h
    · cases h
    · obtain rfl := Option.some.inj h
      rcases List.mem_append.mp hmem with hmem | hmem
      · obtain ⟨e, -, he⟩ := List.mem_flatMap.mp hmem
        unfold ansibleGroup at he
        split at he
        · exact exists_of_mem_ansibleSection he
        · cases he
      · exact exists_of_mem_ansibleSection hmem

/-! ### Layouts -/

/-- The entries that a layout yields from a well-formed document have no key twice. -/
theorem extract_distinct {layout : Layout} {doc : Value} {d : HostDefaults}
    {entries : List Mapping} (hdoc : doc.WellFormed) (h : layout.extract doc d = some entries) :
    ∀ e ∈ entries, e.Distinct := by
  cases layout with
  | groupedMap =>
    simp only [extract, groupedEntries] at h
    split at h
    · cases h
    · rename_i root hroot
      split at h
      · cases h
      · obtain rfl := Option.some.inj h
        intro e he
        obtain ⟨a, ha, he⟩ := List.mem_flatMap.mp he
        exact groupEntries_distinct a.1 ((hdoc.asMapping? hroot).of_mem ha) e he
  | ansible =>
    obtain ⟨hosts, hhosts, rfl⟩ := Option.map_eq_some_iff.mp h
    intro e he
    obtain ⟨host, hmem, rfl⟩ := List.mem_map.mp he
    obtain ⟨group, name, vars, hentry⟩ := exists_of_mem_ansibleHosts hhosts hmem
    exact ansibleEntry_distinct hentry
  | flat =>
    simp only [extract, flatEntries] at h
    split at h
    · obtain rfl := Option.some.inj h
      intro e he
      obtain ⟨item, hitem, rfl⟩ := List.mem_map.mp he
      exact itemEntry_distinct (hdoc.items item hitem)
    · obtain ⟨hosts, hhosts, hs⟩ := Option.bind_eq_some_iff.mp h
      exact sectionEntries_distinct (hdoc.mapping_get? hhosts) hs
    · cases h

theorem exists_of_mem_firstEntries {layouts : List Layout} {doc : Value} {d : HostDefaults}
    {e : Mapping} (he : e ∈ firstEntries layouts doc d) :
    ∃ (layout : Layout) (entries : List Mapping), layout.extract doc d = some entries ∧ e ∈ entries := by
  induction layouts with
  | nil => cases he
  | cons layout rest ih =>
    rw [firstEntries] at he
    split at he
    case h_1 entry entries hx => exact ⟨layout, entry :: entries, hx, he⟩
    case h_2 => exact ih he

theorem rawEntries_distinct {doc : Value} (d : HostDefaults) (h : doc.WellFormed) :
    ∀ e ∈ rawEntries doc d, e.Distinct := by
  intro e he
  rw [← firstEntries_all] at he
  obtain ⟨layout, entries, hx, he⟩ := exists_of_mem_firstEntries he
  exact extract_distinct h hx e he

end AgentFleet.Layout
