import AgentFleet.Proofs.Document.Equality
import AgentFleet.Proofs.Document.Mapping
import AgentFleet.Proofs.Inventory.Acceptance
import Mathlib.Data.List.Nodup

/-!
# Hosts without a group and in one

Hosts that are listed without a group can stand as a sequence of items, below a
key `hosts`, or below that key in a group. The first two are the same inventory,
whatever the items are. The third differs in the group alone: an accepted record
has it (`normalize_inGroup`), and a refused document is refused because of the
same entry (`RefusedAt`), also when that entry only repeats an identity. Hosts
that are listed by name are items that have the name for an address.
-/

namespace AgentFleet

open Checked

/-! ### Records and their errors in a group -/

/-- The record in a group. -/
def HostRecord.withGroup (r : HostRecord) (group : String) : HostRecord :=
  { r with groupname := some group }

/-- Errors of the same kind for the same host, with no group and in one; how an entry that cannot be
used is worded may differ, since the wording quotes the entry. -/
inductive InventoryError.Regrouped : InventoryError → String → InventoryError → Prop
  | validation (t group u : String) : Regrouped (.validation t) group (.validation u)
  | duplicateHost (ip group : String) :
      Regrouped (.duplicateHost ip "<none>") group (.duplicateHost ip group)

section

variable {group : String} {entry : Mapping} {d : HostDefaults}

theorem text?_inGroup (hgroup : group ≠ "") (name : String) :
    (Layout.inGroup group entry).text? name =
      if field.groupname = name then some group else entry.text? name := by
  unfold Mapping.text?
  rw [Layout.inGroup, Mapping.get?_insert]
  by_cases hname : field.groupname = name
  · simp [Value.isText, hname, Value.scalarText, hgroup]
  · simp [Value.isText, hname]

theorem holdsCollection_inGroup (name : String) :
    (Layout.inGroup group entry).holdsCollection name =
      if field.groupname = name then false else entry.holdsCollection name := by
  unfold Mapping.holdsCollection
  rw [Layout.inGroup, Mapping.get?_insert]
  by_cases hname : field.groupname = name
  · simp [Value.isText, hname, Value.isCollection]
  · simp [Value.isText, hname]

theorem withoutKnown_inGroup (h : entry.get? field.groupname = none) :
    (Layout.inGroup group entry).withoutKnown = entry.withoutKnown := by
  have hknown : field.groupname ∈ field.all := by simp [FieldNames.all]
  rw [Layout.inGroup, Mapping.insert_of_get?_eq_none h]
  exact Mapping.foldl_erase_append h hknown _

theorem ofEntry_inGroup (hgroup : group ≠ "") (h : entry.get? field.groupname = none) :
    HostRecord.ofEntry (Layout.inGroup group entry) d =
      (HostRecord.ofEntry entry d).withGroup group := by
  unfold HostRecord.ofEntry HostRecord.withGroup
  simp [text?_inGroup hgroup, withoutKnown_inGroup h, field]

/-- In a group, an entry that names none gives the record that it gives without, in that group. -/
theorem normalize_inGroup_eq_ok_iff (hgroup : group ≠ "") (h : entry.get? field.groupname = none)
    {r' : HostRecord} :
    normalize (Layout.inGroup group entry) d = .ok r' ↔
      ∃ r, normalize entry d = .ok r ∧ r.withGroup group = r' := by
  have haddress : (Layout.inGroup group entry).text? field.publicIp = entry.text? field.publicIp := by
    rw [text?_inGroup hgroup, if_neg (by decide)]
  have hplain : entry.holdsCollection field.groupname = false := by
    rw [Mapping.holdsCollection, h, Option.any_none]
  have hcollection : ∀ name,
      (Layout.inGroup group entry).holdsCollection name = entry.holdsCollection name := by
    intro name
    rw [holdsCollection_inGroup]
    split
    case isTrue hname => rw [← hname, hplain]
    case isFalse => rfl
  simp only [normalize_eq_ok_iff, haddress, hcollection, ofEntry_inGroup hgroup h]
  constructor
  · rintro ⟨hip, hscalar, rfl⟩
    exact ⟨_, ⟨hip, hscalar, rfl⟩, rfl⟩
  · rintro ⟨_, ⟨hip, hscalar, rfl⟩, rfl⟩
    exact ⟨hip, hscalar, rfl⟩

theorem groupname_of_normalize (h : entry.get? field.groupname = none) {r : HostRecord}
    (hr : normalize entry d = .ok r) : r.groupname = none := by
  obtain ⟨-, -, rfl⟩ := normalize_eq_ok_iff.mp hr
  have hnone : entry.text? field.groupname = none := by
    rw [Mapping.text?, h, Option.bind_none]
  exact hnone

/-- An entry that is refused is refused in a group too. -/
theorem normalize_inGroup_of_error (hgroup : group ≠ "") (h : entry.get? field.groupname = none)
    {e : InventoryError} (he : normalize entry d = .error e) :
    ∃ e', normalize (Layout.inGroup group entry) d = .error e' ∧ e.Regrouped group e' := by
  cases hn : normalize (Layout.inGroup group entry) d with
  | ok r' =>
    obtain ⟨r, hr, -⟩ := (normalize_inGroup_eq_ok_iff hgroup h).mp hn
    rw [hr] at he
    cases he
  | error e' =>
    obtain ⟨t, rfl⟩ := normalize_failsOnlyWith entry d e he
    obtain ⟨u, rfl⟩ := normalize_failsOnlyWith _ d e' hn
    exact ⟨_, rfl, .validation t group u⟩

end

/-! ### The entry that a refusal is about -/

/-- The entry at a place is why a list of entries is refused: it is the first that cannot be normalized,
or else all can be and its record is the first that repeats an identity. -/
inductive RefusedAt (raw : List Mapping) (d : HostDefaults) (k : Nat) (e : InventoryError) : Prop
  /-- The entry cannot be normalized, and those before it can. -/
  | entry (before : List Mapping) (entry : Mapping) (after : List Mapping) :
      raw = before ++ entry :: after → before.length = k →
      (∀ b ∈ before, ∃ r, normalize b d = .ok r) → normalize entry d = .error e → RefusedAt raw d k e
  /-- All entries can be normalized, and this one repeats an identity. -/
  | record (before : List HostRecord) (r : HostRecord) (after : List HostRecord) :
      raw.map (fun entry => normalize entry d) = (before ++ r :: after).map .ok →
      before.length = k → (before.map HostRecord.identity).Nodup →
      r.identity ∈ before.map HostRecord.identity →
      e = .duplicateHost r.publicIp (r.groupname.getD "<none>") → RefusedAt raw d k e

/-- A document is refused because of one of its entries. -/
theorem inventory_eq_error_iff_exists_refusedAt {doc : Value} {d : HostDefaults}
    {e : InventoryError} :
    inventory doc d = .error e ↔ ∃ k, RefusedAt (Layout.rawEntries doc d) d k e := by
  rw [inventory_eq_error_iff]
  constructor
  · rintro (⟨before, entry, after, hraw, hbefore, he⟩ |
      ⟨_, hraw, r, ⟨before, after, rfl, hnodup, hr⟩, he⟩)
    · exact ⟨before.length, .entry before entry after hraw rfl hbefore he⟩
    · exact ⟨before.length, .record before r after hraw rfl hnodup hr he⟩
  · rintro ⟨k, ⟨before, entry, after, hraw, -, hbefore, he⟩ |
      ⟨before, r, after, hraw, -, hnodup, hr, he⟩⟩
    · exact Or.inl ⟨before, entry, after, hraw, hbefore, he⟩
    · exact Or.inr ⟨_, hraw, r, ⟨before, after, rfl, hnodup, hr⟩, he⟩

/-! ### Entries in a group -/

section

variable {group : String} {raw : List Mapping} {records : List HostRecord} {d : HostDefaults}

/-- Within one group, or without any, the addresses are what identifies records. -/
theorem map_identity_eq {name : Option String} (h : ∀ r ∈ records, r.groupname = name) :
    records.map HostRecord.identity = (records.map HostRecord.publicIp).map fun ip => (ip, name) := by
  rw [List.map_map]
  refine List.map_congr_left fun r hr => ?_
  rw [HostRecord.identity, h r hr]
  rfl

theorem nodup_map_identity_iff {name : Option String} (h : ∀ r ∈ records, r.groupname = name) :
    (records.map HostRecord.identity).Nodup ↔ (records.map HostRecord.publicIp).Nodup := by
  rw [map_identity_eq h]
  exact List.nodup_map_iff fun _ _ he => (Prod.mk.inj he).1

theorem mem_map_identity_iff {name : Option String} (h : ∀ r ∈ records, r.groupname = name)
    {r : HostRecord} (hr : r.groupname = name) :
    r.identity ∈ records.map HostRecord.identity ↔ r.publicIp ∈ records.map HostRecord.publicIp := by
  rw [map_identity_eq h, HostRecord.identity, hr]
  exact List.mem_map_of_injective fun _ _ he => (Prod.mk.inj he).1

theorem groupname_of_mem_map_withGroup :
    ∀ r ∈ records.map (fun r => r.withGroup group), r.groupname = some group := by
  intro r hr
  obtain ⟨s, -, rfl⟩ := List.mem_map.mp hr
  rfl

theorem map_publicIp_withGroup :
    (records.map fun r => r.withGroup group).map HostRecord.publicIp =
      records.map HostRecord.publicIp := by
  rw [List.map_map]
  rfl

theorem groupname_of_map_normalize (hraw : ∀ entry ∈ raw, entry.get? field.groupname = none)
    (h : raw.map (fun entry => normalize entry d) = records.map .ok) :
    ∀ r ∈ records, r.groupname = none := by
  intro r hr
  obtain ⟨entry, hentry, hn⟩ := exists_of_map_eq h hr
  exact groupname_of_normalize (hraw entry hentry) hn

/-- The records of entries in a group are those that they have without, in that group. -/
theorem map_normalize_inGroup (hgroup : group ≠ "")
    (hraw : ∀ entry ∈ raw, entry.get? field.groupname = none)
    (h : raw.map (fun entry => normalize entry d) = records.map .ok) :
    (raw.map (Layout.inGroup group)).map (fun entry => normalize entry d) =
      (records.map fun r => r.withGroup group).map .ok := by
  induction raw generalizing records with
  | nil =>
    obtain rfl : records = [] := by simpa using h.symm
    rfl
  | cons entry raw ih =>
    obtain ⟨hentry, hrest⟩ := List.forall_mem_cons.mp hraw
    cases records with
    | nil => cases h
    | cons r records =>
      obtain ⟨hr, h⟩ := List.cons.inj h
      have hr' := (normalize_inGroup_eq_ok_iff hgroup hentry).mpr ⟨r, hr, rfl⟩
      rw [List.map_cons, List.map_cons, List.map_cons, List.map_cons, hr', ih hrest h]

/-- Entries in a group are refused because of the entry that they are refused for without. -/
theorem RefusedAt.inGroup (hgroup : group ≠ "")
    (hraw : ∀ entry ∈ raw, entry.get? field.groupname = none) {k : Nat} {e : InventoryError}
    (h : RefusedAt raw d k e) :
    ∃ e', RefusedAt (raw.map (Layout.inGroup group)) d k e' ∧ e.Regrouped group e' := by
  cases h with
  | entry before entry after hsplit hlength hbefore he =>
    have hfree : ∀ b ∈ before, b.get? field.groupname = none := fun b hb =>
      hraw b (by simp [hsplit, hb])
    obtain ⟨e', he', hregrouped⟩ :=
      normalize_inGroup_of_error hgroup (hraw entry (by simp [hsplit])) he
    refine ⟨e', .entry (before.map (Layout.inGroup group)) (Layout.inGroup group entry)
      (after.map (Layout.inGroup group)) (by simp [hsplit]) (by simp [hlength]) ?_ he', hregrouped⟩
    intro b' hb'
    obtain ⟨b, hb, rfl⟩ := List.mem_map.mp hb'
    obtain ⟨r, hr⟩ := hbefore b hb
    exact ⟨_, (normalize_inGroup_eq_ok_iff hgroup (hfree b hb)).mpr ⟨r, hr, rfl⟩⟩
  | record before r after hmap hlength hnodup hr he =>
    have hnone := groupname_of_map_normalize hraw hmap
    have hbefore : ∀ b ∈ before, b.groupname = none := fun b hb =>
      hnone b (List.mem_append_left _ hb)
    have hrnone : r.groupname = none := hnone r (by simp)
    have hmap' := map_normalize_inGroup hgroup hraw hmap
    rw [List.map_append, List.map_cons] at hmap'
    refine ⟨.duplicateHost r.publicIp group, .record _ _ _ hmap' (by simp [hlength]) ?_ ?_ rfl, ?_⟩
    · rw [nodup_map_identity_iff hbefore] at hnodup
      rwa [nodup_map_identity_iff groupname_of_mem_map_withGroup, map_publicIp_withGroup]
    · rw [mem_map_identity_iff hbefore hrnone] at hr
      rwa [mem_map_identity_iff groupname_of_mem_map_withGroup rfl, map_publicIp_withGroup]
    · rw [he, hrnone]
      exact .duplicateHost r.publicIp group

end

/-- Documents with the same entries are the same inventory. -/
theorem inventory_congr {doc doc' : Value} {d : HostDefaults}
    (h : Layout.rawEntries doc d = Layout.rawEntries doc' d) : inventory doc d = inventory doc' d := by
  unfold inventory
  rw [Layout.firstEntries_all, Layout.firstEntries_all, h]

/-- A document lists in a group the hosts that another lists without: its records are the same in that
group, or both are refused because of the same entry. -/
structure RegroupedIn (group : String) (d : HostDefaults) (doc doc' : Value) : Prop where
  ok : ∀ records, inventory doc d = .ok records → (∀ r ∈ records, r.groupname = none) ∧
    inventory doc' d = .ok (records.map fun r => r.withGroup group)
  error : ∀ e, inventory doc d = .error e → ∃ e', inventory doc' d = .error e' ∧
    e.Regrouped group e' ∧ ∃ k, RefusedAt (Layout.rawEntries doc d) d k e ∧
      RefusedAt (Layout.rawEntries doc' d) d k e'

theorem regroupedIn_of_rawEntries {group : String} {d : HostDefaults} {doc doc' : Value}
    (hgroup : group ≠ "")
    (hraw : ∀ entry ∈ Layout.rawEntries doc d, entry.get? field.groupname = none)
    (h : Layout.rawEntries doc' d = (Layout.rawEntries doc d).map (Layout.inGroup group)) :
    RegroupedIn group d doc doc' := by
  constructor
  · intro records hok
    obtain ⟨hmap, hnodup⟩ := inventory_eq_ok_iff.mp hok
    have hnone := groupname_of_map_normalize hraw hmap
    refine ⟨hnone, inventory_eq_ok_iff.mpr ⟨?_, ?_⟩⟩
    · rw [h, map_normalize_inGroup hgroup hraw hmap]
    · rw [nodup_map_identity_iff hnone] at hnodup
      rwa [nodup_map_identity_iff groupname_of_mem_map_withGroup, map_publicIp_withGroup]
  · intro e he
    obtain ⟨k, hk⟩ := inventory_eq_error_iff_exists_refusedAt.mp he
    obtain ⟨e', hk', hregrouped⟩ := hk.inGroup hgroup hraw
    rw [← h] at hk'
    exact ⟨e', inventory_eq_error_iff_exists_refusedAt.mpr ⟨k, hk'⟩, hregrouped, k, hk, hk'⟩

/-! ### Sections of hosts -/

namespace Layout

/-- The document that has a section of hosts below its key `hosts`. -/
def underHosts (hosts : Value) : Value :=
  .map [(.str "hosts", hosts)]

/-- The document with one group, which has a section of hosts. -/
def underGroup (group hosts : Value) : Value :=
  .map [(group, underHosts hosts)]

/-- A host that is listed by name, as an item: its fields extend the name as an address, and an address
of its own wins over the name. -/
def itemOf (name fields : Value) : Value :=
  .map (Mapping.insertAll [(.str field.publicIp, name)] (fields.asMapping?.getD []))

variable {hosts : Value} {entries : List Mapping}

/-- A section of hosts below `hosts` is no group, since it has no key `hosts` of its own. -/
theorem rawEntries_underHosts (h : sectionEntries hosts = some entries)
    (hhosts : hosts.get? "hosts" = none) (d : HostDefaults) :
    rawEntries (underHosts hosts) d = entries := by
  refine rawEntries_of_flat ?_ rfl ?_
  · have hgroup : groupEntries (.str "hosts") hosts = [] := by
      rw [groupEntries, hhosts]
      rfl
    have hroot : groupedMap.extract (underHosts hosts) d =
        some (groupEntries (.str "hosts") hosts ++ []) := rfl
    rw [hroot, hgroup]
    rfl
  · have hflat : flat.extract (underHosts hosts) d = sectionEntries hosts := rfl
    rw [hflat, h]

theorem rawEntries_underHosts_map {named : Mapping} (h : named.get? "hosts" = none)
    (d : HostDefaults) :
    rawEntries (underHosts (.map named)) d = named.map fun e => namedEntry e.1 e.2 := by
  have hsection : sectionEntries (.map named) = some (named.map fun e => namedEntry e.1 e.2) := rfl
  exact rawEntries_underHosts hsection h d

theorem isTruthy_of_sectionEntries (h : sectionEntries hosts = some entries) (hne : entries ≠ []) :
    hosts.isTruthy = true := by
  obtain ⟨entry, rest, rfl⟩ := List.exists_cons_of_ne_nil hne
  unfold sectionEntries at h
  split at h
  case h_1 named => cases named <;> simp_all [Value.isTruthy]
  case h_2 items => cases items <;> simp_all [Value.isTruthy]
  case h_3 => cases h

/-- A section with a host in a group yields its entries in that group. -/
theorem rawEntries_underGroup {group : Value} {name : String} (hname : group.scalarText = some name)
    (hall : group.isText "all" = false) (h : sectionEntries hosts = some entries)
    (hne : entries ≠ []) (d : HostDefaults) :
    rawEntries (underGroup group hosts) d = entries.map (inGroup name) := by
  have hget : (underHosts hosts).get? "hosts" = some hosts := rfl
  have hentries : groupEntries group (underHosts hosts) = entries.map (inGroup name) := by
    have htruthy := isTruthy_of_sectionEntries h hne
    simp [groupEntries, hname, hget, htruthy, h, Option.filter]
  have hroot : Mapping.get? [(group, underHosts hosts)] "all" = none := by
    rw [Mapping.get?_cons, hall]
    rfl
  have hgrouped : groupedMap.extract (underGroup group hosts) d =
      some (entries.map (inGroup name)) := by
    have hmap : (underGroup group hosts).asMapping? = some [(group, underHosts hosts)] := rfl
    simp [extract, groupedEntries, hmap, hroot, hentries]
  exact rawEntries_of_grouped hgrouped (by simpa using hne)

/-- Hosts that name no group are listed in a group as they are in a document of their own. -/
theorem regroupedIn_underGroup {group doc : Value} {name : String} {d : HostDefaults}
    (hname : group.scalarText = some name) (hall : group.isText "all" = false)
    (h : sectionEntries hosts = some entries) (hne : entries ≠ [])
    (hfree : ∀ entry ∈ entries, entry.get? field.groupname = none) (hraw : rawEntries doc d = entries) :
    RegroupedIn name d doc (underGroup group hosts) := by
  refine regroupedIn_of_rawEntries (scalarText_ne_empty hname) ?_ ?_
  · rwa [hraw]
  · rw [hraw, rawEntries_underGroup hname hall h hne]

/-- Only an item that is a mapping can name a group. -/
theorem get?_itemEntry_groupname {item : Value}
    (h : ∀ fields, item = .map fields → Mapping.get? fields field.groupname = none) :
    (itemEntry item).get? field.groupname = none := by
  unfold itemEntry
  split
  case h_1 fields => exact h fields rfl
  case h_2 => split <;> rfl

theorem get?_namedEntry_groupname (name : Value) {fields : Value}
    (h : fields.get? field.groupname = none) :
    (namedEntry name fields).get? field.groupname = none := by
  have hfields : Mapping.get? (fields.asMapping?.getD []) field.groupname = none := by
    unfold Value.get? at h
    cases hm : fields.asMapping? with
    | none => rfl
    | some entries => simpa [hm] using h
  rw [namedEntry, Mapping.get?_insertAll_of_get?_eq_none _ hfields]
  rfl

end Layout

/-- Hosts without a group are the same inventory as a sequence of items and below a key `hosts`, and they
are the same in a group but for that group: the same records in it, or a refusal of the same kind because
of the same entry. The key of the group is any scalar with a text but the text `all`; items and
fields name no group of their own. Hosts that are listed by name are the items that extend their names;
no host is called `hosts`, which would make the section a group. -/
theorem inventory_flat_layouts {group : Value} {name : String}
    (hname : group.scalarText = some name) (hall : group.isText "all" = false) (d : HostDefaults) :
    (∀ items : List Value,
      inventory (.seq items) d = inventory (Layout.underHosts (.seq items)) d) ∧
    (∀ items : List Value, items ≠ [] →
      (∀ fields, .map fields ∈ items → Mapping.get? fields field.groupname = none) →
      RegroupedIn name d (.seq items) (Layout.underGroup group (.seq items))) ∧
    (∀ hosts : Mapping, hosts.get? "hosts" = none →
      inventory (Layout.underHosts (.map hosts)) d =
        inventory (.seq (hosts.map fun e => Layout.itemOf e.1 e.2)) d) ∧
    ∀ hosts : Mapping, hosts ≠ [] → hosts.get? "hosts" = none →
      (∀ e ∈ hosts, e.2.get? field.groupname = none) →
      RegroupedIn name d (Layout.underHosts (.map hosts)) (Layout.underGroup group (.map hosts)) := by
  refine ⟨fun items => ?_, fun items hne hfree => ?_, fun hosts hhosts => ?_,
    fun hosts hne hhosts hfree => ?_⟩
  · apply inventory_congr
    rw [Layout.rawEntries_seq, Layout.rawEntries_underHosts rfl rfl]
  · refine Layout.regroupedIn_underGroup hname hall rfl (by simpa using hne) ?_
      (Layout.rawEntries_seq items d)
    intro entry hentry
    obtain ⟨item, hitem, rfl⟩ := List.mem_map.mp hentry
    exact Layout.get?_itemEntry_groupname fun fields hf => hfree fields (hf ▸ hitem)
  · apply inventory_congr
    rw [Layout.rawEntries_seq, Layout.rawEntries_underHosts_map hhosts, List.map_map]
    rfl
  · refine Layout.regroupedIn_underGroup hname hall rfl (by simpa using hne) ?_
      (Layout.rawEntries_underHosts_map hhosts d)
    intro entry hentry
    obtain ⟨e, he, rfl⟩ := List.mem_map.mp hentry
    exact Layout.get?_namedEntry_groupname e.1 (hfree e he)

/-- A name, a number, a tagged name, and fields with a tagged address and a null port. -/
def looseItems : List Value :=
  [.str "10.0.0.1", .int 7, .tagged "v4" (.str "10.0.0.2"),
    .map [(.str "rack", .int 4), (.str "public_ip", .tagged "v4" (.str "10.0.0.3")),
      (.str "agent_port", .null)]]

/-- Hosts that are named by a text and by a truth value; the second one has the address of the first. -/
def looseHosts : Mapping :=
  [(.str "10.0.0.1", .null), (.bool true, .tagged "old" (.map [(.str "public_ip", .str "10.0.0.1")]))]

theorem inventory_flat_layouts_loose :
    (Value.str "hosts").scalarText = some "hosts" ∧ (Value.str "hosts").isText "all" = false ∧
      looseItems ≠ [] ∧
      (∀ fields, .map fields ∈ looseItems → Mapping.get? fields field.groupname = none) ∧
      RegroupedIn "hosts" {} (.seq looseItems) (Layout.underGroup (.str "hosts") (.seq looseItems)) ∧
      looseHosts ≠ [] ∧ looseHosts.get? "hosts" = none ∧
      (∀ e ∈ looseHosts, e.2.get? field.groupname = none) ∧
      inventory (Layout.underHosts (.map looseHosts)) {} =
        inventory (.seq (looseHosts.map fun e => Layout.itemOf e.1 e.2)) {} ∧
      RegroupedIn "hosts" {} (Layout.underHosts (.map looseHosts))
        (Layout.underGroup (.str "hosts") (.map looseHosts)) ∧
      inventory (Layout.underGroup (.str "hosts") (.map looseHosts)) {} =
        .error (.duplicateHost "10.0.0.1" "hosts") := by
  have hitems : ∀ fields, .map fields ∈ looseItems →
      Mapping.get? fields field.groupname = none := by
    intro fields hfields
    obtain rfl : fields = [(.str "rack", .int 4),
        (.str "public_ip", .tagged "v4" (.str "10.0.0.3")), (.str "agent_port", .null)] := by
      simpa [looseItems] using hfields
    rfl
  have hhosts : ∀ e ∈ looseHosts, e.2.get? field.groupname = none := by decide
  obtain ⟨-, hseq, hnamed, hmap⟩ := inventory_flat_layouts
    (rfl : (Value.str "hosts").scalarText = some "hosts") rfl {}
  exact ⟨rfl, rfl, by decide, hitems, hseq looseItems (by decide) hitems, by decide, rfl, hhosts,
    hnamed looseHosts rfl, hmap looseHosts (by decide) rfl hhosts, by decide +kernel⟩

end AgentFleet
