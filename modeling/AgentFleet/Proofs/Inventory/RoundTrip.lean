import AgentFleet.Proofs.Inventory.Entries

/-!
# Printing an inventory and reading it again

A normalized record has no empty text but where the default is empty too, and
none of its further fields has the name of a known one (`Normal`). Its flat
mapping therefore repeats no key and normalizes to the record itself
(`normalize_toMapping`). The listing of a selection is a sequence, which only the
flat layout reads, and so it is read back as exactly the selected records.
-/

namespace AgentFleet

/-! ### Normalized records -/

/-- What holds of every record that normalization yields under given defaults. -/
structure HostRecord.Normal (d : HostDefaults) (r : HostRecord) : Prop where
  publicIp : r.publicIp ≠ ""
  privateIp : r.privateIp ≠ some ""
  sshUser : r.sshUser = "" → d.sshUser = ""
  sshOptions : r.sshOptions ≠ ""
  agentPort : r.agentPort = "" → d.agentPort = ""
  groupname : r.groupname ≠ some ""
  distinct : r.extra.Distinct
  unknown : ∀ e ∈ r.extra, ∀ name ∈ field.all, e.1.isText name = false

theorem Mapping.withoutKnown_eq_filter {m : Mapping} (h : m.Distinct) :
    m.withoutKnown = m.filter fun e => !field.all.any fun name => e.1.isText name :=
  Mapping.foldl_erase_eq_filter h field.all

theorem sshOptions_ne_empty (d : HostDefaults) : d.sshOptions ≠ "" := by
  simp [HostDefaults.sshOptions, HostDefaults.sshOptionsForKey]

theorem getD_text?_eq_empty {m : Mapping} {name default : String}
    (h : (m.text? name).getD default = "") : default = "" := by
  cases ht : m.text? name with
  | none => simpa [ht] using h
  | some s => exact absurd (by simpa [ht] using h) (Mapping.text?_ne_empty ht)

theorem normal_of_normalize {raw : Mapping} {d : HostDefaults} {r : HostRecord}
    (hraw : raw.Distinct) (h : normalize raw d = .ok r) : r.Normal d := by
  have hip := publicIp_ne_empty_of_normalize h
  obtain ⟨-, -, rfl⟩ := normalize_eq_ok_iff.mp h
  have hextra : (HostRecord.ofEntry raw d).extra =
      raw.filter fun e => !field.all.any fun name => e.1.isText name :=
    Mapping.withoutKnown_eq_filter hraw
  exact
    { publicIp := hip
      privateIp := fun he => Mapping.text?_ne_empty he rfl
      sshUser := getD_text?_eq_empty
      sshOptions := fun he => sshOptions_ne_empty d (getD_text?_eq_empty he)
      agentPort := getD_text?_eq_empty
      groupname := fun he => Mapping.text?_ne_empty he rfl
      distinct := hextra ▸ List.Pairwise.filter _ hraw
      unknown := by
        intro e he name hname
        rw [hextra] at he
        simpa using List.any_eq_false.mp (by simpa using (List.mem_filter.mp he).2) name hname }

/-! ### Named texts as a mapping -/

namespace HostRecord

theorem mem_entryOf_iff {name : String} {t : Option String} {e : Value × Value} :
    e ∈ entryOf name t ↔ ∃ s, t = some s ∧ e = (.str name, .str s) := by
  cases t <;> simp [entryOf]

section

variable {texts : List (String × Option String)}

/-- A name that occurs once is found with its own text. -/
theorem get?_flatMap_entryOf (h : (texts.map Prod.fst).Nodup) {name : String} {t : Option String}
    (ht : (name, t) ∈ texts) :
    Mapping.get? (texts.flatMap fun e => entryOf e.1 e.2) name = t.map .str := by
  induction texts with
  | nil => cases ht
  | cons a rest ih =>
    obtain ⟨hnot, hrest⟩ := List.nodup_cons.mp h
    rw [List.flatMap_cons, Mapping.get?_append]
    rcases List.mem_cons.mp ht with rfl | ht
    · cases t with
      | some s => simp [entryOf, Mapping.get?]
      | none =>
        rw [entryOf, Mapping.get?, Option.none_or, Mapping.get?_eq_none_iff.mpr, Option.map_none]
        intro e he
        obtain ⟨b, hb, he⟩ := List.mem_flatMap.mp he
        obtain ⟨s, -, rfl⟩ := mem_entryOf_iff.mp he
        have hne : b.1 ≠ name := fun hbn => hnot (List.mem_map.mpr ⟨b, hb, hbn⟩)
        simpa [Value.isText] using hne
    · have hne : a.1 ≠ name := fun han => hnot (List.mem_map.mpr ⟨(name, t), ht, han.symm⟩)
      rw [ih hrest ht, Mapping.get?_eq_none_iff.mpr, Option.none_or]
      intro e he
      obtain ⟨s, -, rfl⟩ := mem_entryOf_iff.mp he
      simpa [Value.isText] using hne

theorem flatMap_entryOf_distinct (h : (texts.map Prod.fst).Nodup) :
    Mapping.Distinct (texts.flatMap fun e => entryOf e.1 e.2) := by
  refine List.pairwise_flatMap.mpr ⟨fun a _ => ?_, (List.pairwise_map.mp h).imp ?_⟩
  · cases ha : a.2 with
    | none => exact List.Pairwise.nil
    | some s => exact List.pairwise_singleton _ _
  · intro a b hab x hx y hy
    obtain ⟨s, -, rfl⟩ := mem_entryOf_iff.mp hx
    obtain ⟨t, -, rfl⟩ := mem_entryOf_iff.mp hy
    simpa [Value.same] using hab

end

/-! ### The flat mapping of a record -/

/-- The texts of the known fields by name; a field that is absent has none. -/
def knownTexts (r : HostRecord) : List (String × Option String) :=
  [(field.publicIp, some r.publicIp), (field.privateIp, r.privateIp),
    (field.sshUser, some r.sshUser), (field.sshOptions, some r.sshOptions),
    (field.agentPort, some r.agentPort), (field.groupname, r.groupname),
    (field.connection, some r.connection.text)]

theorem knownFields_eq_flatMap (r : HostRecord) :
    r.knownFields = r.knownTexts.flatMap fun e => entryOf e.1 e.2 := by
  simp [knownFields, knownTexts, entryOf]

theorem map_fst_knownTexts (r : HostRecord) : r.knownTexts.map Prod.fst = field.all := rfl

theorem nodup_map_fst_knownTexts (r : HostRecord) : (r.knownTexts.map Prod.fst).Nodup := by
  rw [map_fst_knownTexts]
  decide

theorem exists_name_of_mem_knownFields {r : HostRecord} {e : Value × Value}
    (h : e ∈ r.knownFields) : ∃ name ∈ field.all, e.1 = .str name := by
  rw [knownFields_eq_flatMap] at h
  obtain ⟨a, ha, he⟩ := List.mem_flatMap.mp h
  obtain ⟨s, -, rfl⟩ := mem_entryOf_iff.mp he
  exact ⟨a.1, map_fst_knownTexts r ▸ List.mem_map_of_mem ha, rfl⟩

variable {d : HostDefaults} {r : HostRecord}

/-- The flat mapping of a normalized record repeats no key. -/
theorem Normal.toMapping_distinct (h : r.Normal d) : r.toMapping.Distinct := by
  refine List.pairwise_append.mpr ⟨?_, h.distinct, fun a ha b hb => ?_⟩
  · rw [knownFields_eq_flatMap]
    exact flatMap_entryOf_distinct (nodup_map_fst_knownTexts r)
  · obtain ⟨name, hname, ha⟩ := exists_name_of_mem_knownFields ha
    rw [ha, Value.str_same]
    exact h.unknown b hb name hname

theorem Normal.withoutKnown_toMapping (h : r.Normal d) : r.toMapping.withoutKnown = r.extra := by
  have hknown : ∀ e ∈ r.knownFields, ¬ (!field.all.any fun name => e.1.isText name) = true := by
    intro e he
    obtain ⟨name, hname, hk⟩ := exists_name_of_mem_knownFields he
    have : (field.all.any fun name => e.1.isText name) = true :=
      List.any_eq_true.mpr ⟨name, hname, Value.isText_iff.mpr hk⟩
    simp [this]
  have hextra : ∀ e ∈ r.extra, (!field.all.any fun name => e.1.isText name) = true := by
    intro e he
    have : (field.all.any fun name => e.1.isText name) = false :=
      List.any_eq_false.mpr fun name hname => by simp [h.unknown e he name hname]
    simp [this]
  rw [Mapping.withoutKnown_eq_filter h.toMapping_distinct, toMapping, List.filter_append,
    List.filter_eq_nil_iff.mpr hknown, List.filter_eq_self.mpr hextra, List.nil_append]

/-- The known fields are found in the flat mapping, whatever the other fields are. -/
theorem Normal.get?_toMapping (h : r.Normal d) {name : String} {t : Option String}
    (ht : (name, t) ∈ r.knownTexts) : r.toMapping.get? name = t.map .str := by
  have hname : name ∈ field.all := map_fst_knownTexts r ▸ List.mem_map_of_mem ht
  have hextra : Mapping.get? r.extra name = none :=
    Mapping.get?_eq_none_iff.mpr fun e he => h.unknown e he name hname
  rw [toMapping, Mapping.get?_append, hextra, Option.or_none, knownFields_eq_flatMap,
    get?_flatMap_entryOf (nodup_map_fst_knownTexts r) ht]

/-- Only an empty text is lost in the flat mapping. -/
theorem Normal.text?_toMapping (h : r.Normal d) {name : String} {t : Option String}
    (ht : (name, t) ∈ r.knownTexts) :
    r.toMapping.text? name = t.filter fun s => !s.isEmpty := by
  rw [Mapping.text?, h.get?_toMapping ht]
  cases t with
  | none => rfl
  | some s => cases hs : s.isEmpty <;> simp [Value.scalarText, Option.filter, hs]

theorem ofField_text (c : Connection) : Connection.ofField (some c.text) = c := by
  cases c <;> rfl

/-- What the flat mapping of a normalized record is read as. -/
theorem Normal.ofEntry_toMapping (h : r.Normal d) : HostRecord.ofEntry r.toMapping d = r := by
  have hsome : ∀ {s default : String}, (s = "" → default = "") →
      ((some s).filter fun s => !s.isEmpty).getD default = s := by
    intro s default hs
    by_cases he : s = ""
    · rw [he, hs he]
      rfl
    · simp [Option.filter, he]
  have hopt : ∀ {t : Option String}, t ≠ some "" → (t.filter fun s => !s.isEmpty) = t := by
    intro t ht
    cases t with
    | none => rfl
    | some s => simpa [Option.filter] using ht
  have hconn : ((some r.connection.text).filter fun s => !s.isEmpty) = some r.connection.text :=
    hopt (by cases r.connection <;> decide)
  unfold HostRecord.ofEntry
  rw [h.text?_toMapping (t := some r.publicIp) (by simp [knownTexts]), hsome fun _ => rfl,
    h.text?_toMapping (t := r.privateIp) (by simp [knownTexts]), hopt h.privateIp,
    h.text?_toMapping (t := some r.sshUser) (by simp [knownTexts]), hsome h.sshUser,
    h.text?_toMapping (t := some r.sshOptions) (by simp [knownTexts]),
    hsome fun he => absurd he h.sshOptions,
    h.text?_toMapping (t := some r.agentPort) (by simp [knownTexts]), hsome h.agentPort,
    h.text?_toMapping (t := r.groupname) (by simp [knownTexts]), hopt h.groupname,
    h.text?_toMapping (t := some r.connection.text) (by simp [knownTexts]), hconn, ofField_text,
    h.withoutKnown_toMapping]

/-- A normalized record is read back from its flat mapping. -/
theorem Normal.normalize_toMapping (h : r.Normal d) : normalize r.toMapping d = .ok r := by
  refine normalize_eq_ok_iff.mpr ⟨⟨r.publicIp, ?_⟩, fun name hname => ?_, h.ofEntry_toMapping⟩
  · rw [h.text?_toMapping (t := some r.publicIp) (by simp [knownTexts])]
    simp [Option.filter, h.publicIp]
  · rw [← map_fst_knownTexts r] at hname
    obtain ⟨⟨name, t⟩, ht, rfl⟩ := List.mem_map.mp hname
    rw [Mapping.holdsCollection, h.get?_toMapping ht]
    cases t <;> rfl

end HostRecord

/-! ### Listings -/

theorem Layout.rawEntries_listing (hosts : List HostRecord) (d : HostDefaults) :
    rawEntries (HostRecord.listing hosts) d = hosts.map HostRecord.toMapping := by
  rw [HostRecord.listing, rawEntries_seq, List.map_map]
  rfl

theorem inventory_listing {hosts : List HostRecord} {d : HostDefaults}
    (hnormal : ∀ r ∈ hosts, r.Normal d) (hnodup : (hosts.map HostRecord.identity).Nodup) :
    inventory (HostRecord.listing hosts) d = .ok hosts := by
  refine inventory_eq_ok_iff.mpr ⟨?_, hnodup⟩
  rw [Layout.rawEntries_listing, List.map_map]
  exact List.map_congr_left fun r hr => (hnormal r hr).normalize_toMapping

theorem normal_of_inventory {doc : Value} {d : HostDefaults} {records : List HostRecord}
    (hdoc : doc.WellFormed) (h : inventory doc d = .ok records) : ∀ r ∈ records, r.Normal d := by
  intro r hr
  obtain ⟨hraw, -⟩ := inventory_eq_ok_iff.mp h
  obtain ⟨entry, hentry, he⟩ := Checked.exists_of_map_eq hraw hr
  exact normal_of_normalize (Layout.rawEntries_distinct d hdoc entry hentry) he

/-- The listing of a selection of an accepted inventory is an inventory itself, and it is accepted
as exactly the selected records. Every value that is read from a text is well-formed. -/
theorem inventory_listing_select {doc : Value} {d : HostDefaults} {records : List HostRecord}
    (p : HostPattern) (hdoc : doc.WellFormed) (h : inventory doc d = .ok records) :
    inventory (HostRecord.listing (p.select records)) d = .ok (p.select records) :=
  inventory_listing
    (fun r hr => normal_of_inventory hdoc h r (HostPattern.mem_of_mem_select hr))
    (HostPattern.nodup_identity_select p records)

/-- A group with a host whose address is a number, and which has a further address under a tag. -/
def numberedDocument : Value :=
  .map [(.str "nodes", .map [(.str "hosts", .seq [
    .map [(.tagged "old" (.str "public_ip"), .str "6"), (.str "public_ip", .int 7),
      (.str "agent_port", .null)]])])]

/-- The record of that host where neither a login user nor a port is given. -/
def numberedRecord : HostRecord :=
  { publicIp := "7"
    sshUser := ""
    sshOptions := "-i key -o StrictHostKeyChecking=no -o ConnectTimeout=60"
    agentPort := ""
    groupname := some "nodes"
    extra := [(.tagged "old" (.str "public_ip"), .str "6")] }

theorem inventory_listing_select_numbered :
    numberedDocument.WellFormed ∧
      inventory numberedDocument { sshUser := "", agentPort := "" } = .ok [numberedRecord] ∧
      inventory (HostRecord.listing (HostPattern.everyHost.select [numberedRecord]))
        { sshUser := "", agentPort := "" } = .ok (HostPattern.everyHost.select [numberedRecord]) := by
  have hhost : (Value.map [(.tagged "old" (.str "public_ip"), .str "6"), (.str "public_ip", .int 7),
      (.str "agent_port", .null)]).WellFormed :=
    .map (by simp [Mapping.Distinct, Value.same])
      (by simp [Value.WellFormed.str, Value.WellFormed.tagged])
      (by simp [Value.WellFormed.str, Value.WellFormed.int, Value.WellFormed.null])
  have hsection : (Value.map [(.str "hosts", .seq [.map
      [(.tagged "old" (.str "public_ip"), .str "6"), (.str "public_ip", .int 7),
        (.str "agent_port", .null)]])]).WellFormed :=
    .map (List.pairwise_singleton _ _) (by simp [Value.WellFormed.str])
      (by simpa using Value.WellFormed.seq (by simpa using hhost))
  have hdoc : numberedDocument.WellFormed :=
    .map (List.pairwise_singleton _ _) (by simp [Value.WellFormed.str]) (by simpa using hsection)
  have h : inventory numberedDocument { sshUser := "", agentPort := "" } = .ok [numberedRecord] := rfl
  exact ⟨hdoc, h, inventory_listing_select HostPattern.everyHost hdoc h⟩

end AgentFleet
