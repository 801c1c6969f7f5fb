import AgentFleet.Proofs.Document.Equality
import AgentFleet.Proofs.Inventory.Alike
import AgentFleet.Proofs.Inventory.RoundTrip

/-!
# Groups in two layouts

A mapping of groups is an inventory of its own, and it can stand below
`all.children` in the layout of the Ansible tools. Both layouts describe the same
fleet when no variable is one that the second layout translates (`Portable`). The
entries differ all the same: one has the name of the host as the document has it
and the other has its text, and the second layout sets the address inside the
cluster before the other variables. They are alike one by one
(`alike_of_untranslated`), which is what makes the inventories agree.
-/

namespace AgentFleet

/-! ### A field moved to the front -/

namespace Mapping

/-- The mapping with a field, if it has it, before all others. -/
def toFront (m : Mapping) (name : String) : Mapping :=
  (match m.get? name with
    | some v => [(.str name, v)]
    | none => []) ++ m.filter fun e => !e.1.isText name

/-- Where a field stands does not matter for looking fields up. -/
theorem get?_toFront (m : Mapping) (name other : String) :
    (m.toFront name).get? other = m.get? other := by
  rw [toFront, get?_append, get?_filter m fun key => !key.isText name]
  by_cases ho : other = name
  · subst ho
    cases m.get? other <;> simp [get?, Value.isText]
  · cases m.get? name with
    | none => simp [get?, Value.isText, ho]
    | some v => simp [get?, Value.isText, ho, Ne.symm ho]

theorem Distinct.toFront {m : Mapping} (h : m.Distinct) (name : String) :
    (m.toFront name).Distinct := by
  refine List.pairwise_append.mpr ⟨?_, List.Pairwise.filter _ h, fun a ha b hb => ?_⟩
  · cases m.get? name with
    | none => exact List.Pairwise.nil
    | some v => exact List.pairwise_singleton _ _
  · have hb : b.1.isText name = false := by simpa using (List.mem_filter.mp hb).2
    cases hv : m.get? name with
    | none => rw [hv] at ha; cases ha
    | some v =>
      rw [hv] at ha
      obtain rfl := List.mem_singleton.mp ha
      exact (Value.str_same name b.1).trans hb

/-- A field that is left out afterwards can be moved first. -/
theorem filter_isOutside_toFront (m : Mapping) {name : String} {names : List String}
    (h : name ∈ names) :
    (m.toFront name).filter (isOutside names) = m.filter (isOutside names) := by
  have hname : ∀ e : Value × Value, e.1.isText name = true → isOutside names e = false := by
    intro e he
    have : (names.any fun n => e.1.isText n) = true := List.any_eq_true.mpr ⟨name, h, he⟩
    rw [isOutside, this, Bool.not_true]
  have hfront : (match m.get? name with
      | some v => [(Value.str name, v)]
      | none => []).filter (isOutside names) = [] := by
    cases m.get? name with
    | none => rfl
    | some v => simp [hname (.str name, v) (Value.isText_iff.mpr rfl)]
  rw [toFront, List.filter_append, hfront, List.nil_append, List.filter_filter]
  refine List.filter_congr fun e _ => ?_
  cases he : e.1.isText name with
  | false => simp
  | true => simp [hname e he]

end Mapping

namespace Layout

/-! ### Untranslated variables -/

/-- Whether the layout of the Ansible tools leaves a variable as it is: it does not read as a user or
a key file, nor, unless it is that text without a tag, as the address inside the cluster. -/
def isUntranslated (key : Value) : Bool :=
  key.asString? != some ansibleName.user && key.asString? != some ansibleName.keyFile &&
    (key.asString? != some field.privateIp || key.isText field.privateIp)

theorem get?_eq_none_of_asString? {vars : Mapping} {name : String}
    (h : ∀ e ∈ vars, e.1.asString? ≠ some name) : vars.get? name = none := by
  refine Mapping.get?_eq_none_iff.mpr fun e he => ?_
  cases ht : e.1.isText name with
  | false => rfl
  | true => exact absurd (by rw [Value.isText_iff.mp ht]; rfl) (h e he)

theorem isTranslated_eq_isText {key : Value} (h : isUntranslated key = true) :
    isTranslated key = key.isText field.privateIp := by
  simp only [isUntranslated, Bool.and_eq_true, Bool.or_eq_true, bne_iff_ne] at h
  obtain ⟨⟨hu, hk⟩, hp⟩ := h
  unfold isTranslated
  cases ht : key.isText field.privateIp with
  | true =>
    rw [Value.isText_iff.mp ht]
    rfl
  | false =>
    rw [ht] at hp
    cases hs : key.asString? with
    | none => rfl
    | some s =>
      rw [hs] at hu hk hp
      simp_all

/-- Of such variables only the address inside the cluster is translated: it comes first. -/
theorem ansibleFields_eq_toFront {vars : Mapping} (h : ∀ e ∈ vars, isUntranslated e.1 = true)
    (d : HostDefaults) : ansibleFields vars d = vars.toFront field.privateIp := by
  have hu : vars.get? ansibleName.user = none :=
    get?_eq_none_of_asString? fun e he hs => by simpa [isUntranslated, hs] using h e he
  have hk : vars.get? ansibleName.keyFile = none :=
    get?_eq_none_of_asString? fun e he hs => by simpa [isUntranslated, hs] using h e he
  have hfilter : (vars.filter fun e => !isTranslated e.1) =
      vars.filter fun e => !e.1.isText field.privateIp :=
    List.filter_congr fun e he => by rw [isTranslated_eq_isText (h e he)]
  rw [ansibleFields, translated, hu, hk, hfilter, Mapping.toFront]
  cases vars.get? field.privateIp <;> rfl

/-! ### One host -/

/-- The entry of a host in a group, from the value of its address and its fields. -/
def groupedEntry (group : String) (address : Value) (fields : Mapping) : Mapping :=
  inGroup group (Mapping.insertAll [(.str field.publicIp, address)] fields)

theorem get?_groupedEntry (group : String) (address : Value) {fields : Mapping}
    (h : fields.Distinct) (name : String) :
    (groupedEntry group address fields).get? name =
      if field.groupname = name then some (.str group)
      else (fields.get? name).or (if field.publicIp = name then some address else none) := by
  rw [groupedEntry, inGroup, Mapping.get?_insert, Mapping.get?_insertAll _ h]
  simp [Value.isText, Mapping.get?]

theorem withoutKnown_groupedEntry (group : String) (address : Value) {fields : Mapping}
    (h : fields.Distinct) :
    (groupedEntry group address fields).withoutKnown = fields.filter (Mapping.isOutside field.all) := by
  have hdistinct : (groupedEntry group address fields).Distinct :=
    inGroup_distinct group (Mapping.Distinct.insertAll (List.pairwise_singleton _ _) _)
  have hgroup : Mapping.isOutside field.all (.str field.groupname, .str group) = false := by
    simp [Mapping.isOutside, FieldNames.all, Value.isText]
  have haddress : Mapping.isOutside field.all (.str field.publicIp, address) = false := by
    simp [Mapping.isOutside, FieldNames.all, Value.isText]
  have hfilter : Mapping.Distinct (fields.filter (Mapping.isOutside field.all)) :=
    List.Pairwise.filter _ h
  calc (groupedEntry group address fields).withoutKnown
      = (groupedEntry group address fields).filter (Mapping.isOutside field.all) :=
        Mapping.withoutKnown_eq_filter hdistinct
    _ = Mapping.insertAll [] (fields.filter (Mapping.isOutside field.all)) := by
        rw [groupedEntry, inGroup, Mapping.filter_insert, hgroup, if_neg Bool.false_ne_true,
          Mapping.filter_insertAll, List.filter_cons, haddress, if_neg Bool.false_ne_true,
          List.filter_nil]
    _ = fields.filter (Mapping.isOutside field.all) :=
        Mapping.insertAll_of_distinct hfilter

theorem scalarText_str_of_scalarText {v : Value} {s : String} (h : v.scalarText = some s) :
    (Value.str s).scalarText = some s := by
  simp [Value.scalarText, scalarText_ne_empty h]

/-- Two ways of writing the address, and the address inside the cluster in its place or before the
other fields: a field has the same value in both, or it is the address. -/
theorem get?_groupedEntry_toFront (group : String) (address address' : Value) {fields : Mapping}
    (h : fields.Distinct) (name : String) :
    (groupedEntry group address fields).get? name =
        (groupedEntry group address' (fields.toFront field.privateIp)).get? name ∨
      (groupedEntry group address fields).get? name = some address ∧
        (groupedEntry group address' (fields.toFront field.privateIp)).get? name = some address' := by
  rw [get?_groupedEntry group _ h, get?_groupedEntry group _ (h.toFront field.privateIp),
    Mapping.get?_toFront]
  by_cases hgroup : field.groupname = name
  · exact Or.inl (by rw [if_pos hgroup, if_pos hgroup])
  · rw [if_neg hgroup, if_neg hgroup]
    cases fields.get? name with
    | some v => exact Or.inl rfl
    | none =>
      by_cases haddress : field.publicIp = name
      · exact Or.inr (by simp [haddress])
      · exact Or.inl (by simp [haddress])

/-- An entry is read alike when its address is written as a text, and when the address inside the
cluster comes first. -/
theorem alike_groupedEntry (group : String) {address : Value} {hostname : String}
    (haddress : address.scalarText = some hostname) {fields : Mapping} (h : fields.Distinct) :
    (groupedEntry group address fields).Alike
      (groupedEntry group (.str hostname) (fields.toFront field.privateIp)) := by
  have hget := get?_groupedEntry_toFront group address (.str hostname) h
  have htext := scalarText_str_of_scalarText haddress
  constructor
  · intro name _
    unfold Mapping.text?
    rcases hget name with hsame | ⟨hleft, hright⟩
    · rw [hsame]
    · rw [hleft, hright, Option.bind_some, Option.bind_some, haddress, htext]
  · intro name _
    unfold Mapping.holdsCollection
    rcases hget name with hsame | ⟨hleft, hright⟩
    · rw [hsame]
    · rw [hleft, hright, Option.any_some, Option.any_some,
        isCollection_eq_false_of_scalarText haddress, isCollection_eq_false_of_scalarText htext]
  · rw [withoutKnown_groupedEntry group _ h, withoutKnown_groupedEntry group _ (h.toFront _),
      Mapping.filter_isOutside_toFront _ (by simp [FieldNames.all])]

/-- A host has entries in both layouts that are read alike. -/
theorem alike_of_untranslated (d : HostDefaults) (group : String) {name fields : Value}
    {hostname : String} (hname : name.scalarText = some hostname)
    (hdistinct : Mapping.Distinct (fields.asMapping?.getD []))
    (h : ∀ e ∈ fields.asMapping?.getD [], isUntranslated e.1 = true) :
    ∃ entry, ansibleEntry d (some group) name fields = some (hostname, entry) ∧
      (inGroup group (namedEntry name fields)).Alike entry := by
  refine ⟨_, ?_, alike_groupedEntry group hname hdistinct⟩
  rw [ansibleEntry, hname, ansibleFields_eq_toFront h d]
  rfl

/-! ### Groups -/

/-- The hosts that a group lists by name. -/
def namedHosts (body : Value) : Mapping :=
  match body.get? "hosts" with
  | some (.map hosts) => hosts
  | _ => []

/-- Whether the section of hosts of a group, if it has one, is neither a sequence nor under a tag. -/
def hasPlainSection (body : Value) : Bool :=
  match body.get? "hosts" with
  | some (.seq _) | some (.tagged _ _) => false
  | _ => true

theorem groupEntries_eq {group body : Value} {name : String} (hgroup : group.scalarText = some name)
    (hbody : hasPlainSection body = true) :
    groupEntries group body =
      (namedHosts body).map fun host => inGroup name (namedEntry host.1 host.2) := by
  unfold hasPlainSection at hbody
  unfold groupEntries namedHosts
  rw [hgroup]
  cases hhosts : body.get? "hosts" with
  | none => rfl
  | some hosts =>
    rw [hhosts] at hbody
    cases hosts with
    | map hosts => cases hosts <;> simp [Option.filter, Value.isTruthy, sectionEntries]
    | seq items => cases hbody
    | tagged tag v => cases hbody
    | bool b => cases b <;> rfl
    | str s => cases hs : s.isEmpty <;> simp [Option.filter, Value.isTruthy, sectionEntries, hs]
    | _ => rfl

theorem ansibleGroup_eq (d : HostDefaults) {group body : Value} {name : String}
    (hgroup : group.scalarText = some name) (hbody : hasPlainSection body = true) :
    ansibleGroup d group body = ansibleSection d (some name) (namedHosts body) := by
  unfold hasPlainSection at hbody
  unfold ansibleGroup namedHosts
  rw [hgroup]
  cases hhosts : body.get? "hosts" with
  | none => rfl
  | some hosts =>
    rw [hhosts] at hbody
    cases hosts with
    | tagged tag v => cases hbody
    | _ => rfl

/-- Groups that mean the same in both layouts: they have no set key `all`, which would make them look
like the other layout, they list their hosts by names that are scalars with a text, no variable is
translated, and at least one host is in a group with a name. -/
structure Portable (groups : Mapping) : Prop where
  unset : ((groups.get? "all").map Value.isTruthy).getD false = false
  plain : ∀ e ∈ groups, hasPlainSection e.2 = true
  named : ∀ e ∈ groups, ∀ host ∈ namedHosts e.2, host.1.scalarText.isSome = true
  untranslated : ∀ e ∈ groups, ∀ host ∈ namedHosts e.2, ∀ v ∈ host.2.asMapping?.getD [],
    isUntranslated v.1 = true
  inhabited : ∃ e ∈ groups, e.1.scalarText.isSome = true ∧ namedHosts e.2 ≠ []

/-- The document that has some groups below `all.children`. -/
def underAll (groups : Mapping) : Value :=
  .map [(.str "all", .map [(.str "children", .map groups)])]

theorem forall₂_filterMap {α β γ : Type} {R : β → γ → Prop} {f : α → β} {g : α → Option γ}
    {xs : List α} (h : ∀ x ∈ xs, ∃ y, g x = some y ∧ R (f x) y) :
    List.Forall₂ R (xs.map f) (xs.filterMap g) := by
  induction xs with
  | nil => exact .nil
  | cons x xs ih =>
    obtain ⟨⟨y, hy, hr⟩, hxs⟩ := List.forall_mem_cons.mp h
    rw [List.map_cons, List.filterMap_cons_some hy]
    exact .cons hr (ih hxs)

variable {groups : Mapping}

/-- The fields of a named host have no key twice. -/
theorem distinct_of_mem_namedHosts {body : Value} (hbody : body.WellFormed) {host : Value × Value}
    (hhost : host ∈ namedHosts body) : Mapping.Distinct (host.2.asMapping?.getD []) := by
  unfold namedHosts at hhost
  split at hhost
  case h_1 hosts hhosts =>
    have hwf : host.2.WellFormed := (hbody.get? hhosts).of_mem hhost
    cases hm : host.2.asMapping? with
    | none => exact List.Pairwise.nil
    | some vars => exact (hwf.asMapping? hm).distinct
  case h_2 => cases hhost

/-- The entries of a group are alike in both layouts. -/
theorem Portable.alike_group (h : Portable groups) (hwf : (Value.map groups).WellFormed)
    (d : HostDefaults) {e : Value × Value} (he : e ∈ groups) :
    List.Forall₂ Mapping.Alike (groupEntries e.1 e.2) ((ansibleGroup d e.1 e.2).map Prod.snd) := by
  cases hgroup : e.1.scalarText with
  | none =>
    rw [groupEntries, ansibleGroup, hgroup]
    exact .nil
  | some name =>
    rw [groupEntries_eq hgroup (h.plain e he), ansibleGroup_eq d hgroup (h.plain e he),
      ansibleSection, List.map_filterMap]
    refine forall₂_filterMap fun host hhost => ?_
    obtain ⟨hostname, hname⟩ := Option.isSome_iff_exists.mp (h.named e he host hhost)
    obtain ⟨entry, hentry, halike⟩ := alike_of_untranslated d name hname
      (distinct_of_mem_namedHosts (hwf.of_mem he) hhost) (h.untranslated e he host hhost)
    exact ⟨entry, by rw [hentry]; rfl, halike⟩

/-- The entries of all groups are alike in both layouts. -/
theorem Portable.alike_groups (h : Portable groups) (hwf : (Value.map groups).WellFormed)
    (d : HostDefaults) :
    List.Forall₂ Mapping.Alike (groups.flatMap fun e => groupEntries e.1 e.2)
      ((groups.flatMap fun e => ansibleGroup d e.1 e.2).map Prod.snd) := by
  rw [List.map_flatMap]
  -- the relation keeps in mind that the group is one of `groups`, of which `Portable` speaks
  refine List.rel_flatMap (R := fun a b => a ∈ groups ∧ a = b)
    (List.forall₂_same.mpr fun e he => ⟨he, rfl⟩) ?_
  rintro e _ ⟨he, rfl⟩
  exact h.alike_group hwf d he

theorem Portable.groupEntries_ne_nil (h : Portable groups) :
    (groups.flatMap fun e => groupEntries e.1 e.2) ≠ [] := by
  obtain ⟨e, he, hgroup, hhosts⟩ := h.inhabited
  obtain ⟨name, hname⟩ := Option.isSome_iff_exists.mp hgroup
  obtain ⟨host, rest, hcons⟩ := List.exists_cons_of_ne_nil hhosts
  have hmem : inGroup name (namedEntry host.1 host.2) ∈ groupEntries e.1 e.2 := by
    rw [groupEntries_eq hname (h.plain e he), hcons]
    exact List.mem_cons_self
  exact List.ne_nil_of_mem (List.mem_flatMap.mpr ⟨e, he, hmem⟩)

/-- What the layouts yield from groups as they stand and from groups below `all.children`. -/
theorem Portable.alike_rawEntries (h : Portable groups) (hwf : (Value.map groups).WellFormed)
    (d : HostDefaults) :
    List.Forall₂ Mapping.Alike (rawEntries (.map groups) d) (rawEntries (underAll groups) d) := by
  have halike := h.alike_groups hwf d
  have hgrouped : groupedMap.extract (.map groups) d =
      some (groups.flatMap fun e => groupEntries e.1 e.2) := by
    have hmap : (Value.map groups).asMapping? = some groups := rfl
    simp [extract, groupedEntries, hmap, h.unset]
  have hansible : ansible.extract (underAll groups) d =
      some ((groups.flatMap fun e => ansibleGroup d e.1 e.2).map Prod.snd) := by
    have hhosts : ansibleHosts (underAll groups) d =
        some ((groups.flatMap fun e => ansibleGroup d e.1 e.2) ++ []) := rfl
    rw [extract, hhosts, List.append_nil, Option.map_some]
  have hne := h.groupEntries_ne_nil
  have hne' : ((groups.flatMap fun e => ansibleGroup d e.1 e.2).map Prod.snd) ≠ [] := by
    rw [← List.length_pos_iff] at hne ⊢
    rwa [← halike.length_eq]
  rwa [rawEntries_of_grouped hgrouped hne, rawEntries_of_ansible hansible hne']

end Layout

open Checked

/-- Groups describe the same fleet as they stand and below `all.children`: the same records in the same
order, or the same repeated identity, or a validation error that may be worded differently. -/
theorem inventory_underAll {groups : Mapping} (hwf : (Value.map groups).WellFormed)
    (h : Layout.Portable groups) (d : HostDefaults) :
    Related InventoryError.Alike Eq (inventory (.map groups) d)
      (inventory (Layout.underAll groups) d) :=
  related_inventory (h.alike_rawEntries hwf d)

/-- A group named by a number and under a tag, hosts named by a truth value and under a tag, an address
inside the cluster between other variables, and a null key `all`. -/
def mixedGroups : Mapping :=
  [(.str "all", .null),
    (.str "nodes", .map [(.str "hosts", .map [
      (.str "a", .map [(.str "rack", .int 4), (.str "private_ip", .str "192.168.0.1"),
        (.str "public_ip", .str "10.0.0.1")]),
      (.tagged "v4" (.str "10.0.0.2"), .null)])]),
    (.int 7, .tagged "set" (.map [(.str "hosts", .map [
      (.bool true, .map [(.str "groupname", .str "nodes")])])]))]

theorem inventory_underAll_mixed :
    (Value.map mixedGroups).WellFormed ∧ Layout.Portable mixedGroups ∧
      Related InventoryError.Alike Eq (inventory (.map mixedGroups) {})
        (inventory (Layout.underAll mixedGroups) {}) := by
  have hread : Document.read? (Text.join "\n" ["all:", "nodes:", "  hosts:", "    a:", "      rack: 4",
      "      private_ip: 192.168.0.1", "      public_ip: 10.0.0.1", "    !v4 10.0.0.2:", "7: !set",
      "  hosts:", "    true:", "      groupname: nodes"]) = some (.map mixedGroups) := by
    decide +kernel
  have hwf := Document.read?_wellFormed hread
  have h : Layout.Portable mixedGroups :=
    { unset := by decide
      plain := by decide
      named := by decide
      untranslated := by decide
      inhabited := by decide }
  exact ⟨hwf, h, inventory_underAll hwf h {}⟩

end AgentFleet
