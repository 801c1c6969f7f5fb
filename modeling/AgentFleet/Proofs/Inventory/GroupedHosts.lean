import AgentFleet.Proofs.Inventory.KnownFields
import AgentFleet.Proofs.Related

/-!
# Hosts by group

A grouped inventory is read key by key. What a key lists depends on that key and its
value alone (`Contributes`), and the hosts of a root are those of its keys, one after
the other (`ListsHosts`). So roots can be joined, and keys that list nothing make no
difference wherever they stand (`SameGroups`). Every host is tagged with the group that
lists it, which is then the group of its record, whatever the host says of its group.
-/

namespace AgentFleet.Layout

open Checked

/-! ### What a key lists -/

/-- A host as a group lists it. -/
inductive ListedHost where
  /-- By a name with fields. -/
  | named (name fields : Value)
  /-- As an item of a sequence. -/
  | item (value : Value)

/-- The entry of a host as it stands. -/
def ListedHost.entry : ListedHost → Mapping
  | named name fields => namedEntry name fields
  | item value => itemEntry value

/-- The entry of a host in the group that lists it. -/
def tagged (host : String × ListedHost) : Mapping :=
  inGroup host.1 host.2.entry

/-- The hosts that a key of a root lists, each with the group. -/
inductive Contributes (key body : Value) : List (String × ListedHost) → Prop
  /-- The hosts are the entries of a mapping. -/
  | named {group : String} {hosts : Mapping} :
      key.Shows group → body.get? "hosts" = some (.map hosts) →
      Contributes key body (hosts.map fun e => (group, .named e.1 e.2))
  /-- The hosts are the items of a sequence. -/
  | listed {group : String} {items : List Value} :
      key.Shows group → body.get? "hosts" = some (.seq items) →
      Contributes key body (items.map fun v => (group, .item v))
  /-- A key without a text is no group. -/
  | nameless : (∀ group, ¬ key.Shows group) → Contributes key body []
  /-- A value without a plain mapping or sequence of hosts lists none. -/
  | hostless : (∀ v, body.get? "hosts" = some v → v.isCollection = false) → Contributes key body []

/-- A section that does not count as set has no entries, so that leaving it out changes nothing. -/
theorem getD_sectionEntries_of_not_isTruthy {v : Value} (h : v.isTruthy = false) :
    (sectionEntries v).getD [] = [] := by
  cases v with
  | map hosts => cases hosts with
    | nil => rfl
    | cons e hosts => cases h
  | seq items => cases items with
    | nil => rfl
    | cons v items => cases h
  | _ => rfl

theorem groupEntries_of_scalarText {key : Value} {group : String} (h : key.scalarText = some group)
    (body : Value) :
    groupEntries key body =
      (((body.get? "hosts").bind sectionEntries).getD []).map (inGroup group) := by
  rw [groupEntries, h]
  cases hhosts : body.get? "hosts" with
  | none => rfl
  | some v =>
    by_cases hv : v.isTruthy = true
    · simp [Option.filter, hv]
    · have hempty := getD_sectionEntries_of_not_isTruthy (by simpa using hv)
      simp [Option.filter, hv, hempty]

theorem groupEntries_of_not_shows {key : Value} (h : ∀ group, ¬ key.Shows group) (body : Value) :
    groupEntries key body = [] := by
  rw [groupEntries, scalarText_eq_none_iff_not_shows.mpr h]

section

variable {key body : Value} {hosts others : List (String × ListedHost)}

theorem exists_contributes (key body : Value) : ∃ hosts, Contributes key body hosts := by
  cases hkey : key.scalarText with
  | none => exact ⟨[], .nameless (scalarText_eq_none_iff_not_shows.mp hkey)⟩
  | some group =>
    have hgroup := scalarText_eq_some_iff.mp hkey
    cases hhosts : body.get? "hosts" with
    | none => exact ⟨[], .hostless (by simp [hhosts])⟩
    | some v =>
      cases v with
      | map hosts => exact ⟨_, .named hgroup hhosts⟩
      | seq items => exact ⟨_, .listed hgroup hhosts⟩
      | _ => exact ⟨[], .hostless (by simp [hhosts, Value.isCollection])⟩

/-- The entries that a key contributes are those of the hosts that it lists. -/
theorem Contributes.groupEntries_eq (h : Contributes key body hosts) :
    groupEntries key body = hosts.map tagged := by
  cases h with
  | named hgroup hhosts =>
    rw [groupEntries_of_scalarText (scalarText_eq_some_iff.mpr hgroup), hhosts]
    simp [sectionEntries, tagged, ListedHost.entry]
  | listed hgroup hhosts =>
    rw [groupEntries_of_scalarText (scalarText_eq_some_iff.mpr hgroup), hhosts]
    simp [sectionEntries, tagged, ListedHost.entry]
  | nameless hnameless => exact groupEntries_of_not_shows hnameless body
  | hostless hhostless =>
    cases hkey : key.scalarText with
    | none => exact groupEntries_of_not_shows (scalarText_eq_none_iff_not_shows.mp hkey) body
    | some group =>
      rw [groupEntries_of_scalarText hkey]
      cases hhosts : body.get? "hosts" with
      | none => rfl
      | some v =>
        have hv := hhostless v hhosts
        cases v with
        | map _ => cases hv
        | seq _ => cases hv
        | _ => rfl

/-- A key that can be read as listing no host lists none. -/
theorem Contributes.eq_nil (h : Contributes key body hosts) (hnone : Contributes key body []) :
    hosts = [] := by
  have hentries := h.groupEntries_eq.symm.trans hnone.groupEntries_eq
  exact List.map_eq_nil_iff.mp hentries

/-- Every host is listed in a group with a name. -/
theorem Contributes.group_ne_empty (h : Contributes key body hosts) : ∀ host ∈ hosts, host.1 ≠ "" := by
  cases h with
  | named hgroup _ =>
    intro host hmem
    obtain ⟨e, -, rfl⟩ := List.mem_map.mp hmem
    exact hgroup.ne_empty
  | listed hgroup _ =>
    intro host hmem
    obtain ⟨v, -, rfl⟩ := List.mem_map.mp hmem
    exact hgroup.ne_empty
  | nameless _ => simp
  | hostless _ => simp

end

/-! ### The hosts of a root -/

/-- The hosts of a root are those of its keys, in order. -/
inductive ListsHosts : Mapping → List (String × ListedHost) → Prop
  /-- Nothing lists nothing. -/
  | nil : ListsHosts [] []
  /-- The hosts of a key stand before those of the keys behind it. -/
  | cons {key body : Value} {root : Mapping} {hosts others : List (String × ListedHost)} :
      Contributes key body hosts → ListsHosts root others →
      ListsHosts ((key, body) :: root) (hosts ++ others)

/-- The key `all` of a root is set, which is for another layout. -/
def SetsAll (root : Mapping) : Prop :=
  ∃ v, root.get? "all" = some v ∧ v.isTruthy = true

/-- Two roots that differ in keys that list no host: some are only in one of them, or stand elsewhere. -/
inductive SameGroups : Mapping → Mapping → Prop
  /-- Nothing is the same as nothing. -/
  | nil : SameGroups [] []
  /-- A key that both have. -/
  | both {a b : Mapping} (e : Value × Value) : SameGroups a b → SameGroups (e :: a) (e :: b)
  /-- A key of the first that lists no host. -/
  | left {a b : Mapping} {key body : Value} :
      Contributes key body [] → SameGroups a b → SameGroups ((key, body) :: a) b
  /-- A key of the second that lists no host. -/
  | right {a b : Mapping} {key body : Value} :
      Contributes key body [] → SameGroups a b → SameGroups a ((key, body) :: b)

section

variable {root other : Mapping} {hosts others : List (String × ListedHost)} {doc : Value}
  {d : HostDefaults}

theorem exists_listsHosts (root : Mapping) : ∃ hosts, ListsHosts root hosts := by
  induction root with
  | nil => exact ⟨[], .nil⟩
  | cons e root ih =>
    obtain ⟨hosts, hhosts⟩ := exists_contributes e.1 e.2
    obtain ⟨others, hothers⟩ := ih
    exact ⟨hosts ++ others, .cons hhosts hothers⟩

theorem ListsHosts.flatMap_eq (h : ListsHosts root hosts) :
    (root.flatMap fun e => groupEntries e.1 e.2) = hosts.map tagged := by
  induction h with
  | nil => rfl
  | cons hkey _ ih => rw [List.flatMap_cons, hkey.groupEntries_eq, ih, List.map_append]

theorem ListsHosts.append (h : ListsHosts root hosts) (h' : ListsHosts other others) :
    ListsHosts (root ++ other) (hosts ++ others) := by
  induction h with
  | nil => exact h'
  | cons hkey _ ih =>
    rw [List.cons_append, List.append_assoc]
    exact .cons hkey ih

theorem ListsHosts.group_ne_empty (h : ListsHosts root hosts) : ∀ host ∈ hosts, host.1 ≠ "" := by
  induction h with
  | nil => simp
  | cons hkey _ ih =>
    intro host hmem
    rcases List.mem_append.mp hmem with hmem | hmem
    · exact hkey.group_ne_empty host hmem
    · exact ih host hmem

theorem ListsHosts.sameGroups (hsame : SameGroups root other) (h : ListsHosts root hosts) :
    ListsHosts other hosts := by
  induction hsame generalizing hosts with
  | nil => exact h
  | both e _ ih =>
    cases h with
    | cons hkey hrest => exact .cons hkey (ih hrest)
  | left hnone _ ih =>
    cases h with
    | cons hkey hrest =>
      rw [hkey.eq_nil hnone]
      exact ih hrest
  | right hnone _ ih => exact .cons hnone (ih h)

theorem not_setsAll_append (h : ¬ SetsAll root) (h' : ¬ SetsAll other) : ¬ SetsAll (root ++ other) := by
  rintro ⟨v, hv, hset⟩
  rw [Mapping.get?_append, Option.or_eq_some_iff] at hv
  rcases hv with hv | ⟨-, hv⟩
  · exact h ⟨v, hv, hset⟩
  · exact h' ⟨v, hv, hset⟩

/-- The entries of a root whose key `all` is not set are those of the hosts that it lists. -/
theorem ListsHosts.groupedMap_extract (h : ListsHosts root hosts) (hroot : doc.asMapping? = some root)
    (hall : ¬ SetsAll root) : groupedMap.extract doc d = some (hosts.map tagged) := by
  have hunset : ((root.get? "all").map Value.isTruthy).getD false = false := by
    cases hv : root.get? "all" with
    | none => rfl
    | some v =>
      cases hset : v.isTruthy with
      | false => simp [hset]
      | true => exact absurd ⟨v, hv, hset⟩ hall
  simp [extract, groupedEntries, hroot, hunset, h.flatMap_eq]

theorem not_setsAll_of_extract {entries : List Mapping}
    (h : groupedMap.extract (.map root) d = some entries) : ¬ SetsAll root := by
  rintro ⟨v, hv, hset⟩
  have hmap : (Value.map root).asMapping? = some root := rfl
  simp [extract, groupedEntries, hmap, hv, hset] at h

/-! ### The records of a root -/

/-- The record of a tagged host is in the group that lists it. -/
theorem groupname_of_normalize_tagged {host : String × ListedHost} {r : HostRecord}
    (hgroup : host.1 ≠ "") (h : normalize (tagged host) d = .ok r) : r.groupname = some host.1 := by
  obtain ⟨-, -, rfl⟩ := normalize_eq_ok_iff.mp h
  have hset : (tagged host).get? field.groupname = some (.str host.1) := by
    rw [tagged, get?_inGroup, if_pos rfl]
  show (tagged host).text? field.groupname = some host.1
  rw [Mapping.text?, hset, Option.bind_some]
  simp [Value.scalarText, hgroup]

/-- The records of an accepted root are in the groups that list their hosts, one by one. -/
theorem ListsHosts.forall₂_groupname (h : ListsHosts root hosts) (hroot : doc.asMapping? = some root)
    (hall : ¬ SetsAll root) (hne : hosts ≠ []) {records : List HostRecord}
    (hrecords : inventory doc d = .ok records) :
    List.Forall₂ (fun host r => r.groupname = some host.1 ∧ normalize (tagged host) d = .ok r)
      hosts records := by
  have hextract : groupedMap.extract doc d = some (hosts.map tagged) :=
    h.groupedMap_extract hroot hall
  have hmap := (inventory_eq_ok_iff.mp hrecords).1
  rw [rawEntries_of_grouped hextract (by simpa using hne)] at hmap
  have hnormal := List.forall₂_map_left_iff.mp (forall₂_of_map_eq hmap)
  refine ((List.forall₂_and_left _ _).mpr ⟨h.group_ne_empty, hnormal⟩).imp ?_
  rintro host r ⟨hgroup, hr⟩
  exact ⟨groupname_of_normalize_tagged hgroup hr, hr⟩

end

/-- The grouped layout is local to each key of a root whose key `all` is not set. The entries are those of
the hosts that the keys list, in order, each in the group that lists it. If there are any and the
document is accepted, the records are in these groups, one by one. Joining roots joins their entries,
and keys that list no host can be added, removed and moved. -/
theorem grouped_hosts {root : Mapping} (hall : ¬ SetsAll root) (d : HostDefaults) :
    (∃ hosts, ListsHosts root hosts) ∧
    ∀ hosts, ListsHosts root hosts →
      (∀ doc, doc.asMapping? = some root →
        groupedMap.extract doc d = some (hosts.map tagged) ∧
        (hosts ≠ [] → ∀ records, inventory doc d = .ok records →
          List.Forall₂ (fun host r => r.groupname = some host.1 ∧ normalize (tagged host) d = .ok r)
            hosts records)) ∧
      (∀ other entries, groupedMap.extract (.map other) d = some entries →
        groupedMap.extract (.map (root ++ other)) d = some (hosts.map tagged ++ entries)) ∧
      ∀ other, ¬ SetsAll other → SameGroups root other →
        groupedMap.extract (.map other) d = some (hosts.map tagged) := by
  refine ⟨exists_listsHosts root, fun hosts hhosts => ⟨fun doc hroot => ⟨?_, ?_⟩, ?_, ?_⟩⟩
  · exact hhosts.groupedMap_extract hroot hall
  · exact fun hne records => hhosts.forall₂_groupname hroot hall hne
  · intro other entries hentries
    have hother := not_setsAll_of_extract hentries
    obtain ⟨others, hothers⟩ := exists_listsHosts other
    rw [hothers.groupedMap_extract rfl hother] at hentries
    rw [← Option.some.inj hentries, ← List.map_append]
    exact (hhosts.append hothers).groupedMap_extract rfl (not_setsAll_append hall hother)
  · intro other hother hsame
    exact (hhosts.sameGroups hsame).groupedMap_extract rfl hother

/-- A root with a null key `all`, a group named by a number, a group whose section has a tag, and a group
under a tag that is named by a truth value; two hosts say something else of their group. -/
def looseRoot : Mapping :=
  [(.str "all", .null),
    (.int 7, .map [(.str "hosts", .map [(.str "a", .map [(.str "groupname", .seq [])])])]),
    (.str "spare", .map [(.str "hosts", .tagged "set" (.seq [.str "b"]))]),
    (.bool true, .tagged "set" (.map [(.str "hosts", .seq [.str "c",
      .map [(.str "groupname", .str "7"), (.str "public_ip", .str "d")]])]))]

/-- The hosts of that root. -/
def looseRootHosts : List (String × ListedHost) :=
  [("7", .named (.str "a") (.map [(.str "groupname", .seq [])])), ("true", .item (.str "c")),
    ("true", .item (.map [(.str "groupname", .str "7"), (.str "public_ip", .str "d")]))]

theorem grouped_hosts_loose :
    ¬ SetsAll looseRoot ∧ ListsHosts looseRoot looseRootHosts ∧
      ∃ records, inventory (.map looseRoot) {} = .ok records ∧
        records.map HostRecord.groupname = [some "7", some "true", some "true"] ∧
        List.Forall₂ (fun host r => r.groupname = some host.1 ∧ normalize (tagged host) {} = .ok r)
          looseRootHosts records := by
  have hall : ¬ SetsAll looseRoot := by
    rintro ⟨v, hv, hset⟩
    obtain rfl := Option.some.inj hv
    cases hset
  have hunset : Contributes (.str "all") .null [] := .hostless (by rintro v ⟨⟩)
  have hseven : (Value.int 7).Shows "7" := .int 7
  have hnamed : (Value.map [(.str "hosts", .map [(.str "a", .map [(.str "groupname", .seq [])])])]).get?
      "hosts" = some (.map [(.str "a", .map [(.str "groupname", .seq [])])]) := rfl
  have hspare : Contributes (.str "spare")
      (.map [(.str "hosts", .tagged "set" (.seq [.str "b"]))]) [] :=
    .hostless fun v hv => by rw [← Option.some.inj hv]; rfl
  have hlisted : (Value.tagged "set" (.map [(.str "hosts", .seq [.str "c",
      .map [(.str "groupname", .str "7"), (.str "public_ip", .str "d")]])])).get? "hosts" =
        some (.seq [.str "c", .map [(.str "groupname", .str "7"), (.str "public_ip", .str "d")]]) := rfl
  have hhosts : ListsHosts looseRoot looseRootHosts :=
    .cons hunset (.cons (.named hseven hnamed) (.cons hspare (.cons (.listed (.bool true) hlisted) .nil)))
  obtain ⟨-, hlocal⟩ := grouped_hosts hall {}
  obtain ⟨hdoc, -, -⟩ := hlocal looseRootHosts hhosts
  exact ⟨hall, hhosts, _, rfl, rfl, (hdoc (.map looseRoot) rfl).2 (by simp [looseRootHosts]) _ rfl⟩

end AgentFleet.Layout
