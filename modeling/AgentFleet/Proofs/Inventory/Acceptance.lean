import AgentFleet.Inventory.Layout
import AgentFleet.Proofs.Document.Equality
import AgentFleet.Proofs.Inventory.Normalization
import AgentFleet.Proofs.Selection.Membership

/-!
# Which inventories are accepted

A document is accepted as a whole or refused as a whole. The first layout that
yields an entry decides, also when its entries are refused. Its entries are all
normalized, in their order, and no two records may share their identity. The
error of a refused document is that of the first entry that cannot be normalized
or else names the first record that repeats an identity. An accepted inventory is
what the patterns that select every host give back.
-/

namespace AgentFleet

open Checked

/-! ### The entries of a document -/

/-- The raw entries of a document: what the first layout yields that yields an entry at all. -/
def Layout.rawEntries (doc : Value) (d : HostDefaults) : List Mapping :=
  (([groupedMap, ansible, flat].map fun layout => (layout.extract doc d).getD []).find?
    fun entries => !entries.isEmpty).getD []

theorem Layout.firstEntries_eq (layouts : List Layout) (doc : Value) (d : HostDefaults) :
    firstEntries layouts doc d =
      ((layouts.map fun layout => (layout.extract doc d).getD []).find?
        fun entries => !entries.isEmpty).getD [] := by
  induction layouts with
  | nil => rfl
  | cons layout rest ih =>
    rw [firstEntries, List.map_cons, List.find?_cons]
    cases layout.extract doc d with
    | none => simpa using ih
    | some entries =>
      cases entries with
      | nil => simpa using ih
      | cons e es => rfl

theorem Layout.firstEntries_all (doc : Value) (d : HostDefaults) :
    firstEntries all doc d = rawEntries doc d :=
  firstEntries_eq all doc d

/-- A value that does not count as set has no fields. -/
theorem Value.get?_eq_none_of_not_isTruthy {v : Value} {name : String} (h : v.isTruthy = false) :
    v.get? name = none := by
  cases v with
  | map entries =>
    obtain rfl : entries = [] := by simpa [Value.isTruthy] using h
    rfl
  | tagged tag v => cases h
  | _ => rfl

theorem Layout.rawEntries_of_grouped {doc : Value} {d : HostDefaults} {entries : List Mapping}
    (h : groupedMap.extract doc d = some entries) (hne : entries ≠ []) :
    rawEntries doc d = entries := by
  cases entries with
  | nil => exact absurd rfl hne
  | cons e es => simp [rawEntries, h]

/-- A document in the Ansible layout is not in the grouped one: its key `all` is set. -/
theorem Layout.groupedMap_extract_eq_none {doc : Value} {d : HostDefaults} {entries : List Mapping}
    (h : ansible.extract doc d = some entries) : groupedMap.extract doc d = none := by
  obtain ⟨hosts, hhosts, -⟩ := Option.map_eq_some_iff.mp h
  unfold ansibleHosts at hhosts
  split at hhosts
  case h_1 => cases hhosts
  case h_2 top htop =>
    have hset : top.isTruthy = true := by
      by_contra hunset
      have hget : ∀ name, top.get? name = none := fun name =>
        Value.get?_eq_none_of_not_isTruthy (by simpa using hunset)
      simp [hget] at hhosts
    unfold Value.get? at htop
    split at htop
    case h_1 root hroot => simp [extract, groupedEntries, hroot, htop, hset]
    case h_2 => cases htop

theorem Layout.rawEntries_of_ansible {doc : Value} {d : HostDefaults} {entries : List Mapping}
    (h : ansible.extract doc d = some entries) (hne : entries ≠ []) :
    rawEntries doc d = entries := by
  cases entries with
  | nil => exact absurd rfl hne
  | cons e es => simp [rawEntries, groupedMap_extract_eq_none h, h]

theorem Layout.rawEntries_of_flat {doc : Value} {d : HostDefaults} {entries : List Mapping}
    (hgrouped : (groupedMap.extract doc d).getD [] = []) (hansible : ansible.extract doc d = none)
    (h : flat.extract doc d = some entries) : rawEntries doc d = entries := by
  rw [rawEntries, List.map_cons, List.map_cons, List.map_cons, List.map_nil, hgrouped, hansible, h]
  cases entries <;> simp

/-- Only the flat layout reads a sequence. -/
theorem Layout.rawEntries_seq (items : List Value) (d : HostDefaults) :
    rawEntries (.seq items) d = items.map itemEntry :=
  rawEntries_of_flat rfl rfl rfl

/-! ### Repeated identities -/

/-- A record whose identity an earlier record has, behind records that differ in theirs. -/
def RepeatsFirst (records : List HostRecord) (r : HostRecord) : Prop :=
  ∃ before after, records = before ++ r :: after ∧ (before.map HostRecord.identity).Nodup ∧
    r.identity ∈ before.map HostRecord.identity

theorem firstDuplicate_eq_some_iff {seen : List (String × Option String)}
    {records : List HostRecord} {r : HostRecord} :
    firstDuplicate seen records = some r ↔
      ∃ before after, records = before ++ r :: after ∧ (before.map HostRecord.identity).Nodup ∧
        (∀ b ∈ before, b.identity ∉ seen) ∧
        (r.identity ∈ seen ∨ r.identity ∈ before.map HostRecord.identity) := by
  induction records generalizing seen with
  | nil => simp [firstDuplicate]
  | cons a rest ih =>
    simp only [firstDuplicate, List.contains_iff_mem]
    by_cases ha : a.identity ∈ seen
    · rw [if_pos ha]
      constructor
      · intro h
        obtain rfl := Option.some.inj h
        exact ⟨[], rest, rfl, List.nodup_nil, by simp, Or.inl ha⟩
      · rintro ⟨before, after, hrest, -, hbefore, -⟩
        cases before with
        | nil => exact congrArg some (List.cons.inj hrest).1
        | cons b before =>
          obtain ⟨rfl, -⟩ := List.cons.inj hrest
          exact absurd ha (hbefore a List.mem_cons_self)
    · rw [if_neg ha, ih]
      constructor
      · rintro ⟨before, after, rfl, hnodup, hbefore, hr⟩
        refine ⟨a :: before, after, rfl, List.nodup_cons.mpr ⟨fun hmem => ?_, hnodup⟩, ?_, ?_⟩
        · obtain ⟨b, hb, he⟩ := List.mem_map.mp hmem
          exact hbefore b hb (by simp [he])
        · exact List.forall_mem_cons.mpr
            ⟨ha, fun b hb hseen => hbefore b hb (List.mem_cons_of_mem _ hseen)⟩
        · rcases hr with hr | hr
          · rcases List.mem_cons.mp hr with hr | hr
            · exact Or.inr (by simp [hr])
            · exact Or.inl hr
          · exact Or.inr (List.mem_cons_of_mem _ hr)
      · rintro ⟨before, after, hrest, hnodup, hbefore, hr⟩
        cases before with
        | nil =>
          obtain ⟨rfl, -⟩ := List.cons.inj hrest
          exact absurd (hr.resolve_right (by simp)) ha
        | cons b before =>
          obtain ⟨rfl, rfl⟩ := List.cons.inj hrest
          obtain ⟨hnot, hnodup⟩ := List.nodup_cons.mp hnodup
          refine ⟨before, after, rfl, hnodup, fun b hb hmem => ?_, ?_⟩
          · rcases List.mem_cons.mp hmem with he | hmem
            · exact hnot (List.mem_map.mpr ⟨b, hb, he⟩)
            · exact hbefore b (List.mem_cons_of_mem _ hb) hmem
          · rcases hr with hr | hr
            · exact Or.inl (List.mem_cons_of_mem _ hr)
            · rcases List.mem_cons.mp hr with he | hr
              · exact Or.inl (by simp [he])
              · exact Or.inr hr

theorem firstDuplicate_eq_none_iff {seen : List (String × Option String)}
    {records : List HostRecord} :
    firstDuplicate seen records = none ↔
      (records.map HostRecord.identity).Nodup ∧ ∀ r ∈ records, r.identity ∉ seen := by
  induction records generalizing seen with
  | nil => simp [firstDuplicate]
  | cons a rest ih =>
    simp only [firstDuplicate, List.contains_iff_mem, List.map_cons, List.nodup_cons,
      List.forall_mem_cons]
    by_cases ha : a.identity ∈ seen
    · simp [ha]
    · rw [if_neg ha, ih]
      constructor
      · rintro ⟨hnodup, hrest⟩
        refine ⟨⟨fun hmem => ?_, hnodup⟩, ha,
          fun r hr hseen => hrest r hr (List.mem_cons_of_mem _ hseen)⟩
        obtain ⟨r, hr, he⟩ := List.mem_map.mp hmem
        exact hrest r hr (by simp [he])
      · rintro ⟨⟨hnot, hnodup⟩, -, hrest⟩
        refine ⟨hnodup, fun r hr hmem => ?_⟩
        rcases List.mem_cons.mp hmem with he | hmem
        · exact hnot (List.mem_map.mpr ⟨r, hr, he⟩)
        · exact hrest r hr hmem

theorem rejectDuplicates_eq_ok_iff {records : List HostRecord} {u : Unit} :
    rejectDuplicates records = .ok u ↔ (records.map HostRecord.identity).Nodup := by
  have hnone := @firstDuplicate_eq_none_iff [] records
  unfold rejectDuplicates
  cases hd : firstDuplicate [] records with
  | none => simpa using (hnone.mp hd).1
  | some r =>
    rw [hd] at hnone
    simpa using hnone

theorem rejectDuplicates_eq_error_iff {records : List HostRecord} {e : InventoryError} :
    rejectDuplicates records = .error e ↔
      ∃ r, RepeatsFirst records r ∧ e = .duplicateHost r.publicIp (r.groupname.getD "<none>") := by
  have hsome : ∀ r, firstDuplicate [] records = some r ↔ RepeatsFirst records r := fun r => by
    rw [firstDuplicate_eq_some_iff]
    simp [RepeatsFirst]
  simp only [← hsome]
  unfold rejectDuplicates
  cases firstDuplicate [] records with
  | none => simp
  | some r => simp [eq_comm]

/-! ### The verdict -/

theorem inventory_eq_ok_iff {doc : Value} {d : HostDefaults} {records : List HostRecord} :
    inventory doc d = .ok records ↔
      (Layout.rawEntries doc d).map (fun entry => normalize entry d) = records.map .ok ∧
        (records.map HostRecord.identity).Nodup := by
  unfold inventory
  rw [Layout.firstEntries_all, ← mapM_eq_ok_iff]
  simp only [bind_eq_ok_iff, pure_eq_ok_iff, rejectDuplicates_eq_ok_iff]
  constructor
  · rintro ⟨found, hfound, -, hnodup, rfl⟩
    exact ⟨hfound, hnodup⟩
  · rintro ⟨hfound, hnodup⟩
    exact ⟨records, hfound, (), hnodup, rfl⟩

theorem inventory_eq_error_iff {doc : Value} {d : HostDefaults} {e : InventoryError} :
    inventory doc d = .error e ↔
      FailsFirst (fun entry => normalize entry d) (Layout.rawEntries doc d) e ∨
        ∃ records,
          (Layout.rawEntries doc d).map (fun entry => normalize entry d) = records.map .ok ∧
          ∃ r, RepeatsFirst records r ∧
            e = .duplicateHost r.publicIp (r.groupname.getD "<none>") := by
  unfold inventory
  rw [Layout.firstEntries_all]
  simp only [← mapM_eq_error_iff, ← mapM_eq_ok_iff, ← rejectDuplicates_eq_error_iff,
    bind_eq_error_iff]
  refine or_congr Iff.rfl (exists_congr fun records => and_congr_right fun _ => ?_)
  constructor
  · rintro (h | ⟨-, -, h⟩)
    · exact h
    · cases h
  · exact Or.inl

theorem validation_of_failsFirst {raw : List Mapping} {d : HostDefaults} {e : InventoryError}
    (h : FailsFirst (fun entry => normalize entry d) raw e) : ∃ text, e = .validation text := by
  obtain ⟨before, entry, after, -, -, he⟩ := h
  exact normalize_failsOnlyWith entry d e he

theorem forall_publicIp_ne_empty {raw : List Mapping} {d : HostDefaults}
    {records : List HostRecord} (h : raw.map (fun entry => normalize entry d) = records.map .ok) :
    ∀ r ∈ records, r.publicIp ≠ "" := by
  intro r hr
  obtain ⟨entry, -, he⟩ := exists_of_map_eq h hr
  exact publicIp_ne_empty_of_normalize he

/-- An accepted inventory is given back by a pattern that starts from every host and drops none. -/
theorem select_eq_self {records : List HostRecord}
    (h : (records.map HostRecord.identity).Nodup) :
    (HostPattern.parse PatternToken.everyHost).select records = records ∧
      ∀ p : HostPattern, p.tokens = [] → p.select records = records := by
  have hparse : HostPattern.parse PatternToken.everyHost = HostPattern.everyHost := by decide
  refine ⟨?_, fun p hp => ?_⟩
  · rw [hparse, HostPattern.select_everyHost, Selection.firsts_eq_self h]
  · rw [HostPattern.select_of_tokens_eq_nil hp, Selection.firsts_eq_self h]

/-- The law of acceptance. A document is accepted when its raw entries are all normalized to records
that differ in their identities, and then these records are the inventory: each has an address, and
the patterns that select every host give them back. A document is refused with the validation error
of the first entry that cannot be normalized, or else as a duplicate of the first record that
repeats an identity. -/
theorem inventory_verdict (doc : Value) (d : HostDefaults) :
    (∀ records, inventory doc d = .ok records ↔
      (Layout.rawEntries doc d).map (fun entry => normalize entry d) = records.map .ok ∧
        (records.map HostRecord.identity).Nodup) ∧
    (∀ records, inventory doc d = .ok records →
      (∀ r ∈ records, r.publicIp ≠ "") ∧
        (HostPattern.parse PatternToken.everyHost).select records = records ∧
        ∀ p : HostPattern, p.tokens = [] → p.select records = records) ∧
    ∀ e, inventory doc d = .error e ↔
      (FailsFirst (fun entry => normalize entry d) (Layout.rawEntries doc d) e ∧
        ∃ text, e = .validation text) ∨
      ∃ records, (Layout.rawEntries doc d).map (fun entry => normalize entry d) = records.map .ok ∧
        ∃ r, RepeatsFirst records r ∧
          e = .duplicateHost r.publicIp (r.groupname.getD "<none>") := by
  refine ⟨fun records => inventory_eq_ok_iff, fun records h => ?_, fun e => ?_⟩
  · obtain ⟨hraw, hnodup⟩ := inventory_eq_ok_iff.mp h
    exact ⟨forall_publicIp_ne_empty hraw, select_eq_self hnodup⟩
  · rw [inventory_eq_error_iff]
    exact or_congr (iff_self_and.mpr validation_of_failsFirst) Iff.rfl

/-- A document that lists items in a group. -/
def nodesDocument (items : List Value) : Value :=
  .map [(.str "nodes", .map [(.str "hosts", .seq items)])]

/-- The record of an address in the group. -/
def nodeRecord (address : String) : HostRecord :=
  { publicIp := address, sshUser := "simulator", sshOptions := ({} : HostDefaults).sshOptions,
    agentPort := "9000", groupname := some "nodes" }

/-- A document with two hosts is accepted. One with an item that has no address is refused for this
item, also when another one repeats an address, and one that only repeats an address for that. -/
theorem inventory_verdict_nodes :
    let rackless := [.str "10.0.0.1", .map [(.str "rack", .int 4)], .str "10.0.0.1"]
    let repeating := [.str "10.0.0.1", .str "10.0.0.2", .str "10.0.0.1"]
    inventory (nodesDocument [.str "10.0.0.1", .str "10.0.0.2"]) {} =
        .ok [nodeRecord "10.0.0.1", nodeRecord "10.0.0.2"] ∧
      inventory (nodesDocument rackless) {} = .error (.validation
        "could not find public_ip in host entry rack: 4, groupname: nodes") ∧
      inventory (nodesDocument repeating) {} = .error (.duplicateHost "10.0.0.1" "nodes") := by
  intro rackless repeating
  refine ⟨?accepted, ?refused, ?repeated⟩
  case accepted =>
    obtain ⟨hok, -, -⟩ := inventory_verdict (nodesDocument [.str "10.0.0.1", .str "10.0.0.2"]) {}
    exact (hok _).mpr ⟨by decide +kernel, by decide⟩
  case refused =>
    obtain ⟨-, -, herror⟩ := inventory_verdict (nodesDocument rackless) {}
    refine (herror _).mpr (Or.inl ⟨⟨[_], _, [_], rfl, ?_, by decide +kernel⟩, _, rfl⟩)
    exact List.forall_mem_singleton.mpr ⟨nodeRecord "10.0.0.1", by decide +kernel⟩
  case repeated =>
    obtain ⟨-, -, herror⟩ := inventory_verdict (nodesDocument repeating) {}
    have hrecords : (Layout.rawEntries (nodesDocument repeating) {}).map (normalize · {}) =
        [nodeRecord "10.0.0.1", nodeRecord "10.0.0.2", nodeRecord "10.0.0.1"].map .ok := by
      decide +kernel
    exact (herror _).mpr (Or.inr ⟨_, hrecords, _,
      ⟨[nodeRecord "10.0.0.1", nodeRecord "10.0.0.2"], [], rfl, by decide, by decide⟩, rfl⟩)

end AgentFleet
