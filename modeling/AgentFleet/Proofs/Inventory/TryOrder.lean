import AgentFleet.Proofs.Inventory.Acceptance

/-!
# The order in which the layouts are tried

A layout that yields no entry makes no difference wherever it is tried, so the order of
two layouts matters only on the documents from which both yield one. The grouped and the
Ansible layout have no such document: the latter looks below the key `all`, and the former
declines a document in which this key is set. Wherever the two stand next to each other,
they can trade places.
-/

namespace AgentFleet

open Checked

/-- The records of an inventory document when the given layouts are tried in turn. -/
def inventoryBy (layouts : List Layout) (doc : Value) (d : HostDefaults) :
    Except InventoryError (List HostRecord) := do
  let records ← (Layout.firstEntries layouts doc d).mapM fun entry => normalize entry d
  rejectDuplicates records
  return records

theorem inventoryBy_all (doc : Value) (d : HostDefaults) :
    inventoryBy Layout.all doc d = inventory doc d :=
  rfl

namespace Layout

/-- A layout yields an entry from a document. -/
def Yields (layout : Layout) (doc : Value) (d : HostDefaults) : Prop :=
  ∃ entries, layout.extract doc d = some entries ∧ entries ≠ []

section

variable {layout other : Layout} {doc : Value} {d : HostDefaults}

theorem firstEntries_skip (h : ¬ layout.Yields doc d) (before after : List Layout) :
    firstEntries (before ++ layout :: after) doc d = firstEntries (before ++ after) doc d := by
  induction before with
  | nil =>
    rw [List.nil_append, List.nil_append, firstEntries]
    split
    case h_1 e es hentries => exact absurd ⟨_, hentries, List.cons_ne_nil e es⟩ h
    case h_2 => rfl
  | cons first before ih =>
    rw [List.cons_append, List.cons_append, firstEntries, firstEntries, ih]

/-- Both orders come down to the other layout. -/
theorem firstEntries_swap_of_not_yields (h : ¬ layout.Yields doc d) (before after : List Layout) :
    firstEntries (before ++ layout :: other :: after) doc d =
      firstEntries (before ++ other :: layout :: after) doc d :=
  calc firstEntries (before ++ layout :: other :: after) doc d
    _ = firstEntries (before ++ other :: after) doc d := firstEntries_skip h before _
    _ = firstEntries ((before ++ [other]) ++ after) doc d := by rw [List.append_cons]
    _ = firstEntries ((before ++ [other]) ++ layout :: after) doc d :=
      (firstEntries_skip h (before ++ [other]) after).symm
    _ = firstEntries (before ++ other :: layout :: after) doc d := by rw [← List.append_cons]

/-- Two layouts can trade places if they do not both yield an entry. -/
theorem firstEntries_swap (h : ¬ (layout.Yields doc d ∧ other.Yields doc d))
    (before after : List Layout) :
    firstEntries (before ++ layout :: other :: after) doc d =
      firstEntries (before ++ other :: layout :: after) doc d := by
  rcases not_and_or.mp h with hlayout | hother
  · exact firstEntries_swap_of_not_yields hlayout before after
  · exact (firstEntries_swap_of_not_yields hother before after).symm

theorem inventoryBy_swap (h : ¬ (layout.Yields doc d ∧ other.Yields doc d))
    (before after : List Layout) :
    inventoryBy (before ++ layout :: other :: after) doc d =
      inventoryBy (before ++ other :: layout :: after) doc d := by
  rw [inventoryBy, inventoryBy, firstEntries_swap h]

end

/-- No document has the grouped and the Ansible layout both yield an entry, so that the two can trade
places in every order in which layouts are tried, and in the usual one. -/
theorem grouped_and_ansible_never_compete (doc : Value) (d : HostDefaults) :
    ¬ (groupedMap.Yields doc d ∧ ansible.Yields doc d) ∧
    (∀ before after, inventoryBy (before ++ groupedMap :: ansible :: after) doc d =
      inventoryBy (before ++ ansible :: groupedMap :: after) doc d) ∧
    inventory doc d = inventoryBy [ansible, groupedMap, flat] doc d := by
  have hnever : ¬ (groupedMap.Yields doc d ∧ ansible.Yields doc d) := by
    rintro ⟨⟨entries, hgrouped, -⟩, hosts, hansible, -⟩
    rw [groupedMap_extract_eq_none hansible] at hgrouped
    cases hgrouped
  refine ⟨hnever, inventoryBy_swap hnever, ?_⟩
  calc inventory doc d
    _ = inventoryBy all doc d := (inventoryBy_all doc d).symm
    _ = inventoryBy [ansible, groupedMap, flat] doc d := inventoryBy_swap hnever [] [flat]

/-- The flat layout does compete with the Ansible one: the key `hosts` can stand beside `all`. -/
example :
    let doc : Value := .map [(.str "all", .map [(.str "hosts", .map [(.str "a", .null)])]),
      (.str "hosts", .seq [.str "b"])]
    (inventoryBy [ansible, flat] doc {}).map (List.map HostRecord.publicIp) = .ok ["a"] ∧
      (inventoryBy [flat, ansible] doc {}).map (List.map HostRecord.publicIp) = .ok ["b"] :=
  ⟨rfl, rfl⟩

end Layout

end AgentFleet
