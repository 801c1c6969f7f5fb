import AgentFleet.Proofs.Document.Equality
import AgentFleet.Proofs.Inventory.Normalization
import AgentFleet.Proofs.Loading.Tools
import AgentFleet.Proofs.Related
import AgentFleet.Proofs.Selection.Membership

/-!
# Identities of loaded hosts

A selection from an inventory repeats no identity. The answer of the inventory
tools is not checked for it: hosts of different names become one when their
variables give them one address in one group, and then loading returns both
(`loadInventory_repeats_identity`). There is no other way in which an identity is
repeated (`nodup_identity_loadInventory_iff`).
-/

namespace AgentFleet

open Checked

variable {σ : Type} {m : Machine σ} {settings : InventorySettings} {d : HostDefaults}
  {p : HostPattern}

/-! ### The identities of a dump -/

/-- The address and the group that an entry gives to its record. -/
def Mapping.identity (entry : Mapping) : String × Option String :=
  ((entry.text? field.publicIp).getD "", entry.text? field.groupname)

theorem identity_of_normalize {entry : Mapping} {r : HostRecord} (h : normalize entry d = .ok r) :
    entry.identity = r.identity := by
  obtain ⟨-, -, rfl⟩ := normalize_eq_ok_iff.mp h
  rfl

/-- The identities of the hosts of a dump that have been listed. -/
def listedIdentities (names : List String) (doc : Value) (d : HostDefaults) :
    List (String × Option String) :=
  (((Layout.ansibleHosts doc d).getD []).filter fun host => names.contains host.1).map
    fun host => host.2.identity

/-- The records of the listed hosts have the identities of their entries. -/
theorem listedIdentities_eq {names : List String} {doc : Value} {records : List HostRecord}
    (h : listedRecords names doc d = .ok records) :
    listedIdentities names doc d = records.map HostRecord.identity := by
  have hmap := forall₂_of_map_eq ((mapM_eq_ok_iff _ _ _).mp h)
  rw [listedIdentities, ← List.forall₂_eq_eq_eq, List.forall₂_map_left_iff,
    List.forall₂_map_right_iff]
  exact hmap.imp fun _ _ hr => identity_of_normalize hr

/-! ### Loading by cases -/

/-- Reading the file has found no host: it could not be read, it was refused, or it lists nobody. -/
def FindsNobody (m : Machine σ) (d : HostDefaults) (path : String) (s : σ) : Prop :=
  ∀ r rs, readInventory m d path s ≠ .ok (r :: rs)

theorem loadInventory_of_not_exists {path : Option String} {s : σ}
    (h : m.pathExists (path.getD settings.path) s = false) :
    loadInventory m settings d path p s = (.error (.notFound (path.getD settings.path)), s) := by
  simp [loadInventory, h]

theorem loadInventory_of_hosts {path : Option String} {s : σ} {records : List HostRecord}
    (h : m.pathExists (path.getD settings.path) s = true)
    (hread : readInventory m d (path.getD settings.path) s = .ok records) (hne : records ≠ []) :
    loadInventory m settings d path p s = (.ok (p.select records), s) := by
  obtain ⟨r, rs, rfl⟩ := List.exists_cons_of_ne_nil hne
  simp [loadInventory, h, hread]

theorem loadInventory_of_findsNobody {path : Option String} {s : σ}
    (h : m.pathExists (path.getD settings.path) s = true)
    (hnobody : FindsNobody m d (path.getD settings.path) s) :
    loadInventory m settings d path p s =
      (preferNative (readInventory m d (path.getD settings.path) s)
          (resolve m settings d (path.getD settings.path) p s).1,
        (resolve m settings d (path.getD settings.path) p s).2) := by
  unfold loadInventory
  simp only [h, Bool.not_true, Bool.false_eq_true, if_false]
  split
  case h_1 r rs hread => exact absurd hread (hnobody r rs)
  case h_2 => rfl

theorem preferNative_ok (records : List HostRecord)
    (answer : Except InventoryError (List HostRecord)) :
    preferNative (.ok records) answer = answer := by
  cases answer with
  | ok _ => rfl
  | error _ => rfl

/-- Only the tools give hosts when the file has given none. -/
theorem preferNative_eq_ok_iff {native answer : Except InventoryError (List HostRecord)}
    {hosts : List HostRecord} : preferNative native answer = .ok hosts ↔ answer = .ok hosts := by
  cases answer with
  | ok records => rfl
  | error e => cases native <;> simp [preferNative]

/-- Loaded hosts are a selection from the file, or the tools gave them because the file had none. -/
theorem loadInventory_eq_ok {path : Option String} {s : σ} {hosts : List HostRecord}
    (h : (loadInventory m settings d path p s).1 = .ok hosts) :
    (∃ r rs, readInventory m d (path.getD settings.path) s = .ok (r :: rs) ∧
        hosts = p.select (r :: rs)) ∨
      FindsNobody m d (path.getD settings.path) s ∧
        (resolve m settings d (path.getD settings.path) p s).1 = .ok hosts := by
  cases hexists : m.pathExists (path.getD settings.path) s with
  | false =>
    rw [loadInventory_of_not_exists hexists] at h
    cases h
  | true =>
    by_cases hnobody : FindsNobody m d (path.getD settings.path) s
    · rw [loadInventory_of_findsNobody hexists hnobody] at h
      exact Or.inr ⟨hnobody, preferNative_eq_ok_iff.mp h⟩
    · obtain ⟨r, rs, hread⟩ : ∃ r rs, readInventory m d (path.getD settings.path) s = .ok (r :: rs) := by
        simpa [FindsNobody] using hnobody
      rw [loadInventory_of_hosts hexists hread (List.cons_ne_nil r rs)] at h
      exact Or.inl ⟨r, rs, hread, (Except.ok.inj h).symm⟩

/-! ### The identities of loaded hosts -/

/-- The identities of loaded hosts differ unless the tools had to be asked, and two of the hosts that
they listed have one address and one group in what they dumped. -/
theorem nodup_identity_loadInventory_iff {path : Option String} {s : σ} {hosts : List HostRecord}
    (h : (loadInventory m settings d path p s).1 = .ok hosts) :
    (hosts.map HostRecord.identity).Nodup ↔
      (FindsNobody m d (path.getD settings.path) s → ∀ listing dump s' doc,
        Answered m settings (path.getD settings.path) p s listing dump s' →
        Document.read? dump = some doc → (listedIdentities (listedNames listing) doc d).Nodup) := by
  rcases loadInventory_eq_ok h with ⟨r, rs, hread, rfl⟩ | ⟨hnobody, hresolve⟩
  · exact iff_of_true (HostPattern.nodup_identity_select p _) fun hnobody => absurd hread (hnobody r rs)
  · -- what the tools printed determines the identities, so one run of them decides all
    have hids : ∀ listing dump s' doc,
        Answered m settings (path.getD settings.path) p s listing dump s' →
        Document.read? dump = some doc →
        listedIdentities (listedNames listing) doc d = hosts.map HostRecord.identity := by
      intro listing dump s' doc hanswered hdoc
      rw [resolve_eq_listedRecords hanswered hdoc] at hresolve
      exact listedIdentities_eq hresolve
    constructor
    · intro hnodup _ listing dump s' doc hanswered hdoc
      rw [hids listing dump s' doc hanswered hdoc]
      exact hnodup
    · intro hall
      obtain ⟨listing, dump, doc, hanswered, hdoc, -⟩ := resolve_eq_ok_iff.mp (Prod.ext hresolve rfl)
      rw [← hids listing dump _ doc hanswered hdoc]
      exact hall hnobody listing dump _ doc hanswered hdoc

/-- The tools list two names, whose variables give them one address in one group. -/
def sharedAddress : Machine Unit :=
  deskMachine "name: bench\n" "  hosts (2):\n    a\n    b\n"
    (Text.join "\n" ["all:", "  children:", "    nodes:", "      hosts:", "        a:",
      "          public_ip: 10.0.0.1", "        b:", "          public_ip: 10.0.0.1"])

/-- The record of either name. -/
def sharedRecord : HostRecord :=
  { publicIp := "10.0.0.1"
    sshUser := "simulator"
    sshOptions := ({} : HostDefaults).sshOptions
    agentPort := "9000"
    groupname := some "nodes" }

theorem loadInventory_sharedAddress :
    (loadInventory sharedAddress {} {} none .everyHost ()).1 = .ok [sharedRecord, sharedRecord] := by
  decide +kernel

theorem nodup_identity_loadInventory_sharedAddress :
    (loadInventory sharedAddress {} {} none .everyHost ()).1 = .ok [sharedRecord, sharedRecord] ∧
      ¬ (FindsNobody sharedAddress {} "inventory.yaml" () → ∀ listing dump s doc,
        Answered sharedAddress {} "inventory.yaml" .everyHost () listing dump s →
        Document.read? dump = some doc →
        (listedIdentities (listedNames listing) doc {}).Nodup) := by
  refine ⟨loadInventory_sharedAddress, fun hall => ?_⟩
  exact absurd ((nodup_identity_loadInventory_iff loadInventory_sharedAddress).mpr hall) (by decide)

/-- An identity can be loaded twice. -/
theorem loadInventory_repeats_identity :
    ¬ ∀ (σ : Type) (m : Machine σ) (settings : InventorySettings) (d : HostDefaults)
      (path : Option String) (p : HostPattern) (s : σ) (hosts : List HostRecord),
      (loadInventory m settings d path p s).1 = .ok hosts →
        (hosts.map HostRecord.identity).Nodup := by
  intro hall
  exact absurd (hall _ _ _ _ _ _ _ _ loadInventory_sharedAddress) (by decide)

end AgentFleet
